import AutoSre.Storage.FailureStore

/-! # Writes that fail part-way

`record_event` swallows the exception of a write that failed, and what reached the file
by then stays there.  The reader skips lines that do not decode, so a torn line does no
harm as long as it stays a line of its own.  But the next write appends to it: the two
become one line, and the event that was written in full is lost with the torn one.

`OnFreshLine` is what a write has to find for that not to happen.
-/

namespace AutoSre.Storage

open AutoSre.Lib AutoSre.Lib.Python

/-! ## Runs with faults -/

/-- `fault` is the number of characters of a torn write that reached the file. -/
inductive RecordCall where
  | record (event : FailureEvent) (fault : Option ℕ)
  | clear

/-- A torn write leaves a strict part of its line and newline. -/
def TornWithin (event : FailureEvent) (fault : Option ℕ) : Prop := fault.all (· ≤ event.line.length)

instance (event : FailureEvent) (fault : Option ℕ) : Decidable (TornWithin event fault) :=
  inferInstanceAs (Decidable (_ = true))

/-- `record_event`: the exception of the write goes no further. -/
def FileFailureStore.recordStep (store : FileFailureStore) : RecordCall → Option FileFailureStore
  | .record event fault => if TornWithin event fault then some (store.writeEvent event fault).2 else none
  | .clear => some store.clearEvents

theorem recordStep_record (store : FileFailureStore) {event : FailureEvent} {fault : Option ℕ}
    (within : TornWithin event fault) :
    store.recordStep (.record event fault) = some (store.writeEvent event fault).2 :=
  if_pos within

abbrev RecordHistory := List (Transition FileFailureStore RecordCall)

/-- The events whose `write_event` returned normally since the last clear. -/
def recorded : RecordHistory → List FailureEvent
  | [] => []
  | made :: past =>
    match made.label with
    | .record event fault =>
      if (made.before.writeEvent event fault).1 then recorded past ++ [event] else recorded past
    | .clear => []

/-- The file is empty or missing, or its last line is complete. -/
def FileFailureStore.Complete (store : FileFailureStore) : Prop :=
  store.text = [] ∨ store.text.getLast? = some '\n'

/-- A write of a serialisable event that is not torn begins on a fresh line. -/
def OnFreshLine (store : FileFailureStore) : RecordCall → Prop
  | .record event none => event.toDict.serialisable = true → store.Complete
  | .record _ (some _) | .clear => True

/-! ## A log with a torn tail -/

/-- What torn writes leave behind the last newline: nothing, or text that begins as a
    line does and has no end of line in it. -/
structure TornTail (tail : Str) : Prop where
  unbroken : Unbroken tail
  brace : tail = [] ∨ ∃ rest, tail = '{' :: rest

theorem TornTail.nil : TornTail [] := ⟨by simp [Unbroken], .inl rfl⟩

theorem TornTail.append {tail : Str} (torn : TornTail tail) (event : FailureEvent) {kept : ℕ}
    (within : kept ≤ event.line.length) : TornTail (tail ++ (event.line ++ ['\n']).take kept) := by
  rw [List.take_append_of_le_length within]
  refine ⟨?_, ?_⟩
  · intro c member
    cases List.mem_append.mp member with
    | inl earlier => exact torn.unbroken c earlier
    | inr added => exact unbroken_line event c (List.mem_of_mem_take added)
  · obtain rfl | ⟨rest, rfl⟩ := torn.brace
    · obtain ⟨inside, framed⟩ := line_framed event
      cases kept with
      | zero => exact .inl rfl
      | succ kept => exact .inr ⟨_, by rw [framed]; rfl⟩
    · exact .inr ⟨_, rfl⟩

/-- A torn tail is skipped or read as one event, and never raises. -/
theorem TornTail.readLines {tail : Str} (torn : TornTail tail) (source : Option Str) :
    ∃ events, Storage.readLines source (lines tail) = some events := by
  obtain rfl | ⟨rest, rfl⟩ := torn.brace
  · exact ⟨[], rfl⟩
  · rw [lines_of_unbroken torn.unbroken (by simp)]
    obtain ⟨kept, stripped⟩ := strip_cons_of_solid (by decide : isSpace '{' = false) rest
    simp only [Storage.readLines, readLine, stripped, reduceCtorEq, if_false]
    obtain undecodable | ⟨members, isObject⟩ := Json.loads_brace kept
    · exact ⟨[], by rw [undecodable]⟩
    · rw [isObject]
      by_cases fits : source.all (sourceIs · members) = true
      · exact ⟨[.fromDict members], by simp [fits]⟩
      · exact ⟨[], by simp [fits]⟩

/-- The file is the log of what was written, and a torn tail. -/
def IsTornLog (store : FileFailureStore) (events : List FailureEvent) : Prop :=
  (∀ e ∈ events, e.toDict.serialisable = true) ∧ ∃ tail, store.text = logText events ++ tail ∧ TornTail tail

theorem IsTornLog.readEvents {store : FileFailureStore} {events : List FailureEvent}
    (isLog : IsTornLog store events) :
    ∃ read, store.readEvents none none = some read ∧ events.Sublist read := by
  obtain ⟨areJson, tail, text, torn⟩ := isLog
  obtain ⟨others, readTail⟩ := torn.readLines none
  refine ⟨events ++ others, ?_, List.sublist_append_left events others⟩
  rw [FileFailureStore.readEvents_eq, text, lines_logText, readLines_log areJson none, readTail]
  simp

theorem tail_eq_nil {store : FileFailureStore} {events : List FailureEvent} {tail : Str}
    (text : store.text = logText events ++ tail) (torn : TornTail tail) (complete : store.Complete) :
    tail = [] := by
  by_contra nonempty
  obtain empty | ended := complete
  · rw [text, List.append_eq_nil_iff] at empty
    exact nonempty empty.2
  · rw [text, List.getLast?_append_of_ne_nil _ nonempty] at ended
    exact (torn.unbroken '\n' (List.mem_of_getLast? ended)).1 rfl

theorem isTornLog_step {store after : FileFailureStore} {call : RecordCall} {past : RecordHistory}
    (isLog : IsTornLog store (recorded past)) (fresh : OnFreshLine store call)
    (taken : store.recordStep call = some after) :
    IsTornLog after (recorded (⟨store, call, after⟩ :: past)) := by
  cases call with
  | clear =>
    cases taken
    exact ⟨by simp [recorded], [], by simp [recorded, FileFailureStore.text_clearEvents], .nil⟩
  | record event fault =>
    obtain ⟨within, taken⟩ := Option.ite_none_right_eq_some.mp taken
    cases taken
    cases isJson : event.toDict.serialisable with
    | false =>
      simp only [recorded, FileFailureStore.writeEvent_raises isJson]
      exact isLog
    | true =>
      obtain ⟨areJson, tail, text, torn⟩ := isLog
      cases fault with
      | none =>
        have ok : store.writeEvent event none = _ := FileFailureStore.writeEvent_ok isJson
        have noTail := tail_eq_nil text torn (fresh isJson)
        simp only [recorded, ok, if_true]
        refine ⟨?_, [], ?_, .nil⟩
        · intro e member
          cases List.mem_append.mp member with
          | inl earlier => exact areJson e earlier
          | inr last =>
            rw [List.mem_singleton.mp last]
            exact isJson
        · rw [FileFailureStore.text_append, text, noTail, logText_append]
          simp
      | some kept =>
        have faulted : store.writeEvent event (some kept) =
            (false, store.append ((event.line ++ ['\n']).take kept)) := by
          simp [FileFailureStore.writeEvent, Json.dumps, isJson, FailureEvent.line]
        have kept_le : kept ≤ event.line.length := by simpa [TornWithin] using within
        simp only [recorded, faulted, Bool.false_eq_true, if_false]
        refine ⟨areJson, _, ?_, torn.append event kept_le⟩
        rw [FileFailureStore.text_append, text, List.append_assoc]

/-- In every run in which each write that returns normally began on a fresh line, every
    event so written since the last clear is returned by `read_events()`, in order. -/
theorem recorded_events_survive (history : RecordHistory) (store : FileFailureStore)
    (run : Trace FileFailureStore.recordStep {} history store)
    (fresh : ∀ made ∈ history, OnFreshLine made.before made.label) :
    ∃ events, store.readEvents none none = some events ∧ (recorded history).Sublist events := by
  have isLog : IsTornLog store (recorded history) := by
    induction run with
    | nil => exact ⟨by simp [recorded], [], rfl, .nil⟩
    | snoc _ taken ih =>
      obtain ⟨now, earlier⟩ := List.forall_mem_cons.mp fresh
      exact isTornLog_step (ih earlier) now taken
  exact isLog.readEvents

theorem recorded_events_survive_late_fault :
    let event : FailureEvent := ⟨.str "worker".toList, .str "job_failed".toList, .obj [], .str "t".toList⟩
    let first := (FileFailureStore.writeEvent {} event).2
    ∃ events, (first.writeEvent event (some 5)).2.readEvents none none = some events ∧
      [event].Sublist events := by
  intro event first
  have torn : TornWithin event (some 5) := by decide +kernel
  have written : FileFailureStore.recordStep {} (.record event none) = some first := rfl
  have emptyFile : FileFailureStore.Complete {} := .inl rfl
  exact recorded_events_survive _ _
    (.snoc (.snoc .nil written) (recordStep_record first torn))
    (by simp [OnFreshLine, emptyFile])

/-- One character of the first event reaches the file before its write fails.  The
    second is written in full, and a reader sees neither. -/
theorem torn_line_swallows_next :
    ∃ (history : RecordHistory) (store : FileFailureStore),
      Trace FileFailureStore.recordStep {} history store ∧ (recorded history).length = 1 ∧
        store.readEvents none none = some [] ∧
        ¬∃ events, store.readEvents none none = some events ∧ (recorded history).Sublist events := by
  let event : FailureEvent := ⟨.str "worker".toList, .str "job_failed".toList, .obj [], .str "t".toList⟩
  obtain ⟨history, store, run, one, none⟩ := exists_trace_of_replay FileFailureStore.recordStep {}
    [.record event (some 1), .record event none]
    (fun history store => (recorded history).length = 1 ∧
      (store.readEvents none none).map List.length = some 0) (by decide +kernel)
  obtain ⟨events, read, empty⟩ := Option.map_eq_some_iff.mp none
  rw [List.length_eq_zero_iff] at empty
  subst empty
  refine ⟨history, store, run, one, read, ?_⟩
  rintro ⟨events, again, sublist⟩
  obtain rfl : [] = events := Option.some.inj (read.symm.trans again)
  simp [List.sublist_nil.mp sublist] at one

end AutoSre.Storage
