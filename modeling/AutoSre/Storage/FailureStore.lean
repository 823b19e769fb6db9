import AutoSre.Lib.Json
import AutoSre.Lib.Trace

/-! # The failure store

`FileFailureStore` of `storage/failure_store.py`: one JSON object a line, appended to a
text file.  Every operation holds the store's lock while it works on the file, so one
operation is one step.

The reader strips each line, skips what is blank or does not decode, and fills in
defaults for missing fields.  On a file that the store itself wrote none of that shows:
`readEvents` returns the events written since the last `clearEvents`.
-/

namespace AutoSre.Storage

open AutoSre.Lib AutoSre.Lib.Python

/-! ## Events -/

/-- The fields are whatever JSON the file holds; `record_event` writes strings and an
    object. -/
structure FailureEvent where
  source : Json
  event : Json
  details : Json := .obj []
  timestamp : Json

namespace FailureEvent

def toDict (e : FailureEvent) : Json :=
  .obj [("timestamp".toList, e.timestamp), ("source".toList, e.source), ("event".toList, e.event),
    ("details".toList, e.details)]

def fromDict (d : List (Str × Json)) : FailureEvent where
  source := (Json.get d "source".toList).getD (.str "unknown".toList)
  event := (Json.get d "event".toList).getD (.str "unknown".toList)
  details := (Json.get d "details".toList).getD (.obj [])
  timestamp := (Json.get d "timestamp".toList).getD (.str [])

def hasSource (source : Str) (e : FailureEvent) : Bool := e.source.isStr source

end FailureEvent

/-! ## The store -/

/-- The file by its text; `none` while it does not exist. -/
structure FileFailureStore where
  file : Option Str := none
deriving DecidableEq

/-- What comes of one line of the file.  `raised` is the `AttributeError` of `.get` on a
    JSON value that is no object. -/
inductive LineOutcome where
  | skipped
  | event (event : FailureEvent)
  | raised

/-- `d.get("source") == source` -/
def sourceIs (source : Str) (d : List (Str × Json)) : Bool :=
  (Json.get d "source".toList).any (Json.isStr source)

def readLine (source : Option Str) (line : Str) : LineOutcome :=
  let line := strip line
  if line = [] then .skipped
  else
    match Json.loads line with
    | none => .skipped
    | some (.obj d) => if source.all (sourceIs · d) then .event (.fromDict d) else .skipped
    | some (.null) | some (.bool _) | some (.number _) | some (.str _) | some (.arr _) | some (.foreign) =>
      .raised

/-- The loop over the lines; `none` once one of them raises. -/
def readLines (source : Option Str) : List Str → Option (List FailureEvent)
  | [] => some []
  | line :: lines =>
    match readLine source line with
    | .skipped => readLines source lines
    | .event event => (readLines source lines).map (event :: ·)
    | .raised => none

namespace FileFailureStore

def text (store : FileFailureStore) : Str := store.file.getD []

/-- Opening with `"a"` creates the file. -/
def append (store : FileFailureStore) (written : Str) : FileFailureStore := ⟨some (store.text ++ written)⟩

/-- `write_event`.  `fault` is how many characters reached the file before the write
    failed, if it did; `false` stands for the exception. -/
def writeEvent (store : FileFailureStore) (event : FailureEvent) (fault : Option ℕ := none) :
    Bool × FileFailureStore :=
  match Json.dumps event.toDict with
  | none => (false, store) -- raised before the file is opened
  | some line =>
    match fault with
    | none => (true, store.append (line ++ ['\n']))
    | some kept => (false, store.append ((line ++ ['\n']).take kept))

/-- `read_events`; `none` stands for an exception. -/
def readEvents (store : FileFailureStore) (limit : Option ℤ := none) (source : Option Str := none) :
    Option (List FailureEvent) :=
  match store.file with
  | none => some []
  | some text =>
    (readLines source (lines text)).map fun events =>
      match limit with
      | none => events
      | some limit => lastItems limit events

def clearEvents (store : FileFailureStore) : FileFailureStore :=
  match store.file with
  | none => store
  | some _ => ⟨some []⟩

end FileFailureStore

/-! ## One line -/

/-- The line that `write_event` writes, without its newline. -/
def FailureEvent.line (e : FailureEvent) : Str := e.toDict.print

theorem fromDict_toDict (e : FailureEvent) {d : List (Str × Json)} (isDict : e.toDict = .obj d) :
    FailureEvent.fromDict d = e ∧ ∀ source, sourceIs source d = e.hasSource source := by
  cases isDict
  exact ⟨rfl, fun _ => rfl⟩

theorem line_framed (e : FailureEvent) : ∃ inside, e.line = '{' :: (inside ++ ['}']) :=
  Json.print_obj_framed _

theorem unbroken_line (e : FailureEvent) : Unbroken e.line := by
  intro c member
  have printable := Json.printable_print e.toDict c member
  constructor <;> (rintro rfl; exact absurd printable (by decide))

theorem strip_line (e : FailureEvent) : strip e.line = e.line := by
  obtain ⟨inside, framed⟩ := line_framed e
  rw [framed]
  exact strip_of_solid_ends (by decide) (by decide) inside

theorem loads_line {e : FailureEvent} (isJson : e.toDict.serialisable = true) :
    Json.loads e.line = some e.toDict :=
  Json.loads_dumps (by simp [Json.dumps, isJson, FailureEvent.line])

/-- A written line is read back as its event, or skipped for its source. -/
theorem readLine_line {e : FailureEvent} (isJson : e.toDict.serialisable = true) (source : Option Str) :
    readLine source e.line = if source.all e.hasSource then .event e else .skipped := by
  obtain ⟨inside, framed⟩ := line_framed e
  have nonempty : e.line ≠ [] := by simp [framed]
  obtain ⟨sameEvent, sameSource⟩ := fromDict_toDict e rfl
  simp only [readLine, strip_line, nonempty, if_false, loads_line isJson, FailureEvent.toDict]
  simp only [sameEvent, sameSource]

/-! ## The file as a log -/

def logText (events : List FailureEvent) : Str := events.flatMap fun e => e.line ++ ['\n']

@[simp] theorem logText_nil : logText [] = [] := rfl

theorem logText_append (events : List FailureEvent) (e : FailureEvent) :
    logText (events ++ [e]) = logText events ++ (e.line ++ ['\n']) := by
  simp [logText]

theorem lines_logText (events : List FailureEvent) (rest : Str) :
    lines (logText events ++ rest) = events.map FailureEvent.line ++ lines rest := by
  induction events with
  | nil => rfl
  | cons e events ih =>
    have split : logText (e :: events) ++ rest = e.line ++ '\n' :: (logText events ++ rest) := by
      simp [logText]
    rw [split, lines_append_newline (unbroken_line e), ih, List.map_cons, List.cons_append]

theorem readLines_log {events : List FailureEvent} (areJson : ∀ e ∈ events, e.toDict.serialisable = true)
    (source : Option Str) (rest : List Str) :
    readLines source (events.map FailureEvent.line ++ rest) =
      (readLines source rest).map (events.filter (fun e => source.all e.hasSource) ++ ·) := by
  induction events with
  | nil => simp
  | cons e events ih =>
    obtain ⟨isJson, areJson⟩ := List.forall_mem_cons.mp areJson
    rw [List.map_cons, List.cons_append, readLines, readLine_line isJson source, ih areJson]
    by_cases fits : source.all e.hasSource = true
    · cases readLines source rest <;> simp [fits]
    · cases readLines source rest <;> simp [fits]

namespace FileFailureStore

variable {store : FileFailureStore}

theorem readEvents_eq (store : FileFailureStore) (source : Option Str) :
    store.readEvents none source = readLines source (lines store.text) := by
  obtain ⟨file⟩ := store
  cases file with
  | none => rfl
  | some text => simp [readEvents, FileFailureStore.text]

theorem text_clearEvents (store : FileFailureStore) : store.clearEvents.text = [] := by
  obtain ⟨file⟩ := store
  cases file <;> rfl

theorem text_append (store : FileFailureStore) (written : Str) :
    (store.append written).text = store.text ++ written := rfl

theorem writeEvent_ok {event : FailureEvent} (isJson : event.toDict.serialisable = true) :
    store.writeEvent event = (true, store.append (event.line ++ ['\n'])) := by
  simp [writeEvent, Json.dumps, isJson, FailureEvent.line]

theorem writeEvent_raises {event : FailureEvent} (notJson : event.toDict.serialisable = false) (fault : Option ℕ) :
    store.writeEvent event fault = (false, store) := by
  simp [writeEvent, Json.dumps, notJson]

end FileFailureStore

theorem serialisable_toDict (e : FailureEvent) :
    e.toDict.serialisable =
      (e.timestamp.serialisable && (e.source.serialisable && (e.event.serialisable && e.details.serialisable))) := by
  simp [FailureEvent.toDict, Json.serialisable, Json.serialisableMembers]

/-! ## Runs -/

inductive StoreCall where
  | write (event : FailureEvent)
  | clear
  | read (limit : Option ℤ) (source : Option Str)

def FileFailureStore.step (store : FileFailureStore) : StoreCall → Option FileFailureStore
  | .write event => some (store.writeEvent event).2
  | .clear => some store.clearEvents
  | .read _ _ => some store

abbrev StoreHistory := List (Transition FileFailureStore StoreCall)

/-- The events whose `write_event` succeeded since the last `clear_events`, in order. -/
def written : StoreHistory → List FailureEvent
  | [] => []
  | made :: past =>
    match made.label with
    | .write event => if (made.before.writeEvent event).1 then written past ++ [event] else written past
    | .clear => []
    | .read _ _ => written past

/-- The file is the log of what was written. -/
structure IsLog (store : FileFailureStore) (events : List FailureEvent) : Prop where
  areJson : ∀ e ∈ events, e.toDict.serialisable = true
  text : store.text = logText events

theorem IsLog.readEvents {store : FileFailureStore} {events : List FailureEvent} (isLog : IsLog store events)
    (source : Option Str) :
    store.readEvents none source = some (events.filter fun e => source.all e.hasSource) := by
  have whole := lines_logText events []
  rw [List.append_nil] at whole
  rw [FileFailureStore.readEvents_eq, isLog.text, whole, readLines_log isLog.areJson source]
  simp [lines, readLines]

theorem isLog_run {history : StoreHistory} {store : FileFailureStore}
    (run : Trace FileFailureStore.step {} history store) : IsLog store (written history) := by
  induction run with
  | nil => exact ⟨by simp [written], rfl⟩
  | @snoc past before call after _ taken ih =>
    cases call with
    | write event =>
      cases taken
      cases isJson : event.toDict.serialisable with
      | true =>
        simp only [written, FileFailureStore.writeEvent_ok isJson, if_true]
        refine ⟨?_, by rw [FileFailureStore.text_append, ih.text, logText_append]⟩
        intro e member
        cases List.mem_append.mp member with
        | inl earlier => exact ih.areJson e earlier
        | inr last =>
          rw [List.mem_singleton.mp last]
          exact isJson
      | false =>
        simp only [written, FileFailureStore.writeEvent_raises isJson]
        exact ih
    | clear =>
      cases taken
      exact ⟨by simp [written], FileFailureStore.text_clearEvents before⟩
    | read limit source =>
      cases taken
      exact ih

/-- After any calls on a store without a file, `read_events` returns exactly the events
    written since the last clear, in order and unchanged, those of the given source if
    there is one; and a write whose details cannot be serialised raises and leaves the
    file as it was. -/
theorem failure_log_readback (history : StoreHistory) (store : FileFailureStore)
    (run : Trace FileFailureStore.step {} history store) :
    (∀ source, store.readEvents none source =
        some ((written history).filter fun e => source.all e.hasSource)) ∧
      ∀ event : FailureEvent, Json.dumps event.details = none → store.writeEvent event = (false, store) := by
  refine ⟨(isLog_run run).readEvents, ?_⟩
  intro event notDumped
  have notJson : event.details.serialisable = false := by simpa [Json.dumps] using notDumped
  exact FileFailureStore.writeEvent_raises (by simp [serialisable_toDict, notJson]) none

theorem failure_log_readback_accented :
    let event : FailureEvent :=
      ⟨.str "chaos".toList, .str "é\n".toList, .obj [("k".toList, .bool true)], .str "t".toList⟩
    let first := (FileFailureStore.writeEvent {} event).2
    first.readEvents none (some "chaos".toList) = some [event] := by
  intro event first
  have readback := failure_log_readback
    [⟨{}, .write event, first⟩] first (.snoc .nil rfl)
  exact readback.1 (some "chaos".toList)

end AutoSre.Storage
