import Mathlib.Data.List.DropRight
import AutoSre.Storage.FailureStore

/-! # What a reader gets

Two things about `read_events` that the store's own runs do not show.

The limit is applied as `events[-limit:]`, which is the last `limit` events for every
limit but zero: there it is all of them.

The loop guards against lines that are not JSON, by catching `JSONDecodeError` alone.  A
line that is JSON but no object makes `.get` raise, and then nothing is read at all.
-/

namespace AutoSre.Storage

open AutoSre.Lib AutoSre.Lib.Python

/-! ## Bounded reads -/

theorem lastItems_eq_rtake_iff {α : Type} (limit : ℕ) (items : List α) :
    lastItems limit items = items.rtake limit ↔ limit ≠ 0 ∨ items = [] := by
  cases limit with
  | zero => simp [lastItems, List.rtake_zero]
  | succ limit =>
    refine iff_of_true ?_ (.inl (Nat.succ_ne_zero limit))
    simp [lastItems, List.rtake]

/-- `GET /failures`: the count and the events, `none` for an exception. -/
def FileFailureStore.listFailures (store : FileFailureStore) (limit : ℤ := 100)
    (source : Option Str := none) : Option (ℕ × List Json) :=
  (store.readEvents (some limit) source).map fun events => (events.length, events.map FailureEvent.toDict)

theorem FileFailureStore.readEvents_limit (store : FileFailureStore) (limit : ℤ) (source : Option Str) :
    store.readEvents (some limit) source = (store.readEvents none source).map (lastItems limit) := by
  obtain ⟨file⟩ := store
  cases file with
  | none => simp [readEvents, lastItems]
  | some text => cases readLines source (lines text) <;> simp [readEvents, *]

/-- A file of written events, read with a limit: the result is the last `limit` of the
    matching events, and `GET /failures` counts at most `limit`, exactly when the limit is
    not zero or no event matches. -/
theorem bounded_read_iff {store : FileFailureStore} {events : List FailureEvent} (isLog : IsLog store events)
    (limit : ℕ) (source : Option Str) :
    ((∃ all, store.readEvents none source = some all ∧
        store.readEvents (some limit) source = some (all.rtake limit)) ∧
      ∃ count listed, store.listFailures limit source = some (count, listed) ∧ count ≤ limit) ↔
      limit ≠ 0 ∨ ∀ e ∈ events, ¬source.all e.hasSource = true := by
  have whole := isLog.readEvents source
  have none_iff : events.filter (fun e => source.all e.hasSource) = [] ↔
      ∀ e ∈ events, ¬source.all e.hasSource = true := List.filter_eq_nil_iff
  rw [← none_iff, ← lastItems_eq_rtake_iff]
  simp only [FileFailureStore.listFailures, FileFailureStore.readEvents_limit, whole, Option.map_some]
  constructor
  · rintro ⟨⟨all, sameAll, bounded⟩, _⟩
    cases sameAll
    exact Option.some.inj bounded
  · intro bounded
    refine ⟨⟨_, rfl, congrArg some bounded⟩, _, _, rfl, ?_⟩
    rw [bounded, List.rtake, List.length_drop]
    omega

theorem bounded_read_last_of_two :
    let event : FailureEvent := ⟨.str "worker".toList, .str "job_failed".toList, .obj [], .str "t".toList⟩
    let store : FileFailureStore := ⟨some (logText [event, event])⟩
    (∃ all, store.readEvents none none = some all ∧ store.readEvents (some 1) none = some (all.rtake 1)) ∧
      ∃ count listed, store.listFailures 1 none = some (count, listed) ∧ count ≤ 1 := by
  intro event store
  have isLog : IsLog store [event, event] := ⟨by simp [event, serialisable_toDict, Json.serialisable,
    Json.serialisableMembers], rfl⟩
  exact (bounded_read_iff isLog 1 none).mpr (.inl one_ne_zero)

theorem zero_limit_reads_all :
    let event : FailureEvent := ⟨.str "worker".toList, .str "job_failed".toList, .obj [], .str "t".toList⟩
    let store := (FileFailureStore.writeEvent {} event).2
    store.readEvents (some 0) none = some [event] ∧
      (store.listFailures 0 none).map Prod.fst = some 1 := by
  intro event store
  have written : Trace FileFailureStore.step {} [⟨{}, .write event, store⟩] store := .snoc .nil rfl
  have isLog : IsLog store [event] := isLog_run written
  have whole := isLog.readEvents none
  simp only [FileFailureStore.listFailures, FileFailureStore.readEvents_limit, whole]
  exact ⟨rfl, rfl⟩

/-! ## Files that others wrote -/

/-- What `json.loads` does with a line.  `failed` is any exception but
    `JSONDecodeError`. -/
inductive Decoded where
  | value (decoded : Json)
  | undecodable
  | failed

def Decoded.ofLoads : Option Json → Decoded
  | some decoded => .value decoded
  | none => .undecodable

/-- `json.loads` in an interpreter: it reads JSON, up to the interpreter's limits on the
    digits of an integer and on the depth of nesting, beyond which it fails. -/
structure Decoder where
  loads : Str → Decoded
  reads_json : ∀ text, loads text = .failed ∨ loads text = .ofLoads (Json.loads text)

namespace Decoder

def unlimited : Decoder := ⟨fun text => .ofLoads (Json.loads text), fun _ => .inr rfl⟩

variable (decoder : Decoder)

def readLine (source : Option Str) (line : Str) : LineOutcome :=
  let line := strip line
  if line = [] then .skipped
  else
    match decoder.loads line with
    | .undecodable => .skipped
    | .failed => .raised
    | .value (.obj d) => if source.all (sourceIs · d) then .event (.fromDict d) else .skipped
    | .value .null | .value (.bool _) | .value (.number _) | .value (.str _) | .value (.arr _) | .value .foreign =>
      .raised

def readLines (source : Option Str) : List Str → Option (List FailureEvent)
  | [] => some []
  | line :: lines =>
    match decoder.readLine source line with
    | .skipped => readLines source lines
    | .event event => (readLines source lines).map (event :: ·)
    | .raised => none

/-- `read_events(source=source)` on a file with this text. -/
def readEvents (text : Str) (source : Option Str) : Option (List FailureEvent) :=
  decoder.readLines source (lines text)

theorem readEvents_unlimited (text : Str) (source : Option Str) :
    unlimited.readEvents text source = FileFailureStore.readEvents ⟨some text⟩ none source := by
  have sameLine (line : Str) : unlimited.readLine source line = Storage.readLine source line := by
    simp only [readLine, Storage.readLine, unlimited]
    cases Json.loads (strip line) with
    | none => rfl
    | some decoded => cases decoded <;> rfl
  have sameLines (lines : List Str) : unlimited.readLines source lines = Storage.readLines source lines := by
    induction lines with
    | nil => rfl
    | cons line lines ih =>
      cases seen : Storage.readLine source line <;>
        simp only [readLines, Storage.readLines, sameLine, ih, seen]
  rw [readEvents, sameLines, FileFailureStore.readEvents_eq]
  rfl

/-- The reader gets past the line: it is blank, or the decoder does not fail on it and
    what it decodes, if anything, is an object. -/
def Readable (line : Str) : Prop :=
  strip line = [] ∨ (decoder.loads (strip line) ≠ .failed ∧
    ∀ decoded, Json.loads (strip line) = some decoded → ∃ d, decoded = .obj d)

end Decoder

/-- The event of a line that parses as an object and matches the source. -/
def lineEvent (source : Option Str) (line : Str) : Option FailureEvent :=
  match Json.loads (strip line) with
  | some (.obj d) => if source.all (sourceIs · d) then some (.fromDict d) else none
  | some .null | some (.bool _) | some (.number _) | some (.str _) | some (.arr _) | some .foreign | none => none

theorem Decoder.readLine_of_readable {decoder : Decoder} {line : Str} (readable : decoder.Readable line)
    (source : Option Str) :
    decoder.readLine source line = (lineEvent source line).elim .skipped .event := by
  simp only [Decoder.readLine, lineEvent]
  obtain blank | ⟨notFailed, isObject⟩ := readable
  · rw [blank]
    rfl
  · by_cases blank : strip line = []
    · rw [blank]
      rfl
    · have decoded := (decoder.reads_json (strip line)).resolve_left notFailed
      rw [if_neg blank, decoded]
      cases loaded : Json.loads (strip line) with
      | none => rfl
      | some value =>
        obtain ⟨d, rfl⟩ := isObject value loaded
        simp only [Decoded.ofLoads]
        split <;> rfl

theorem Decoder.readLine_of_not_readable {decoder : Decoder} {line : Str} (unreadable : ¬decoder.Readable line)
    (source : Option Str) : decoder.readLine source line = .raised := by
  simp only [Decoder.Readable, not_or] at unreadable
  obtain ⟨notBlank, trouble⟩ := unreadable
  simp only [Decoder.readLine, if_neg notBlank]
  obtain failed | decoded := decoder.reads_json (strip line)
  · rw [failed]
  · rw [decoded] at trouble ⊢
    cases loaded : Json.loads (strip line) with
    | none => simp [loaded, Decoded.ofLoads] at trouble
    | some value =>
      cases value with
      | obj d => simp [loaded, Decoded.ofLoads] at trouble
      | null | bool _ | number _ | str _ | arr _ | foreign => rfl

theorem Decoder.readLines_iff (decoder : Decoder) (source : Option Str) (lines : List Str) :
    decoder.readLines source lines = some (lines.filterMap (lineEvent source)) ↔
      ∀ line ∈ lines, decoder.Readable line := by
  induction lines with
  | nil => simp [Decoder.readLines]
  | cons line lines ih =>
    rw [List.forall_mem_cons, Decoder.readLines]
    by_cases readable : decoder.Readable line
    · rw [Decoder.readLine_of_readable readable, ← ih, and_iff_right readable, List.filterMap_cons]
      cases lineEvent source line with
      | none => rfl
      | some event => cases decoder.readLines source lines <;> simp
    · rw [Decoder.readLine_of_not_readable readable]
      exact iff_of_false (fun isSome => by cases isSome) (fun all => readable all.1)

/-- Whatever the file holds: `read_events` returns the events of the lines that parse as
    objects and match, in order, exactly when every line is blank, not JSON or an object
    (and within the interpreter's limits). -/
theorem reading_tolerates_iff (decoder : Decoder) (text : Str) (source : Option Str) :
    decoder.readEvents text source = some ((lines text).filterMap (lineEvent source)) ↔
      ∀ line ∈ lines text, decoder.Readable line :=
  decoder.readLines_iff source (lines text)

theorem lineEvent_line {e : FailureEvent} (isJson : e.toDict.serialisable = true) :
    lineEvent none e.line = some e := by
  obtain ⟨sameEvent, _⟩ := fromDict_toDict e rfl
  simp only [lineEvent, strip_line, loads_line isJson, FailureEvent.toDict, Option.all_none, if_true]
  rw [sameEvent]

/-- A list between two events, as another program may have left it: nothing is read. -/
theorem foreign_line_hides_events :
    let event : FailureEvent := ⟨.str "worker".toList, .str "job_failed".toList, .obj [], .str "t".toList⟩
    let text := logText [event] ++ ("[]\n".toList ++ logText [event])
    FileFailureStore.readEvents ⟨some text⟩ none none = none ∧
      (lines text).filterMap (lineEvent none) = [event, event] := by
  intro event text
  have isJson : event.toDict.serialisable = true := rfl
  have between : lines ("[]\n".toList ++ logText [event]) = ["[]".toList, event.line] := by
    have last := lines_logText [event] []
    rw [List.append_nil] at last
    have unbroken : Unbroken "[]".toList := by simp [Unbroken]
    calc lines ("[]".toList ++ '\n' :: logText [event])
        = "[]".toList :: lines (logText [event]) := lines_append_newline unbroken _
      _ = ["[]".toList, event.line] := by rw [last]; rfl
  have listed : lines text = [event].map FailureEvent.line ++ ["[]".toList, event.line] := by
    rw [lines_logText, between]
  refine ⟨?_, ?_⟩
  · have raises : readLine none "[]".toList = .raised := rfl
    rw [FileFailureStore.readEvents_eq, show FileFailureStore.text ⟨some text⟩ = text from rfl, listed,
      readLines_log (by simpa using isJson), readLines, raises]
    rfl
  · have skipped : lineEvent none "[]".toList = none := rfl
    rw [listed]
    simp only [List.map_cons, List.map_nil, List.cons_append, List.nil_append, List.filterMap_cons,
      List.filterMap_nil, lineEvent_line isJson, skipped]

end AutoSre.Storage
