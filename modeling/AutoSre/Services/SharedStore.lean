import AutoSre.Lib.OnceCell
import AutoSre.Services.EnvCheck
import AutoSre.Storage.FailureStore

/-! # The failure store of a process

`record_event` from any number of threads.  Each asks `get_failure_store` for the store of
the process, which is opened on first use under a lock and with two checks, and appends
its line to the file under the lock of that store.  The file takes the characters one at a
time, so that two writers at once would show, and a write may fail half way.

The lock belongs to the store and not to the file: what keeps two threads apart is that
both get the same store.
-/

namespace AutoSre.Services.SharedStore

open AutoSre.Lib AutoSre.Lib.Python AutoSre.Lib.OnceCell AutoSre.Storage

/-! ## Opening the store -/

/-- `os.path.join` of a directory and a plain file name. -/
def joinPath (directory name : Str) : Str :=
  if directory = [] ∨ directory.getLast? = some '/' then directory ++ name else directory ++ '/' :: name

def defaultPath (env : Environ) : Str :=
  env.getenv "FAILURE_LOG_PATH".toList
    (joinPath (env.getenv "DATA_DIR".toList "data".toList) "failures.jsonl".toList)

structure Circumstances where
  env : Environ
  directoryMade : Bool

/-- `FileFailureStore(_default_path())`, by its path; `none` is the `OSError` of `mkdir`. -/
def openStore (c : Circumstances) : Option Str := if c.directoryMade then some (defaultPath c.env) else none

/-! ## Writers -/

/-- A `write_event` that holds the lock of its store. -/
structure Writing where
  store : ℕ
  event : FailureEvent
  written : Str
  remaining : Str

/-- The threads of a process, the locks of the stores by their numbers, and the files by
    their paths. -/
structure Process (τ : Type) where
  cell : Cell τ Str := {}
  locks : ℕ → Option τ := fun _ => none
  writing : τ → Option Writing := fun _ => none
  files : Str → Str

inductive Action (τ : Type) where
  | get (act : Act τ Circumstances Str)
  | begin (thread : τ) (event : FailureEvent)
  | put (thread : τ)
  | finish (thread : τ)
  | abort (thread : τ)

variable {τ : Type} [DecidableEq τ]

namespace Process

def path (process : Process τ) (store : ℕ) : Str := (process.cell.objects[store]?).getD []

/-- `write_event` under the lock: the line is made before the lock is taken. -/
def beginWrite (process : Process τ) (thread : τ) (event : FailureEvent) (store : ℕ) : Option (Process τ) :=
  if (process.writing thread).isNone ∧ (process.locks store).isNone then
    (Json.dumps event.toDict).map fun line =>
      { process with
        locks := Function.update process.locks store (some thread)
        writing := Function.update process.writing thread (some ⟨store, event, [], line ++ ['\n']⟩) }
  else none

def endWrite (process : Process τ) (thread : τ) (write : Writing) : Process τ :=
  { process with
    locks := Function.update process.locks write.store none
    writing := Function.update process.writing thread none }

/-- A thread inside `write_event` makes no other call. -/
def mayGet (process : Process τ) : Act τ Circumstances Str → Bool
  | .call thread => (process.writing thread).isNone
  | .run _ | .make _ _ | .set _ => true

def step (process : Process τ) : Action τ → Option (Process τ)
  | .get act =>
    if process.mayGet act then (process.cell.step openStore act).map fun cell => { process with cell } else none
  | .begin thread event =>
    match process.cell.stage thread with
    | .returned (some store) => process.beginWrite thread event store
    -- no call, or one that raised
    | _ => none
  | .put thread =>
    match process.writing thread with
    | some ⟨store, event, written, c :: remaining⟩ =>
      some { process with
        writing := Function.update process.writing thread (some ⟨store, event, written ++ [c], remaining⟩)
        files := Function.update process.files (process.path store) (process.files (process.path store) ++ [c]) }
    | some ⟨_, _, _, []⟩ | none => none
  | .finish thread =>
    match process.writing thread with
    | some write => if write.remaining = [] then some (process.endWrite thread write) else none
    | none => none
  -- a failed write leaves the file with what was written of the line
  | .abort thread => (process.writing thread).map (process.endWrite thread)

/-- The part of its line that the thread under the lock of the first store has written. -/
def inFlight (process : Process τ) : Str := ((process.locks 0).bind process.writing).elim [] Writing.written

end Process

/-! ## What a step does -/

inductive Steps (process : Process τ) : Action τ → Process τ → Prop where
  | get {act : Act τ Circumstances Str} {cell : Cell τ Str} : process.cell.step openStore act = some cell →
      Steps process (.get act) { process with cell }
  | begin {thread : τ} {event : FailureEvent} {store : ℕ} : process.cell.stage thread = .returned (some store) →
      process.writing thread = none → process.locks store = none → event.toDict.serialisable = true →
      Steps process (.begin thread event)
        { process with
          locks := Function.update process.locks store (some thread)
          writing := Function.update process.writing thread (some ⟨store, event, [], event.line ++ ['\n']⟩) }
  | put {thread : τ} {store : ℕ} {event : FailureEvent} {written remaining : Str} {c : Char} :
      process.writing thread = some ⟨store, event, written, c :: remaining⟩ →
      Steps process (.put thread)
        { process with
          writing := Function.update process.writing thread (some ⟨store, event, written ++ [c], remaining⟩)
          files := Function.update process.files (process.path store) (process.files (process.path store) ++ [c]) }
  | finish {thread : τ} {write : Writing} : process.writing thread = some write → write.remaining = [] →
      Steps process (.finish thread) (process.endWrite thread write)
  | abort {thread : τ} {write : Writing} : process.writing thread = some write →
      Steps process (.abort thread) (process.endWrite thread write)

theorem step_steps {process next : Process τ} {action : Action τ} (taken : process.step action = some next) :
    Steps process action next := by
  cases action with
  | get act =>
    simp only [Process.step] at taken
    split at taken
    · obtain ⟨cell, moved, rfl⟩ := Option.map_eq_some_iff.mp taken
      exact .get moved
    · cases taken
  | begin thread event =>
    simp only [Process.step] at taken
    split at taken
    next store isReturned =>
      simp only [Process.beginWrite] at taken
      split at taken
      next free =>
        obtain ⟨line, dumped, rfl⟩ := Option.map_eq_some_iff.mp taken
        cases isJson : event.toDict.serialisable with
        | false => simp [Json.dumps, isJson] at dumped
        | true =>
          obtain rfl : event.line = line := by simpa [Json.dumps, isJson, FailureEvent.line] using dumped
          exact .begin isReturned (Option.isNone_iff_eq_none.mp free.1) (Option.isNone_iff_eq_none.mp free.2) isJson
      next => cases taken
    next => cases taken
  | put thread =>
    simp only [Process.step] at taken
    split at taken
    next isWriting =>
      cases taken
      exact .put isWriting
    all_goals cases taken
  | finish thread =>
    simp only [Process.step] at taken
    split at taken
    next write isWriting =>
      split at taken
      next isDone =>
        cases taken
        exact .finish isWriting isDone
      next => cases taken
    next => cases taken
  | abort thread =>
    obtain ⟨write, isWriting, rfl⟩ := Option.map_eq_some_iff.mp taken
    exact .abort isWriting

/-! ## Runs -/

abbrev WriterHistory (τ : Type) := List (Transition (Process τ) (Action τ))

def Action.isSet : Action τ → Bool
  | .get (.set _) => true
  | .get (.call _) | .get (.run _) | .get (.make _ _) | .begin _ _ | .put _ | .finish _ | .abort _ => false

def Action.isAbort : Action τ → Bool
  | .abort _ => true
  | .get _ | .begin _ _ | .put _ | .finish _ => false

/-- What the writes that have ended left in the file, in the order they ended. -/
def pieces : WriterHistory τ → List Str
  | [] => []
  | made :: past =>
    match made.label with
    | .finish thread | .abort thread => pieces past ++ ((made.before.writing thread).map Writing.written).toList
    | .get _ | .begin _ _ | .put _ => pieces past

/-- The events whose writes have finished, in that order. -/
def finished : WriterHistory τ → List FailureEvent
  | [] => []
  | made :: past =>
    match made.label with
    | .finish thread => finished past ++ ((made.before.writing thread).map Writing.event).toList
    | .get _ | .begin _ _ | .put _ | .abort _ => finished past

/-- The calls of `get_failure_store` in a run are a run of their own. -/
theorem cell_run {files : Str → Str} {history : WriterHistory τ} {process : Process τ}
    (run : Trace Process.step { files } history process) (notSet : ∀ made ∈ history, made.label.isSet = false) :
    ∃ past, Trace (Cell.step openStore) {} past process.cell ∧ given past = [] := by
  induction run with
  | nil => exact ⟨[], .nil, rfl⟩
  | snoc _ taken ih =>
    obtain ⟨isNoSet, notSet⟩ := List.forall_mem_cons.mp notSet
    obtain ⟨past, earlier, notGiven⟩ := ih notSet
    cases step_steps taken with
    | @get act cell moved =>
      refine ⟨_, earlier.snoc moved, ?_⟩
      cases act with
      | set object => cases isNoSet
      | call _ | run _ | make _ _ => exact notGiven
    | begin | put | finish | abort => exact ⟨past, earlier, notGiven⟩

/-- Without `set_failure_store` there is one store at most, and whoever has one has that. -/
structure OneStore (cell : Cell τ Str) : Prop where
  once : cell.objects.length ≤ 1
  first : ∀ thread store, cell.stage thread = .returned (some store) → store = 0 ∧ ∃ path, cell.objects = [path]

theorem oneStore {files : Str → Str} {history : WriterHistory τ} {process : Process τ}
    (run : Trace Process.step { files } history process) (notSet : ∀ made ∈ history, made.label.isSet = false) :
    OneStore process.cell := by
  obtain ⟨past, cellRun, notGiven⟩ := cell_run run notSet
  have filling := filling_run cellRun
  constructor
  · have counted := length_objects cellRun
    have once := filling.once
    rw [notGiven, List.length_nil] at counted
    omega
  · intro thread store isReturned
    have accounted := filling.threads thread
    rw [isReturned] at accounted
    obtain ⟨number, isStore, known⟩ := accounted
    obtain ⟨first, path, only, _⟩ := shared_of_not_given cellRun notGiven known
    cases isStore
    exact ⟨first, path, only⟩

/-- The file of the one store holds what was there, the pieces of the writes that ended and
    the part of the line under way, one after the other; no other file is touched. -/
structure Orderly (initial : Str → Str) (pieces : List Str) (process : Process τ) : Prop where
  lock : ∀ thread, (process.writing thread).isSome = true ↔ process.locks 0 = some thread
  current : ∀ thread write, process.writing thread = some write →
    write.store = 0 ∧ write.event.toDict.serialisable = true ∧
      write.written ++ write.remaining = write.event.line ++ ['\n']
  -- before there is a store there is no lock to take and no file to write
  unopened : process.cell.objects = [] → pieces = [] ∧ process.locks 0 = none
  files : ∀ path, process.files path =
    initial path ++ if process.cell.objects = [path] then pieces.flatten ++ process.inFlight else []

namespace Orderly

variable {initial : Str → Str} {pieces : List Str} {process : Process τ}

section

omit [DecidableEq τ]

theorem inFlight_eq (orderly : Orderly initial pieces process) {thread : τ} {write : Writing}
    (isWriting : process.writing thread = some write) : process.inFlight = write.written := by
  have held := (orderly.lock thread).mp (by rw [isWriting]; rfl)
  simp [Process.inFlight, held, isWriting]

theorem inFlight_of_free (free : process.locks 0 = none) : process.inFlight = [] := by
  simp [Process.inFlight, free]

theorem opened (orderly : Orderly initial pieces process) (one : OneStore process.cell) {thread : τ}
    (held : process.locks 0 = some thread) : ∃ path, process.cell.objects = [path] := by
  apply List.length_eq_one_iff.mp
  have some_object : process.cell.objects ≠ [] := by
    intro isEmpty
    rw [(orderly.unopened isEmpty).2] at held
    cases held
  have positive := List.length_pos_iff.mpr some_object
  have once := one.once
  omega

end

theorem get (orderly : Orderly initial pieces process) {act : Act τ Circumstances Str} {cell : Cell τ Str}
    (moved : process.cell.step openStore act = some cell) (one : OneStore cell) :
    Orderly initial pieces { process with cell } := by
  have grown := objects_grow moved
  cases isOpen : process.cell.objects with
  | nil =>
    obtain ⟨noPieces, free⟩ := orderly.unopened isOpen
    refine ⟨orderly.lock, orderly.current, fun _ => ⟨noPieces, free⟩, fun path => ?_⟩
    have nothing : Process.inFlight { process with cell } = [] := inFlight_of_free free
    have same := orderly.files path
    simp only [isOpen, noPieces] at same
    simpa [noPieces, nothing] using same
  | cons path rest =>
    have once := one.once
    -- the list of stores only grows, and one is the most there can be
    have same : process.cell.objects = cell.objects :=
      grown.eq_of_length_le (by rw [isOpen, List.length_cons]; omega)
    refine ⟨orderly.lock, orderly.current, fun isEmpty => orderly.unopened (same.trans isEmpty), fun path => ?_⟩
    show process.files path = initial path ++ if cell.objects = [path] then pieces.flatten ++ process.inFlight else []
    rw [← same]
    exact orderly.files path

theorem begin (orderly : Orderly initial pieces process) (one : OneStore process.cell) {thread : τ}
    {event : FailureEvent} (isReturned : process.cell.stage thread = .returned (some 0))
    (notWriting : process.writing thread = none) (free : process.locks 0 = none)
    (isJson : event.toDict.serialisable = true) :
    Orderly initial pieces
      { process with
        locks := Function.update process.locks 0 (some thread)
        writing := Function.update process.writing thread (some ⟨0, event, [], event.line ++ ['\n']⟩) } := by
  obtain ⟨_, path, isOpen⟩ := one.first thread 0 isReturned
  have nobody : ∀ other, process.writing other = none := by
    intro other
    rw [← Option.not_isSome_iff_eq_none, orderly.lock other, free]
    simp
  constructor
  case lock =>
    intro other
    by_cases isThread : other = thread
    · simp [isThread]
    · simp [isThread, nobody, Ne.symm isThread]
  case current =>
    intro other write isWriting
    by_cases isThread : other = thread
    · subst isThread
      obtain rfl : (⟨0, event, [], event.line ++ ['\n']⟩ : Writing) = write := by simpa using isWriting
      exact ⟨rfl, isJson, rfl⟩
    · simp [isThread, nobody] at isWriting
  case unopened =>
    intro isEmpty
    rw [isOpen] at isEmpty
    cases isEmpty
  case files =>
    intro path
    have same := orderly.files path
    rw [inFlight_of_free free] at same
    simpa [Process.inFlight] using same

theorem put (orderly : Orderly initial pieces process) (one : OneStore process.cell) {thread : τ} {store : ℕ}
    {event : FailureEvent} {written remaining : Str} {c : Char}
    (isWriting : process.writing thread = some ⟨store, event, written, c :: remaining⟩) :
    Orderly initial pieces
      { process with
        writing := Function.update process.writing thread (some ⟨store, event, written ++ [c], remaining⟩)
        files := Function.update process.files (process.path store) (process.files (process.path store) ++ [c]) } := by
  have held := (orderly.lock thread).mp (by rw [isWriting]; rfl)
  obtain ⟨path, isOpen⟩ := orderly.opened one held
  obtain ⟨isFirst, isJson, isLine⟩ := orderly.current thread _ isWriting
  have isPath : process.path store = path := by
    simp only at isFirst
    simp [Process.path, isFirst, isOpen]
  have inFlight := orderly.inFlight_eq isWriting
  constructor
  case lock =>
    intro other
    by_cases isThread : other = thread
    · simp [isThread, held]
    · simpa [isThread] using orderly.lock other
  case current =>
    intro other write isWriting
    by_cases isThread : other = thread
    · subst isThread
      obtain rfl : (⟨store, event, written ++ [c], remaining⟩ : Writing) = write := by simpa using isWriting
      exact ⟨isFirst, isJson, by simpa using isLine⟩
    · exact orderly.current other write (by simpa [isThread] using isWriting)
  case unopened => exact orderly.unopened
  case files =>
    intro other
    have same := orderly.files other
    rw [isPath]
    by_cases isOther : other = path
    · subst isOther
      simp only [isOpen, if_true, inFlight] at same
      simp [Process.inFlight, held, isOpen, same]
    · have differ : process.cell.objects ≠ [other] := by
        rw [isOpen]
        simpa using Ne.symm isOther
      simpa [isOther, differ] using same

theorem endWrite (orderly : Orderly initial pieces process) {thread : τ} {write : Writing}
    (isWriting : process.writing thread = some write) :
    Orderly initial (pieces ++ [write.written]) (process.endWrite thread write) := by
  have held := (orderly.lock thread).mp (by rw [isWriting]; rfl)
  obtain ⟨isFirst, _, _⟩ := orderly.current thread _ isWriting
  have free : (process.endWrite thread write).locks 0 = none := by simp [Process.endWrite, isFirst]
  have others : ∀ other, (process.endWrite thread write).writing other = none := by
    intro other
    by_cases isThread : other = thread
    · simp [Process.endWrite, isThread]
    · have notHeld : process.locks 0 ≠ some other := by
        rw [held]
        simpa using Ne.symm isThread
      rw [Ne, ← orderly.lock other, Option.not_isSome_iff_eq_none] at notHeld
      simpa [Process.endWrite, isThread] using notHeld
  constructor
  case lock =>
    intro other
    simp [others, free]
  case current =>
    intro other write isWriting
    rw [others] at isWriting
    cases isWriting
  case unopened =>
    intro isEmpty
    rw [(orderly.unopened isEmpty).2] at held
    cases held
  case files =>
    intro path
    have same := orderly.files path
    rw [orderly.inFlight_eq isWriting] at same
    rw [inFlight_of_free free]
    simpa [Process.endWrite] using same

end Orderly

theorem orderly_run {initial : Str → Str} {history : WriterHistory τ} {process : Process τ}
    (run : Trace Process.step { files := initial } history process)
    (notSet : ∀ made ∈ history, made.label.isSet = false) :
    Orderly initial (pieces history) process := by
  induction run with
  | nil => exact ⟨by simp, by simp, fun _ => ⟨rfl, rfl⟩, by simp⟩
  | @snoc past before action after earlier taken ih =>
    have oneAfter := oneStore (earlier.snoc taken) notSet
    have notSet := (List.forall_mem_cons.mp notSet).2
    have one := oneStore earlier notSet
    have orderly := ih notSet
    cases step_steps taken with
    | get moved => exact orderly.get moved oneAfter
    | begin isReturned notWriting free isJson =>
      -- this is where the threads share the lock: the store is number 0 for each of them
      obtain ⟨rfl, _⟩ := one.first _ _ isReturned
      exact orderly.begin one isReturned notWriting free isJson
    | put isWriting => exact orderly.put one isWriting
    | finish isWriting _ | abort isWriting =>
      simp only [pieces, isWriting]
      exact orderly.endWrite isWriting

theorem pieces_of_no_abort {initial : Str → Str} {history : WriterHistory τ} {process : Process τ}
    (run : Trace Process.step { files := initial } history process)
    (notSet : ∀ made ∈ history, made.label.isSet = false)
    (noAbort : ∀ made ∈ history, made.label.isAbort = false) :
    pieces history = (finished history).map (fun event => event.line ++ ['\n']) ∧
      ∀ event ∈ finished history, event.toDict.serialisable = true := by
  induction run with
  | nil => exact ⟨rfl, by simp [finished]⟩
  | @snoc past before action after earlier taken ih =>
    obtain ⟨isNoAbort, noAbort⟩ := List.forall_mem_cons.mp noAbort
    have neverSet := (List.forall_mem_cons.mp notSet).2
    obtain ⟨lines, areJson⟩ := ih neverSet noAbort
    cases step_steps taken with
    | get | begin | put => exact ⟨lines, areJson⟩
    | abort => cases isNoAbort
    | @finish thread write isWriting isDone =>
      obtain ⟨_, isJson, isLine⟩ := (orderly_run earlier neverSet).current thread write isWriting
      rw [isDone, List.append_nil] at isLine
      simp only [pieces, finished, isWriting, Option.map_some, Option.toList_some]
      constructor
      · rw [lines, isLine, List.map_append, List.map_singleton]
      · intro event isFinished
        cases List.mem_append.mp isFinished with
        | inl before => exact areJson event before
        | inr last =>
          rw [List.mem_singleton.mp last]
          exact isJson

/-- In every interleaving of threads that record events, without `set_failure_store`: one
    thread at most is inside a write, one store at most is opened, and its file holds what
    was there, the pieces of the writes that ended and the part of the line under way, with
    no other file touched.  If no write failed and none is under way, a file that was
    empty is read back as the events written, in the order their writes ended. -/
theorem record_event_serialised (initial : Str → Str) (history : WriterHistory τ) (process : Process τ)
    (run : Trace Process.step { files := initial } history process)
    (notSet : ∀ made ∈ history, made.label.isSet = false) :
    (∀ thread other, (process.writing thread).isSome = true → (process.writing other).isSome = true →
        thread = other) ∧
      process.cell.objects.length ≤ 1 ∧
      (∀ path, process.files path =
        initial path ++ if process.cell.objects = [path] then (pieces history).flatten ++ process.inFlight else []) ∧
      ((∀ made ∈ history, made.label.isAbort = false) → (∀ thread, process.writing thread = none) →
        ∀ path, initial path = [] → process.cell.objects = [path] → ∀ source,
          (FileFailureStore.mk (some (process.files path))).readEvents none source =
            some ((finished history).filter fun event => source.all event.hasSource)) := by
  have orderly := orderly_run run notSet
  refine ⟨?_, (oneStore run notSet).once, orderly.files, ?_⟩
  · intro thread other isWriting otherWriting
    have held := (orderly.lock thread).mp isWriting
    have otherHeld := (orderly.lock other).mp otherWriting
    exact Option.some.inj (held.symm.trans otherHeld)
  · intro noAbort idle path isEmpty isOpen source
    obtain ⟨lines, areJson⟩ := pieces_of_no_abort run notSet noAbort
    have free : process.locks 0 = none := by
      cases held : process.locks 0 with
      | none => rfl
      | some thread =>
        have isWriting := (orderly.lock thread).mpr held
        rw [idle thread] at isWriting
        cases isWriting
    have text : process.files path = logText (finished history) := by
      rw [orderly.files path, if_pos isOpen, isEmpty, Orderly.inFlight_of_free free, lines]
      simp [logText, List.flatMap]
    have isLog : IsLog ⟨some (process.files path)⟩ (finished history) := ⟨areJson, text⟩
    exact isLog.readEvents source

theorem record_event_serialised_two :
    ∃ (history : WriterHistory Bool) (process : Process Bool),
      Trace Process.step { files := fun _ => [] } history process ∧
        ((FileFailureStore.mk (some (process.files "data/failures.jsonl".toList))).readEvents none none).map
          List.length = some 2 := by
  let event : FailureEvent := ⟨.str [], .str [], .obj [], .str []⟩
  let opening (thread other : Bool) : List (Action Bool) :=
    [.get (.call thread), .get (.call other), .get (.run thread), .get (.run other), .get (.run thread),
      .get (.run thread), .get (.make thread ⟨fun _ => none, true⟩), .get (.run thread), .get (.run thread),
      .get (.run thread), .get (.run other), .get (.run other), .get (.run other), .get (.run other)]
  let write (thread : Bool) : List (Action Bool) :=
    .begin thread event :: (List.replicate 53 (.put thread) ++ [.finish thread])
  obtain ⟨history, process, run, notSet, noAbort, idle, isOpen, isFinished⟩ :=
    exists_trace_of_replay Process.step { files := fun _ => [] } (opening true false ++ write false ++ write true)
      (fun history process => (∀ made ∈ history, made.label.isSet = false) ∧
        (∀ made ∈ history, made.label.isAbort = false) ∧ (∀ thread, (process.writing thread).isNone) ∧
        process.cell.objects = ["data/failures.jsonl".toList] ∧ (finished history).length = 2)
      (by decide +kernel)
  obtain ⟨_, _, _, readback⟩ := record_event_serialised (fun _ => []) history process run notSet
  have idle : ∀ thread, process.writing thread = none := fun thread => Option.isNone_iff_eq_none.mp (idle thread)
  refine ⟨history, process, run, ?_⟩
  rw [readback noAbort idle _ rfl isOpen none]
  simpa using isFinished

end AutoSre.Services.SharedStore
