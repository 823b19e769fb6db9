import AutoSre.Resilience.BreakerHistory

/-! # Accounting for protected calls

`protect`, `guard` and `call` are three ways into one breaker, each with its own
`try`/`except`/`else`.  Here every call is followed by its own identifier and entry
point, from `_enter` to the clause that ends it, and every method call made on the
breaker is kept, so that what was booked can be counted against what was admitted.

A rejection is raised by `_enter`, before the `try`: although it is an `Exception`,
no `except` clause of the same call sees it.
-/

namespace AutoSre.Resilience

open AutoSre.Lib AutoSre.Lib.Python

/-- What a protected call can raise: the breaker's own error, or anything else. -/
inductive Raised (ε : Type) where
  | circuitBreakerOpen (name : Str)
  | other (error : ε)
deriving DecidableEq, Repr

/-- A breaker, and the calls of its methods so far, latest first. -/
structure Tally where
  breaker : CircuitBreaker InMemoryStore := .fresh
  made : List Call := []
deriving DecidableEq, Repr

namespace Tally

variable {ε ν : Type}

def operate (config : BreakerConfig) (call : Call) (tally : Tally) : Tally :=
  { breaker := tally.breaker.operate config call, made := call :: tally.made }

/-- `_enter`, with the `CircuitBreakerOpenError` that `_reject` raises. -/
def enter (config : BreakerConfig) (now : ℚ) (tally : Tally) : Except (Raised ε) Unit × Tally :=
  let allowed := (tally.breaker.allow config now).1
  let tally := tally.operate config ⟨now, .allow⟩
  if allowed then (.ok (), tally)
  else (.error (.circuitBreakerOpen config.name), { tally with breaker := tally.breaker.reject })

def exit (config : BreakerConfig) (now : ℚ) (failed : Bool) (tally : Tally) : Tally :=
  tally.operate config ⟨now, if failed then .recordFailure else .recordSuccess⟩

/-- `except self.expected_exceptions: …; raise` and `else: …`. -/
def exceptElse (config : BreakerConfig) (expected : Raised ε → Bool) (now : ℚ)
    (result : Except (Raised ε) ν) (tally : Tally) : Except (Raised ε) ν × Tally :=
  match result with
  | .error raised =>
    if expected raised then (.error raised, tally.exit config now true)
    else (.error raised, tally) -- passes through the `except` clause
  | .ok value => (.ok value, tally.exit config now false)

/-- To the breaker, a body ends in one of three ways. -/
def ending (expected : Raised ε → Bool) : Except (Raised ε) ν → CircuitBreaker.Ending
  | .ok _ => .returned
  | .error raised => .raised (expected raised)

theorem enter_breaker (config : BreakerConfig) (now : ℚ) (tally : Tally) :
    ((tally.enter (ε := ε) config now).1.isOk, (tally.enter (ε := ε) config now).2.breaker) =
      tally.breaker.enter config now := by
  cases allowed : (tally.breaker.allow config now).1 with
  | true =>
    simp only [enter, CircuitBreaker.enter, operate, CircuitBreaker.operate, allowed, if_true]
    rfl
  | false =>
    simp only [enter, CircuitBreaker.enter, operate, CircuitBreaker.operate, allowed, Bool.false_eq_true, if_false]
    rfl

theorem exceptElse_breaker (config : BreakerConfig) (expected : Raised ε → Bool) (now : ℚ)
    (result : Except (Raised ε) ν) (tally : Tally) :
    (tally.exceptElse config expected now result).2.breaker =
      tally.breaker.leave config now (ending expected result) := by
  cases result with
  | ok value => rfl
  | error raised =>
    cases isExpected : expected raised with
    | true =>
      simp only [exceptElse, ending, isExpected, if_true]
      rfl
    | false =>
      simp only [exceptElse, ending, isExpected, Bool.false_eq_true, if_false]
      rfl

end Tally

/-! ## The three entry points -/

/-- A context manager around a body: what it does before the body, and with the
    body's result. -/
structure Manager (ε ν : Type) where
  enter : ℚ → Tally → Except (Raised ε) Unit × Tally
  exit : ℚ → Except (Raised ε) ν → Tally → Except (Raised ε) ν × Tally

namespace Manager

variable {ε ν : Type}

def enterThenTry (config : BreakerConfig) (expected : Raised ε → Bool) : Manager ε ν where
  enter := Tally.enter config
  exit := Tally.exceptElse config expected

def protect (config : BreakerConfig) (expected : Raised ε → Bool) : Manager ε ν :=
  enterThenTry config expected

def guard (config : BreakerConfig) (expected : Raised ε → Bool) : Manager ε ν :=
  enterThenTry config expected

/-- `async with self.protect()` around the call of `func`, which is the body. -/
def call (config : BreakerConfig) (expected : Raised ε → Bool) : Manager ε ν :=
  protect config expected

end Manager

inductive EntryPoint where
  | protect
  | guard
  | call
deriving DecidableEq, Repr

def EntryPoint.manager {ε ν : Type} (config : BreakerConfig) (expected : Raised ε → Bool) :
    EntryPoint → Manager ε ν
  | .protect => .protect config expected
  | .guard => .guard config expected
  | .call => .call config expected

theorem manager_eq {ε ν : Type} (config : BreakerConfig) (expected : Raised ε → Bool)
    (entry : EntryPoint) : entry.manager config expected = .enterThenTry (ν := ν) config expected := by
  cases entry <;> rfl

/-! ## Overlapping calls -/

/-- How a call is over for its caller: `_enter` raised, or the body ended and its
    result came out of the context manager. -/
inductive Fate (ε ν : Type) where
  | rejected (raised : Raised ε)
  | ended (result : Except (Raised ε) ν)

namespace Fate

variable {ε ν : Type}

def isRejected : Fate ε ν → Bool
  | .rejected _ => true
  | .ended _ => false

@[simp] theorem isRejected_rejected (raised : Raised ε) :
    (Fate.rejected raised : Fate ε ν).isRejected = true := rfl
@[simp] theorem isRejected_ended (result : Except (Raised ε) ν) : (Fate.ended result).isRejected = false := rfl

/-- The body raised an exception outside `expected_exceptions`. -/
def isOutside (expected : Raised ε → Bool) : Fate ε ν → Bool
  | .ended (.error raised) => !expected raised
  | .ended (.ok _) | .rejected _ => false

end Fate

/-- The calls made on one breaker: those in flight with their entry points, those
    whose body was started, and those that are over. -/
structure Ledger (ι ε ν : Type) where
  tally : Tally := {}
  inFlight : List (ι × EntryPoint) := []
  bodies : List ι := []
  fates : List (ι × Fate ε ν) := []

inductive LedgerEvent (ι ε ν : Type) where
  | begin (id : ι) (entry : EntryPoint) (now : ℚ)
  | finish (id : ι) (now : ℚ) (result : Except (Raised ε) ν)

namespace Ledger

variable {ι ε ν : Type}

def known (ledger : Ledger ι ε ν) : List ι := ledger.inFlight.map Prod.fst ++ ledger.fates.map Prod.fst

/-- Every call has an identifier of its own, and ends at most once. -/
def step [DecidableEq ι] (config : BreakerConfig) (expected : Raised ε → Bool) (ledger : Ledger ι ε ν) :
    LedgerEvent ι ε ν → Option (Ledger ι ε ν)
  | .begin id entry now =>
    if id ∈ ledger.known then none
    else
      match (entry.manager (ν := ν) config expected).enter now ledger.tally with
      | (.ok _, tally) =>
        some { ledger with
          tally
          inFlight := (id, entry) :: ledger.inFlight
          bodies := id :: ledger.bodies }
      | (.error raised, tally) =>
        some { ledger with tally, fates := (id, .rejected raised) :: ledger.fates }
  | .finish id now result =>
    match ledger.inFlight.find? (·.1 = id) with
    | none => none
    | some (_, entry) =>
      let (result, tally) := (entry.manager config expected).exit now result ledger.tally
      some { ledger with
        tally
        inFlight := ledger.inFlight.eraseP (·.1 = id)
        fates := (id, .ended result) :: ledger.fates }

end Ledger

/-- What one event does, one constructor for each way through the clauses. -/
inductive Ledger.Move {ι ε ν : Type} [DecidableEq ι] (config : BreakerConfig) (expected : Raised ε → Bool)
    (ledger : Ledger ι ε ν) : LedgerEvent ι ε ν → Ledger ι ε ν → Prop where
  | admitted (id : ι) (entry : EntryPoint) (now : ℚ) : id ∉ ledger.known →
      Move config expected ledger (.begin id entry now)
        { ledger with
          tally := ledger.tally.operate config ⟨now, .allow⟩
          inFlight := (id, entry) :: ledger.inFlight
          bodies := id :: ledger.bodies }
  | rejected (id : ι) (entry : EntryPoint) (now : ℚ) : id ∉ ledger.known →
      Move config expected ledger (.begin id entry now)
        { ledger with
          tally := { breaker := ledger.tally.breaker.reject, made := ⟨now, .allow⟩ :: ledger.tally.made }
          fates := (id, .rejected (.circuitBreakerOpen config.name)) :: ledger.fates }
  | returned (id : ι) (entry : EntryPoint) (now : ℚ) (value : ν) : (id, entry) ∈ ledger.inFlight →
      Move config expected ledger (.finish id now (.ok value))
        { ledger with
          tally := ledger.tally.operate config ⟨now, .recordSuccess⟩
          inFlight := ledger.inFlight.eraseP (·.1 = id)
          fates := (id, .ended (.ok value)) :: ledger.fates }
  | failed (id : ι) (entry : EntryPoint) (now : ℚ) (raised : Raised ε) : (id, entry) ∈ ledger.inFlight →
      expected raised = true →
      Move config expected ledger (.finish id now (.error raised))
        { ledger with
          tally := ledger.tally.operate config ⟨now, .recordFailure⟩
          inFlight := ledger.inFlight.eraseP (·.1 = id)
          fates := (id, .ended (.error raised)) :: ledger.fates }
  | outside (id : ι) (entry : EntryPoint) (now : ℚ) (raised : Raised ε) : (id, entry) ∈ ledger.inFlight →
      expected raised = false →
      Move config expected ledger (.finish id now (.error raised))
        { ledger with
          inFlight := ledger.inFlight.eraseP (·.1 = id)
          fates := (id, .ended (.error raised)) :: ledger.fates }

theorem allow_refused {config : BreakerConfig} {now : ℚ} {breaker : CircuitBreaker InMemoryStore}
    (refused : (breaker.allow config now).1 = false) :
    breaker.operate config ⟨now, .allow⟩ = breaker := by
  simp only [CircuitBreaker.allow] at refused
  simp only [CircuitBreaker.operate, CircuitBreaker.allow]
  split at refused
  next isOpen =>
    split at refused
    next early => simp only [isOpen, ite_true, early]
    next late => cases refused
  next notOpen => cases refused

namespace Ledger

variable {ι ε ν : Type} [DecidableEq ι] {config : BreakerConfig} {expected : Raised ε → Bool}

theorem step_move {ledger next : Ledger ι ε ν} {event : LedgerEvent ι ε ν}
    (taken : ledger.step config expected event = some next) : Move config expected ledger event next := by
  cases event with
  | begin id entry now =>
    simp only [step, manager_eq, Manager.enterThenTry, Tally.enter] at taken
    split at taken
    next used => cases taken
    next isNew =>
      cases allowed : (ledger.tally.breaker.allow config now).1 with
      | true =>
        simp only [allowed, ite_true] at taken
        cases taken
        exact .admitted id entry now isNew
      | false =>
        simp only [allowed, Bool.false_eq_true, ite_false] at taken
        cases taken
        have same := allow_refused allowed
        simp only [Tally.operate, same]
        exact .rejected id entry now isNew
  | finish id now result =>
    simp only [step, manager_eq, Manager.enterThenTry] at taken
    cases found : ledger.inFlight.find? (·.1 = id) with
    | none => simp [found] at taken
    | some flying =>
      obtain ⟨same, entry⟩ := flying
      have isCall : same = id := by simpa using List.find?_some found
      cases isCall
      have flying := List.mem_of_find?_eq_some found
      simp only [found] at taken
      cases result with
      | ok value =>
        cases taken
        exact .returned id entry now value flying
      | error raised =>
        simp only [Tally.exceptElse] at taken
        cases isExpected : expected raised with
        | true =>
          simp only [isExpected, ite_true] at taken
          cases taken
          exact .failed id entry now raised flying isExpected
        | false =>
          simp only [isExpected, Bool.false_eq_true, ite_false] at taken
          cases taken
          exact .outside id entry now raised flying isExpected

/-! ## The books -/

def recorded (op : Op) (ledger : Ledger ι ε ν) : ℕ := ledger.tally.made.countP (·.op = op)

def rejections (ledger : Ledger ι ε ν) : ℕ := ledger.fates.countP (·.2.isRejected)

def endedOutside (expected : Raised ε → Bool) (ledger : Ledger ι ε ν) : ℕ :=
  ledger.fates.countP (·.2.isOutside expected)

structure Balanced (config : BreakerConfig) (expected : Raised ε → Bool) (ledger : Ledger ι ε ν) :
    Prop where
  counted : ledger.tally.breaker.rejectionsTotal = ledger.rejections
  admitted : ledger.bodies.length = ledger.inFlight.length + ledger.recorded .recordSuccess +
    ledger.recorded .recordFailure + ledger.endedOutside expected
  started : ∀ id ∈ ledger.bodies, id ∈ ledger.known
  turnedAway : ∀ id raised, (id, Fate.rejected raised) ∈ ledger.fates →
    id ∉ ledger.bodies ∧ raised = .circuitBreakerOpen config.name

theorem rejectionsTotal_operate (breaker : CircuitBreaker InMemoryStore) (call : Call) :
    (breaker.operate config call).rejectionsTotal = breaker.rejectionsTotal := by
  obtain ⟨record, event, _, applied⟩ := operate_change config breaker call
  rw [applied]
  rfl

theorem known_finish {ledger : Ledger ι ε ν} {id other : ι} {fate : Fate ε ν} (isKnown : other ∈ ledger.known) :
    other ∈ known { ledger with
      inFlight := ledger.inFlight.eraseP (·.1 = id), fates := (id, fate) :: ledger.fates } := by
  by_cases isCall : other = id
  · simp [known, isCall]
  · simp only [known, List.mem_append, List.mem_map, List.map_cons, List.mem_cons] at isKnown ⊢
    cases isKnown with
    | inl flying =>
      obtain ⟨entry, member, named⟩ := flying
      refine Or.inl ⟨entry, ?_, named⟩
      rw [List.mem_eraseP_of_neg (by simpa [named] using isCall)]
      exact member
    | inr ended => exact Or.inr (Or.inr ended)

theorem length_finish {ledger : Ledger ι ε ν} {id : ι} {entry : EntryPoint}
    (flying : (id, entry) ∈ ledger.inFlight) :
    (ledger.inFlight.eraseP (·.1 = id)).length + 1 = ledger.inFlight.length := by
  have positive := List.length_pos_of_mem flying
  have erased := List.length_eraseP_of_mem (p := fun call => decide (call.1 = id)) flying (by simp)
  omega

theorem Balanced.finish {ledger : Ledger ι ε ν} {id : ι} {entry : EntryPoint}
    (balanced : Balanced config expected ledger) (flying : (id, entry) ∈ ledger.inFlight) (tally : Tally)
    (result : Except (Raised ε) ν)
    (notCounted : tally.breaker.rejectionsTotal = ledger.tally.breaker.rejectionsTotal)
    (booked : tally.made.countP (·.op = .recordSuccess) + tally.made.countP (·.op = .recordFailure) +
        (if (Fate.ended result).isOutside expected then 1 else 0) =
      ledger.recorded .recordSuccess + ledger.recorded .recordFailure + 1) :
    Balanced config expected
      { ledger with
        tally
        inFlight := ledger.inFlight.eraseP (·.1 = id)
        fates := (id, .ended result) :: ledger.fates } where
  counted := by
    show tally.breaker.rejectionsTotal = _
    rw [notCounted, balanced.counted]
    simp [rejections]
  admitted := by
    have oneLess := length_finish flying
    have books := balanced.admitted
    simp only [recorded, endedOutside, List.countP_cons] at booked books ⊢
    omega
  started := by
    intro other isBody
    exact known_finish (balanced.started other isBody)
  turnedAway := by
    intro other raised isFate
    cases isFate with
    | tail _ earlier => exact balanced.turnedAway other raised earlier

omit [DecidableEq ι] in
theorem Balanced.admit {ledger : Ledger ι ε ν} {id : ι} (balanced : Balanced config expected ledger)
    (isNew : id ∉ ledger.known) (entry : EntryPoint) (now : ℚ) :
    Balanced config expected
      { ledger with
        tally := ledger.tally.operate config ⟨now, .allow⟩
        inFlight := (id, entry) :: ledger.inFlight
        bodies := id :: ledger.bodies } where
  counted := (rejectionsTotal_operate _ _).trans balanced.counted
  admitted := by
    have books := balanced.admitted
    simp only [recorded, endedOutside, Tally.operate, List.countP_cons, List.length_cons] at books ⊢
    simp only [reduceCtorEq, decide_false, Bool.false_eq_true, ite_false]
    omega
  started := by
    intro other isBody
    cases isBody with
    | head => simp [known]
    | tail _ earlier =>
      have isKnown := balanced.started other earlier
      simp only [known, List.map_cons, List.cons_append]
      exact List.mem_cons_of_mem _ isKnown
  turnedAway := by
    intro other raised isFate
    obtain ⟨notStarted, isOpenError⟩ := balanced.turnedAway other raised isFate
    refine ⟨?_, isOpenError⟩
    intro isBody
    cases isBody with
    | head => exact isNew (List.mem_append_right _ (List.mem_map_of_mem isFate))
    | tail _ earlier => exact notStarted earlier

omit [DecidableEq ι] in
theorem Balanced.reject {ledger : Ledger ι ε ν} {id : ι} (balanced : Balanced config expected ledger)
    (isNew : id ∉ ledger.known) (now : ℚ) :
    Balanced config expected
      { ledger with
        tally := { breaker := ledger.tally.breaker.reject, made := ⟨now, .allow⟩ :: ledger.tally.made }
        fates := (id, .rejected (.circuitBreakerOpen config.name)) :: ledger.fates } where
  counted := by
    have counted := balanced.counted
    simp only [CircuitBreaker.reject, rejections, List.countP_cons, Fate.isRejected_rejected,
      ite_true] at counted ⊢
    rw [counted]
  admitted := by
    have books := balanced.admitted
    simp only [recorded, endedOutside, List.countP_cons, Fate.isOutside] at books ⊢
    simp only [reduceCtorEq, decide_false, Bool.false_eq_true, ite_false]
    omega
  started := by
    intro other isBody
    have isKnown := balanced.started other isBody
    simp only [known, List.map_cons, List.mem_append, List.mem_cons] at isKnown ⊢
    tauto
  turnedAway := by
    intro other raised isFate
    cases isFate with
    | head =>
      exact ⟨fun isBody => isNew (balanced.started id isBody), rfl⟩
    | tail _ earlier => exact balanced.turnedAway other raised earlier

theorem balanced_step {ledger next : Ledger ι ε ν} {event : LedgerEvent ι ε ν}
    (balanced : Balanced config expected ledger) (move : Move config expected ledger event next) :
    Balanced config expected next := by
  cases move with
  | admitted id entry now isNew => exact balanced.admit isNew entry now
  | rejected id entry now isNew => exact balanced.reject isNew now
  | returned id entry now value flying =>
    apply balanced.finish flying _ _ (rejectionsTotal_operate _ _)
    simp [Tally.operate, recorded, Fate.isOutside]
    omega
  | failed id entry now raised flying isExpected =>
    apply balanced.finish flying _ _ (rejectionsTotal_operate _ _)
    simp [Tally.operate, recorded, Fate.isOutside, isExpected]
    omega
  | outside id entry now raised flying notExpected =>
    apply balanced.finish flying _ _ rfl
    simp [recorded, Fate.isOutside, notExpected]

end Ledger

abbrev LedgerHistory (ι ε ν : Type) := List (Transition (Ledger ι ε ν) (LedgerEvent ι ε ν))

section

variable {ι ε ν : Type}

def LedgerEvent.isBegin : LedgerEvent ι ε ν → Bool
  | .begin _ _ _ => true
  | .finish _ _ _ => false

@[simp] theorem LedgerEvent.isBegin_begin (id : ι) (entry : EntryPoint) (now : ℚ) :
    (LedgerEvent.begin id entry now : LedgerEvent ι ε ν).isBegin = true := rfl
@[simp] theorem LedgerEvent.isBegin_finish (id : ι) (now : ℚ) (result : Except (Raised ε) ν) :
    (LedgerEvent.finish id now result).isBegin = false := rfl

def begun (history : LedgerHistory ι ε ν) : ℕ := history.countP (·.label.isBegin)

/-- A call that was rejected on entry by this event. -/
def TurnsAway (made : Transition (Ledger ι ε ν) (LedgerEvent ι ε ν)) : Prop :=
  ∃ id entry now raised,
    made.label = .begin id entry now ∧ (id, Fate.rejected raised) ∈ made.after.fates

/-! ## Other entry points -/

def LedgerEvent.reroute (entryOf : ι → EntryPoint) : LedgerEvent ι ε ν → LedgerEvent ι ε ν
  | .begin id _ now => .begin id (entryOf id) now
  | .finish id now result => .finish id now result

def Ledger.reroute (entryOf : ι → EntryPoint) (ledger : Ledger ι ε ν) : Ledger ι ε ν :=
  { ledger with inFlight := ledger.inFlight.map fun call => (call.1, entryOf call.1) }

def rerouted (entryOf : ι → EntryPoint) (history : LedgerHistory ι ε ν) : LedgerHistory ι ε ν :=
  history.map fun made =>
    ⟨made.before.reroute entryOf, made.label.reroute entryOf, made.after.reroute entryOf⟩

theorem known_reroute (entryOf : ι → EntryPoint) (ledger : Ledger ι ε ν) :
    (ledger.reroute entryOf).known = ledger.known := by
  simp [Ledger.known, Ledger.reroute, Function.comp_def]

variable [DecidableEq ι] {config : BreakerConfig} {expected : Raised ε → Bool}

theorem step_reroute (entryOf : ι → EntryPoint) {ledger next : Ledger ι ε ν} {event : LedgerEvent ι ε ν}
    (taken : ledger.step config expected event = some next) :
    (ledger.reroute entryOf).step config expected (event.reroute entryOf) =
      some (next.reroute entryOf) := by
  cases event with
  | begin id entry now =>
    simp only [Ledger.step, LedgerEvent.reroute, known_reroute, manager_eq] at taken ⊢
    split at taken
    next used => cases taken
    next isNew =>
      simp only [isNew, if_false]
      split at taken
      next done tally entered =>
        cases taken
        simp only [Ledger.reroute, entered, List.map_cons]
      next raised tally entered =>
        cases taken
        simp only [Ledger.reroute, entered]
  | finish id now result =>
    simp only [Ledger.step, LedgerEvent.reroute, manager_eq] at taken ⊢
    simp only [Ledger.reroute, List.find?_map, Function.comp_def, List.eraseP_map] at taken ⊢
    cases found : ledger.inFlight.find? (·.1 = id) with
    | none => simp [found] at taken
    | some flying =>
      simp only [found, Option.map_some] at taken ⊢
      cases taken
      rfl

/-- Replacing entry points in a run gives a run with the same state, counters and
    outcomes: only the entry points of the calls in flight differ. -/
theorem trace_reroute (entryOf : ι → EntryPoint) {history : LedgerHistory ι ε ν} {ledger : Ledger ι ε ν}
    (run : Trace (Ledger.step config expected) {} history ledger) :
    Trace (Ledger.step config expected) {} (rerouted entryOf history) (ledger.reroute entryOf) := by
  induction run with
  | nil => exact .nil
  | snoc _ taken ih => exact .snoc ih (step_reroute entryOf taken)

/-! ## The account -/

theorem begun_eq {history : LedgerHistory ι ε ν} {ledger : Ledger ι ε ν}
    (run : Trace (Ledger.step config expected) {} history ledger) :
    begun history = ledger.bodies.length + ledger.rejections := by
  induction run with
  | nil => rfl
  | snoc _ taken ih =>
    have move := Ledger.step_move taken
    simp only [begun, Ledger.rejections, List.countP_cons] at ih ⊢
    cases move with
    | admitted id entry now isNew =>
      simp only [LedgerEvent.isBegin_begin, ite_true, List.length_cons]
      omega
    | rejected id entry now isNew =>
      simp only [LedgerEvent.isBegin_begin, Fate.isRejected_rejected, ite_true, List.countP_cons]
      omega
    | returned | failed | outside =>
      simpa [List.countP_cons] using ih

theorem store_of_turnsAway {before after : Ledger ι ε ν} {event : LedgerEvent ι ε ν}
    (move : Ledger.Move config expected before event after) (turnsAway : TurnsAway ⟨before, event, after⟩) :
    after.tally.breaker.store = before.tally.breaker.store := by
  obtain ⟨id, entry, now, raised, rfl, isFate⟩ := turnsAway
  cases move with
  | admitted _ _ _ isNew =>
    -- the identifier is new, so no earlier fate carries it
    exact absurd (List.mem_append_right _ (List.mem_map_of_mem isFate)) isNew
  | rejected _ _ _ isNew => rfl

/-- In every interleaving of calls through the three entry points: the rejection
    counter counts the rejected calls; these raise `CircuitBreakerOpenError`, run no
    body and leave the record alone; every admitted call is in flight, booked once as
    a success or a failure, or was ended by an exception outside
    `expected_exceptions`; and another choice of entry points makes no difference. -/
theorem call_accounting (config : BreakerConfig) (expected : Raised ε → Bool)
    (history : LedgerHistory ι ε ν) (ledger : Ledger ι ε ν)
    (run : Trace (Ledger.step config expected) {} history ledger) :
    ledger.tally.breaker.rejectionsTotal = ledger.rejections ∧
      (∀ id raised, (id, Fate.rejected raised) ∈ ledger.fates →
        id ∉ ledger.bodies ∧ raised = .circuitBreakerOpen config.name) ∧
      (∀ made ∈ history, TurnsAway made →
        made.after.tally.breaker.store = made.before.tally.breaker.store) ∧
      begun history = ledger.bodies.length + ledger.rejections ∧
      ledger.bodies.length = ledger.inFlight.length + ledger.recorded .recordSuccess +
        ledger.recorded .recordFailure + ledger.endedOutside expected ∧
      ∀ entryOf : ι → EntryPoint,
        Trace (Ledger.step config expected) {} (rerouted entryOf history) (ledger.reroute entryOf) := by
  have balanced : ledger.Balanced config expected := by
    apply run.invariant ⟨rfl, rfl, by simp, by simp⟩
    intro before event after balanced taken
    exact Ledger.balanced_step balanced (Ledger.step_move taken)
  refine ⟨balanced.counted, balanced.turnedAway, ?_, begun_eq run, balanced.admitted, ?_⟩
  · intro made isMade turnsAway
    exact store_of_turnsAway (Ledger.step_move (run.step_of_mem made isMade)) turnsAway
  · intro entryOf
    exact trace_reroute entryOf run

end

/-- One call through `call` fails and trips the breaker, one through `guard` is turned away. -/
theorem call_accounting_trip_and_rejection :
    ∃ (history : LedgerHistory ℕ Unit Unit) (ledger : Ledger ℕ Unit Unit),
      Trace (Ledger.step ⟨"auth".toList, 1, 30, 2⟩ fun _ => true) {} history ledger ∧
        ledger.tally.breaker.rejectionsTotal = 1 ∧
        ledger.bodies.length = ledger.inFlight.length + ledger.recorded .recordSuccess +
          ledger.recorded .recordFailure + ledger.endedOutside fun _ => true := by
  obtain ⟨history, ledger, run, rejected⟩ :=
    exists_trace_of_replay (Ledger.step ⟨"auth".toList, 1, 30, 2⟩ fun _ => true) {}
      [.begin 0 .call 0, .finish 0 1 (.error (.other ())), .begin 1 .guard 2]
      (fun _ (ledger : Ledger ℕ Unit Unit) => ledger.rejections = 1) (by decide +kernel)
  obtain ⟨counted, _, _, _, admitted, _⟩ := call_accounting _ _ history ledger run
  exact ⟨history, ledger, run, counted.trans rejected, admitted⟩

end AutoSre.Resilience
