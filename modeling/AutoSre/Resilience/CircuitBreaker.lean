import AutoSre.Lib.Python

/-! # The circuit breaker

`CircuitBreaker` of `resilience/circuit_breaker.py`: the record behind a
`BreakerStore`, the three Prometheus series of one breaker and the events it
hands to `record_event`.  Every operation holds the breaker's lock from `load`
to `save`, so one operation is one step; the clock reading it takes is passed
in.
-/

namespace AutoSre.Resilience

open AutoSre.Lib.Python

inductive BreakerState where
  | Closed
  | Open
  | HalfOpen
deriving DecidableEq, Repr

def BreakerState.value : BreakerState → ℕ
  | .Closed => 0
  | .Open => 1
  | .HalfOpen => 2

structure BreakerRecord where
  state : BreakerState := .Closed
  failureCount : ℕ := 0
  successCount : ℕ := 0
  openedAt : Option ℚ := none
deriving DecidableEq, Repr

/-! ## Stores -/

/-- A breaker store.  `load` hands out a record object, `assign` is the effect on
    the store of assigning to the fields of that object until it equals the given
    record, and `save` stores a record. -/
class BreakerStore (S : Type) where
  load : S → BreakerRecord
  assign : S → BreakerRecord → S
  save : S → BreakerRecord → S

structure InMemoryStore where
  record : BreakerRecord := {}
deriving DecidableEq, Repr

/-- `load` returns the live record, so an assignment to its fields is seen by the
    next `load` whether or not `save` is called. -/
instance : BreakerStore InMemoryStore where
  load store := store.record
  assign _ record := ⟨record⟩
  save _ record := ⟨record⟩

@[simp] theorem load_inMemory (store : InMemoryStore) : BreakerStore.load store = store.record := rfl
@[simp] theorem save_inMemory (store : InMemoryStore) (record : BreakerRecord) :
    BreakerStore.save store record = ⟨record⟩ := rfl

/-! ## The breaker -/

structure BreakerConfig where
  name : Str
  failureThreshold : ℕ := 5
  recoveryTimeout : ℚ := 30
  successThreshold : ℕ := 2
deriving DecidableEq, Repr

/-- The events the breaker persists under `Source.CIRCUIT_BREAKER`. -/
inductive BreakerEvent where
  | halfOpen (name : Str)
  | closed (name : Str)
  | opened (name : Str) (failureCount : ℕ)
deriving DecidableEq, Repr

/-- A breaker and its series: the gauge `circuit_breaker_state`, the counters
    `circuit_breaker_open_total` and `circuit_breaker_rejections_total`, and the
    persisted events, latest first. -/
structure CircuitBreaker (S : Type) where
  store : S
  stateGauge : ℕ
  openTotal : ℕ := 0
  rejectionsTotal : ℕ := 0
  events : List BreakerEvent := []
deriving DecidableEq, Repr

namespace CircuitBreaker

variable {S : Type} [BreakerStore S]

def init (store : S) : CircuitBreaker S :=
  { store, stateGauge := (BreakerStore.load store).state.value }

def fresh : CircuitBreaker InMemoryStore := init {}

def state (breaker : CircuitBreaker S) : BreakerState := (BreakerStore.load breaker.store).state

/-- The assignments of a locked section followed by its `save`. -/
def commit (breaker : CircuitBreaker S) (record : BreakerRecord) : CircuitBreaker S :=
  { breaker with store := BreakerStore.save (BreakerStore.assign breaker.store record) record }

/-- `allow`: whether the call may go ahead, and the breaker afterwards. -/
def allow (config : BreakerConfig) (now : ℚ) (breaker : CircuitBreaker S) : Bool × CircuitBreaker S :=
  let record := BreakerStore.load breaker.store
  if record.state = .Open then
    if now - record.openedAt.getD 0 < config.recoveryTimeout then (false, breaker)
    else
      (true, { breaker.commit { record with successCount := 0, state := .HalfOpen } with
        stateGauge := BreakerState.HalfOpen.value
        events := .halfOpen config.name :: breaker.events })
  else (true, breaker)

/-- `_reject`, up to the `CircuitBreakerOpenError` it raises. -/
def reject (breaker : CircuitBreaker S) : CircuitBreaker S :=
  { breaker with rejectionsTotal := breaker.rejectionsTotal + 1 }

def recordSuccess (config : BreakerConfig) (breaker : CircuitBreaker S) : CircuitBreaker S :=
  let record := BreakerStore.load breaker.store
  if record.state = .HalfOpen then
    let successCount := record.successCount + 1
    if config.successThreshold ≤ successCount then
      { breaker.commit { state := .Closed, failureCount := 0, successCount := 0, openedAt := none } with
        stateGauge := BreakerState.Closed.value
        events := .closed config.name :: breaker.events }
    else breaker.commit { record with successCount }
  else breaker.commit { record with failureCount := 0 }

def recordFailure (config : BreakerConfig) (now : ℚ) (breaker : CircuitBreaker S) : CircuitBreaker S :=
  let record := BreakerStore.load breaker.store
  if record.state = .HalfOpen then
    { breaker.commit { record with openedAt := some now, successCount := 0, state := .Open } with
      stateGauge := BreakerState.Open.value
      openTotal := breaker.openTotal + 1
      events := .opened config.name record.failureCount :: breaker.events }
  else
    -- CLOSED and OPEN take the same branch: a failure that arrives while OPEN counts too
    let failureCount := record.failureCount + 1
    if config.failureThreshold ≤ failureCount then
      { breaker.commit { record with failureCount, openedAt := some now, state := .Open } with
        stateGauge := BreakerState.Open.value
        openTotal := breaker.openTotal + 1
        events := .opened config.name failureCount :: breaker.events }
    else breaker.commit { record with failureCount }

/-! ## Protected calls -/

/-- `_enter`: `false` stands for the `CircuitBreakerOpenError` of a rejected call. -/
def enter (config : BreakerConfig) (now : ℚ) (breaker : CircuitBreaker S) : Bool × CircuitBreaker S :=
  let (allowed, breaker) := breaker.allow config now
  if allowed then (true, breaker) else (false, breaker.reject)

def exit (config : BreakerConfig) (now : ℚ) (failed : Bool) (breaker : CircuitBreaker S) :
    CircuitBreaker S :=
  if failed then breaker.recordFailure config now else breaker.recordSuccess config

/-- How the body of a protected call ends: it returns, or it raises an exception
    that is or is not one of `expected_exceptions`. -/
inductive Ending where
  | returned
  | raised (expected : Bool)
deriving DecidableEq, Repr

/-- The `except`/`else` clauses shared by `protect`, `guard` and `call`. -/
def leave (config : BreakerConfig) (now : ℚ) (ending : Ending) (breaker : CircuitBreaker S) :
    CircuitBreaker S :=
  match ending with
  | .returned => breaker.exit config now false
  | .raised true => breaker.exit config now true
  | .raised false => breaker

/-! ## A closed breaker -/

theorem enter_of_closed {breaker : CircuitBreaker S} (closed : breaker.state = .Closed)
    (config : BreakerConfig) (now : ℚ) : breaker.enter config now = (true, breaker) := by
  have closed : (BreakerStore.load breaker.store).state = .Closed := closed
  simp [enter, allow, closed]

theorem record_returned_of_closed {breaker : CircuitBreaker InMemoryStore}
    (closed : breaker.state = .Closed) (config : BreakerConfig) (now : ℚ) :
    (breaker.leave config now .returned).store.record =
      { breaker.store.record with failureCount := 0 } := by
  have closed : breaker.store.record.state = .Closed := closed
  simp [leave, exit, recordSuccess, commit, closed]

theorem closed_returned_of_closed {breaker : CircuitBreaker InMemoryStore}
    (closed : breaker.state = .Closed) (config : BreakerConfig) (now : ℚ) :
    (breaker.leave config now .returned).state = .Closed := by
  simpa [state, record_returned_of_closed closed] using closed

/-! ## Snapshots -/

/-- The wait until the next trial that `snapshot` reports, before rounding. -/
def remaining (config : BreakerConfig) (now : ℚ) (breaker : CircuitBreaker S) : Option ℚ :=
  let record := BreakerStore.load breaker.store
  if record.state = .Open then
    record.openedAt.map fun openedAt => max 0 (config.recoveryTimeout - (now - openedAt))
  else none

structure Snapshot where
  name : Str
  state : BreakerState
  failureCount : ℕ
  successCount : ℕ
  secondsUntilHalfOpen : Option ℚ
  config : BreakerConfig

def snapshot (config : BreakerConfig) (now : ℚ) (breaker : CircuitBreaker S) : Snapshot :=
  let record := BreakerStore.load breaker.store
  { name := config.name
    state := record.state
    failureCount := record.failureCount
    successCount := record.successCount
    secondsUntilHalfOpen := (breaker.remaining config now).map fun wait => round wait 2
    config }

end CircuitBreaker

/-! ## Counting failures -/

/-- A closed breaker that has counted `failures` failures in a row. -/
structure Counting (failures : ℕ) (breaker : CircuitBreaker InMemoryStore) : Prop where
  closed : breaker.state = .Closed
  count : breaker.store.record.failureCount = failures

theorem Counting.returned {failures : ℕ} {breaker : CircuitBreaker InMemoryStore}
    (counting : Counting failures breaker) (config : BreakerConfig) (now : ℚ) :
    Counting 0 (breaker.leave config now .returned) where
  closed := CircuitBreaker.closed_returned_of_closed counting.closed config now
  count := by rw [CircuitBreaker.record_returned_of_closed counting.closed]

theorem Counting.raised {failures : ℕ} {breaker : CircuitBreaker InMemoryStore}
    (counting : Counting failures breaker) (config : BreakerConfig) (now : ℚ) :
    if config.failureThreshold ≤ failures + 1 then
      (breaker.leave config now (.raised true)).state = .Open
    else Counting (failures + 1) (breaker.leave config now (.raised true)) := by
  obtain ⟨closed, rfl⟩ := counting
  have closed : breaker.store.record.state = .Closed := closed
  split
  next reached =>
    simp [CircuitBreaker.leave, CircuitBreaker.exit, CircuitBreaker.recordFailure,
      CircuitBreaker.state, CircuitBreaker.commit, closed, reached]
  next short =>
    constructor <;> simp [CircuitBreaker.leave, CircuitBreaker.exit, CircuitBreaker.recordFailure,
      CircuitBreaker.state, CircuitBreaker.commit, closed, short]

end AutoSre.Resilience
