import AutoSre.Resilience.BreakerHistory

/-! # The record invariant and the fast-fail window

Each operation of the breaker updates a different subset of the record's fields.
`RecordInvariant` is what holds of them together, with the `circuit_breaker_state`
gauge, in every reachable state.

The second half is about time.  `allow` computes the time since opening from
`opened_at or 0.0` and `snapshot` from `opened_at is not None`; both are tied to
one instant, `lastOpening`, which is read off the history and not off the record.
-/

namespace AutoSre.Resilience

open AutoSre.Lib

/-! ## The record -/

structure RecordInvariant (config : BreakerConfig) (breaker : CircuitBreaker InMemoryStore) : Prop where
  openedAt_none : breaker.store.record.openedAt = none ↔ breaker.store.record.state = .Closed
  failures_lt : breaker.store.record.state = .Closed →
    breaker.store.record.failureCount < config.failureThreshold
  successes_lt : breaker.store.record.successCount < config.successThreshold
  successes_zero : breaker.store.record.state ≠ .HalfOpen → breaker.store.record.successCount = 0
  gauge : breaker.stateGauge = breaker.store.record.state.value

theorem recordInvariant_fresh {config : BreakerConfig} (failurePositive : 1 ≤ config.failureThreshold)
    (successPositive : 1 ≤ config.successThreshold) : RecordInvariant config .fresh where
  openedAt_none := by decide
  failures_lt _ := failurePositive
  successes_lt := successPositive
  successes_zero _ := rfl
  gauge := rfl

theorem recordInvariant_step {config : BreakerConfig} (failurePositive : 1 ≤ config.failureThreshold)
    (successPositive : 1 ≤ config.successThreshold) {breaker : CircuitBreaker InMemoryStore} {call : Call}
    {record : BreakerRecord} {event : Option BreakerEvent} (invariant : RecordInvariant config breaker)
    (change : Change config breaker.store.record call record event) :
    RecordInvariant config (breaker.apply record event) := by
  obtain ⟨openedAt_none, failures_lt, successes_lt, successes_zero, gauge⟩ := invariant
  cases change with
  | pass now notOpen => exact ⟨openedAt_none, failures_lt, successes_lt, successes_zero, gauge⟩
  | refuse now isOpen early => exact ⟨openedAt_none, failures_lt, successes_lt, successes_zero, gauge⟩
  | probe now isOpen late =>
    have opened : breaker.store.record.openedAt ≠ none := by simp [openedAt_none, isOpen]
    constructor <;> simp [CircuitBreaker.apply, opened]
    exact successPositive
  | close now isHalfOpen enough =>
    constructor <;> simp [CircuitBreaker.apply]
    · exact failurePositive
    · exact successPositive
  | trialSuccess now isHalfOpen few =>
    -- the only branch that raises `success_count`, and it stays in HALF_OPEN
    have opened : breaker.store.record.openedAt ≠ none := by simp [openedAt_none, isHalfOpen]
    constructor <;> simp [CircuitBreaker.apply, opened, isHalfOpen, gauge]
    exact few
  | success now notHalfOpen =>
    constructor <;> simp [CircuitBreaker.apply, openedAt_none, gauge]
    · intro _
      exact failurePositive
    · exact successes_lt
    · exact successes_zero
  | trialFailure now isHalfOpen =>
    constructor <;> simp [CircuitBreaker.apply]
    exact successPositive
  | trip now notHalfOpen enough =>
    constructor <;> simp [CircuitBreaker.apply]
    · exact successes_lt
    · exact successes_zero notHalfOpen
  | failure now notHalfOpen few =>
    -- a failure below the threshold changes no state, be it CLOSED or OPEN
    constructor <;> simp [CircuitBreaker.apply, openedAt_none, gauge]
    · intro _
      exact few
    · exact successes_lt
    · exact successes_zero

/-- In every reachable state `opened_at` is unset exactly when the breaker is CLOSED,
    the counters are below their thresholds, successes are counted only in HALF_OPEN,
    and the gauge shows the stored state. -/
theorem record_invariant (config : BreakerConfig) (failurePositive : 1 ≤ config.failureThreshold)
    (successPositive : 1 ≤ config.successThreshold) (history : BreakerHistory)
    (breaker : CircuitBreaker InMemoryStore)
    (run : Trace (CircuitBreaker.step config) .fresh history breaker) :
    (breaker.store.record.openedAt = none ↔ breaker.state = .Closed) ∧
      (breaker.state = .Closed → breaker.store.record.failureCount < config.failureThreshold) ∧
      breaker.store.record.successCount < config.successThreshold ∧
      (breaker.state ≠ .HalfOpen → breaker.store.record.successCount = 0) ∧
      breaker.stateGauge = breaker.state.value := by
  have invariant : RecordInvariant config breaker := by
    apply run.invariant (recordInvariant_fresh failurePositive successPositive)
    intro before call after invariant taken
    cases taken
    obtain ⟨record, event, change, applied⟩ := operate_change config before call
    rw [applied]
    exact recordInvariant_step failurePositive successPositive invariant change
  exact ⟨invariant.openedAt_none, invariant.failures_lt, invariant.successes_lt,
    invariant.successes_zero, invariant.gauge⟩

theorem record_invariant_in_trial :
    let config : BreakerConfig := ⟨"auth".toList, 1, 1, 2⟩
    let trying := ((CircuitBreaker.fresh.operate config ⟨0, .recordFailure⟩).operate config
      ⟨1, .allow⟩).operate config ⟨1, .recordSuccess⟩
    trying.store.record.successCount = 1 ∧ trying.store.record.successCount < 2 ∧
      trying.stateGauge = 2 := by
  intro config trying
  have invariant := record_invariant config (by decide) (by decide) _ trying
    (.snoc (.snoc (.snoc .nil rfl) rfl) rfl)
  exact ⟨by decide +kernel, invariant.2.2.1, invariant.2.2.2.2.trans (by decide +kernel)⟩

/-! ## The instant of opening -/

/-- The `record_failure` calls that set OPEN: any in HALF_OPEN, elsewhere those
    that find the failures at the threshold. -/
def CircuitBreaker.SetsOpen (config : BreakerConfig) (breaker : CircuitBreaker InMemoryStore)
    (call : Call) : Prop :=
  call.op = .recordFailure ∧
    (breaker.state = .HalfOpen ∨ config.failureThreshold ≤ breaker.store.record.failureCount + 1)

instance (config : BreakerConfig) (breaker : CircuitBreaker InMemoryStore) (call : Call) :
    Decidable (breaker.SetsOpen config call) :=
  inferInstanceAs (Decidable (_ ∧ _))

theorem setsOpen_iff_counted (config : BreakerConfig) (breaker : CircuitBreaker InMemoryStore) (call : Call) :
    breaker.SetsOpen config call ↔
      (breaker.operate config call).openTotal = breaker.openTotal + 1 := by
  obtain ⟨record, event, change, applied⟩ := operate_change config breaker call
  rw [applied]
  cases change with
  | pass now notOpen | refuse now isOpen early | trialSuccess now isHalfOpen few
  | success now notHalfOpen | probe now isOpen late | close now isHalfOpen enough =>
    simp [CircuitBreaker.SetsOpen, CircuitBreaker.apply, BreakerEvent.isOpened]
  | trialFailure now isHalfOpen =>
    simp [CircuitBreaker.SetsOpen, CircuitBreaker.apply, BreakerEvent.isOpened, isHalfOpen]
  | trip now notHalfOpen enough =>
    simp [CircuitBreaker.SetsOpen, CircuitBreaker.apply, BreakerEvent.isOpened, enough]
  | failure now notHalfOpen few =>
    simp [CircuitBreaker.SetsOpen, CircuitBreaker.apply, notHalfOpen, few]

/-- The clock reading of the last call that set OPEN. -/
def lastOpening (config : BreakerConfig) : BreakerHistory → Option ℚ
  | [] => none
  | made :: past =>
    if made.before.SetsOpen config made.label then some made.label.now else lastOpening config past

/-- Away from CLOSED, `opened_at` is the last opening: it outlives the probe and
    every late success or failure that does not open the breaker again. -/
theorem openedAt_eq_lastOpening {config : BreakerConfig} {history : BreakerHistory}
    {breaker : CircuitBreaker InMemoryStore}
    (run : Trace (CircuitBreaker.step config) .fresh history breaker) :
    breaker.store.record.state ≠ .Closed →
      breaker.store.record.openedAt = lastOpening config history ∧
        breaker.store.record.openedAt.isSome := by
  apply run.history_invariant (P := fun history breaker => breaker.store.record.state ≠ .Closed →
    breaker.store.record.openedAt = lastOpening config history ∧ breaker.store.record.openedAt.isSome)
  · intro notClosed
    exact absurd rfl notClosed
  · intro past before call after _ known taken
    cases taken
    obtain ⟨event, change⟩ := record_change config before call
    simp only [lastOpening, CircuitBreaker.SetsOpen, CircuitBreaker.state_inMemory]
    generalize (before.operate config call).store.record = record at change ⊢
    cases change with
    | pass now notOpen | refuse now isOpen early | success now notHalfOpen => simpa using known
    | probe now isOpen late =>
      intro _
      simpa using known (by simp [isOpen])
    | close now isHalfOpen enough => simp
    | trialSuccess now isHalfOpen few => simpa using known
    | trialFailure now isHalfOpen => simp [isHalfOpen]
    | trip now notHalfOpen enough => simp [enough]
    | failure now notHalfOpen few => simpa [notHalfOpen, not_le.mpr few] using known

/-! ## The window -/

theorem allow_of_open {config : BreakerConfig} {breaker : CircuitBreaker InMemoryStore} {opening : ℚ}
    (isOpen : breaker.store.record.state = .Open) (openedAt : breaker.store.record.openedAt = some opening)
    (now : ℚ) :
    (breaker.allow config now).1 = true ↔ opening + config.recoveryTimeout ≤ now := by
  have same : now - opening < config.recoveryTimeout ↔ now < opening + config.recoveryTimeout :=
    sub_lt_iff_lt_add'
  simp only [CircuitBreaker.allow, load_inMemory, isOpen, openedAt, ite_true, Option.getD_some, same]
  split
  next early => simpa using early
  next late => simpa using late

theorem refused_in_window {config : BreakerConfig} {breaker : CircuitBreaker InMemoryStore} {opening : ℚ}
    (isOpen : breaker.store.record.state = .Open) (openedAt : breaker.store.record.openedAt = some opening)
    {now : ℚ} (early : now < opening + config.recoveryTimeout) :
    breaker.allow config now = (false, breaker) := by
  have early : now - opening < config.recoveryTimeout := sub_lt_iff_lt_add'.mpr early
  simp [CircuitBreaker.allow, isOpen, openedAt, early]

theorem probe_after_window {config : BreakerConfig} {breaker : CircuitBreaker InMemoryStore} {opening : ℚ}
    (isOpen : breaker.store.record.state = .Open) (openedAt : breaker.store.record.openedAt = some opening)
    {now : ℚ} (late : opening + config.recoveryTimeout ≤ now) :
    (breaker.allow config now).2.store.record =
      { breaker.store.record with successCount := 0, state := .HalfOpen } := by
  have late : ¬now - opening < config.recoveryTimeout := by
    rw [sub_lt_iff_lt_add']
    exact not_lt.mpr late
  simp [CircuitBreaker.allow, CircuitBreaker.commit, isOpen, openedAt, late]

theorem admits_of_not_open (config : BreakerConfig) {breaker : CircuitBreaker InMemoryStore}
    (notOpen : breaker.store.record.state ≠ .Open) (now : ℚ) : (breaker.allow config now).1 = true := by
  simp [CircuitBreaker.allow, notOpen]

theorem not_open_step {config : BreakerConfig} {breaker : CircuitBreaker InMemoryStore} {call : Call}
    (notOpen : breaker.store.record.state ≠ .Open) (notSet : ¬breaker.SetsOpen config call) :
    (breaker.operate config call).store.record.state ≠ .Open := by
  obtain ⟨event, change⟩ := record_change config breaker call
  simp only [CircuitBreaker.SetsOpen, CircuitBreaker.state_inMemory] at notSet
  generalize (breaker.operate config call).store.record = record at change ⊢
  cases change with
  | pass now _ | trialSuccess now isHalfOpen few | success now notHalfOpen
  | failure now notHalfOpen few => exact notOpen
  | refuse now isOpen early => exact notOpen
  | probe now isOpen late | close now isHalfOpen enough => simp
  | trialFailure now isHalfOpen => simp [isHalfOpen] at notSet
  | trip now notHalfOpen enough => simp [enough] at notSet

theorem not_open_run {config : BreakerConfig} {start breaker : CircuitBreaker InMemoryStore}
    {history : BreakerHistory} (run : Trace (CircuitBreaker.step config) start history breaker)
    (notOpen : start.store.record.state ≠ .Open)
    (notSet : ∀ made ∈ history, ¬made.before.SetsOpen config made.label) :
    breaker.store.record.state ≠ .Open := by
  induction run with
  | nil => exact notOpen
  | snoc earlier taken ih =>
    cases taken
    rw [List.forall_mem_cons] at notSet
    exact not_open_step (ih notSet.2) notSet.1

/-- Whenever the breaker is OPEN, its record holds the instant of the last opening.
    Until the recovery timeout has passed since then every `allow` refuses and
    changes nothing; from then on the first one probes, and none refuses again
    before a call sets OPEN.  `snapshot` counts down to exactly that moment. -/
theorem fast_fail_window (config : BreakerConfig) (history : BreakerHistory)
    (breaker : CircuitBreaker InMemoryStore)
    (run : Trace (CircuitBreaker.step config) .fresh history breaker) (isOpen : breaker.state = .Open) :
    ∃ opening, lastOpening config history = some opening ∧
      breaker.store.record.openedAt = some opening ∧
      (∀ now, now < opening + config.recoveryTimeout → breaker.allow config now = (false, breaker)) ∧
      (∀ now, opening + config.recoveryTimeout ≤ now →
        (breaker.allow config now).1 = true ∧
          (breaker.allow config now).2.state = .HalfOpen ∧
          (breaker.allow config now).2.store.record.successCount = 0 ∧
          ∀ (later : BreakerHistory) (reached : CircuitBreaker InMemoryStore),
            Trace (CircuitBreaker.step config) (breaker.allow config now).2 later reached →
            (∀ made ∈ later, ¬made.before.SetsOpen config made.label) →
            ∀ reading, (reached.allow config reading).1 = true) ∧
      ∀ now,
        breaker.remaining config now = some (max 0 (opening + config.recoveryTimeout - now)) ∧
          (breaker.snapshot config now).secondsUntilHalfOpen =
            some (Python.round (max 0 (opening + config.recoveryTimeout - now)) 2) ∧
          ∀ wait, 0 ≤ wait →
            ((breaker.allow config (now + wait)).1 = true ↔
              max 0 (opening + config.recoveryTimeout - now) ≤ wait) := by
  rw [CircuitBreaker.state_inMemory] at isOpen
  obtain ⟨instant, isSome⟩ := openedAt_eq_lastOpening run (by simp [isOpen])
  obtain ⟨opening, openedAt⟩ := Option.isSome_iff_exists.mp isSome
  have countdown (now : ℚ) :
      breaker.remaining config now = some (max 0 (opening + config.recoveryTimeout - now)) := by
    simp only [CircuitBreaker.remaining, load_inMemory, isOpen, openedAt, ite_true, Option.map_some]
    congr 2
    ring
  refine ⟨opening, instant.symm.trans openedAt, openedAt, ?_, ?_, ?_⟩
  · intro now early
    exact refused_in_window isOpen openedAt early
  · intro now late
    have probed := probe_after_window isOpen openedAt late
    refine ⟨(allow_of_open isOpen openedAt now).mpr late, ?_, ?_, ?_⟩
    · rw [CircuitBreaker.state_inMemory, probed]
    · rw [probed]
    · intro later reached onward notSet reading
      have notOpen := not_open_run onward (by simp [probed]) notSet
      exact admits_of_not_open config notOpen reading
  · intro now
    refine ⟨countdown now, by simp [CircuitBreaker.snapshot, countdown], ?_⟩
    intro wait nonnegative
    rw [allow_of_open isOpen openedAt, max_le_iff, sub_le_iff_le_add']
    exact ⟨fun admitted => ⟨nonnegative, admitted⟩, fun waited => waited.2⟩

theorem fast_fail_window_from_zero :
    let config : BreakerConfig := ⟨"auth".toList, 1, 30, 2⟩
    let tripped := CircuitBreaker.fresh.operate config ⟨0, .recordFailure⟩
    ∃ opening, lastOpening config [⟨.fresh, ⟨0, .recordFailure⟩, tripped⟩] = some opening ∧
      tripped.remaining config 10 = some (max 0 (opening + 30 - 10)) := by
  intro config tripped
  obtain ⟨opening, last, _, _, _, countdown⟩ := fast_fail_window config
    [⟨.fresh, ⟨0, .recordFailure⟩, tripped⟩] tripped (.snoc .nil rfl) (by decide +kernel)
  exact ⟨opening, last, (countdown 10).1⟩

end AutoSre.Resilience
