import AutoSre.Resilience.ProtectedCalls

/-! # How a breaker recovers

Once no call fails any more, what is left of an outage is a number of successes: none if
the breaker is closed, the whole success threshold if it is open, and what is missing of
it in between.  Each success that does not find the breaker OPEN brings it down by one,
whichever call it comes from, and nothing else moves it.
-/

namespace AutoSre.Resilience

open AutoSre.Lib

variable {ι : Type}

/-- The successes that still have to be recorded until the breaker is closed.  It takes at
    least one, also if the threshold is zero. -/
def wanting (config : BreakerConfig) (record : BreakerRecord) : ℕ :=
  match record.state with
  | .Closed => 0
  | .Open => max 1 config.successThreshold
  | .HalfOpen => max 1 (config.successThreshold - record.successCount)

theorem wanting_eq_zero_iff {config : BreakerConfig} {record : BreakerRecord} :
    wanting config record = 0 ↔ record.state = .Closed := by
  cases isState : record.state <;> simp [wanting, isState]

def CallEvent.succeeds : CallEvent ι → Bool
  | .leave _ _ .returned => true
  | .enter _ _ | .leave _ _ (.raised _) => false

def CallEvent.fails : CallEvent ι → Bool
  | .leave _ _ (.raised true) => true
  | .enter _ _ | .leave _ _ .returned | .leave _ _ (.raised false) => false

/-- A success that is not recorded while OPEN. -/
def Passes (made : Transition (Calls ι) (CallEvent ι)) : Bool :=
  made.label.succeeds && decide (made.before.breaker.state ≠ .Open)

def passes (history : CallHistory ι) : ℕ := history.countP Passes

theorem succeeds_of_recordSuccess {event : CallEvent ι} {now : ℚ}
    (recorded : event.call? = some ⟨now, .recordSuccess⟩) : event.succeeds = true := by
  match event with
  | .enter id at' => cases recorded
  | .leave id at' .returned => rfl
  | .leave id at' (.raised true) => cases recorded
  | .leave id at' (.raised false) => cases recorded

theorem not_succeeds_of_allow {event : CallEvent ι} {now : ℚ}
    (recorded : event.call? = some ⟨now, .allow⟩) : event.succeeds = false := by
  match event with
  | .enter id at' => rfl
  | .leave id at' .returned => cases recorded
  | .leave id at' (.raised true) => rfl
  | .leave id at' (.raised false) => rfl

theorem fails_of_recordFailure {event : CallEvent ι} {now : ℚ}
    (recorded : event.call? = some ⟨now, .recordFailure⟩) : event.fails = true := by
  obtain ⟨-, id, rfl⟩ := call?_eq_failure recorded
  rfl

theorem not_succeeds_of_abandoned {event : CallEvent ι} (abandoned : event.call? = none) :
    event.succeeds = false := by
  match event with
  | .enter id at' => cases abandoned
  | .leave id at' .returned => cases abandoned
  | .leave id at' (.raised true) => rfl
  | .leave id at' (.raised false) => rfl

/-! ## One step -/

section

variable [DecidableEq ι] {config : BreakerConfig} {before after : Calls ι} {event : CallEvent ι}

theorem wanting_step (taken : before.step config event = some after) (noFailure : event.fails = false) :
    wanting config after.breaker.store.record =
      wanting config before.breaker.store.record - if Passes ⟨before, event, after⟩ then 1 else 0 := by
  obtain ⟨emitted, changed, -, -⟩ := step_change taken
  generalize after.breaker.store.record = record at changed ⊢
  simp only [Passes, CircuitBreaker.state_inMemory]
  cases changed with
  | abandoned abandoned => simp [not_succeeds_of_abandoned abandoned]
  | operated isCall change =>
    cases change with
    | pass now notOpen | refuse now isOpen early => simp [not_succeeds_of_allow isCall]
    -- a trial that begins has the whole success threshold before it, as an open breaker has
    | probe now isOpen late => simp [not_succeeds_of_allow isCall, wanting, isOpen]
    | close now isHalfOpen enough =>
      simp [succeeds_of_recordSuccess isCall, wanting, isHalfOpen]
      omega
    | trialSuccess now isHalfOpen few =>
      simp [succeeds_of_recordSuccess isCall, wanting, isHalfOpen]
      omega
    | success now notHalfOpen =>
      -- a late success while open is not counted; while closed there is nothing left to count
      by_cases isOpen : before.breaker.store.record.state = .Open
      · simp [wanting, isOpen]
      · have isClosed : before.breaker.store.record.state = .Closed := by
          revert notHalfOpen isOpen
          cases before.breaker.store.record.state <;> simp
        simp [wanting, isClosed]
    | trialFailure now isHalfOpen | trip now notHalfOpen enough | failure now notHalfOpen few =>
      rw [fails_of_recordFailure isCall] at noFailure
      cases noFailure

theorem openedAt_step (taken : before.step config event = some after) (noFailure : event.fails = false)
    (isOpen : after.breaker.state = .Open) :
    before.breaker.state = .Open ∧
      after.breaker.store.record.openedAt = before.breaker.store.record.openedAt := by
  obtain ⟨emitted, changed, -, -⟩ := step_change taken
  rw [CircuitBreaker.state_inMemory] at isOpen ⊢
  generalize after.breaker.store.record = record at changed isOpen
  cases changed with
  | abandoned abandoned => exact ⟨isOpen, rfl⟩
  | operated isCall change =>
    cases change with
    | pass now notOpen => exact absurd isOpen notOpen
    | refuse now wasOpen early => exact ⟨wasOpen, rfl⟩
    | probe now wasOpen late => cases isOpen
    | close now isHalfOpen enough => cases isOpen
    | trialSuccess now isHalfOpen few => simp [isHalfOpen] at isOpen
    | success now notHalfOpen => exact ⟨isOpen, rfl⟩
    | trialFailure now isHalfOpen | trip now notHalfOpen enough | failure now notHalfOpen few =>
      rw [fails_of_recordFailure isCall] at noFailure
      cases noFailure

end

theorem enter_of_due {config : BreakerConfig} {now : ℚ} {breaker : CircuitBreaker InMemoryStore}
    (due : breaker.state = .Open →
      breaker.store.record.openedAt.getD 0 + config.recoveryTimeout ≤ now) :
    (breaker.enter config now).1 = true := by
  obtain ⟨-, entered⟩ | ⟨isOpen, early, -⟩ | ⟨-, admitted, -⟩ := enter_cases config breaker now
  · rw [entered]
  · have late := due isOpen
    linarith
  · exact admitted

/-! ## One call -/

section

variable {config : BreakerConfig} {breaker : CircuitBreaker InMemoryStore} {enterAt : ℚ}

theorem enter_record_of_rejected (rejected : (breaker.enter config enterAt).1 = false) :
    (breaker.enter config enterAt).2.store.record = breaker.store.record := by
  obtain ⟨-, admitted⟩ | ⟨-, -, entered⟩ | ⟨-, admitted, -⟩ := enter_cases config breaker enterAt
  · rw [admitted] at rejected
    cases rejected
  · rw [entered]
    rfl
  · rw [admitted] at rejected
    cases rejected

theorem not_open_of_admitted (admitted : (breaker.enter config enterAt).1 = true) :
    (breaker.enter config enterAt).2.state ≠ .Open := by
  obtain ⟨notOpen, entered⟩ | ⟨-, -, rejected⟩ | ⟨-, -, trial⟩ := enter_cases config breaker enterAt
  · rw [entered]
    exact notOpen
  · rw [rejected] at admitted
    cases admitted
  · simp [trial]

theorem wanting_returned (notOpen : breaker.store.record.state ≠ .Open) (leaveAt : ℚ) :
    wanting config (breaker.leave config leaveAt .returned).store.record =
        wanting config breaker.store.record - 1 ∧
      (breaker.leave config leaveAt .returned).store.record.state ≠ .Open := by
  cases isState : breaker.store.record.state with
  | Open => exact absurd isState notOpen
  | Closed =>
    simp [CircuitBreaker.leave, CircuitBreaker.exit, CircuitBreaker.recordSuccess, CircuitBreaker.commit, isState,
      wanting]
  | HalfOpen =>
    by_cases enough : config.successThreshold ≤ breaker.store.record.successCount + 1
    · simp [CircuitBreaker.leave, CircuitBreaker.exit, CircuitBreaker.recordSuccess, CircuitBreaker.commit, isState,
        enough, wanting]
      omega
    · simp [CircuitBreaker.leave, CircuitBreaker.exit, CircuitBreaker.recordSuccess, CircuitBreaker.commit, isState,
        enough, wanting]
      omega

/-- A call that is admitted and returns brings the breaker down by one, from wherever it was. -/
theorem wanting_served (admitted : (breaker.enter config enterAt).1 = true) (leaveAt : ℚ) :
    wanting config ((breaker.enter config enterAt).2.leave config leaveAt .returned).store.record =
        wanting config breaker.store.record - 1 ∧
      ((breaker.enter config enterAt).2.leave config leaveAt .returned).store.record.state ≠ .Open := by
  obtain ⟨notOpen, entered⟩ | ⟨-, -, rejected⟩ | ⟨isOpen, -, trial⟩ := enter_cases config breaker enterAt
  · rw [entered]
    exact wanting_returned notOpen leaveAt
  · rw [rejected] at admitted
    cases admitted
  · have same : wanting config breaker.store.record =
        wanting config (breaker.enter config enterAt).2.store.record := by
      rw [CircuitBreaker.state_inMemory] at isOpen
      simp [trial, wanting, isOpen]
    rw [same]
    exact wanting_returned (by simp [trial]) leaveAt

end

/-! ## The run -/

theorem wanting_run [DecidableEq ι] {config : BreakerConfig} {calls later : Calls ι} {rest : CallHistory ι}
    (continued : Trace (Calls.step config) calls rest later)
    (noFailure : ∀ made ∈ rest, made.label.fails = false) :
    wanting config later.breaker.store.record = wanting config calls.breaker.store.record - passes rest := by
  induction continued with
  | nil => rfl
  | snoc _ taken ih =>
    obtain ⟨noFailure, earlier⟩ := List.forall_mem_cons.mp noFailure
    rw [wanting_step taken noFailure, ih earlier, passes, passes, List.countP_cons]
    omega

theorem openedAt_run [DecidableEq ι] {config : BreakerConfig} {calls later : Calls ι} {rest : CallHistory ι}
    (continued : Trace (Calls.step config) calls rest later)
    (noFailure : ∀ made ∈ rest, made.label.fails = false) (isOpen : later.breaker.state = .Open) :
    later.breaker.store.record.openedAt = calls.breaker.store.record.openedAt := by
  induction continued with
  | nil => rfl
  | snoc _ taken ih =>
    obtain ⟨noFailure, earlier⟩ := List.forall_mem_cons.mp noFailure
    obtain ⟨wasOpen, same⟩ := openedAt_step taken noFailure isOpen
    rw [same, ih earlier wasOpen]

/-- From any state on, and however calls overlap: as long as no call fails, the breaker is
    closed exactly when as many successes were recorded, other than while OPEN, as it was
    wanting; and from `recovery_timeout` after its last opening on, every call is admitted. -/
theorem recovery_exact [DecidableEq ι] (config : BreakerConfig) (calls : Calls ι) (rest : CallHistory ι)
    (later : Calls ι) (continued : Trace (Calls.step config) calls rest later)
    (noFailure : ∀ made ∈ rest, made.label.fails = false) :
    (later.breaker.state = .Closed ↔ wanting config calls.breaker.store.record ≤ passes rest) ∧
      ∀ now, calls.breaker.store.record.openedAt.getD 0 + config.recoveryTimeout ≤ now →
        (later.breaker.enter config now).1 = true := by
  constructor
  · rw [CircuitBreaker.state_inMemory, ← @wanting_eq_zero_iff config, wanting_run continued noFailure]
    exact Nat.sub_eq_zero_iff_le
  · intro now due
    refine enter_of_due fun isOpen => ?_
    rw [openedAt_run continued noFailure isOpen]
    exact due

theorem recovery_exact_two_trials :
    let config : BreakerConfig := ⟨"auth".toList, 1, 30, 2⟩
    let tripped : Calls ℕ := { breaker := CircuitBreaker.fresh.recordFailure config 0, inFlight := [1] }
    ∃ (rest : CallHistory ℕ) (later : Calls ℕ), Trace (Calls.step config) tripped rest later ∧
      passes rest = 2 ∧ later.breaker.state = .Closed := by
  intro config tripped
  obtain ⟨rest, later, continued, passed, noFailure⟩ := exists_trace_of_replay (Calls.step config) tripped
    [.leave 1 29 .returned, .enter 2 30, .enter 3 31, .leave 3 32 .returned, .leave 2 33 .returned]
    (fun rest _ => passes rest = 2 ∧ ∀ made ∈ rest, made.label.fails = false)
    (by decide +kernel)
  refine ⟨rest, later, continued, passed, ?_⟩
  refine (recovery_exact config tripped rest later continued noFailure).1.mpr ?_
  rw [passed]
  decide +kernel

end AutoSre.Resilience
