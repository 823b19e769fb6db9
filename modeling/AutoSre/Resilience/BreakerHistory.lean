import AutoSre.Lib.Trace
import AutoSre.Resilience.CircuitBreaker

/-! # The breaker's transitions as a function of its history

The breaker keeps two counters that some branches reset and others do not.  This
module states what the transitions mean in terms of the calls made so far
(`failureRun`, `trialSuccesses`), and shows with one invariant over whole runs
that the counters always agree with that history.

`Change` lists, branch by branch, everything one operation can do to the record;
the invariants below are case analyses over it and never unfold the operations
again.
-/

namespace AutoSre.Resilience

open AutoSre.Lib

/-! ## Operations as steps -/

inductive Op where
  | allow
  | recordSuccess
  | recordFailure
deriving DecidableEq, Repr

structure Call where
  now : ℚ
  op : Op
deriving DecidableEq, Repr

namespace CircuitBreaker

def operate (config : BreakerConfig) (breaker : CircuitBreaker InMemoryStore) (call : Call) :
    CircuitBreaker InMemoryStore :=
  match call.op with
  | .allow => (breaker.allow config call.now).2
  | .recordSuccess => breaker.recordSuccess config
  | .recordFailure => breaker.recordFailure config call.now

def step (config : BreakerConfig) (breaker : CircuitBreaker InMemoryStore) (call : Call) :
    Option (CircuitBreaker InMemoryStore) :=
  some (breaker.operate config call)

end CircuitBreaker

/-- What one call can do: a constructor for each branch of `allow`, `record_success`
    and `record_failure`, with the record it leaves and the event it persists. -/
inductive Change (config : BreakerConfig) (record : BreakerRecord) :
    Call → BreakerRecord → Option BreakerEvent → Prop where
  | pass (now : ℚ) : record.state ≠ .Open → Change config record ⟨now, .allow⟩ record none
  | refuse (now : ℚ) : record.state = .Open →
      now - record.openedAt.getD 0 < config.recoveryTimeout →
      Change config record ⟨now, .allow⟩ record none
  | probe (now : ℚ) : record.state = .Open →
      config.recoveryTimeout ≤ now - record.openedAt.getD 0 →
      Change config record ⟨now, .allow⟩ { record with successCount := 0, state := .HalfOpen }
        (some (.halfOpen config.name))
  | close (now : ℚ) : record.state = .HalfOpen →
      config.successThreshold ≤ record.successCount + 1 →
      Change config record ⟨now, .recordSuccess⟩ {} (some (.closed config.name))
  | trialSuccess (now : ℚ) : record.state = .HalfOpen →
      record.successCount + 1 < config.successThreshold →
      Change config record ⟨now, .recordSuccess⟩
        { record with successCount := record.successCount + 1 } none
  | success (now : ℚ) : record.state ≠ .HalfOpen →
      Change config record ⟨now, .recordSuccess⟩ { record with failureCount := 0 } none
  | trialFailure (now : ℚ) : record.state = .HalfOpen →
      Change config record ⟨now, .recordFailure⟩
        { record with openedAt := some now, successCount := 0, state := .Open }
        (some (.opened config.name record.failureCount))
  | trip (now : ℚ) : record.state ≠ .HalfOpen →
      config.failureThreshold ≤ record.failureCount + 1 →
      Change config record ⟨now, .recordFailure⟩
        { record with failureCount := record.failureCount + 1, openedAt := some now, state := .Open }
        (some (.opened config.name (record.failureCount + 1)))
  | failure (now : ℚ) : record.state ≠ .HalfOpen →
      record.failureCount + 1 < config.failureThreshold →
      Change config record ⟨now, .recordFailure⟩
        { record with failureCount := record.failureCount + 1 } none

def BreakerEvent.isOpened : BreakerEvent → Bool
  | .opened _ _ => true
  | .halfOpen _ | .closed _ => false

/-- The breaker after a change.  A branch that persists an event is a branch that
    calls `_set_state`, and the `opened` branches count on `circuit_breaker_open_total`. -/
def CircuitBreaker.apply (breaker : CircuitBreaker InMemoryStore) (record : BreakerRecord)
    (event : Option BreakerEvent) : CircuitBreaker InMemoryStore where
  store := ⟨record⟩
  stateGauge := if event.isSome then record.state.value else breaker.stateGauge
  openTotal := breaker.openTotal + event.toList.countP (·.isOpened)
  rejectionsTotal := breaker.rejectionsTotal
  events := event.toList ++ breaker.events

@[simp] theorem CircuitBreaker.state_inMemory (breaker : CircuitBreaker InMemoryStore) :
    breaker.state = breaker.store.record.state := rfl

theorem operate_change (config : BreakerConfig) (breaker : CircuitBreaker InMemoryStore) (call : Call) :
    ∃ record event, Change config breaker.store.record call record event ∧
      breaker.operate config call = breaker.apply record event := by
  obtain ⟨now, op⟩ := call
  cases op with
  | allow =>
    simp only [CircuitBreaker.operate, CircuitBreaker.allow, load_inMemory]
    split
    next isOpen =>
      split
      next early => exact ⟨_, _, .refuse now isOpen early, rfl⟩
      next late => exact ⟨_, _, .probe now isOpen (not_lt.mp late), rfl⟩
    next notOpen => exact ⟨_, _, .pass now notOpen, rfl⟩
  | recordSuccess =>
    simp only [CircuitBreaker.operate, CircuitBreaker.recordSuccess, load_inMemory]
    split
    next isHalfOpen =>
      split
      next enough => exact ⟨_, _, .close now isHalfOpen enough, rfl⟩
      next few => exact ⟨_, _, .trialSuccess now isHalfOpen (not_le.mp few), rfl⟩
    next notHalfOpen => exact ⟨_, _, .success now notHalfOpen, rfl⟩
  | recordFailure =>
    simp only [CircuitBreaker.operate, CircuitBreaker.recordFailure, load_inMemory]
    split
    next isHalfOpen => exact ⟨_, _, .trialFailure now isHalfOpen, rfl⟩
    next notHalfOpen =>
      split
      next enough => exact ⟨_, _, .trip now notHalfOpen enough, rfl⟩
      next few => exact ⟨_, _, .failure now notHalfOpen (not_le.mp few), rfl⟩

theorem record_change (config : BreakerConfig) (breaker : CircuitBreaker InMemoryStore) (call : Call) :
    ∃ event, Change config breaker.store.record call (breaker.operate config call).store.record event := by
  obtain ⟨record, event, change, applied⟩ := operate_change config breaker call
  exact ⟨event, by rw [applied]; exact change⟩

theorem enter_cases (config : BreakerConfig) (breaker : CircuitBreaker InMemoryStore) (now : ℚ) :
    (breaker.state ≠ .Open ∧ breaker.enter config now = (true, breaker)) ∨
      (breaker.state = .Open ∧ now - breaker.store.record.openedAt.getD 0 < config.recoveryTimeout ∧
        breaker.enter config now = (false, breaker.reject)) ∨
      (breaker.state = .Open ∧ (breaker.enter config now).1 = true ∧
        (breaker.enter config now).2.store.record =
          { breaker.store.record with successCount := 0, state := .HalfOpen }) := by
  simp only [CircuitBreaker.state_inMemory]
  by_cases isOpen : breaker.store.record.state = .Open
  · by_cases early : now - breaker.store.record.openedAt.getD 0 < config.recoveryTimeout
    · exact .inr (.inl ⟨isOpen, early, by simp [CircuitBreaker.enter, CircuitBreaker.allow, isOpen, early]⟩)
    · refine .inr (.inr ⟨isOpen, ?_, ?_⟩)
      · simp [CircuitBreaker.enter, CircuitBreaker.allow, isOpen, early]
      · simp [CircuitBreaker.enter, CircuitBreaker.allow, CircuitBreaker.commit, isOpen, early]
  · exact .inl ⟨isOpen, by simp [CircuitBreaker.enter, CircuitBreaker.allow, isOpen]⟩

/-! ## What the history says -/

abbrev BreakerHistory := List (Transition (CircuitBreaker InMemoryStore) Call)

/-- The `record_failure` calls in a row, up to now, since the breaker was created
    or last became CLOSED: a `record_success` breaks the row, `allow` does not count. -/
def failureRun : BreakerHistory → ℕ
  | [] => 0
  | made :: past =>
    if made.before.state ≠ .Closed ∧ made.after.state = .Closed then 0
    else
      match made.label.op with
      | .allow => failureRun past -- admissions do not break a run
      | .recordSuccess => 0
      | .recordFailure => failureRun past + 1

theorem failureRun_success (before after : CircuitBreaker InMemoryStore) (now : ℚ) (past : BreakerHistory) :
    failureRun (⟨before, ⟨now, .recordSuccess⟩, after⟩ :: past) = 0 := by
  simp only [failureRun]
  split <;> rfl

/-- The `record_success` calls since the most recent step from OPEN to HALF_OPEN;
    `none` when there is no such step or a `record_failure` was made after it. -/
def trialSuccesses : BreakerHistory → Option ℕ
  | [] => none
  | made :: past =>
    if made.before.state = .Open ∧ made.after.state = .HalfOpen then some 0
    else
      match made.label.op with
      | .allow => trialSuccesses past
      | .recordSuccess => (trialSuccesses past).map (· + 1)
      | .recordFailure => none

/-- The counters agree with the history.  Only the conjuncts for the current state
    are read by a transition; the one for OPEN and the bound for CLOSED say that
    no trial is under way there. -/
structure CountersAgree (config : BreakerConfig) (history : BreakerHistory)
    (breaker : CircuitBreaker InMemoryStore) : Prop where
  closed : breaker.state = .Closed →
    breaker.store.record.failureCount = failureRun history ∧
      failureRun history < config.failureThreshold ∧
      ∀ successes, trialSuccesses history = some successes → config.successThreshold ≤ successes
  opened : breaker.state = .Open → trialSuccesses history = none
  halfOpen : breaker.state = .HalfOpen →
    trialSuccesses history = some breaker.store.record.successCount ∧
      breaker.store.record.successCount < config.successThreshold

theorem countersAgree_fresh (config : BreakerConfig) (failurePositive : 1 ≤ config.failureThreshold) :
    CountersAgree config [] CircuitBreaker.fresh where
  closed _ := ⟨rfl, failurePositive, by simp [trialSuccesses]⟩
  opened _ := rfl
  halfOpen isHalfOpen := by cases isHalfOpen

theorem countersAgree_allow_unchanged {config : BreakerConfig} {past : BreakerHistory}
    {before after : CircuitBreaker InMemoryStore} {now : ℚ} (agree : CountersAgree config past before)
    (unchanged : after.store.record = before.store.record) :
    CountersAgree config (⟨before, ⟨now, .allow⟩, after⟩ :: past) after := by
  have sameRun : failureRun (⟨before, ⟨now, .allow⟩, after⟩ :: past) = failureRun past := by
    simp +contextual [failureRun, unchanged]
  have sameTrial : trialSuccesses (⟨before, ⟨now, .allow⟩, after⟩ :: past) = trialSuccesses past := by
    simp +contextual [trialSuccesses, unchanged]
  constructor <;> rw [CircuitBreaker.state_inMemory, unchanged, sameTrial]
  · rw [sameRun]
    exact agree.closed
  · exact agree.opened
  · exact agree.halfOpen

theorem countersAgree_step {config : BreakerConfig} (failurePositive : 1 ≤ config.failureThreshold)
    (successPositive : 1 ≤ config.successThreshold) {past : BreakerHistory}
    {before after : CircuitBreaker InMemoryStore} {call : Call} (agree : CountersAgree config past before)
    {event : Option BreakerEvent}
    (change : Change config before.store.record call after.store.record event) :
    CountersAgree config (⟨before, call, after⟩ :: past) after := by
  obtain ⟨closed, opened, halfOpen⟩ := agree
  simp only [CircuitBreaker.state_inMemory] at closed opened halfOpen
  generalize recordAfter : after.store.record = record at change
  cases change with
  | pass now notOpen => exact countersAgree_allow_unchanged ⟨closed, opened, halfOpen⟩ recordAfter
  | refuse now isOpen early => exact countersAgree_allow_unchanged ⟨closed, opened, halfOpen⟩ recordAfter
  | probe now isOpen late =>
    refine ⟨by simp [recordAfter], by simp [recordAfter], fun _ => ?_⟩
    simp only [recordAfter]
    exact ⟨by simp [trialSuccesses, isOpen, recordAfter], successPositive⟩
  | close now isHalfOpen enough =>
    -- the closing success both ends the trial and starts a new run of failures
    refine ⟨fun _ => ?_, by simp [recordAfter], by simp [recordAfter]⟩
    have started := failureRun_success before after now past
    refine ⟨by rw [started, recordAfter], by rw [started]; exact failurePositive, ?_⟩
    simpa [trialSuccesses, isHalfOpen, (halfOpen isHalfOpen).1] using enough
  | trialSuccess now isHalfOpen few =>
    refine ⟨by simp [recordAfter, isHalfOpen], by simp [recordAfter, isHalfOpen], fun _ => ?_⟩
    simp only [recordAfter]
    exact ⟨by simp [trialSuccesses, isHalfOpen, (halfOpen isHalfOpen).1], few⟩
  | success now notHalfOpen =>
    -- CLOSED or OPEN: `failure_count` is zeroed in both
    refine ⟨fun isClosed => ?_, fun isOpen => ?_, by simp [recordAfter, notHalfOpen]⟩
    · have stayed : before.store.record.state = .Closed := by simpa [recordAfter] using isClosed
      have broken := failureRun_success before after now past
      refine ⟨by rw [broken, recordAfter], by rw [broken]; exact failurePositive, ?_⟩
      intro successes counted
      obtain ⟨earlier, before, rfl⟩ : ∃ n, trialSuccesses past = some n ∧ n + 1 = successes := by
        simpa [trialSuccesses, stayed] using counted
      exact Nat.le_succ_of_le ((closed stayed).2.2 earlier before)
    · have stayed : before.store.record.state = .Open := by simpa [recordAfter] using isOpen
      simp [trialSuccesses, recordAfter, stayed, opened stayed]
  | trialFailure now isHalfOpen =>
    -- `failure_count` survives a failed trial, but nothing reads it before the next CLOSED
    refine ⟨by simp [recordAfter], fun _ => ?_, by simp [recordAfter]⟩
    simp [trialSuccesses, isHalfOpen]
  | trip now notHalfOpen enough =>
    refine ⟨by simp [recordAfter], fun _ => ?_, by simp [recordAfter]⟩
    simp [trialSuccesses, recordAfter]
  | failure now notHalfOpen few =>
    refine ⟨fun isClosed => ?_, fun isOpen => ?_, by simp [recordAfter, notHalfOpen]⟩
    · have stayed : before.store.record.state = .Closed := by simpa [recordAfter] using isClosed
      have longer : failureRun (⟨before, ⟨now, .recordFailure⟩, after⟩ :: past) = failureRun past + 1 := by
        simp [failureRun, stayed]
      have counted := (closed stayed).1
      refine ⟨by rw [longer, recordAfter, counted], by rw [longer, ← counted]; exact few, ?_⟩
      simp [trialSuccesses, stayed]
    · have stayed : before.store.record.state = .Open := by simpa [recordAfter] using isOpen
      simp [trialSuccesses, recordAfter, stayed]

theorem countersAgree_run {config : BreakerConfig} (failurePositive : 1 ≤ config.failureThreshold)
    (successPositive : 1 ≤ config.successThreshold) {history : BreakerHistory}
    {breaker : CircuitBreaker InMemoryStore}
    (run : Trace (CircuitBreaker.step config) .fresh history breaker) :
    CountersAgree config history breaker := by
  apply run.history_invariant (countersAgree_fresh config failurePositive)
  intro past before call after _ agree taken
  cases taken
  obtain ⟨event, change⟩ := record_change config before call
  exact countersAgree_step failurePositive successPositive agree change

/-! ## The transitions -/

theorem closed_to_open_iff {config : BreakerConfig} {history : BreakerHistory}
    {breaker : CircuitBreaker InMemoryStore} (agree : CountersAgree config history breaker)
    (call : Call) (isClosed : breaker.state = .Closed) :
    (breaker.operate config call).state = .Open ↔
      call.op = .recordFailure ∧ failureRun history + 1 = config.failureThreshold := by
  obtain ⟨counted, below, -⟩ := agree.closed isClosed
  obtain ⟨event, change⟩ := record_change config breaker call
  simp only [CircuitBreaker.state_inMemory] at isClosed ⊢
  generalize recordAfter : (breaker.operate config call).store.record = record at change ⊢
  cases change with
  | pass now notOpen => simp [isClosed]
  | refuse now isOpen early => simp [isClosed] at isOpen
  | probe now isOpen late => simp [isClosed] at isOpen
  | close now isHalfOpen enough => simp
  | trialSuccess now isHalfOpen few => simp [isClosed]
  | success now notHalfOpen => simp [isClosed]
  | trialFailure now isHalfOpen => simp [isClosed] at isHalfOpen
  | trip now notHalfOpen enough =>
    -- the run was below the threshold before, so this failure is the one that completes it
    simp only [true_iff, true_and]
    omega
  | failure now notHalfOpen few =>
    simp only [isClosed, reduceCtorEq, true_and, false_iff]
    omega

theorem halfOpen_to_closed_iff {config : BreakerConfig} {history : BreakerHistory}
    {breaker : CircuitBreaker InMemoryStore} (agree : CountersAgree config history breaker)
    (call : Call) :
    breaker.state = .HalfOpen ∧ (breaker.operate config call).state = .Closed ↔
      call.op = .recordSuccess ∧
        ∃ successes, trialSuccesses history = some successes ∧ successes + 1 = config.successThreshold := by
  constructor
  · rintro ⟨isHalfOpen, nowClosed⟩
    obtain ⟨counted, below⟩ := agree.halfOpen isHalfOpen
    obtain ⟨event, change⟩ := record_change config breaker call
    simp only [CircuitBreaker.state_inMemory] at isHalfOpen nowClosed
    generalize recordAfter : (breaker.operate config call).store.record = record at change nowClosed
    cases change with
    | close now _ enough => exact ⟨rfl, _, counted, by omega⟩
    | pass now notOpen | refuse now isOpen early => simp [isHalfOpen] at nowClosed
    | probe now isOpen late | trialFailure now _ => simp at nowClosed
    | trialSuccess now _ few => simp [isHalfOpen] at nowClosed
    | success now notHalfOpen | trip now notHalfOpen enough | failure now notHalfOpen few =>
      exact absurd isHalfOpen notHalfOpen
  · obtain ⟨now, op⟩ := call
    rintro ⟨rfl, successes, counted, last⟩
    -- in the other states the history has no trial, or one that was already won
    have isHalfOpen : breaker.state = .HalfOpen := by
      cases state : breaker.state with
      | Closed =>
        have won := (agree.closed state).2.2 successes counted
        omega
      | Open => simp [agree.opened state] at counted
      | HalfOpen => rfl
    refine ⟨isHalfOpen, ?_⟩
    have sameCount := (agree.halfOpen isHalfOpen).1
    rw [counted, Option.some.injEq] at sameCount
    obtain ⟨event, change⟩ := record_change config breaker ⟨now, .recordSuccess⟩
    simp only [CircuitBreaker.state_inMemory] at isHalfOpen ⊢
    generalize recordAfter : (breaker.operate config ⟨now, .recordSuccess⟩).store.record = record
      at change ⊢
    cases change with
    | close _ _ enough => rfl
    | trialSuccess _ _ few => omega
    | success _ notHalfOpen => exact absurd isHalfOpen notHalfOpen

theorem halfOpen_failure_opens (config : BreakerConfig) (breaker : CircuitBreaker InMemoryStore)
    (now : ℚ) (isHalfOpen : breaker.state = .HalfOpen) :
    (breaker.operate config ⟨now, .recordFailure⟩).state = .Open := by
  simp only [CircuitBreaker.state_inMemory] at isHalfOpen
  simp [CircuitBreaker.operate, CircuitBreaker.recordFailure, CircuitBreaker.commit, isHalfOpen]

theorem state_change_cases (config : BreakerConfig) (breaker : CircuitBreaker InMemoryStore) (call : Call)
    (changed : (breaker.operate config call).state ≠ breaker.state) :
    breaker.state = .Closed ∧ (breaker.operate config call).state = .Open ∧ call.op = .recordFailure ∨
      breaker.state = .HalfOpen ∧ (breaker.operate config call).state = .Closed ∧
        call.op = .recordSuccess ∨
      breaker.state = .HalfOpen ∧ (breaker.operate config call).state = .Open ∧
        call.op = .recordFailure ∨
      breaker.state = .Open ∧ (breaker.operate config call).state = .HalfOpen ∧ call.op = .allow := by
  obtain ⟨event, change⟩ := record_change config breaker call
  simp only [CircuitBreaker.state_inMemory] at changed ⊢
  generalize recordAfter : (breaker.operate config call).store.record = record at change changed ⊢
  cases change with
  | pass now notOpen | refuse now isOpen early | trialSuccess now isHalfOpen few
  | success now notHalfOpen | failure now notHalfOpen few => exact absurd rfl changed
  | probe now isOpen late => simp [isOpen]
  | close now isHalfOpen enough | trialFailure now isHalfOpen => simp [isHalfOpen]
  | trip now notHalfOpen enough =>
    -- from OPEN this branch leaves the state as it is
    left
    cases state : breaker.store.record.state with
    | Closed => simp
    | Open => simp [state] at changed
    | HalfOpen => exact absurd state notHalfOpen

/-- In every run from a fresh breaker the next call changes the state exactly as
    the history says: the failure that completes an unbroken run trips a CLOSED
    breaker, the success that completes a trial closes it, every failure in
    HALF_OPEN reopens it, and the only other change is the probe that `allow` makes. -/
theorem transitions_by_history (config : BreakerConfig) (failurePositive : 1 ≤ config.failureThreshold)
    (successPositive : 1 ≤ config.successThreshold) (history : BreakerHistory)
    (breaker : CircuitBreaker InMemoryStore)
    (run : Trace (CircuitBreaker.step config) .fresh history breaker) (call : Call) :
    (breaker.state = .Closed ∧ (breaker.operate config call).state = .Open ↔
        breaker.state = .Closed ∧ call.op = .recordFailure ∧
          failureRun history + 1 = config.failureThreshold) ∧
      (breaker.state = .HalfOpen ∧ (breaker.operate config call).state = .Closed ↔
        call.op = .recordSuccess ∧
          ∃ successes, trialSuccesses history = some successes ∧
            successes + 1 = config.successThreshold) ∧
      (breaker.state = .HalfOpen → call.op = .recordFailure →
        (breaker.operate config call).state = .Open) ∧
      ((breaker.operate config call).state ≠ breaker.state →
        breaker.state = .Closed ∧ (breaker.operate config call).state = .Open ∧
            call.op = .recordFailure ∨
          breaker.state = .HalfOpen ∧ (breaker.operate config call).state = .Closed ∧
            call.op = .recordSuccess ∨
          breaker.state = .HalfOpen ∧ (breaker.operate config call).state = .Open ∧
            call.op = .recordFailure ∨
          breaker.state = .Open ∧ (breaker.operate config call).state = .HalfOpen ∧
            call.op = .allow) ∧
      ¬(breaker.state = .Open ∧ (breaker.operate config call).state = .Closed) := by
  have agree := countersAgree_run failurePositive successPositive run
  refine ⟨and_congr_right (closed_to_open_iff agree call), halfOpen_to_closed_iff agree call, ?_,
    state_change_cases config breaker call, ?_⟩
  · obtain ⟨now, op⟩ := call
    rintro isHalfOpen rfl
    exact halfOpen_failure_opens config breaker now isHalfOpen
  · rintro ⟨isOpen, nowClosed⟩
    have changes := state_change_cases config breaker call (by simp [isOpen, nowClosed])
    simp [isOpen, nowClosed] at changes

theorem transitions_by_history_trial_won :
    let config : BreakerConfig := ⟨"auth".toList, 1, 0, 1⟩
    let tripped := CircuitBreaker.fresh.operate config ⟨0, .recordFailure⟩
    let probing := tripped.operate config ⟨1, .allow⟩
    probing.state = .HalfOpen ∧ (probing.operate config ⟨2, .recordSuccess⟩).state = .Closed := by
  intro config tripped probing
  exact (transitions_by_history config (by decide) (by decide) _ probing
    (.snoc (.snoc .nil rfl) rfl) ⟨2, .recordSuccess⟩).2.1.mpr ⟨rfl, 0, by decide +kernel, rfl⟩

/-- With a threshold of one, a trip and a success that arrives while OPEN: the next failure
    completes a run again, but there is no CLOSED breaker to trip. -/
theorem failure_run_completed_while_open :
    ∃ (history : BreakerHistory) (breaker : CircuitBreaker InMemoryStore),
      Trace (CircuitBreaker.step ⟨"auth".toList, 1, 30, 2⟩) .fresh history breaker ∧
        Chronological Call.now history ∧ breaker.state = .Open ∧
        ¬(breaker.state = .Closed ∧
            (breaker.operate ⟨"auth".toList, 1, 30, 2⟩ ⟨2, .recordFailure⟩).state = .Open ↔
          failureRun history + 1 = 1) := by
  obtain ⟨history, breaker, run, ordered, isOpen, completes⟩ :=
    exists_trace_of_replay (CircuitBreaker.step ⟨"auth".toList, 1, 30, 2⟩) .fresh
      [⟨0, .recordFailure⟩, ⟨1, .recordSuccess⟩]
      (fun history (breaker : CircuitBreaker InMemoryStore) => Chronological Call.now history ∧
        breaker.state = .Open ∧ failureRun history + 1 = 1)
      (by decide +kernel)
  refine ⟨history, breaker, run, ordered, isOpen, ?_⟩
  intro trips
  have isClosed := (trips.mpr completes).1
  rw [isOpen] at isClosed
  cases isClosed

end AutoSre.Resilience
