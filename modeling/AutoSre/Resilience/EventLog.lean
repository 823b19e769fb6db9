import AutoSre.Lib.Outbox
import AutoSre.Resilience.BreakerHistory

/-! # The breaker's transitions in the failure log

A thread that changes the state of a breaker does so under the breaker's lock and calls
`record_event` only after it has let go of it.  Here any number of threads operate on one
breaker, and between the two any other thread may step in; a write may fail, as
`record_event` allows it to.

The breaker's `events` are in the order of the locked sections.  They are a path through
the state machine, and state, gauge and `circuit_breaker_open_total` can be read off them.
The lines in the log are the same events, less those whose writing failed; whether they
are in the same order depends on the threads.
-/

namespace AutoSre.Resilience

open AutoSre.Lib

variable {θ : Type} [DecidableEq θ]

/-- A breaker, and the events on their way to the failure log. -/
structure Logged (θ : Type) where
  breaker : CircuitBreaker InMemoryStore := .fresh
  box : Outbox θ BreakerEvent := {}
deriving DecidableEq

inductive LogAction (θ : Type) where
  | operate (thread : θ) (call : Call)
  | record (thread : θ) (written : Bool)
deriving DecidableEq

/-- What the operation has left for `record_event`. -/
def CircuitBreaker.told (before after : CircuitBreaker InMemoryStore) : Option BreakerEvent :=
  if after.events.length = before.events.length then none else after.events.head?

theorem CircuitBreaker.told_apply (breaker : CircuitBreaker InMemoryStore) (record : BreakerRecord)
    (event : Option BreakerEvent) : breaker.told (breaker.apply record event) = event := by
  cases event with
  | none => simp [told, apply]
  | some event => simp [told, apply]

namespace Logged

/-- A thread returns from an operation only when its event is recorded. -/
def step (config : BreakerConfig) (logged : Logged θ) : LogAction θ → Option (Logged θ)
  | .operate thread call =>
    if logged.box.holds thread then none
    else
      -- under the lock: the event is announced with its place in the order of the locks
      let breaker := logged.breaker.operate config call
      some ⟨breaker, logged.box.announce thread logged.breaker.events.length (logged.breaker.told breaker)⟩
  | .record thread written => (logged.box.settle thread written).map fun box => { logged with box }

/-- The breaker's part of the failure log, latest first. -/
def log (logged : Logged θ) : List BreakerEvent := logged.box.written.map Prod.snd

end Logged

inductive Logs (config : BreakerConfig) (logged : Logged θ) : LogAction θ → Logged θ → Prop where
  | operate {thread : θ} {call : Call} {record : BreakerRecord} {event : Option BreakerEvent} :
      logged.box.holds thread = false → Change config logged.breaker.store.record call record event →
      Logs config logged (.operate thread call)
        ⟨logged.breaker.apply record event, logged.box.announce thread logged.breaker.events.length event⟩
  | record {thread : θ} {written : Bool} {box : Outbox θ BreakerEvent} :
      logged.box.settle thread written = some box →
      Logs config logged (.record thread written) { logged with box }

theorem step_logs {config : BreakerConfig} {logged next : Logged θ} {action : LogAction θ}
    (taken : logged.step config action = some next) : Logs config logged action next := by
  cases action with
  | operate thread call =>
    simp only [Logged.step] at taken
    split at taken
    · cases taken
    next free =>
      cases taken
      obtain ⟨record, event, change, applied⟩ := operate_change config logged.breaker call
      rw [applied, CircuitBreaker.told_apply]
      exact .operate (Bool.eq_false_iff.mpr free) change
  | record thread written =>
    obtain ⟨box, settled, rfl⟩ := Option.map_eq_some_iff.mp taken
    exact .record settled

/-! ## What the events tell -/

/-- The state after an event, where there can be such an event. -/
def BreakerEvent.next : BreakerState → BreakerEvent → Option BreakerState
  | _, .opened _ _ => some .Open -- also from OPEN, by a failure that comes late
  | .Open, .halfOpen _ => some .HalfOpen
  | .HalfOpen, .closed _ => some .Closed
  | _, .halfOpen _ | _, .closed _ => none

/-- The state that a log ends in, if it is a path through the states from CLOSED. -/
def stateTold : List BreakerEvent → Option BreakerState
  | [] => some .Closed
  | event :: past => (stateTold past).bind fun state => event.next state

/-- A change of the record shows in its event, and without an event the state stays. -/
theorem Change.next_state {config : BreakerConfig} {record next : BreakerRecord} {call : Call}
    {event : Option BreakerEvent} (change : Change config record call next event) :
    event.elim (some record.state) (fun event => event.next record.state) = some next.state := by
  cases change with
  | probe now isOpen late => simp [BreakerEvent.next, isOpen]
  | close now isHalfOpen enough => simp [BreakerEvent.next, isHalfOpen]
  | trialFailure now isHalfOpen => simp [BreakerEvent.next]
  | trip now notHalfOpen enough => simp [BreakerEvent.next]
  | pass now notOpen | refuse now isOpen early | trialSuccess now isHalfOpen few
  | success now notHalfOpen | failure now notHalfOpen few => rfl

/-- The series of the breaker are those that its events tell. -/
structure Told (breaker : CircuitBreaker InMemoryStore) : Prop where
  state : stateTold breaker.events = some breaker.state
  gauge : breaker.stateGauge = breaker.state.value
  opened : breaker.openTotal = breaker.events.countP (·.isOpened)

theorem Told.apply {config : BreakerConfig} {breaker : CircuitBreaker InMemoryStore} {call : Call}
    {record : BreakerRecord} {event : Option BreakerEvent} (told : Told breaker)
    (change : Change config breaker.store.record call record event) : Told (breaker.apply record event) := by
  obtain ⟨state, gauge, opened⟩ := told
  have next := change.next_state
  cases event with
  | none =>
    have same : breaker.store.record.state = record.state := Option.some.inj next
    exact ⟨by simpa [CircuitBreaker.apply, ← same] using state,
      by simpa [CircuitBreaker.apply, ← same] using gauge, by simpa [CircuitBreaker.apply] using opened⟩
  | some event =>
    refine ⟨?_, rfl, ?_⟩
    · show (stateTold breaker.events).bind _ = _
      rw [state]
      exact next
    · simp [CircuitBreaker.apply, List.countP_cons, opened]

/-- The series tell of the events, and the outbox accounts for them. -/
structure Consistent (logged : Logged θ) : Prop where
  told : Told logged.breaker
  accounts : Outbox.Accounts logged.breaker.events logged.box

theorem consistent_run {config : BreakerConfig} {history : List (Transition (Logged θ) (LogAction θ))}
    {logged : Logged θ} (run : Trace (Logged.step config) {} history logged) : Consistent logged := by
  refine run.invariant ⟨⟨rfl, rfl, rfl⟩, Outbox.accounts_empty⟩ ?_
  intro before action after holds taken
  obtain ⟨told, accounts⟩ := holds
  cases step_logs taken with
  | operate free change => exact ⟨told.apply change, accounts.announce free _⟩
  | record settled => exact ⟨told, accounts.settle settled⟩

/-- In every run of any number of threads the breaker's events are a path through the
    state machine that ends in its state; the gauge shows that state and the counter counts
    the openings; and each event is in the log, or was lost in writing, or still is to be
    recorded by its thread, and in one of these places only. -/
theorem transitions_told (config : BreakerConfig)
    (history : List (Transition (Logged θ) (LogAction θ))) (logged : Logged θ)
    (run : Trace (Logged.step config) {} history logged) :
    Told logged.breaker ∧
      (logged.box.pending.map (·.2.2) ++ (logged.log ++ logged.box.lost.map Prod.snd)).Perm
        logged.breaker.events := by
  obtain ⟨told, accounts⟩ := consistent_run run
  refine ⟨told, ?_⟩
  simpa [Function.comp_def, Logged.log] using accounts.items.map Prod.snd

/-- Two threads of a breaker that opens at the first failure: the trial is recorded and
    the opening before it is still to come. -/
theorem transitions_told_pending :
    ∃ (history : List (Transition (Logged ℕ) (LogAction ℕ))) (logged : Logged ℕ),
      Trace (Logged.step ⟨"auth".toList, 1, 30, 2⟩) {} history logged ∧ Told logged.breaker ∧
        logged.log = [.halfOpen "auth".toList] ∧
        logged.breaker.events = [.halfOpen "auth".toList, .opened "auth".toList 1] := by
  obtain ⟨history, logged, run, log, events⟩ :=
    exists_trace_of_replay (Logged.step ⟨"auth".toList, 1, 30, 2⟩) {}
      [.operate 1 ⟨0, .recordFailure⟩, .operate 2 ⟨30, .allow⟩, .record 2 true]
      (fun _ (logged : Logged ℕ) => logged.log = [.halfOpen "auth".toList] ∧
        logged.breaker.events = [.halfOpen "auth".toList, .opened "auth".toList 1])
      (by decide +kernel)
  exact ⟨history, logged, run, (transitions_told _ history logged run).1, log, events⟩

/-! ## The order of the log -/

/-- The log holds the first events in their order: it is a path through the states, and
    ends in the state of the breaker when no thread has an event left to record. -/
structure LogFollows (logged : Logged θ) : Prop where
  inOrder : Outbox.InOrder logged.breaker.events logged.box
  legal : (stateTold logged.log).isSome
  read : logged.box.pending = [] → stateTold logged.log = some logged.breaker.state

theorem isSome_stateTold_append (later : List BreakerEvent) {past : List BreakerEvent}
    (legal : (stateTold (later ++ past)).isSome) : (stateTold past).isSome := by
  induction later with
  | nil => exact legal
  | cons event later ih =>
    refine ih ?_
    obtain ⟨state, told⟩ := Option.isSome_iff_exists.mp legal
    obtain ⟨before, toldBefore, -⟩ := Option.bind_eq_some_iff.mp told
    exact Option.isSome_iff_exists.mpr ⟨before, toldBefore⟩

omit [DecidableEq θ] in
theorem logFollows_iff_inOrder {logged : Logged θ} (told : Told logged.breaker) :
    LogFollows logged ↔ Outbox.InOrder logged.breaker.events logged.box := by
  constructor
  · exact LogFollows.inOrder
  · intro inOrder
    have events : logged.box.pending.map (·.2.2) ++ logged.log = logged.breaker.events := by
      rw [← map_snd_numbered logged.breaker.events, ← inOrder, List.map_append, List.map_map]
      rfl
    refine ⟨inOrder, ?_, ?_⟩
    · refine isSome_stateTold_append (logged.box.pending.map (·.2.2)) ?_
      rw [events, told.state]
      rfl
    · intro nonePending
      rw [nonePending] at events
      rw [← told.state, ← events]
      rfl

/-- A thread records its event, and it is the event that has waited longest. -/
def InTurn (logged : Logged θ) : LogAction θ → Prop
  | .operate _ _ => True
  | .record thread written => written = true ∧ logged.box.oldest = some thread

/-- In every run of any number of threads the log follows the transitions at every moment
    exactly when no write fails and no thread overtakes another between the lock of the
    breaker and the log. -/
theorem log_follows_iff (config : BreakerConfig)
    (history : List (Transition (Logged θ) (LogAction θ))) (logged : Logged θ)
    (run : Trace (Logged.step config) {} history logged) :
    Always (fun _ logged => LogFollows logged) {} history ↔
      ∀ made ∈ history, InTurn made.before made.label := by
  refine run.always_iff_forall (C := InTurn) ?_ ?_
  · exact (logFollows_iff_inOrder ⟨rfl, rfl, rfl⟩).mpr rfl
  · intro past before action after earlier follows taken
    obtain ⟨told, accounts⟩ := consistent_run earlier
    rw [logFollows_iff_inOrder (consistent_run (earlier.snoc taken)).told]
    cases step_logs taken with
    | operate free change => exact iff_of_true (follows.inOrder.announce _ _) trivial
    | record settled => exact Outbox.inOrder_settle_iff accounts follows.inOrder settled

/-- A thread that is overtaken: the log tells of a trial by a breaker that never opened. -/
theorem log_follows_overtaken :
    ∃ (history : List (Transition (Logged ℕ) (LogAction ℕ))) (logged : Logged ℕ),
      Trace (Logged.step ⟨"auth".toList, 1, 30, 2⟩) {} history logged ∧ stateTold logged.log = none ∧
        logged.box.pending = [] ∧ logged.box.lost = [] ∧
        ¬Always (fun _ logged => LogFollows logged) {} history := by
  obtain ⟨history, logged, run, told, settled, kept, overtaken⟩ :=
    exists_trace_of_replay (Logged.step ⟨"auth".toList, 1, 30, 2⟩) {}
      [.operate 1 ⟨0, .recordFailure⟩, .operate 2 ⟨30, .allow⟩, .record 2 true, .record 1 true]
      (fun history (logged : Logged ℕ) => stateTold logged.log = none ∧ logged.box.pending = [] ∧
        logged.box.lost = [] ∧ ∃ made ∈ history, made.before.box.oldest = some 1 ∧ made.label = .record 2 true)
      (by decide +kernel)
  refine ⟨history, logged, run, told, settled, kept, ?_⟩
  intro follows
  obtain ⟨made, isMade, waits, label⟩ := overtaken
  have inTurn := (log_follows_iff _ history logged run).mp follows made isMade
  rw [label, InTurn, waits] at inTurn
  exact absurd inTurn.2 (by decide)

/-! ## The failures that an opening reports -/

def BreakerEvent.reports (threshold : ℕ) : BreakerEvent → Prop
  | .opened _ failureCount => threshold ≤ failureCount
  | .halfOpen _ | .closed _ => True

/-- A call that was admitted before the breaker opened succeeds, and `record_success`
    forgets the failures that have opened it. -/
def LateSuccess (logged : Logged θ) : LogAction θ → Prop
  | .operate _ call => logged.breaker.state = .Open ∧ call.op = .recordSuccess
  | .record _ _ => False

instance (logged : Logged θ) (action : LogAction θ) : Decidable (LateSuccess logged action) :=
  match action with
  | .operate _ call => inferInstanceAs (Decidable (logged.breaker.state = .Open ∧ call.op = .recordSuccess))
  | .record _ _ => isFalse id

/-- What opened the breaker stays counted until it is closed. -/
structure Reported (config : BreakerConfig) (breaker : CircuitBreaker InMemoryStore) : Prop where
  counted : breaker.state ≠ .Closed → config.failureThreshold ≤ breaker.store.record.failureCount
  events : ∀ event ∈ breaker.events, event.reports config.failureThreshold

theorem Reported.apply {config : BreakerConfig} {breaker : CircuitBreaker InMemoryStore} {call : Call}
    {record : BreakerRecord} {event : Option BreakerEvent} (reported : Reported config breaker)
    (change : Change config breaker.store.record call record event)
    (notLate : ¬(breaker.state = .Open ∧ call.op = .recordSuccess)) :
    Reported config (breaker.apply record event) := by
  obtain ⟨counted, events⟩ := reported
  rw [CircuitBreaker.state_inMemory] at counted notLate
  cases change with
  | pass now notOpen | refuse now isOpen early | trialSuccess now isHalfOpen few => exact ⟨counted, events⟩
  | probe now isOpen late =>
    refine ⟨fun _ => counted (by simp [isOpen]), ?_⟩
    exact List.forall_mem_cons.mpr ⟨trivial, events⟩
  | close now isHalfOpen enough =>
    refine ⟨fun notClosed => absurd rfl notClosed, ?_⟩
    exact List.forall_mem_cons.mpr ⟨trivial, events⟩
  | success now notHalfOpen =>
    have isClosed : breaker.store.record.state = .Closed := by
      cases isState : breaker.store.record.state with
      | Closed => rfl
      | Open => exact absurd ⟨isState, rfl⟩ notLate
      | HalfOpen => exact absurd isState notHalfOpen
    exact ⟨fun notClosed => absurd isClosed notClosed, events⟩
  | trialFailure now isHalfOpen =>
    -- the trial has not touched the failures that opened the breaker
    have enough := counted (by simp [isHalfOpen])
    exact ⟨fun _ => enough, List.forall_mem_cons.mpr ⟨enough, events⟩⟩
  | trip now notHalfOpen enough =>
    exact ⟨fun _ => enough, List.forall_mem_cons.mpr ⟨enough, events⟩⟩
  | failure now notHalfOpen few =>
    refine ⟨fun notClosed => ?_, events⟩
    have := counted notClosed
    omega

/-- Unless a success is recorded while the breaker is open, every `opened` event reports at
    least as many failures as it takes to open the breaker, that of a failed trial
    included. -/
theorem opened_reports_threshold (config : BreakerConfig)
    (history : List (Transition (Logged θ) (LogAction θ))) (logged : Logged θ)
    (run : Trace (Logged.step config) {} history logged)
    (inTime : ∀ made ∈ history, ¬LateSuccess made.before made.label) :
    ∀ event ∈ logged.breaker.events, event.reports config.failureThreshold := by
  suffices reported : Reported config logged.breaker from reported.events
  induction run with
  | nil => exact ⟨fun notClosed => absurd rfl notClosed, by simp [CircuitBreaker.fresh, CircuitBreaker.init]⟩
  | @snoc past before action after _ taken ih =>
    obtain ⟨notLate, inTime⟩ := List.forall_mem_cons.mp inTime
    have reported := ih inTime
    cases step_logs taken with
    | operate free change => exact reported.apply change notLate
    | record settled => exact reported

theorem opened_reports_threshold_failed_trial :
    ∃ (history : List (Transition (Logged ℕ) (LogAction ℕ))) (logged : Logged ℕ),
      Trace (Logged.step ⟨"auth".toList, 2, 30, 2⟩) {} history logged ∧
        logged.breaker.events = [.opened "auth".toList 2, .halfOpen "auth".toList, .opened "auth".toList 2] ∧
        ∀ event ∈ logged.breaker.events, event.reports 2 := by
  obtain ⟨history, logged, run, events, inTime⟩ :=
    exists_trace_of_replay (Logged.step ⟨"auth".toList, 2, 30, 2⟩) {}
      [.operate 1 ⟨0, .recordFailure⟩, .operate 2 ⟨0, .recordFailure⟩, .record 2 true,
        .operate 1 ⟨30, .allow⟩, .record 1 true, .operate 1 ⟨31, .recordFailure⟩]
      (fun history (logged : Logged ℕ) =>
        logged.breaker.events =
          [.opened "auth".toList 2, .halfOpen "auth".toList, .opened "auth".toList 2] ∧
        ∀ made ∈ history, ¬LateSuccess made.before made.label)
      (by decide +kernel)
  refine ⟨history, logged, run, events, opened_reports_threshold _ history logged run inTime⟩

end AutoSre.Resilience
