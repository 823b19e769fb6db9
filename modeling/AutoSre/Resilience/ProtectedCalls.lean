import AutoSre.Resilience.BreakerHistory

/-! # Overlapping protected calls

`protect`, `guard` and `call` are asynchronous: any number of admitted calls may be
in flight, and the outcome of one may arrive in any later state of the breaker.
`Calls.step` is that protocol; its runs are all the interleavings.

`OncePerOutage` says what the open counter, the `opened` events and `opened_at` are
for.  A failure that is recorded while the breaker is OPEN and finds the failure
counter at its threshold (`LateTrip`) breaks it, and nothing else does.  Which calls a
HALF_OPEN verdict rests on is the subject of `HalfOpenVerdicts`.
-/

namespace AutoSre.Resilience

open AutoSre.Lib

/-- The breaker and the identifiers of the admitted calls that have not ended. -/
structure Calls (ι : Type) where
  breaker : CircuitBreaker InMemoryStore := .fresh
  inFlight : List ι := []
deriving DecidableEq, Repr

inductive CallEvent (ι : Type) where
  | enter (id : ι) (now : ℚ)
  | leave (id : ι) (now : ℚ) (ending : CircuitBreaker.Ending)
deriving DecidableEq, Repr

namespace CallEvent

variable {ι : Type}

def now : CallEvent ι → ℚ
  | .enter _ now => now
  | .leave _ now _ => now

def call? : CallEvent ι → Option Call
  | .enter _ now => some ⟨now, .allow⟩
  | .leave _ now .returned => some ⟨now, .recordSuccess⟩
  | .leave _ now (.raised true) => some ⟨now, .recordFailure⟩
  | .leave _ _ (.raised false) => none -- outside `expected_exceptions`: nothing is recorded

end CallEvent

variable {ι : Type}

/-- A call enters under an identifier that is not in use, and ends once. -/
def Calls.step [DecidableEq ι] (config : BreakerConfig) (calls : Calls ι) : CallEvent ι → Option (Calls ι)
  | .enter id now =>
    if id ∈ calls.inFlight then none -- identifiers of calls in flight are distinct
    else
      let (admitted, breaker) := calls.breaker.enter config now
      some { breaker, inFlight := if admitted then id :: calls.inFlight else calls.inFlight }
  | .leave id now ending =>
    if id ∈ calls.inFlight then
      some { breaker := calls.breaker.leave config now ending, inFlight := calls.inFlight.erase id }
    else none

inductive EventChange (config : BreakerConfig) (record : BreakerRecord) (event : CallEvent ι) :
    BreakerRecord → Option BreakerEvent → Prop where
  | operated {call : Call} {next : BreakerRecord} {emitted : Option BreakerEvent} :
      event.call? = some call → Change config record call next emitted →
      EventChange config record event next emitted
  | abandoned : event.call? = none → EventChange config record event record none

theorem enter_eq_operate (config : BreakerConfig) (now : ℚ) (breaker : CircuitBreaker InMemoryStore) :
    (breaker.enter config now).2 =
      { breaker.operate config ⟨now, .allow⟩ with
        rejectionsTotal := (breaker.enter config now).2.rejectionsTotal } := by
  simp only [CircuitBreaker.enter, CircuitBreaker.operate]
  split <;> rfl

theorem step_change [DecidableEq ι] {config : BreakerConfig} {calls next : Calls ι} {event : CallEvent ι}
    (taken : calls.step config event = some next) :
    ∃ emitted, EventChange config calls.breaker.store.record event next.breaker.store.record emitted ∧
      next.breaker.openTotal = calls.breaker.openTotal + emitted.toList.countP (·.isOpened) ∧
      next.breaker.events = emitted.toList ++ calls.breaker.events := by
  cases event with
  | enter id now =>
    simp only [Calls.step] at taken
    split at taken
    next used => cases taken
    next free =>
      cases taken
      obtain ⟨record, emitted, change, applied⟩ := operate_change config calls.breaker ⟨now, .allow⟩
      rw [enter_eq_operate, applied]
      exact ⟨emitted, .operated rfl change, rfl, rfl⟩
  | leave id now ending =>
    simp only [Calls.step] at taken
    split at taken
    next flying =>
      cases taken
      match ending with
      | .returned =>
        obtain ⟨record, emitted, change, applied⟩ :=
          operate_change config calls.breaker ⟨now, .recordSuccess⟩
        have same : calls.breaker.leave config now .returned = calls.breaker.apply record emitted := applied
        rw [same]
        exact ⟨emitted, .operated rfl change, rfl, rfl⟩
      | .raised true =>
        obtain ⟨record, emitted, change, applied⟩ :=
          operate_change config calls.breaker ⟨now, .recordFailure⟩
        have same : calls.breaker.leave config now (.raised true) = calls.breaker.apply record emitted :=
          applied
        rw [same]
        exact ⟨emitted, .operated rfl change, rfl, rfl⟩
      | .raised false => exact ⟨none, .abandoned rfl, rfl, rfl⟩
    next ended => cases taken

/-! ## One opening per outage -/

abbrev CallHistory (ι : Type) := List (Transition (Calls ι) (CallEvent ι))

/-- The step changed the state from another one to OPEN. -/
def Trips (made : Transition (Calls ι) (CallEvent ι)) : Prop :=
  made.before.breaker.state ≠ .Open ∧ made.after.breaker.state = .Open

instance (made : Transition (Calls ι) (CallEvent ι)) : Decidable (Trips made) :=
  inferInstanceAs (Decidable (_ ∧ _))

def trips : CallHistory ι → ℕ
  | [] => 0
  | made :: past => if Trips made then trips past + 1 else trips past

def lastTrip : CallHistory ι → Option ℚ
  | [] => none
  | made :: past => if Trips made then some made.label.now else lastTrip past

/-- The open counter and the `opened` events count the changes to OPEN; while OPEN,
    `opened_at` is the reading of the latest one, so that the trial is due
    `recovery_timeout` after it. -/
structure OncePerOutage (config : BreakerConfig) (history : CallHistory ι) (calls : Calls ι) : Prop where
  counted : calls.breaker.openTotal = trips history
  persisted : calls.breaker.events.countP (·.isOpened) = trips history
  dated : calls.breaker.state = .Open →
    ∃ tripped, lastTrip history = some tripped ∧ calls.breaker.store.record.openedAt = some tripped
  prompt : calls.breaker.state = .Open → ∀ tripped, lastTrip history = some tripped →
    ∀ now, tripped + config.recoveryTimeout ≤ now → (calls.breaker.allow config now).1 = true

/-- A failure is recorded while OPEN and finds the failure counter at its threshold. -/
def LateTrip (config : BreakerConfig) (calls : Calls ι) (event : CallEvent ι) : Prop :=
  (∃ id now, event = .leave id now (.raised true)) ∧ calls.breaker.state = .Open ∧
    config.failureThreshold ≤ calls.breaker.store.record.failureCount + 1

theorem call?_eq_failure {event : CallEvent ι} {now : ℚ}
    (recorded : event.call? = some ⟨now, .recordFailure⟩) :
    event.now = now ∧ ∃ id, event = .leave id now (.raised true) := by
  match event with
  | .enter id at' => cases recorded
  | .leave id at' .returned => cases recorded
  | .leave id at' (.raised true) =>
    cases recorded
    exact ⟨rfl, id, rfl⟩
  | .leave id at' (.raised false) => cases recorded

theorem allow_of_due (config : BreakerConfig) (breaker : CircuitBreaker InMemoryStore) {tripped now : ℚ}
    (dated : breaker.store.record.openedAt = some tripped)
    (due : tripped + config.recoveryTimeout ≤ now) : (breaker.allow config now).1 = true := by
  have late : ¬now - tripped < config.recoveryTimeout := by linarith
  simp only [CircuitBreaker.allow, load_inMemory, dated, Option.getD_some, late, if_false]
  split <;> rfl

theorem OncePerOutage.of_dated {config : BreakerConfig} {history : CallHistory ι} {calls : Calls ι}
    (counted : calls.breaker.openTotal = trips history)
    (persisted : calls.breaker.events.countP (·.isOpened) = trips history)
    (dated : calls.breaker.state = .Open →
      ∃ tripped, lastTrip history = some tripped ∧ calls.breaker.store.record.openedAt = some tripped) :
    OncePerOutage config history calls := by
  refine ⟨counted, persisted, dated, ?_⟩
  intro isOpen tripped latest now due
  -- `opened_at` is the latest trip, so `allow` measures the timeout from it
  obtain ⟨reading, isLatest, stored⟩ := dated isOpen
  obtain rfl : reading = tripped := Option.some.inj (isLatest.symm.trans latest)
  exact allow_of_due config calls.breaker stored due

/-- A step that neither changes the state to OPEN nor counts an opening keeps the
    property, provided that a breaker left OPEN keeps its `opened_at`. -/
theorem OncePerOutage.of_no_trip {config : BreakerConfig} {past : CallHistory ι} {before after : Calls ι}
    {event : CallEvent ι} (holds : OncePerOutage config past before)
    (noTrip : ¬Trips ⟨before, event, after⟩)
    (sameCount : after.breaker.openTotal = before.breaker.openTotal)
    (sameEvents : after.breaker.events.countP (·.isOpened) = before.breaker.events.countP (·.isOpened))
    (sameDate : after.breaker.state = .Open →
      after.breaker.store.record.openedAt = before.breaker.store.record.openedAt) :
    OncePerOutage config (⟨before, event, after⟩ :: past) after := by
  apply OncePerOutage.of_dated
  · simpa [trips, noTrip, sameCount] using holds.counted
  · simpa [trips, noTrip, sameEvents] using holds.persisted
  · intro isOpen
    have wasOpen : before.breaker.state = .Open := by
      by_contra notOpen
      exact noTrip ⟨notOpen, isOpen⟩
    simpa [lastTrip, noTrip, sameDate isOpen] using holds.dated wasOpen

theorem OncePerOutage.of_trip {config : BreakerConfig} {past : CallHistory ι} {before after : Calls ι}
    {event : CallEvent ι} (holds : OncePerOutage config past before)
    (trip : Trips ⟨before, event, after⟩)
    (oneMore : after.breaker.openTotal = before.breaker.openTotal + 1)
    (oneEvent : after.breaker.events.countP (·.isOpened) =
      before.breaker.events.countP (·.isOpened) + 1)
    (stored : after.breaker.store.record.openedAt = some event.now) :
    OncePerOutage config (⟨before, event, after⟩ :: past) after := by
  apply OncePerOutage.of_dated
  · simp [trips, trip, oneMore, holds.counted]
  · simp [trips, trip, oneEvent, holds.persisted]
  · intro _
    exact ⟨event.now, by simp [lastTrip, trip], stored⟩

theorem oncePerOutage_of_not_lateTrip [DecidableEq ι] {config : BreakerConfig} {past : CallHistory ι}
    {before after : Calls ι} {event : CallEvent ι} (holds : OncePerOutage config past before)
    (taken : before.step config event = some after) (notLate : ¬LateTrip config before event) :
    OncePerOutage config (⟨before, event, after⟩ :: past) after := by
  obtain ⟨emitted, changed, openTotal, events⟩ := step_change taken
  generalize recordAfter : after.breaker.store.record = record at changed
  cases changed with
  | abandoned _ =>
    apply holds.of_no_trip <;> simp [Trips, recordAfter, openTotal, events]
  | operated isCall change =>
    cases change with
    | pass now notOpen | refuse now isOpen early | trialSuccess now isHalfOpen few
    | success now notHalfOpen | failure now notHalfOpen few =>
      apply holds.of_no_trip <;> simp [Trips, recordAfter, openTotal, events]
    | probe now isOpen late | close now isHalfOpen enough =>
      apply holds.of_no_trip <;> simp [Trips, recordAfter, openTotal, events, BreakerEvent.isOpened]
    | trialFailure now isHalfOpen =>
      obtain ⟨reading, -⟩ := call?_eq_failure isCall
      apply holds.of_trip <;>
        simp [Trips, recordAfter, isHalfOpen, openTotal, events, BreakerEvent.isOpened, reading]
    | trip now notHalfOpen enough =>
      obtain ⟨reading, id, isFailure⟩ := call?_eq_failure isCall
      have notOpen : before.breaker.store.record.state ≠ .Open := fun isOpen =>
        notLate ⟨⟨id, now, isFailure⟩, isOpen, enough⟩
      apply holds.of_trip <;>
        simp [Trips, recordAfter, notOpen, openTotal, events, BreakerEvent.isOpened, reading]

theorem not_oncePerOutage_of_lateTrip [DecidableEq ι] {config : BreakerConfig} {past : CallHistory ι}
    {before after : Calls ι} {event : CallEvent ι} (holds : OncePerOutage config past before)
    (taken : before.step config event = some after) (late : LateTrip config before event) :
    ¬OncePerOutage config (⟨before, event, after⟩ :: past) after := by
  obtain ⟨⟨id, now, rfl⟩, isOpen, enough⟩ := late
  intro after'
  have sameTrips : trips (⟨before, .leave id now (.raised true), after⟩ :: past) = trips past := by
    simp [trips, Trips, show before.breaker.store.record.state = .Open from isOpen]
  -- the branch counts an opening, whether it is taken from CLOSED or from OPEN
  have oneMore : after.breaker.openTotal = before.breaker.openTotal + 1 := by
    obtain ⟨emitted, changed, openTotal, -⟩ := step_change taken
    rw [openTotal]
    generalize recordAfter : after.breaker.store.record = record at changed
    cases changed with
    | abandoned isNone => cases isNone
    | operated isCall change =>
      cases isCall
      cases change with
      | trialFailure _ isHalfOpen | trip _ _ _ => simp [BreakerEvent.isOpened]
      | failure _ _ few => omega
  have counted := after'.counted
  rw [sameTrips, oneMore, holds.counted] at counted
  omega

/-- In every interleaving of protected calls the breaker opens once per outage at every
    moment exactly when no late trip happens. -/
theorem opens_once_per_outage_iff [DecidableEq ι] (config : BreakerConfig) (history : CallHistory ι) (calls : Calls ι)
    (run : Trace (Calls.step config) {} history calls) :
    Always (OncePerOutage config) {} history ↔
      ∀ made ∈ history, ¬LateTrip config made.before made.label := by
  refine run.always_iff_forall (C := fun calls event => ¬LateTrip config calls event) ?_ ?_
  · exact .of_dated rfl rfl (by simp [CircuitBreaker.fresh, CircuitBreaker.init])
  · intro past before event after _ holds taken
    constructor
    · intro kept late
      exact not_oncePerOutage_of_lateTrip holds taken late kept
    · exact oncePerOutage_of_not_lateTrip holds taken

theorem opens_once_per_outage_single_failure :
    let config : BreakerConfig := ⟨"auth".toList, 1, 30, 2⟩
    let admitted : Calls ℕ := { inFlight := [1] }
    let tripped : Calls ℕ := { breaker := CircuitBreaker.fresh.recordFailure config 1 }
    Always (OncePerOutage config) {}
      [⟨admitted, .leave 1 1 (.raised true), tripped⟩, ⟨{}, .enter 1 0, admitted⟩] := by
  intro config admitted tripped
  refine (opens_once_per_outage_iff config _ tripped (.snoc (.snoc .nil rfl) rfl)).mpr ?_
  simp [LateTrip, admitted, CircuitBreaker.fresh, CircuitBreaker.init]

/-- Two calls are admitted while CLOSED with a threshold of one and both fail.  The
    second failure finds the breaker OPEN, is counted as another opening and moves
    `opened_at`, although the state changed to OPEN only once. -/
theorem late_failure_opens_twice :
    ∃ (history : CallHistory ℕ) (calls : Calls ℕ),
      Trace (Calls.step ⟨"auth".toList, 1, 30, 2⟩) {} history calls ∧
        Chronological CallEvent.now history ∧ calls.breaker.openTotal = 2 ∧ trips history = 1 ∧
        calls.breaker.store.record.openedAt = some 25 ∧ lastTrip history = some 1 ∧
        ¬OncePerOutage ⟨"auth".toList, 1, 30, 2⟩ history calls := by
  obtain ⟨history, calls, run, ordered, opened, tripped, stored, latest⟩ :=
    exists_trace_of_replay (Calls.step ⟨"auth".toList, 1, 30, 2⟩) {}
      [.enter 1 0, .enter 2 0, .leave 1 1 (.raised true), .leave 2 25 (.raised true)]
      (fun history (calls : Calls ℕ) => Chronological CallEvent.now history ∧
        calls.breaker.openTotal = 2 ∧ trips history = 1 ∧
        calls.breaker.store.record.openedAt = some 25 ∧ lastTrip history = some 1)
      (by decide +kernel)
  refine ⟨history, calls, run, ordered, opened, tripped, stored, latest, ?_⟩
  intro once
  have counted := once.counted
  omega

end AutoSre.Resilience
