import AutoSre.Resilience.ProtectedCalls

/-! # Which calls a HALF_OPEN verdict rests on

The record carries no admission epoch: the breaker cannot tell a trial, a call
admitted at or after the step from OPEN to HALF_OPEN, from a stale call that was
admitted before it and ends late.  The history can, and `winsSinceProbe` counts the
two kinds apart.  While HALF_OPEN, `success_count` is their sum
(`successCount_eq_wins`), so both kinds decide; the verdict rests on trials alone
when no stale call ends in between (`OnlyTrials`).
-/

namespace AutoSre.Resilience

open AutoSre.Lib

variable {ι : Type} [DecidableEq ι]

/-- The step from OPEN to HALF_OPEN, made by the `allow` of the first trial. -/
def Probes (made : Transition (Calls ι) (CallEvent ι)) : Prop :=
  made.before.breaker.state = .Open ∧ made.after.breaker.state = .HalfOpen

instance (made : Transition (Calls ι) (CallEvent ι)) : Decidable (Probes made) :=
  inferInstanceAs (Decidable (_ ∧ _))

/-- The call in flight under `id` was admitted at or after the most recent probe. -/
def isTrial (id : ι) : CallHistory ι → Bool
  | [] => false
  | made :: past =>
    match made.label with
    | .enter other _ =>
      -- the probe is itself the admission of the first trial, so this comes first
      if other = id ∧ id ∈ made.after.inFlight then true
      else if Probes made then false
      else isTrial id past
    | .leave _ _ _ => isTrial id past

/-- The successes recorded since the most recent probe whose call, judged by the
    history before its end, is counted by `who`. -/
def winsSinceProbe (who : ι → CallHistory ι → Bool) : CallHistory ι → ℕ
  | [] => 0
  | made :: past =>
    if Probes made then 0
    else
      match made.label with
      | .leave id _ .returned =>
        if who id past then winsSinceProbe who past + 1 else winsSinceProbe who past
      | .leave _ _ (.raised _) | .enter _ _ => winsSinceProbe who past

def trialWins : CallHistory ι → ℕ := winsSinceProbe isTrial

def staleWins : CallHistory ι → ℕ := winsSinceProbe fun id past => !isTrial id past

/-- Every call that ended since the most recent probe was admitted at or after it. -/
def OnlyTrials : CallHistory ι → Prop
  | [] => True
  | made :: past =>
    if Probes made then True
    else
      match made.label with
      | .leave id _ _ => isTrial id past = true ∧ OnlyTrials past
      | .enter _ _ => OnlyTrials past

/-- What can happen to a HALF_OPEN breaker.  None of the constructors asks when the
    call was admitted. -/
inductive HalfOpenStep (config : BreakerConfig) (before after : Calls ι) : CallEvent ι → Prop where
  | admits (id : ι) (now : ℚ) : after.breaker.store.record = before.breaker.store.record →
      HalfOpenStep config before after (.enter id now)
  | abandons (id : ι) (now : ℚ) : after.breaker.store.record = before.breaker.store.record →
      HalfOpenStep config before after (.leave id now (.raised false))
  | closes (id : ι) (now : ℚ) : id ∈ before.inFlight →
      config.successThreshold ≤ before.breaker.store.record.successCount + 1 →
      after.breaker.state = .Closed → HalfOpenStep config before after (.leave id now .returned)
  | wins (id : ι) (now : ℚ) : id ∈ before.inFlight → after.breaker.state = .HalfOpen →
      after.breaker.store.record.successCount = before.breaker.store.record.successCount + 1 →
      HalfOpenStep config before after (.leave id now .returned)
  | reopens (id : ι) (now : ℚ) : id ∈ before.inFlight → after.breaker.state = .Open →
      HalfOpenStep config before after (.leave id now (.raised true))

theorem leave_inFlight {config : BreakerConfig} {before after : Calls ι} {id : ι} {now : ℚ}
    {ending : CircuitBreaker.Ending} (taken : before.step config (.leave id now ending) = some after) :
    id ∈ before.inFlight := by
  by_contra absent
  simp [Calls.step, absent] at taken

theorem halfOpen_step {config : BreakerConfig} {before after : Calls ι} {event : CallEvent ι}
    (taken : before.step config event = some after) (isHalfOpen : before.breaker.state = .HalfOpen) :
    HalfOpenStep config before after event := by
  simp only [CircuitBreaker.state_inMemory] at isHalfOpen
  obtain ⟨emitted, changed, -, -⟩ := step_change taken
  generalize recordAfter : after.breaker.store.record = record at changed
  cases changed with
  | abandoned isNone =>
    match event with
    | .leave id now (.raised false) => exact .abandons id now recordAfter
    | .enter _ _ | .leave _ _ .returned | .leave _ _ (.raised true) => cases isNone
  | operated isCall change =>
    match event with
    | .enter id now =>
      cases isCall
      cases change with
      | pass _ _ | refuse _ _ _ => exact .admits id now recordAfter
      | probe _ isOpen _ => simp [isHalfOpen] at isOpen
    | .leave id now .returned =>
      cases isCall
      cases change with
      | close _ _ enough => exact .closes id now (leave_inFlight taken) enough (by simp [recordAfter])
      | trialSuccess _ _ few =>
        exact .wins id now (leave_inFlight taken) (by simp [recordAfter, isHalfOpen]) (by simp [recordAfter])
      | success _ notHalfOpen => exact absurd isHalfOpen notHalfOpen
    | .leave id now (.raised true) =>
      cases isCall
      cases change with
      | trialFailure _ _ => exact .reopens id now (leave_inFlight taken) (by simp [recordAfter])
      | trip _ notHalfOpen _ | failure _ notHalfOpen _ => exact absurd isHalfOpen notHalfOpen
    | .leave _ _ (.raised false) => cases isCall

theorem halfOpen_entered {config : BreakerConfig} {before after : Calls ι} {event : CallEvent ι}
    (taken : before.step config event = some after) (wasOther : before.breaker.state ≠ .HalfOpen)
    (isHalfOpen : after.breaker.state = .HalfOpen) :
    Probes ⟨before, event, after⟩ ∧ after.breaker.store.record.successCount = 0 := by
  simp only [CircuitBreaker.state_inMemory] at wasOther isHalfOpen
  simp only [Probes, CircuitBreaker.state_inMemory]
  obtain ⟨emitted, changed, -, -⟩ := step_change taken
  generalize recordAfter : after.breaker.store.record = record at changed isHalfOpen ⊢
  cases changed with
  | abandoned _ => exact absurd isHalfOpen wasOther
  | operated _ change =>
    cases change with
    | probe _ isOpen _ => exact ⟨⟨isOpen, rfl⟩, rfl⟩
    | pass _ _ | refuse _ _ _ | success _ _ | failure _ _ _ => exact absurd isHalfOpen wasOther
    | trialSuccess _ was _ => exact absurd was wasOther
    | close _ _ _ | trialFailure _ _ | trip _ _ _ => cases isHalfOpen

/-! ## The success counter -/

theorem wins_returned {before after : Calls ι} {id : ι} {now : ℚ} (past : CallHistory ι)
    (noProbe : ¬Probes ⟨before, .leave id now .returned, after⟩) :
    trialWins (⟨before, .leave id now .returned, after⟩ :: past) +
        staleWins (⟨before, .leave id now .returned, after⟩ :: past) =
      trialWins past + staleWins past + 1 := by
  cases kind : isTrial id past <;> simp [trialWins, staleWins, winsSinceProbe, noProbe, kind] <;> omega

/-- While HALF_OPEN the counter holds the successes since the probe, whoever's they are. -/
theorem successCount_eq_wins {config : BreakerConfig} {history : CallHistory ι} {calls : Calls ι}
    (run : Trace (Calls.step config) {} history calls) :
    calls.breaker.state = .HalfOpen →
      calls.breaker.store.record.successCount = trialWins history + staleWins history := by
  refine run.history_invariant (P := fun history calls => calls.breaker.state = .HalfOpen →
    calls.breaker.store.record.successCount = trialWins history + staleWins history) ?_ ?_
  · intro isHalfOpen
    cases isHalfOpen
  · intro past before event after _ counted taken isHalfOpen
    by_cases wasHalfOpen : before.breaker.state = .HalfOpen
    · have noProbe : ¬Probes ⟨before, event, after⟩ := by simp_all [Probes]
      have counted := counted wasHalfOpen
      cases halfOpen_step taken wasHalfOpen with
      | admits id now same | abandons id now same =>
        rw [same, counted]
        simp [trialWins, staleWins, winsSinceProbe, noProbe]
      | closes id now _ _ isClosed => simp [isClosed] at isHalfOpen
      | wins id now _ _ oneMore => rw [oneMore, counted, wins_returned past noProbe]
      | reopens id now _ isOpen => simp [isOpen] at isHalfOpen
    · obtain ⟨probes, zero⟩ := halfOpen_entered taken wasHalfOpen isHalfOpen
      simp [zero, trialWins, staleWins, winsSinceProbe, probes]

theorem staleWins_eq_zero {history : CallHistory ι} (only : OnlyTrials history) : staleWins history = 0 := by
  induction history with
  | nil => rfl
  | cons made past ih =>
    obtain ⟨before, event, after⟩ := made
    by_cases probes : Probes ⟨before, event, after⟩
    · simp [staleWins, winsSinceProbe, probes]
    · match event with
      | .enter _ _ =>
        simp only [OnlyTrials, probes, if_false] at only
        simpa [staleWins, winsSinceProbe, probes] using ih only
      | .leave _ _ (.raised _) =>
        simp only [OnlyTrials, probes, if_false] at only
        simpa [staleWins, winsSinceProbe, probes] using ih only.2
      | .leave id _ .returned =>
        simp only [OnlyTrials, probes, if_false] at only
        simpa [staleWins, winsSinceProbe, probes, only.1] using ih only.2

/-! ## The verdicts -/

/-- In every interleaving of protected calls, a HALF_OPEN breaker closes only on the
    success of an admitted call, when trials and stale calls together have succeeded
    `success_threshold` times since the probe, and reopens only on the failure of an
    admitted call; every success counts and every failure reopens, whoever's it is.
    When only trials have ended since the probe, the verdict is theirs. -/
theorem half_open_verdicts (config : BreakerConfig) (history : CallHistory ι) (calls after : Calls ι)
    (event : CallEvent ι) (run : Trace (Calls.step config) {} history calls)
    (taken : calls.step config event = some after) (isHalfOpen : calls.breaker.state = .HalfOpen) :
    (after.breaker.state = .Closed →
        (∃ id ∈ calls.inFlight, ∃ now, event = .leave id now .returned) ∧
          config.successThreshold ≤ trialWins (⟨calls, event, after⟩ :: history) +
            staleWins (⟨calls, event, after⟩ :: history)) ∧
      (after.breaker.state = .Open →
        ∃ id ∈ calls.inFlight, ∃ now, event = .leave id now (.raised true)) ∧
      (∀ id now, event = .leave id now .returned → after.breaker.state = .Closed ∨
        after.breaker.store.record.successCount = calls.breaker.store.record.successCount + 1) ∧
      (∀ id now, event = .leave id now (.raised true) → after.breaker.state = .Open) ∧
      (OnlyTrials (⟨calls, event, after⟩ :: history) →
        (after.breaker.state = .Closed →
            config.successThreshold ≤ trialWins (⟨calls, event, after⟩ :: history)) ∧
          (after.breaker.state = .Open →
            ∃ id ∈ calls.inFlight, isTrial id history = true ∧
              ∃ now, event = .leave id now (.raised true))) := by
  have counted := successCount_eq_wins run isHalfOpen
  have noProbe : ¬Probes ⟨calls, event, after⟩ := by simp_all [Probes]
  cases halfOpen_step taken isHalfOpen with
  | admits id now same | abandons id now same =>
    have stays : after.breaker.state = .HalfOpen := by simpa [same] using isHalfOpen
    simp [stays]
  | wins id now flying stays oneMore => simp [stays, oneMore]
  | closes id now flying enough isClosed =>
    have together := wins_returned history noProbe
    refine ⟨fun _ => ⟨⟨id, flying, now, rfl⟩, by omega⟩, by simp [isClosed], by simp [isClosed],
      by simp, fun only => ⟨fun _ => ?_, by simp [isClosed]⟩⟩
    have noStale := staleWins_eq_zero only
    omega
  | reopens id now flying isOpen =>
    refine ⟨by simp [isOpen], fun _ => ⟨id, flying, now, rfl⟩, by simp, fun _ _ _ => isOpen,
      fun only => ⟨by simp [isOpen], fun _ => ?_⟩⟩
    simp only [OnlyTrials, noProbe, if_false] at only
    exact ⟨id, flying, only.1, now, rfl⟩

theorem half_open_verdicts_trial_wins :
    ∃ (history : CallHistory ℕ) (calls after : Calls ℕ),
      Trace (Calls.step ⟨"auth".toList, 1, 30, 1⟩) {} history calls ∧
        calls.breaker.state = .HalfOpen ∧ after.breaker.state = .Closed ∧
        1 ≤ trialWins (⟨calls, .leave 2 40 .returned, after⟩ :: history) +
          staleWins (⟨calls, .leave 2 40 .returned, after⟩ :: history) := by
  obtain ⟨history, calls, run, after, taken, isHalfOpen, isClosed⟩ :=
    exists_trace_of_replay (Calls.step ⟨"auth".toList, 1, 30, 1⟩) {}
      [.enter 1 0, .leave 1 1 (.raised true), .enter 2 31]
      (fun _ (calls : Calls ℕ) =>
        ∃ after ∈ calls.step ⟨"auth".toList, 1, 30, 1⟩ (.leave 2 40 .returned),
          calls.breaker.state = .HalfOpen ∧ after.breaker.state = .Closed)
      (by decide +kernel)
  have verdict := half_open_verdicts ⟨"auth".toList, 1, 30, 1⟩ history calls after
    (.leave 2 40 .returned) run taken isHalfOpen
  exact ⟨history, calls, after, run, isHalfOpen, isClosed, (verdict.1 isClosed).2⟩

/-- Calls 1 and 2 are admitted while CLOSED; the failure of call 2 trips the breaker and
    call 3 is the trial.  The late success of call 1 then closes the breaker although
    no call admitted since the probe has succeeded. -/
theorem stale_success_closes :
    ∃ (history : CallHistory ℕ) (calls after : Calls ℕ),
      Trace (Calls.step ⟨"auth".toList, 1, 30, 1⟩) {} history calls ∧
        calls.step ⟨"auth".toList, 1, 30, 1⟩ (.leave 1 32 .returned) = some after ∧
        Chronological CallEvent.now (⟨calls, .leave 1 32 .returned, after⟩ :: history) ∧
        calls.breaker.state = .HalfOpen ∧ after.breaker.state = .Closed ∧
        trialWins (⟨calls, .leave 1 32 .returned, after⟩ :: history) = 0 := by
  obtain ⟨history, calls, run, after, taken, facts⟩ :=
    exists_trace_of_replay (Calls.step ⟨"auth".toList, 1, 30, 1⟩) {}
      [.enter 1 0, .enter 2 0, .leave 2 1 (.raised true), .enter 3 31]
      (fun history (calls : Calls ℕ) =>
        ∃ after ∈ calls.step ⟨"auth".toList, 1, 30, 1⟩ (.leave 1 32 .returned),
          Chronological CallEvent.now (⟨calls, .leave 1 32 .returned, after⟩ :: history) ∧
          calls.breaker.state = .HalfOpen ∧ after.breaker.state = .Closed ∧
          trialWins (⟨calls, .leave 1 32 .returned, after⟩ :: history) = 0)
      (by decide +kernel)
  exact ⟨history, calls, after, run, taken, facts⟩

end AutoSre.Resilience
