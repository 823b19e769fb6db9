import AutoSre.Chaos.ErrorSpread
import AutoSre.Resilience.CircuitBreaker

/-! # Error injection against a breaker

The drill of the postmortem: error injection is switched on in a dependency and calls go
to it one after another through a breaker.  The breaker counts the current streak of
injected errors, so it opens exactly when the accumulator produces a streak as long as
the threshold.
-/

namespace AutoSre.Chaos

open AutoSre.Lib AutoSre.Resilience

/-! ## The drill -/

/-- One call through the breaker, entered and left at the given times; a call that is let
    through fails when error injection says so. -/
def guardedCall (config : BreakerConfig) (enterAt leaveAt : ℚ) :
    CircuitBreaker InMemoryStore × ChaosState → CircuitBreaker InMemoryStore × ChaosState
  | (breaker, chaos) =>
    match breaker.enter config enterAt with
    | (false, breaker) => (breaker, chaos) -- rejected: the dependency is not asked
    | (true, breaker) =>
      let (inject, chaos) := chaos.shouldInjectError
      (breaker.leave config leaveAt (if inject then .raised true else .returned), chaos)

/-- The breaker and the dependency after `n` calls. -/
def drill (config : BreakerConfig) (enterAt leaveAt : ℕ → ℚ) (chaos : ChaosState) :
    ℕ → CircuitBreaker InMemoryStore × ChaosState
  | 0 => (.fresh, chaos)
  | n + 1 => guardedCall config (enterAt n) (leaveAt n) (drill config enterAt leaveAt chaos n)

/-! ## Streaks -/

section

variable (config : BreakerConfig) (enterAt leaveAt : ℕ → ℚ) {rate : ℚ} {chaos : ChaosState}

theorem guardedCall_spec (rateNonneg : 0 ≤ rate) (rateLe : rate ≤ 1) (n : ℕ)
    {reached : CircuitBreaker InMemoryStore × ChaosState}
    (counting : Counting (EvenSpread.streak rate n) reached.1)
    (injecting : Injecting rate (EvenSpread.level rate n) reached.2)
    (positive : 1 ≤ config.failureThreshold) (enterTime leaveTime : ℚ) :
    let after := guardedCall config enterTime leaveTime reached
    if config.failureThreshold ≤ EvenSpread.streak rate (n + 1) then after.1.state = .Open
    else Counting (EvenSpread.streak rate (n + 1)) after.1 ∧
      Injecting rate (EvenSpread.level rate (n + 1)) after.2 := by
  obtain ⟨decision, moved⟩ := injecting.shouldInjectError rateNonneg (EvenSpread.level_lt_one rateLe n)
  simp only [guardedCall, CircuitBreaker.enter_of_closed counting.closed, EvenSpread.streak, ← decision]
  cases inject : reached.2.shouldInjectError.1 with
  | true =>
    have left := counting.raised config leaveTime
    simp only [if_true]
    split at left
    next opened =>
      rw [if_pos opened]
      exact left
    next short =>
      rw [if_neg short]
      exact ⟨left, moved⟩
  | false =>
    -- a success zeroes the count, and a threshold of at least one is not reached by zero
    have notYet : ¬config.failureThreshold ≤ 0 := by omega
    simp only [Bool.false_eq_true, if_false, notYet]
    exact ⟨counting.returned config leaveTime, moved⟩

theorem drill_counting (injecting : Injecting rate 0 chaos) (rateNonneg : 0 ≤ rate) (rateLe : rate ≤ 1)
    (positive : 1 ≤ config.failureThreshold) (n : ℕ)
    (short : ∀ m ≤ n, EvenSpread.streak rate m < config.failureThreshold) :
    Counting (EvenSpread.streak rate n) (drill config enterAt leaveAt chaos n).1 ∧
      Injecting rate (EvenSpread.level rate n) (drill config enterAt leaveAt chaos n).2 := by
  induction n with
  | zero => exact ⟨⟨rfl, rfl⟩, injecting⟩
  | succ n ih =>
    obtain ⟨counting, moved⟩ := ih fun m le => short m (by omega)
    have next := guardedCall_spec config rateNonneg rateLe n counting moved positive
      (enterAt n) (leaveAt n)
    rw [if_neg (not_le.mpr (short (n + 1) le_rfl))] at next
    exact next

/-- The breaker opens when and only when a streak reaches the threshold. -/
theorem drill_opens_iff (injecting : Injecting rate 0 chaos) (rateNonneg : 0 ≤ rate) (rateLe : rate ≤ 1)
    (positive : 1 ≤ config.failureThreshold) :
    (∃ n, (drill config enterAt leaveAt chaos n).1.state = .Open) ↔
      ∃ n, config.failureThreshold ≤ EvenSpread.streak rate n := by
  constructor
  · rintro ⟨n, opened⟩
    by_contra! short
    obtain ⟨⟨closed, -⟩, -⟩ := drill_counting config enterAt leaveAt injecting rateNonneg rateLe
      positive n fun m _ => short m
    rw [closed] at opened
    cases opened
  · intro exists_streak
    -- the first streak that is long enough is the one that opens the breaker
    classical
    have reached := Nat.find_spec exists_streak
    have earlier : ∀ m < Nat.find exists_streak, EvenSpread.streak rate m < config.failureThreshold :=
      fun m before => not_le.mp (Nat.find_min exists_streak before)
    cases first : Nat.find exists_streak with
    | zero =>
      rw [first] at reached
      exact absurd (positive.trans reached) (by simp [EvenSpread.streak])
    | succ n =>
      rw [first] at reached earlier
      obtain ⟨counting, moved⟩ := drill_counting config enterAt leaveAt injecting rateNonneg rateLe
        positive n fun m le => earlier m (by omega)
      have next := guardedCall_spec config rateNonneg rateLe n counting moved positive
        (enterAt n) (leaveAt n)
      rw [if_pos reached] at next
      exact ⟨n + 1, next⟩

end

/-! ## The rates that open a breaker -/

/-- Whatever the breaker's other settings, the times of the calls and the state before
    error injection was enabled: the breaker opens exactly at the rates above
    `(k - 1) / k`. -/
theorem drill_opens_iff_rate (config : BreakerConfig) (positive : 1 ≤ config.failureThreshold)
    (enterAt leaveAt : ℕ → ℚ) (w : World) (errors : ErrorConfig) (enabled : errors.enable = true) :
    (∃ n, (drill config enterAt leaveAt (w.setErrors errors).2.state n).1.state = .Open) ↔
      ((config.failureThreshold : ℚ) - 1) / config.failureThreshold < errors.ratePercent / 100 := by
  obtain ⟨rateNonneg, rateLe⟩ := errors.rate_bounds
  rw [drill_opens_iff config enterAt leaveAt (setErrors_injecting w enabled) (by linarith) (by linarith)
      positive,
    EvenSpread.exists_le_streak_iff (by linarith) (by linarith)]
  have threshold : (0 : ℚ) < config.failureThreshold := by exact_mod_cast positive
  rw [div_lt_iff₀ threshold]
  constructor <;> intro below <;> linarith

/-- The drill of the postmortem: against a threshold of five a rate of 80% spreads the
    errors too evenly, and 81% does not. -/
theorem drill_opens_above_eighty_percent :
    (¬∃ n, (drill { name := "auth".toList } (fun n => n) (fun n => n)
        (({} : World).setErrors ⟨true, 80, by decide⟩).2.state n).1.state = .Open) ∧
      ∃ n, (drill { name := "auth".toList } (fun n => n) (fun n => n)
        (({} : World).setErrors ⟨true, 81, by decide⟩).2.state n).1.state = .Open := by
  constructor
  · rw [drill_opens_iff_rate _ (by decide) _ _ _ _ rfl]
    norm_num
  · rw [drill_opens_iff_rate _ (by decide) _ _ _ _ rfl]
    norm_num

end AutoSre.Chaos
