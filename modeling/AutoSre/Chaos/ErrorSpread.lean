import AutoSre.Chaos.Controller
import AutoSre.Lib.EvenSpread

/-! # Error injection is evenly spread

`should_inject_error` is a step of the accumulator of `EvenSpread`.  Between two requests
that set the errors nothing else touches it, so the decisions made meanwhile, by
data-plane requests and by jobs, are the first steps of an accumulator that began at zero.
-/

namespace AutoSre.Chaos

open AutoSre.Lib AutoSre.Lib.Python

/-! ## The accumulator -/

/-- Error injection at `rate`, as the accumulator stands at `level`. -/
structure Injecting (rate level : ℚ) (chaos : ChaosState) : Prop where
  enabled : chaos.errorEnabled = true
  rate_eq : chaos.errorRate = rate
  level_eq : chaos.errorAccumulator = level

/-- The decision is a step of the accumulator, also at rate zero, where the accumulator is
    left alone. -/
theorem Injecting.shouldInjectError {rate level : ℚ} {chaos : ChaosState}
    (injecting : Injecting rate level chaos) (rateNonneg : 0 ≤ rate) (below : level < 1) :
    chaos.shouldInjectError.1 = (EvenSpread.accumulate rate level).1 ∧
      Injecting rate (EvenSpread.accumulate rate level).2 chaos.shouldInjectError.2 := by
  obtain ⟨enabled, rate_eq, level_eq⟩ := injecting
  simp only [ChaosState.shouldInjectError, EvenSpread.accumulate, enabled, rate_eq, level_eq, true_and]
  split
  · split
    · exact ⟨rfl, rfl, rfl, rfl⟩
    · exact ⟨rfl, rfl, rfl, rfl⟩
  next zero =>
    obtain rfl : rate = 0 := le_antisymm (not_lt.mp zero) rateNonneg
    simp only [add_zero, not_le.mpr below, if_false]
    exact ⟨trivial, enabled, rate_eq, level_eq⟩

theorem setErrors_injecting (w : World) {errors : ErrorConfig} (enabled : errors.enable = true) :
    Injecting (errors.ratePercent / 100) 0 (w.setErrors errors).2.state := by
  constructor <;> simp [World.setErrors, enabled]

/-! ## Decisions in a run -/

/-- What happens to a controller: an event of its own, or a job of the worker that asks
    for a decision. -/
inductive Happening where
  | chaos (event : Event)
  | job

def World.happen (w : World) : Happening → Option World
  | .chaos event => w.step event
  | .job => some { w with state := w.state.shouldInjectError.2 }

def World.decision (w : World) : Happening → Option Bool
  | .job => some w.state.shouldInjectError.1
  | .chaos (.wake _) => some w.state.shouldInjectError.1
  | .chaos (.arrive path) =>
    if World.isControlPath path then none
    else if w.state.latencyEnabled ∧ 0 < w.state.latencySeconds then none -- asks after its sleep
    else some w.state.shouldInjectError.1
  | .chaos (.latency _) | .chaos (.errors _) | .chaos (.cpu _) | .chaos (.memory _) => none
  | .chaos .reset | .chaos .status | .chaos (.start _) | .chaos (.finish _) => none

abbrev InjectionHistory := List (Transition World Happening)

def decisions : InjectionHistory → List Bool
  | [] => []
  | made :: past => decisions past ++ (made.before.decision made.label).toList

/-- Neither an errors request nor a reset. -/
def KeepsErrors : Happening → Prop
  | .chaos (.errors _) | .chaos .reset => False
  | .chaos (.latency _) | .chaos (.cpu _) | .chaos (.memory _) | .chaos .status => True
  | .chaos (.start _) | .chaos (.finish _) | .chaos (.arrive _) | .chaos (.wake _) | .job => True

instance : DecidablePred KeepsErrors
  | .chaos (.errors _) | .chaos .reset => .isFalse not_false
  | .chaos (.latency _) | .chaos (.cpu _) | .chaos (.memory _) | .chaos .status => .isTrue trivial
  | .chaos (.start _) | .chaos (.finish _) | .chaos (.arrive _) | .chaos (.wake _) | .job => .isTrue trivial

theorem World.injectError_state (w : World) : w.injectError.2.state = w.state.shouldInjectError.2 := by
  simp only [World.injectError]
  split <;> rfl

theorem World.injectError_counts (w : World) :
    w.injectError.2.errorInjectionsTotal =
      w.errorInjectionsTotal + if w.state.shouldInjectError.1 then 1 else 0 := by
  simp only [World.injectError]
  split <;> simp

theorem World.step_counts {w after : World} {event : Event} (taken : w.step event = some after) :
    after.errorInjectionsTotal =
      w.errorInjectionsTotal + if w.decision (.chaos event) = some true then 1 else 0 := by
  cases World.step_moves taken with
  | latency body => cases body.validate <;> rfl
  | errors body => cases body.validate <;> rfl
  | cpu body => cases body.validate <;> rfl
  | memory body =>
    obtain ⟨eventsTotal, events, scheduled, handled⟩ := w.handle_triggerMemory_eq body.validate
    rw [handled]
    rfl
  | reset | status => rfl
  | start task member => cases task <;> rfl
  | finish task member => cases task <;> rfl
  | arrive path =>
    simp only [World.arrive, World.decision]
    split
    next isControl => rfl
    next isData =>
      split
      next delayed => rfl
      next prompt => simp [World.injectError_counts]
  | wake delay asleep => simp [World.wake, World.decision, World.injectError_counts]

section

variable {rate : ℚ} {n : ℕ}

theorem Injecting.decide {state : ChaosState} (injecting : Injecting rate (EvenSpread.level rate n) state)
    (rateNonneg : 0 ≤ rate) (rateLe : rate ≤ 1) :
    state.shouldInjectError.1 = EvenSpread.fires rate n ∧
      Injecting rate (EvenSpread.level rate (n + 1)) state.shouldInjectError.2 :=
  injecting.shouldInjectError rateNonneg (EvenSpread.level_lt_one rateLe n)

theorem Injecting.congr {level : ℚ} {state after : ChaosState} (injecting : Injecting rate level state)
    (enabled : after.errorEnabled = state.errorEnabled) (sameRate : after.errorRate = state.errorRate)
    (sameLevel : after.errorAccumulator = state.errorAccumulator) : Injecting rate level after :=
  ⟨enabled.trans injecting.enabled, sameRate.trans injecting.rate_eq, sameLevel.trans injecting.level_eq⟩

theorem Injecting.happen {w after : World} {happening : Happening}
    (injecting : Injecting rate (EvenSpread.level rate n) w.state) (rateNonneg : 0 ≤ rate) (rateLe : rate ≤ 1)
    (keeps : KeepsErrors happening) (taken : w.happen happening = some after) :
    (w.decision happening = none ∧ Injecting rate (EvenSpread.level rate n) after.state) ∨
      (w.decision happening = some (EvenSpread.fires rate n) ∧
        Injecting rate (EvenSpread.level rate (n + 1)) after.state) := by
  obtain ⟨decided, moved⟩ := injecting.decide rateNonneg rateLe
  cases happening with
  | job =>
    cases taken
    exact .inr ⟨congrArg some decided, moved⟩
  | chaos event =>
    cases World.step_moves taken with
    | errors body => cases keeps
    | reset => cases keeps
    | latency body =>
      cases body.validate with
      | none => exact .inl ⟨rfl, injecting⟩
      | some config => exact .inl ⟨rfl, injecting.congr rfl rfl rfl⟩
    | cpu body =>
      cases body.validate with
      | none => exact .inl ⟨rfl, injecting⟩
      | some config => exact .inl ⟨rfl, injecting⟩
    | memory body =>
      obtain ⟨eventsTotal, events, scheduled, handled⟩ := w.handle_triggerMemory_eq body.validate
      rw [handled]
      exact .inl ⟨rfl, injecting⟩
    | status => exact .inl ⟨rfl, injecting⟩
    | start task member => cases task <;> exact .inl ⟨rfl, injecting.congr rfl rfl rfl⟩
    | finish task member => cases task <;> exact .inl ⟨rfl, injecting.congr rfl rfl rfl⟩
    | arrive path =>
      simp only [World.decision, World.arrive]
      split
      next isControl => exact .inl ⟨rfl, injecting⟩
      next isData =>
        split
        next delayed => exact .inl ⟨rfl, injecting⟩
        next prompt =>
          rw [World.injectError_state]
          exact .inr ⟨congrArg some decided, moved⟩
    | wake delay asleep =>
      simp only [World.wake]
      rw [World.injectError_state]
      exact .inr ⟨congrArg some decided, moved⟩

/-- The decisions of a run are the first steps of the accumulator. -/
theorem decisions_run {start w : World} {history : InjectionHistory}
    (injecting : Injecting rate 0 start.state) (rateNonneg : 0 ≤ rate) (rateLe : rate ≤ 1)
    (run : Trace World.happen start history w) (keeps : ∀ made ∈ history, KeepsErrors made.label) :
    ∃ n, decisions history = (List.range n).map (EvenSpread.fires rate) ∧
      Injecting rate (EvenSpread.level rate n) w.state := by
  induction run with
  | nil => exact ⟨0, rfl, injecting⟩
  | @snoc past before happening after _ taken ih =>
    rw [List.forall_mem_cons] at keeps
    obtain ⟨n, sameDecisions, reached⟩ := ih keeps.2
    obtain ⟨undecided, kept⟩ | ⟨decided, moved⟩ := reached.happen rateNonneg rateLe keeps.1 taken
    · exact ⟨n, by simp [decisions, undecided, sameDecisions], kept⟩
    · exact ⟨n + 1, by simp [decisions, decided, sameDecisions, List.range_succ], moved⟩

end

theorem count_take_fires (rate : ℚ) {n k : ℕ} (within : k ≤ n) :
    (((List.range n).map (EvenSpread.fires rate)).take k).count true = EvenSpread.fired rate k := by
  rw [← List.map_take, List.take_range, min_eq_left within, List.count, List.countP_map, EvenSpread.fired]
  congr 1
  funext i
  simp

/-- After an errors request that enables injection, and until the next one or a reset:
    of the first `n` decisions exactly `⌊n * rate⌋` inject, of any `m` in a row the mean
    rounded down or up, and the accumulator stays in `[0, 1)`. -/
theorem errors_evenly_spread (w : World) (errors : ErrorConfig) (enabled : errors.enable = true)
    (history : InjectionHistory) (after : World)
    (run : Trace World.happen (w.setErrors errors).2 history after)
    (keeps : ∀ made ∈ history, KeepsErrors made.label) :
    (∀ n ≤ (decisions history).length,
        (((decisions history).take n).count true : ℤ) = ⌊n * (errors.ratePercent / 100)⌋) ∧
      (∀ k m, k + m ≤ (decisions history).length →
        ((((decisions history).drop k).take m).count true : ℤ) = ⌊m * (errors.ratePercent / 100)⌋ ∨
          ((((decisions history).drop k).take m).count true : ℤ) = ⌈m * (errors.ratePercent / 100)⌉) ∧
      Always (fun _ w => 0 ≤ w.state.errorAccumulator ∧ w.state.errorAccumulator < 1)
        (w.setErrors errors).2 history := by
  obtain ⟨percentNonneg, percentLe⟩ := errors.rate_bounds
  have rateNonneg : 0 ≤ errors.ratePercent / 100 := by linarith
  have rateLe : errors.ratePercent / 100 ≤ 1 := by linarith
  have injecting := setErrors_injecting w enabled
  obtain ⟨total, sameDecisions, _⟩ := decisions_run injecting rateNonneg rateLe run keeps
  have length : (decisions history).length = total := by simp [sameDecisions]
  have counted {k : ℕ} (within : k ≤ (decisions history).length) :
      ((decisions history).take k).count true = EvenSpread.fired (errors.ratePercent / 100) k := by
    rw [sameDecisions]
    exact count_take_fires _ (length ▸ within)
  refine ⟨?_, ?_, ?_⟩
  · intro n within
    rw [counted within]
    exact EvenSpread.fired_eq_floor rateNonneg rateLe n
  · intro k m within
    have whole := counted within
    rw [List.take_add, List.count_append, counted (by omega)] at whole
    have window : ((((decisions history).drop k).take m).count true : ℤ) =
        EvenSpread.fired (errors.ratePercent / 100) (k + m) - EvenSpread.fired (errors.ratePercent / 100) k := by
      omega
    rw [window]
    exact EvenSpread.fired_window rateNonneg rateLe k m
  · apply run.always_of_forall _ keeps
    intro past reached earlier kept
    obtain ⟨n, _, moved⟩ := decisions_run injecting rateNonneg rateLe earlier kept
    rw [moved.level_eq]
    exact ⟨EvenSpread.level_nonneg rateNonneg n, EvenSpread.level_lt_one rateLe n⟩

theorem errors_evenly_spread_two_of_five :
    ∃ (history : InjectionHistory) (after : World),
      Trace World.happen (({} : World).setErrors ⟨true, 40, by decide⟩).2 history after ∧
        (decisions history).length = 5 ∧ ((decisions history).take 5).count true = 2 := by
  obtain ⟨history, after, run, keeps, five⟩ :=
    exists_trace_of_replay World.happen (({} : World).setErrors ⟨true, 40, by decide⟩).2
      [.job, .chaos (.arrive "/orders".toList), .job, .chaos (.latency { enable := some true }),
        .chaos (.arrive "/orders".toList), .chaos (.wake 1), .job]
      (fun history _ => (∀ made ∈ history, KeepsErrors made.label) ∧ (decisions history).length = 5)
      (by decide +kernel)
  obtain ⟨spread, _⟩ := errors_evenly_spread {} ⟨true, 40, by decide⟩ rfl history after run keeps
  have two := spread 5 five.ge
  norm_num at two
  exact ⟨history, after, run, five, by exact_mod_cast two⟩

end AutoSre.Chaos
