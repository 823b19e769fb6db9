import Mathlib.Algebra.Order.Archimedean.Basic
import Mathlib.Algebra.Order.Floor.Ring
import Mathlib.Tactic.Linarith
import Mathlib.Tactic.Ring

/-! # Evenly spread events

An accumulator gains `rate` at every step and fires when it reaches one, giving the one
back.  The events come evenly spread, and there are two questions.

How many come in a row: `exists_le_streak_iff` gives the longest streak for every rate.
Both directions rest on `level + streak * (1 - rate)`.  A firing step leaves it alone,
so it is the level at which the streak began, and that is below one.  A step that does
not fire raises it by at least `1 - bound * (1 - rate)` as long as streaks stay below
`bound`, so they cannot stay below it forever when that is positive.

How many come in a stretch of steps: what was gained is in the level or was given back,
so `level + fired` is `n * rate`, and a level between zero and one leaves no choice.
-/

namespace AutoSre.Lib.EvenSpread

variable {α : Type*} [Field α] [LinearOrder α]

/-- Whether this step fires, and the level afterwards. -/
def accumulate (rate level : α) : Bool × α :=
  if 1 ≤ level + rate then (true, level + rate - 1) else (false, level + rate)

def level (rate : α) : ℕ → α
  | 0 => 0
  | n + 1 => (accumulate rate (level rate n)).2

/-- How many steps in a row have fired after `n` steps. -/
def streak (rate : α) : ℕ → ℕ
  | 0 => 0
  | n + 1 => if (accumulate rate (level rate n)).1 then streak rate n + 1 else 0

variable {rate : α}

theorem step_cases (rate : α) (n : ℕ) :
    (1 ≤ level rate n + rate ∧ level rate (n + 1) = level rate n + rate - 1 ∧
        streak rate (n + 1) = streak rate n + 1) ∨
      (level rate n + rate < 1 ∧ level rate (n + 1) = level rate n + rate ∧
        streak rate (n + 1) = 0) := by
  by_cases fires : 1 ≤ level rate n + rate
  · exact .inl ⟨fires, by simp [level, accumulate, fires], by simp [streak, accumulate, fires]⟩
  · exact .inr ⟨not_le.mp fires, by simp [level, accumulate, fires], by simp [streak, accumulate, fires]⟩

variable [IsStrictOrderedRing α]

theorem level_nonneg (rateNonneg : 0 ≤ rate) (n : ℕ) : 0 ≤ level rate n := by
  induction n with
  | zero => exact le_rfl
  | succ n ih =>
    obtain ⟨fires, next, -⟩ | ⟨-, next, -⟩ := step_cases rate n
    · rw [next]
      linarith
    · rw [next]
      exact add_nonneg ih rateNonneg

theorem level_add_streak_lt_one (rate : α) (n : ℕ) :
    level rate n + streak rate n * (1 - rate) < 1 := by
  induction n with
  | zero => simp [level, streak]
  | succ n ih =>
    obtain ⟨-, nextLevel, nextStreak⟩ | ⟨quiet, nextLevel, nextStreak⟩ := step_cases rate n
    · rw [nextLevel, nextStreak, Nat.cast_succ]
      linarith
    · rw [nextLevel, nextStreak]
      simpa using quiet

theorem level_lt_one (rateLe : rate ≤ 1) (n : ℕ) : level rate n < 1 := by
  have below := level_add_streak_lt_one rate n
  have := mul_nonneg (Nat.cast_nonneg (α := α) (streak rate n)) (sub_nonneg.mpr rateLe)
  linarith

theorem lt_one_of_le_streak (rateNonneg : 0 ≤ rate) (rateLe : rate ≤ 1) {bound n : ℕ}
    (long : bound ≤ streak rate n) : bound * (1 - rate) < 1 := by
  have below := level_add_streak_lt_one rate n
  have nonneg := level_nonneg rateNonneg n
  have : (bound : α) * (1 - rate) ≤ streak rate n * (1 - rate) :=
    mul_le_mul_of_nonneg_right (Nat.cast_le.mpr long) (sub_nonneg.mpr rateLe)
  linarith

/-- While streaks stay below `bound`, every `bound` steps raise the level a streak begins
    at by what `bound` firing steps in a row would have left over. -/
theorem progress (rateLe : rate ≤ 1) {bound : ℕ} (leftover : bound * (1 - rate) < 1)
    (short : ∀ n, streak rate n < bound) (n : ℕ) :
    (1 - bound * (1 - rate)) * (n - streak rate n) ≤
      bound * (level rate n + streak rate n * (1 - rate)) := by
  induction n with
  | zero => simp [level, streak]
  | succ n ih =>
    obtain ⟨-, nextLevel, nextStreak⟩ | ⟨-, nextLevel, nextStreak⟩ := step_cases rate n
    · -- a firing step gives back as much as the longer streak adds
      rw [nextLevel, nextStreak, Nat.cast_succ, Nat.cast_succ]
      have same : level rate n + rate - 1 + (streak rate n + 1) * (1 - rate) =
          level rate n + streak rate n * (1 - rate) := by ring
      rw [same, add_sub_add_right_eq_sub]
      exact ih
    · rw [nextLevel, nextStreak, Nat.cast_succ, Nat.cast_zero]
      -- the streak that ends here was shorter than `bound`
      have ended : (streak rate n : α) + 1 ≤ bound := by exact_mod_cast short n
      have steps : (1 - bound * (1 - rate)) * (streak rate n + 1) ≤ (1 - bound * (1 - rate)) * bound :=
        mul_le_mul_of_nonneg_left ended (sub_nonneg.mpr leftover.le)
      have drop : (streak rate n : α) * (1 - rate) ≤ (bound - 1) * (1 - rate) :=
        mul_le_mul_of_nonneg_right (by linarith) (sub_nonneg.mpr rateLe)
      have paid := mul_le_mul_of_nonneg_left drop (Nat.cast_nonneg (α := α) bound)
      linarith

/-- Streaks of `bound` steps occur exactly at the rates above `1 - 1 / bound`. -/
theorem exists_le_streak_iff [Archimedean α] (rateNonneg : 0 ≤ rate) (rateLe : rate ≤ 1) (bound : ℕ) :
    (∃ n, bound ≤ streak rate n) ↔ bound * (1 - rate) < 1 := by
  constructor
  · rintro ⟨n, long⟩
    exact lt_one_of_le_streak rateNonneg rateLe long
  · intro leftover
    by_contra! short
    -- after enough steps the progress exceeds what a level below one allows
    obtain ⟨n, far⟩ := exists_lt_nsmul (sub_pos.mpr leftover) (bound + bound : α)
    have raised := progress rateLe leftover short n
    have below := mul_le_mul_of_nonneg_left (level_add_streak_lt_one rate n).le
      (Nat.cast_nonneg (α := α) bound)
    have ended : (1 - bound * (1 - rate)) * streak rate n ≤ (1 : α) * bound := by
      refine mul_le_mul ?_ (Nat.cast_le.mpr (short n).le) (Nat.cast_nonneg _) zero_le_one
      have := mul_nonneg (Nat.cast_nonneg (α := α) bound) (sub_nonneg.mpr rateLe)
      linarith
    rw [nsmul_eq_mul] at far
    linarith

/-! ## How many steps fire -/

def fires (rate : α) (n : ℕ) : Bool := (accumulate rate (level rate n)).1

def fired (rate : α) (n : ℕ) : ℕ := (List.range n).countP (fires rate)

omit [IsStrictOrderedRing α] in
theorem level_add_fired (rate : α) (n : ℕ) : level rate n + fired rate n = n * rate := by
  induction n with
  | zero => simp [level, fired]
  | succ n ih =>
    have counted : fired rate (n + 1) = fired rate n + if fires rate n then 1 else 0 := by
      simp [fired, List.range_succ, List.countP_append, List.countP_singleton]
    rw [counted]
    push_cast
    by_cases reached : 1 ≤ level rate n + rate
    · simp only [level, fires, accumulate, reached, if_true]
      rw [add_mul, one_mul, ← ih]
      ring
    · simp only [level, fires, accumulate, reached, if_false, Bool.false_eq_true]
      rw [add_mul, one_mul, ← ih]
      ring

variable [FloorRing α]

theorem fired_eq_floor (rateNonneg : 0 ≤ rate) (rateLe : rate ≤ 1) (n : ℕ) :
    (fired rate n : ℤ) = ⌊n * rate⌋ := by
  have total := level_add_fired rate n
  have nonneg := level_nonneg rateNonneg n
  have below := level_lt_one rateLe n
  refine (Int.floor_eq_iff.mpr ⟨?_, ?_⟩).symm
  · rw [Int.cast_natCast]
    linarith
  · rw [Int.cast_natCast]
    linarith

/-- Of `m` steps in a row, the mean rounded down or up fires. -/
theorem fired_window (rateNonneg : 0 ≤ rate) (rateLe : rate ≤ 1) (k m : ℕ) :
    (fired rate (k + m) - fired rate k : ℤ) = ⌊m * rate⌋ ∨
      (fired rate (k + m) - fired rate k : ℤ) = ⌈m * rate⌉ := by
  have started := level_add_fired rate k
  have ended := level_add_fired rate (k + m)
  have startNonneg := level_nonneg rateNonneg k
  have startBelow := level_lt_one rateLe k
  have endNonneg := level_nonneg rateNonneg (k + m)
  have endBelow := level_lt_one rateLe (k + m)
  push_cast at ended
  rcases le_total (fired rate (k + m) - fired rate k : α) (m * rate) with few | many
  · refine .inl (Int.floor_eq_iff.mpr ⟨?_, ?_⟩).symm
    · push_cast
      exact few
    · push_cast
      linarith
  · refine .inr (Int.ceil_eq_iff.mpr ⟨?_, ?_⟩).symm
    · push_cast
      linarith
    · push_cast
      exact many

/-! ## Steps of either kind come again and again -/

omit [IsStrictOrderedRing α] [FloorRing α] in
theorem fired_succ (rate : α) (n : ℕ) : fired rate (n + 1) = fired rate n + if fires rate n then 1 else 0 := by
  simp [fired, List.range_succ, List.countP_append, List.countP_singleton]

omit [IsStrictOrderedRing α] [FloorRing α] in
theorem fired_of_alike {rate : α} {n : ℕ} {fire : Bool} (m : ℕ) (alike : ∀ k < m, fires rate (n + k) = fire) :
    fired rate (n + m) = fired rate n + if fire then m else 0 := by
  induction m with
  | zero => simp
  | succ m ih =>
    rw [← add_assoc, fired_succ, ih fun k before => alike k (by omega), alike m m.lt_succ_self]
    cases fire with
    | true => simp only [if_true, add_assoc]
    | false => simp

omit [FloorRing α] in
/-- At a rate strictly between zero and one there is always a later step that fires, and
    one that does not. -/
theorem exists_fires [Archimedean α] {rate : α} (positive : 0 < rate) (less : rate < 1) (n : ℕ) (fire : Bool) :
    ∃ k, fires rate (n + k) = fire := by
  by_contra! never
  have alike : ∀ k, fires rate (n + k) = !fire := fun k => by
    cases fire <;> simpa using never k
  have started := level_add_fired rate n
  have startNonneg := level_nonneg positive.le n
  have startBelow := level_lt_one less.le n
  cases fire with
  | true =>
    obtain ⟨m, far⟩ := exists_lt_nsmul positive (1 : α)
    have ended := level_add_fired rate (n + m)
    have endBelow := level_lt_one less.le (n + m)
    rw [fired_of_alike m fun k _ => alike k] at ended
    simp only [Bool.not_true, Bool.false_eq_true, if_false, add_zero] at ended
    rw [nsmul_eq_mul] at far
    push_cast at ended
    linarith
  | false =>
    obtain ⟨m, far⟩ := exists_lt_nsmul (sub_pos.mpr less) (1 : α)
    have ended := level_add_fired rate (n + m)
    have endNonneg := level_nonneg positive.le (n + m)
    rw [fired_of_alike m fun k _ => alike k] at ended
    simp only [Bool.not_false, if_true] at ended
    rw [nsmul_eq_mul] at far
    push_cast at ended
    linarith

end AutoSre.Lib.EvenSpread
