import Mathlib.Algebra.Order.Field.Basic
import Mathlib.Tactic.Linarith
import Mathlib.Tactic.Ring

/-! # Token buckets

A bucket holds at most `burst` tokens and gains `rate` tokens per unit of time.  Three
facts about it are proved here over any linearly ordered field.

* `Bounded` is the potential argument: what was taken from `since` on, plus what is
  left, never exceeds `burst + rate * (last - since)`.
* `credit_lt_iff` is the closed form of the iterated capped refill: the level is the
  least of the values the cap gives at each earlier visit.
* `refill_of_awaits` is about a bucket too low to take `tokens` from: however often it is
  looked at meanwhile, it holds them from one fixed time on.
-/

namespace AutoSre.Lib.TokenBucket

variable {α : Type*} [Field α] [LinearOrder α]

def refill (rate burst level elapsed : α) : α := min burst (level + elapsed * rate)

theorem refill_le_burst (rate burst level elapsed : α) : refill rate burst level elapsed ≤ burst :=
  min_le_left _ _

theorem refill_le_add (rate burst level elapsed : α) :
    refill rate burst level elapsed ≤ level + elapsed * rate :=
  min_le_right _ _

variable [IsStrictOrderedRing α]

theorem refill_nonneg {rate burst level elapsed : α} (rateNonneg : 0 ≤ rate) (burstNonneg : 0 ≤ burst)
    (levelNonneg : 0 ≤ level) (elapsedNonneg : 0 ≤ elapsed) : 0 ≤ refill rate burst level elapsed :=
  le_min burstNonneg (add_nonneg levelNonneg (mul_nonneg elapsedNonneg rateNonneg))

/-! ## The potential of a bucket -/

/-- A bucket last touched at `last` with `level` tokens left, of which `spent` tokens
    were taken from `since` on. -/
structure Bounded (rate burst since spent level last : α) : Prop where
  level_nonneg : 0 ≤ level
  level_le : level ≤ burst
  untouched : last < since → spent = 0
  potential : since ≤ last → spent + level ≤ burst + rate * (last - since)

namespace Bounded

variable {rate burst since spent level last : α}

theorem full (rateNonneg : 0 ≤ rate) (burstNonneg : 0 ≤ burst) (since last : α) :
    Bounded rate burst since 0 burst last where
  level_nonneg := burstNonneg
  level_le := le_rfl
  untouched _ := rfl
  potential after := by
    have := mul_nonneg rateNonneg (sub_nonneg.mpr after)
    linarith

theorem refuse (bounded : Bounded rate burst since spent level last) (rateNonneg : 0 ≤ rate)
    (burstNonneg : 0 ≤ burst) {now : α} (later : last ≤ now) :
    Bounded rate burst since spent (refill rate burst level (now - last)) now where
  level_nonneg := refill_nonneg rateNonneg burstNonneg bounded.level_nonneg (sub_nonneg.mpr later)
  level_le := refill_le_burst _ _ _ _
  untouched before := bounded.untouched (later.trans_lt before)
  potential after := by
    rcases lt_or_ge last since with before | inside
    · have := mul_nonneg rateNonneg (sub_nonneg.mpr after)
      have := refill_le_burst rate burst level (now - last)
      rw [bounded.untouched before]
      linarith
    · calc spent + refill rate burst level (now - last)
          ≤ spent + (level + (now - last) * rate) := by gcongr; exact refill_le_add _ _ _ _
        _ = spent + level + (now - last) * rate := by ring
        _ ≤ burst + rate * (last - since) + (now - last) * rate :=
          add_le_add_left (bounded.potential inside) _
        _ = burst + rate * (now - since) := by ring

theorem serve (bounded : Bounded rate burst since spent level last) (rateNonneg : 0 ≤ rate)
    (burstNonneg : 0 ≤ burst) {now tokens : α} (later : last ≤ now) (tokensNonneg : 0 ≤ tokens)
    (enough : tokens ≤ refill rate burst level (now - last)) :
    Bounded rate burst since (if since ≤ now then spent + tokens else spent)
      (refill rate burst level (now - last) - tokens) now := by
  have visited := bounded.refuse rateNonneg burstNonneg later
  have capped := refill_le_burst rate burst level (now - last)
  refine ⟨by linarith, by linarith, fun before => ?_, fun after => ?_⟩
  · rw [if_neg before.not_ge]
    exact visited.untouched before
  · rw [if_pos after]
    have := visited.potential after
    linarith

theorem spent_le (bounded : Bounded rate burst since spent level last) (rateNonneg : 0 ≤ rate)
    {until' : α} (after : since ≤ last) (ends : last ≤ until') :
    spent ≤ burst + rate * (until' - since) := by
  have := bounded.potential after
  have := bounded.level_nonneg
  have : rate * (last - since) ≤ rate * (until' - since) :=
    mul_le_mul_of_nonneg_left (by linarith) rateNonneg
  linarith

end Bounded

/-! ## The closed form -/

/-- The level found at `now` when one token was taken at each of the earlier times,
    latest first, from a bucket that was full at the first of them. -/
def credit (rate burst : α) : α → List α → α
  | _, [] => burst
  | now, time :: earlier => refill rate burst (credit rate burst time earlier - 1) (now - time)

theorem credit_lt_iff (rate burst now amount : α) (times : List α) :
    credit rate burst now times < amount ↔
      ∃ (n : ℕ) (time : α), (now :: times)[n]? = some time ∧ burst + rate * (now - time) - n < amount := by
  induction times generalizing now amount with
  | nil =>
    constructor
    · intro below
      exact ⟨0, now, rfl, by simpa [credit] using below⟩
    · rintro ⟨n, time, found, below⟩
      cases n with
      | zero =>
        cases found
        simpa [credit] using below
      | succ n => simp at found
  | cons time earlier ih =>
    -- the cap bites at `now`, or the level carried over from `time` is too low
    have split : credit rate burst now (time :: earlier) < amount ↔
        burst < amount ∨
          credit rate burst time earlier < amount + 1 - (now - time) * rate := by
      rw [credit, refill, min_lt_iff]
      apply or_congr_right
      constructor <;> intro below <;> linarith
    rw [split, ih]
    constructor
    · rintro (capped | ⟨n, visit, found, below⟩)
      · exact ⟨0, now, rfl, by simpa using capped⟩
      · refine ⟨n + 1, visit, by simpa using found, ?_⟩
        push_cast
        linarith
    · rintro ⟨n, visit, found, below⟩
      cases n with
      | zero =>
        cases found
        exact .inl (by simpa using below)
      | succ n =>
        refine .inr ⟨n, visit, by simpa using found, ?_⟩
        push_cast at below
        linarith

/-! ## Waiting for tokens -/

/-- A bucket last touched at `last` with `level` tokens left, growing uncapped, holds
    `tokens` at `due`. -/
def Awaits (rate tokens due level last : α) : Prop := level + (due - last) * rate = tokens

section

variable {rate burst tokens due level last now : α}

omit [IsStrictOrderedRing α] in
theorem awaits_wait (ratePos : 0 < rate) (tokens level now : α) :
    Awaits rate tokens (now + (tokens - level) / rate) level now := by
  unfold Awaits
  rw [add_sub_cancel_left, div_mul_cancel₀ _ ratePos.ne']
  ring

omit [LinearOrder α] [IsStrictOrderedRing α] in
theorem uncapped_of_awaits (awaits : Awaits rate tokens due level last) (now : α) :
    level + (now - last) * rate = tokens - (due - now) * rate := by
  rw [← awaits]
  ring

theorem le_refill_iff_of_awaits (awaits : Awaits rate tokens due level last) (ratePos : 0 < rate)
    (fits : tokens ≤ burst) : tokens ≤ refill rate burst level (now - last) ↔ due ≤ now := by
  rw [refill, le_min_iff, and_iff_right fits, uncapped_of_awaits awaits]
  constructor
  · intro enough
    have missing : (due - now) * rate ≤ 0 := by linarith
    exact sub_nonpos.mp (nonpos_of_mul_nonpos_left missing ratePos)
  · intro late
    have surplus := mul_nonneg (sub_nonneg.mpr late) ratePos.le
    linarith

/-- A visit before `due` leaves a bucket that awaits the same time: the cap did not bite. -/
theorem refill_of_awaits (awaits : Awaits rate tokens due level last) (ratePos : 0 < rate)
    (fits : tokens ≤ burst) (early : now < due) :
    Awaits rate tokens due (refill rate burst level (now - last)) now := by
  have missing := mul_pos (sub_pos.mpr early) ratePos
  have below : level + (now - last) * rate ≤ burst := by
    rw [uncapped_of_awaits awaits]
    linarith
  rw [Awaits, refill, min_eq_right below, uncapped_of_awaits awaits]
  ring

end

end AutoSre.Lib.TokenBucket
