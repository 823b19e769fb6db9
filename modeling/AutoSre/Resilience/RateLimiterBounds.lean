import AutoSre.Resilience.RateLimiter

/-! # What a client can get through the limiter

Over every run of `consume` calls, for every key:

* `allowedTokens_le_envelope` bounds what is let through in any window by the burst and
  the refill over the window;
* `rejects_exactly_nonconforming` says that, seen from a client that asks for one token
  at a time, a call is rejected exactly when some window ending at it holds more calls
  than the burst and the refill over the window.

Both read the bucket of one key through the library's `Bounded` and `credit`; calls for
other keys leave it alone.
-/

namespace AutoSre.Resilience

open AutoSre.Lib AutoSre.Lib.TokenBucket

structure BucketCall (κ : Type) where
  now : ℚ
  key : κ
  tokens : ℚ := 1
deriving DecidableEq

variable {κ : Type} [DecidableEq κ]

def InMemoryBucketStore.step (store : InMemoryBucketStore κ) (call : BucketCall κ) :
    Option (InMemoryBucketStore κ) :=
  some (store.consume call.now call.key call.tokens).2

abbrev BucketHistory (κ : Type) := List (Transition (InMemoryBucketStore κ) (BucketCall κ))

def resultOf (made : Transition (InMemoryBucketStore κ) (BucketCall κ)) : RateLimitResult :=
  (made.before.consume made.label.now made.label.key made.label.tokens).1

/-- The tokens of the allowed calls for `key` with a reading in `window`. -/
def allowedTokens (key : κ) (window : ℚ → Bool) : BucketHistory κ → ℚ
  | [] => 0
  | made :: past =>
    if made.label.key = key ∧ window made.label.now ∧ (resultOf made).allowed then
      allowedTokens key window past + made.label.tokens
    else allowedTokens key window past

def arrivals (key : κ) : BucketHistory κ → List ℚ
  | [] => []
  | made :: past =>
    if made.label.key = key then arrivals key past ++ [made.label.now] else arrivals key past

theorem step_eq_consume {store next : InMemoryBucketStore κ} {call : BucketCall κ}
    (taken : store.step call = some next) : next = (store.consume call.now call.key call.tokens).2 :=
  (Option.some.inj taken).symm

theorem parameters_run {init store : InMemoryBucketStore κ} {history : BucketHistory κ}
    (run : Trace InMemoryBucketStore.step init history store) :
    store.rps = init.rps ∧ store.burst = init.burst := by
  apply run.invariant (P := fun store => store.rps = init.rps ∧ store.burst = init.burst) ⟨rfl, rfl⟩
  intro before call after same taken
  simpa [step_eq_consume taken] using same

/-! ## Upper bound -/

/-- The bucket of `key` against the tokens let through from `since` on; a key that was
    not seen has taken nothing. -/
def BucketBounded (key : κ) (since : ℚ) (history : BucketHistory κ)
    (store : InMemoryBucketStore κ) : Prop :=
  match store.buckets.get key with
  | none => allowedTokens key (since ≤ ·) history = 0
  | some (level, last) =>
    Bounded store.rps store.burst since (allowedTokens key (since ≤ ·) history) level last ∧
      ∃ made ∈ history, made.label.now = last

theorem bucket_found {key : κ} {since now : ℚ} {history : BucketHistory κ} {store : InMemoryBucketStore κ}
    (rpsNonneg : 0 ≤ store.rps) (burstNonneg : 0 ≤ store.burst)
    (bounded : BucketBounded key since history store) (latest : ∀ made ∈ history, made.label.now ≤ now) :
    ∃ level last, last ≤ now ∧
      store.cur now key = refill store.rps store.burst level (now - last) ∧
      Bounded store.rps store.burst since (allowedTokens key (since ≤ ·) history) level last := by
  unfold BucketBounded at bounded
  cases found : store.buckets.get key with
  | none =>
    -- first contact: `buckets.get(key, (burst, now))`
    simp only [found] at bounded
    refine ⟨store.burst, now, le_rfl, ?_, ?_⟩
    · simp [InMemoryBucketStore.cur_of_unseen found, refill]
    · rw [bounded]
      exact Bounded.full rpsNonneg burstNonneg since now
  | some bucket =>
    obtain ⟨level, last⟩ := bucket
    simp only [found] at bounded
    obtain ⟨bounded, made, member, rfl⟩ := bounded
    exact ⟨level, made.label.now, latest made member, InMemoryBucketStore.cur_of_seen found, bounded⟩

theorem bucketBounded_step {key : κ} {since : ℚ} {past : BucketHistory κ}
    {before after : InMemoryBucketStore κ} {call : BucketCall κ} (rpsNonneg : 0 ≤ before.rps)
    (burstNonneg : 0 ≤ before.burst) (tokensNonneg : 0 ≤ call.tokens)
    (latest : ∀ made ∈ past, made.label.now ≤ call.now) (bounded : BucketBounded key since past before)
    (taken : before.step call = some after) :
    BucketBounded key since (⟨before, call, after⟩ :: past) after := by
  obtain rfl := step_eq_consume taken
  by_cases same : call.key = key
  · subst same
    obtain ⟨level, last, later, found, bounded⟩ := bucket_found rpsNonneg burstNonneg bounded latest
    simp only [BucketBounded, InMemoryBucketStore.consume_get_self, InMemoryBucketStore.consume_rps,
      InMemoryBucketStore.consume_burst]
    refine ⟨?_, _, List.mem_cons_self, rfl⟩
    by_cases enough : call.tokens ≤ before.cur call.now call.key
    · have served := bounded.serve rpsNonneg burstNonneg later tokensNonneg (found ▸ enough)
      rw [← found] at served
      simpa [allowedTokens, resultOf, enough] using served
    · have refused := bounded.refuse rpsNonneg burstNonneg later
      rw [← found] at refused
      simpa [allowedTokens, resultOf, enough] using refused
  · have untouched := InMemoryBucketStore.consume_get_of_ne before call.now call.key call.tokens
      (Ne.symm same)
    unfold BucketBounded at bounded ⊢
    rw [untouched]
    cases found : before.buckets.get key with
    | none => simpa [allowedTokens, same, found] using bounded
    | some bucket =>
      obtain ⟨level, last⟩ := bucket
      simp only [found] at bounded
      obtain ⟨bounded, made, member, reading⟩ := bounded
      refine ⟨?_, made, List.mem_cons_of_mem _ member, reading⟩
      simpa [allowedTokens, same] using bounded

theorem bucketBounded_run {rps burst : ℚ} (rpsNonneg : 0 ≤ rps) (burstNonneg : 0 ≤ burst)
    {history : BucketHistory κ} {store : InMemoryBucketStore κ}
    (run : Trace InMemoryBucketStore.step { rps, burst } history store)
    (ordered : Chronological BucketCall.now history)
    (tokensNonneg : ∀ made ∈ history, 0 ≤ made.label.tokens) (key : κ) (since : ℚ) :
    BucketBounded key since history store := by
  induction run with
  | nil => simp [BucketBounded, allowedTokens]
  | @snoc past before call after earlier taken ih =>
    obtain ⟨sameRps, sameBurst⟩ := parameters_run earlier
    simp only [Chronological, List.map_cons, List.pairwise_cons, List.forall_mem_map] at ordered
    simp only [List.forall_mem_cons] at tokensNonneg
    exact bucketBounded_step (sameRps ▸ rpsNonneg) (sameBurst ▸ burstNonneg) tokensNonneg.1
      ordered.1 (ih ordered.2 tokensNonneg.2) taken

theorem allowedTokens_congr {key : κ} {window other : ℚ → Bool} {history : BucketHistory κ}
    (agree : ∀ made ∈ history, window made.label.now = other made.label.now) :
    allowedTokens key window history = allowedTokens key other history := by
  induction history with
  | nil => rfl
  | cons made past ih =>
    simp only [List.forall_mem_cons] at agree
    simp only [allowedTokens, agree.1, ih agree.2]

/-- In no window of a run does a key get more than the burst and the refill over the window. -/
theorem allowedTokens_le_envelope {rps burst : ℚ} (rpsNonneg : 0 ≤ rps) (burstNonneg : 0 ≤ burst)
    {history : BucketHistory κ} {store : InMemoryBucketStore κ}
    (run : Trace InMemoryBucketStore.step { rps, burst } history store)
    (ordered : Chronological BucketCall.now history)
    (tokensNonneg : ∀ made ∈ history, 0 ≤ made.label.tokens) (key : κ) {lo hi : ℚ} (window : lo ≤ hi) :
    allowedTokens key (fun now => lo ≤ now ∧ now ≤ hi) history ≤ burst + rps * (hi - lo) := by
  induction run with
  | nil =>
    have := mul_nonneg rpsNonneg (sub_nonneg.mpr window)
    simpa [allowedTokens] using by linarith
  | @snoc past before call after earlier taken ih =>
    have bounded := bucketBounded_run rpsNonneg burstNonneg (earlier.snoc taken) ordered tokensNonneg key lo
    obtain ⟨sameRps, sameBurst⟩ := parameters_run (earlier.snoc taken)
    dsimp only at sameRps sameBurst
    simp only [Chronological, List.map_cons, List.pairwise_cons, List.forall_mem_map] at ordered
    simp only [List.forall_mem_cons] at tokensNonneg
    have ih := ih ordered.2 tokensNonneg.2
    by_cases inside : call.key = key ∧ lo ≤ call.now ∧ call.now ≤ hi
    · -- all readings up to here lie before `hi`, so the window is the one of the potential
      obtain ⟨rfl, after', before'⟩ := inside
      have sameWindow : allowedTokens call.key (fun now => lo ≤ now ∧ now ≤ hi)
          (⟨before, call, after⟩ :: past) =
            allowedTokens call.key (lo ≤ ·) (⟨before, call, after⟩ :: past) := by
        apply allowedTokens_congr
        simp only [List.forall_mem_cons, decide_eq_decide, before', and_true, true_and]
        intro made member
        simp [(ordered.1 made member).trans before']
      obtain rfl := step_eq_consume taken
      simp only [BucketBounded, InMemoryBucketStore.consume_get_self] at bounded
      rw [sameRps, sameBurst] at bounded
      rw [sameWindow]
      exact bounded.1.spent_le rpsNonneg after' before'
    · have outside : ¬(call.key = key ∧ (lo ≤ call.now ∧ call.now ≤ hi) ∧
          (resultOf ⟨before, call, after⟩).allowed = true) := fun hit => inside ⟨hit.1, hit.2.1⟩
      simpa [allowedTokens, outside] using ih

theorem remaining_bounds {rps burst : ℚ} (rpsNonneg : 0 ≤ rps) (burstNonneg : 0 ≤ burst)
    {history : BucketHistory κ} {store : InMemoryBucketStore κ}
    (run : Trace InMemoryBucketStore.step { rps, burst } history store)
    (ordered : Chronological BucketCall.now history)
    (tokensNonneg : ∀ made ∈ history, 0 ≤ made.label.tokens) :
    ∀ made ∈ history, 0 ≤ (resultOf made).remaining ∧ (resultOf made).remaining ≤ burst := by
  induction run with
  | nil => simp
  | @snoc past before call after earlier taken ih =>
    have bounded := bucketBounded_run rpsNonneg burstNonneg (earlier.snoc taken) ordered tokensNonneg
      call.key call.now
    obtain ⟨-, sameBurst⟩ := parameters_run (earlier.snoc taken)
    dsimp only at sameBurst
    simp only [Chronological, List.map_cons, List.pairwise_cons, List.forall_mem_map] at ordered
    simp only [List.forall_mem_cons] at tokensNonneg ⊢
    refine ⟨?_, ih ordered.2 tokensNonneg.2⟩
    obtain rfl := step_eq_consume taken
    simp only [BucketBounded, InMemoryBucketStore.consume_get_self, sameBurst] at bounded
    exact ⟨bounded.1.level_nonneg, bounded.1.level_le⟩

/-- Starting from an empty store, in every run of non-negative requests at non-decreasing
    readings every key stays inside the envelope on every window, and every reported
    remainder is a level between empty and full. -/
theorem token_bucket_upper_bound (rps burst : ℚ) (rpsNonneg : 0 ≤ rps) (burstNonneg : 0 ≤ burst)
    (history : BucketHistory κ) (store : InMemoryBucketStore κ)
    (run : Trace InMemoryBucketStore.step { rps, burst } history store)
    (ordered : Chronological BucketCall.now history)
    (tokensNonneg : ∀ made ∈ history, 0 ≤ made.label.tokens) :
    (∀ (key : κ) (lo hi : ℚ), lo ≤ hi →
        allowedTokens key (fun now => lo ≤ now ∧ now ≤ hi) history ≤ burst + rps * (hi - lo)) ∧
      ∀ made ∈ history, 0 ≤ (resultOf made).remaining ∧ (resultOf made).remaining ≤ burst :=
  ⟨fun key _ _ window =>
      allowedTokens_le_envelope rpsNonneg burstNonneg run ordered tokensNonneg key window,
    remaining_bounds rpsNonneg burstNonneg run ordered tokensNonneg⟩

theorem token_bucket_upper_bound_burst_of_two :
    ∃ (history : BucketHistory ℕ) (store : InMemoryBucketStore ℕ),
      Trace InMemoryBucketStore.step { rps := 1, burst := 2 } history store ∧ history.length = 3 ∧
        allowedTokens 7 (fun now => 0 ≤ now ∧ now ≤ 0) history ≤ 2 + 1 * (0 - 0) := by
  obtain ⟨history, store, run, ordered, tokensNonneg, three⟩ :=
    exists_trace_of_replay InMemoryBucketStore.step { rps := 1, burst := 2 }
      [⟨0, 7, 1⟩, ⟨0, 7, 1⟩, ⟨0, 7, 1⟩]
      (fun history (_ : InMemoryBucketStore ℕ) => Chronological BucketCall.now history ∧
        (∀ made ∈ history, 0 ≤ made.label.tokens) ∧ history.length = 3)
      (by decide +kernel)
  have bound := token_bucket_upper_bound 1 2 (by decide) (by decide) history store run ordered tokensNonneg
  exact ⟨history, store, run, three, bound.1 7 0 0 le_rfl⟩

/-! ## Exactness for a client that takes one token at a time -/

/-- No window of the arrivals holds more calls than the burst and the refill over it. -/
def Conforms (rps burst : ℚ) (times : List ℚ) : Prop :=
  ∀ (i j : ℕ) (first : i < times.length) (last : j < times.length), i ≤ j →
    ((j - i + 1 : ℕ) : ℚ) ≤ burst + rps * (times[j] - times[i])

/-- As long as all its one-token calls are served, a client that starts with an unseen
    key finds the credit of its arrivals. -/
theorem cur_eq_credit {init store : InMemoryBucketStore κ} {key : κ}
    (unseen : init.buckets.get key = none) {history : BucketHistory κ}
    (run : Trace InMemoryBucketStore.step init history store)
    (oneToken : ∀ made ∈ history, made.label.key = key → made.label.tokens = 1)
    (served : ∀ made ∈ history, made.label.key = key → (resultOf made).allowed = true) (now : ℚ) :
    store.cur now key = credit init.rps init.burst now (arrivals key history).reverse := by
  induction run generalizing now with
  | nil => simp [InMemoryBucketStore.cur_of_unseen unseen, arrivals, credit]
  | @snoc past before call after earlier taken ih =>
    simp only [List.forall_mem_cons] at oneToken served
    have ih := ih oneToken.2 served.2
    obtain ⟨sameRps, sameBurst⟩ := parameters_run earlier
    obtain rfl := step_eq_consume taken
    by_cases own : call.key = key
    · subst own
      have one : call.tokens = 1 := oneToken.1 rfl
      have enough : 1 ≤ credit init.rps init.burst call.now (arrivals call.key past).reverse := by
        simpa [resultOf, one, ih call.now] using served.1 rfl
      rw [InMemoryBucketStore.cur_of_seen (InMemoryBucketStore.consume_get_self _ _ _ _)]
      simp [arrivals, credit, enough, one, ih call.now, sameRps, sameBurst]
    · rw [InMemoryBucketStore.consume_cur_of_ne _ _ _ _ (Ne.symm own), ih now]
      simp [arrivals, own]

theorem exists_reverse_index {times : List ℚ} {P : ℕ → ℚ → Prop} :
    (∃ (n : ℕ) (time : ℚ), times.reverse[n]? = some time ∧ P (n + 1) time) ↔
      ∃ (i : ℕ) (bound : i < times.length), P (times.length - i) times[i] := by
  constructor
  · rintro ⟨n, time, found, holds⟩
    obtain ⟨bound, rfl⟩ := List.getElem?_eq_some_iff.mp found
    rw [List.length_reverse] at bound
    refine ⟨times.length - 1 - n, by omega, ?_⟩
    rw [List.getElem_reverse] at holds
    rwa [show times.length - (times.length - 1 - n) = n + 1 by omega]
  · rintro ⟨i, bound, holds⟩
    refine ⟨times.length - 1 - i, times[i], ?_, ?_⟩
    · rw [List.getElem?_reverse (by omega), List.getElem?_eq_some_iff]
      exact ⟨by omega, by congr 1; omega⟩
    · rwa [show times.length - 1 - i + 1 = times.length - i by omega]

/-- A client whose calls were all served is rejected exactly when a window that ends at
    the new call is over the envelope. -/
theorem rejected_iff_window {init store : InMemoryBucketStore κ} {key : κ}
    (unseen : init.buckets.get key = none) {history : BucketHistory κ}
    (run : Trace InMemoryBucketStore.step init history store)
    (oneToken : ∀ made ∈ history, made.label.key = key → made.label.tokens = 1)
    (served : ∀ made ∈ history, made.label.key = key → (resultOf made).allowed = true) (now : ℚ) :
    (store.consume now key).1.allowed = false ↔
      ∃ (i : ℕ) (first : i < (arrivals key history ++ [now]).length),
        init.burst + init.rps * (now - (arrivals key history ++ [now])[i]) <
          ((arrivals key history ++ [now]).length - i : ℕ) := by
  rw [← exists_reverse_index (P := fun n time => init.burst + init.rps * (now - time) < (n : ℚ)),
    InMemoryBucketStore.consume_allowed, decide_eq_false_iff_not, not_le,
    cur_eq_credit unseen run oneToken served, credit_lt_iff, List.reverse_append]
  -- `n` steps back from the new call there are `n + 1` calls in the window
  apply exists_congr
  intro n
  apply exists_congr
  intro time
  apply and_congr_right
  intro _
  push_cast
  constructor <;> intro below <;> linarith

theorem Conforms.of_append {rps burst : ℚ} {times later : List ℚ}
    (conforms : Conforms rps burst (times ++ later)) : Conforms rps burst times := by
  intro i j first last ordered
  have within := conforms i j (by simp; omega) (by simp; omega) ordered
  rwa [List.getElem_append_left last, List.getElem_append_left first] at within

theorem served_of_conforms {init store : InMemoryBucketStore κ} {key : κ}
    (unseen : init.buckets.get key = none) {history : BucketHistory κ}
    (run : Trace InMemoryBucketStore.step init history store)
    (oneToken : ∀ made ∈ history, made.label.key = key → made.label.tokens = 1)
    (conforms : Conforms init.rps init.burst (arrivals key history)) :
    ∀ made ∈ history, made.label.key = key → (resultOf made).allowed = true := by
  induction run with
  | nil => simp
  | @snoc past before call after earlier taken ih =>
    simp only [List.forall_mem_cons] at oneToken ⊢
    by_cases own : call.key = key
    · subst own
      rw [arrivals, if_pos rfl] at conforms
      have served := ih oneToken.2 conforms.of_append
      refine ⟨fun _ => ?_, served⟩
      by_contra rejected
      have refused : (before.consume call.now call.key).1.allowed = false := by
        simpa [resultOf, oneToken.1 rfl] using rejected
      obtain ⟨i, first, beyond⟩ := (rejected_iff_window unseen earlier oneToken.2 served call.now).mp refused
      have within := conforms i (arrivals call.key past).length first (by simp)
        (by simpa [Nat.lt_succ_iff] using first)
      rw [List.getElem_concat_length rfl] at within
      rw [List.length_append, List.length_singleton] at beyond first
      rw [show (arrivals call.key past).length - i + 1 = (arrivals call.key past).length + 1 - i by omega]
        at within
      exact absurd within (not_le.mpr beyond)
    · rw [arrivals, if_neg own] at conforms
      exact ⟨fun same => absurd same own, ih oneToken.2 conforms⟩

/-- For a key the store has not seen, in every run in which the key's calls ask for one
    token each: while all of them were served, the next one is rejected exactly when some
    window ending at it is over the envelope; and if no window is, all are served. -/
theorem rejects_exactly_nonconforming (init store : InMemoryBucketStore κ) (key : κ)
    (unseen : init.buckets.get key = none) (history : BucketHistory κ)
    (run : Trace InMemoryBucketStore.step init history store)
    (oneToken : ∀ made ∈ history, made.label.key = key → made.label.tokens = 1) :
    ((∀ made ∈ history, made.label.key = key → (resultOf made).allowed = true) → ∀ now : ℚ,
        ((store.consume now key).1.allowed = false ↔
          ∃ (i : ℕ) (first : i < (arrivals key history ++ [now]).length),
            init.burst + init.rps * (now - (arrivals key history ++ [now])[i]) <
              ((arrivals key history ++ [now]).length - i : ℕ))) ∧
      (Conforms init.rps init.burst (arrivals key history) →
        ∀ made ∈ history, made.label.key = key → (resultOf made).allowed = true) :=
  ⟨fun served now => rejected_iff_window unseen run oneToken served now,
    served_of_conforms unseen run oneToken⟩

theorem rejects_exactly_nonconforming_second_of_two :
    ∃ (history : BucketHistory ℕ) (store : InMemoryBucketStore ℕ),
      Trace InMemoryBucketStore.step { rps := 1, burst := 1 } history store ∧
        arrivals 7 history = [0] ∧ (store.consume 0 7).1.allowed = false := by
  obtain ⟨history, store, run, oneToken, served, once⟩ :=
    exists_trace_of_replay InMemoryBucketStore.step { rps := 1, burst := 1 }
      [⟨0, 7, 1⟩, ⟨0, 8, 1⟩]
      (fun history (_ : InMemoryBucketStore ℕ) =>
        (∀ made ∈ history, made.label.key = 7 → made.label.tokens = 1) ∧
          (∀ made ∈ history, made.label.key = 7 → (resultOf made).allowed = true) ∧
          arrivals 7 history = [0])
      (by decide +kernel)
  refine ⟨history, store, run, once, ?_⟩
  refine ((rejects_exactly_nonconforming { rps := 1, burst := 1 } store 7 rfl history run oneToken).1
    served 0).mpr ⟨0, by simp, ?_⟩
  simp [once]

end AutoSre.Resilience
