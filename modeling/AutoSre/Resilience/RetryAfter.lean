import AutoSre.Resilience.RateLimiterBounds
import AutoSre.Resilience.RateLimitMiddleware

/-! # Retry-After is exact

A rejected call rewrites its bucket's level and reading, and so does every retry.  What
they do not move is the time at which the bucket will hold the tokens asked for: that
time is what `retry_after` announces, and `AwaitsTokens` is what every rejected call
leaves behind.
-/

namespace AutoSre.Resilience

open AutoSre.Lib AutoSre.Lib.Python AutoSre.Lib.TokenBucket

variable {κ : Type} [DecidableEq κ]

/-! ## The bucket -/

/-- The bucket of `key` will hold `tokens` at `due`. -/
structure AwaitsTokens (key : κ) (tokens due : ℚ) (store : InMemoryBucketStore κ) : Prop where
  positive : 0 < store.rps
  fits : tokens ≤ store.burst
  bucket : ∃ level last, store.buckets.get key = some (level, last) ∧ Awaits store.rps tokens due level last

section

variable {key : κ} {tokens due now : ℚ} {store : InMemoryBucketStore κ}

theorem AwaitsTokens.allowed_iff (awaits : AwaitsTokens key tokens due store) (now : ℚ) :
    (store.consume now key tokens).1.allowed = true ↔ due ≤ now := by
  obtain ⟨level, last, seen, awaitsLevel⟩ := awaits.bucket
  rw [InMemoryBucketStore.consume_allowed, decide_eq_true_eq, InMemoryBucketStore.cur_of_seen seen]
  exact le_refill_iff_of_awaits awaitsLevel awaits.positive awaits.fits

theorem AwaitsTokens.retry (awaits : AwaitsTokens key tokens due store)
    (rejected : (store.consume now key tokens).1.allowed = false) :
    AwaitsTokens key tokens due (store.consume now key tokens).2 := by
  have early : now < due := by
    by_contra late
    rw [(awaits.allowed_iff now).mpr (not_lt.mp late)] at rejected
    cases rejected
  obtain ⟨level, last, seen, awaitsLevel⟩ := awaits.bucket
  have few : ¬tokens ≤ store.cur now key := by simpa using rejected
  refine ⟨by simpa using awaits.positive, by simpa using awaits.fits, store.cur now key, now, ?_, ?_⟩
  · rw [InMemoryBucketStore.consume_get_self, InMemoryBucketStore.consume_remaining, if_neg few]
  · rw [InMemoryBucketStore.consume_rps, InMemoryBucketStore.cur_of_seen seen]
    exact refill_of_awaits awaitsLevel awaits.positive awaits.fits early

theorem AwaitsTokens.other (awaits : AwaitsTokens key tokens due store) {caller : κ} (differ : key ≠ caller)
    (now asked : ℚ) : AwaitsTokens key tokens due (store.consume now caller asked).2 := by
  obtain ⟨level, last, seen, awaitsLevel⟩ := awaits.bucket
  refine ⟨by simpa using awaits.positive, by simpa using awaits.fits, level, last, ?_, ?_⟩
  · rw [InMemoryBucketStore.consume_get_of_ne store now caller asked differ, seen]
  · simpa using awaitsLevel

theorem awaitsTokens_of_rejected (positive : 0 < store.rps) (fits : tokens ≤ store.burst)
    (rejected : (store.consume now key tokens).1.allowed = false) :
    let wait := (tokens - store.cur now key) / store.rps
    (store.consume now key tokens).1.retryAfter = wait ∧ 0 < wait ∧
      AwaitsTokens key tokens (now + wait) (store.consume now key tokens).2 := by
  have few : ¬tokens ≤ store.cur now key := by simpa using rejected
  refine ⟨?_, ?_, ?_⟩
  · simp only [InMemoryBucketStore.consume, few, if_false, positive, if_true]
  · exact div_pos (sub_pos.mpr (not_le.mp few)) positive
  · refine ⟨by simpa using positive, by simpa using fits, store.cur now key, now, ?_, ?_⟩
    · rw [InMemoryBucketStore.consume_get_self, InMemoryBucketStore.consume_remaining, if_neg few]
    · rw [InMemoryBucketStore.consume_rps]
      exact awaits_wait positive tokens (store.cur now key) now

end

/-! ## Continuations -/

theorem AwaitsTokens.run {key : κ} {tokens due : ℚ} {start store : InMemoryBucketStore κ}
    (awaits : AwaitsTokens key tokens due start) {history : BucketHistory κ}
    (run : Trace InMemoryBucketStore.step start history store)
    (sameAmount : ∀ made ∈ history, made.label.key = key → made.label.tokens = tokens)
    (early : ∀ made ∈ history, made.label.key = key → made.label.now < due) :
    AwaitsTokens key tokens due store := by
  induction run with
  | nil => exact awaits
  | @snoc past before call after _ taken ih =>
    rw [List.forall_mem_cons] at sameAmount early
    have awaits := ih sameAmount.2 early.2
    obtain rfl := step_eq_consume taken
    by_cases own : call.key = key
    · subst own
      rw [sameAmount.1 rfl]
      apply awaits.retry
      rw [← Bool.not_eq_true, awaits.allowed_iff]
      exact not_le.mpr (early.1 rfl)
    · exact awaits.other (Ne.symm own) call.now call.tokens

/-- The store's part: until the announced time every call of the key is rejected, and the
    first one from then on is allowed. -/
theorem AwaitsTokens.exact {key : κ} {tokens due : ℚ} {start store : InMemoryBucketStore κ}
    (awaits : AwaitsTokens key tokens due start) {history : BucketHistory κ}
    (run : Trace InMemoryBucketStore.step start history store)
    (sameAmount : ∀ made ∈ history, made.label.key = key → made.label.tokens = tokens)
    {made : Transition (InMemoryBucketStore κ) (BucketCall κ)} {past : BucketHistory κ}
    (isSuffix : made :: past <:+ history) (own : made.label.key = key)
    (early : ∀ earlier ∈ past, earlier.label.key = key → earlier.label.now < due) :
    (resultOf made).allowed = true ↔ due ≤ made.label.now := by
  have within : ∀ other ∈ made :: past, other ∈ history := fun other member => isSuffix.subset member
  have sameBefore : ∀ earlier ∈ past, earlier.label.key = key → earlier.label.tokens = tokens := by
    intro earlier member
    exact sameAmount earlier (within earlier (List.mem_cons_of_mem _ member))
  have awaits := awaits.run (run.of_suffix isSuffix) sameBefore early
  rw [resultOf, sameAmount made (within made List.mem_cons_self) own, own]
  exact awaits.allowed_iff made.label.now

theorem AwaitsTokens.rejects {key : κ} {tokens due : ℚ} {start store : InMemoryBucketStore κ}
    (awaits : AwaitsTokens key tokens due start) {history : BucketHistory κ}
    (run : Trace InMemoryBucketStore.step start history store)
    (sameAmount : ∀ made ∈ history, made.label.key = key → made.label.tokens = tokens)
    (ordered : Chronological BucketCall.now history) :
    ∀ made ∈ history, made.label.key = key → made.label.now < due → (resultOf made).allowed = false := by
  intro made isMade own soon
  obtain ⟨newer, past, rfl⟩ := List.append_of_mem isMade
  have isSuffix : made :: past <:+ newer ++ made :: past := List.suffix_append _ _
  -- the readings do not decrease, so the calls before this one came early too
  have early : ∀ earlier ∈ past, earlier.label.key = key → earlier.label.now < due := by
    intro earlier member _
    have after : Chronological BucketCall.now (made :: past) :=
      List.Pairwise.sublist (isSuffix.sublist.map _) ordered
    simp only [Chronological, List.map_cons, List.pairwise_cons, List.forall_mem_map] at after
    exact (after.1 earlier member).trans_lt soon
  rw [← Bool.not_eq_true, awaits.exact run sameAmount isSuffix own early]
  exact not_le.mpr soon

/-! ## Clients of the middleware -/

section

variable {ρ : Type} {m : RateLimitMiddleware} {first : Arrival ρ} {retry : ℤ}

theorem awaitsTokens_of_tooManyRequests (positive : 0 < m.limiter.store.rps) (fits : 1 ≤ m.limiter.store.burst)
    (rejected : (m.dispatch first).1 = .tooManyRequests retry) :
    ∃ due, due ≤ first.now + retry ∧
      AwaitsTokens first.key 1 due (m.dispatch first).2.limiter.store := by
  cases counted : excluded first.path with
  | true =>
    rw [RateLimitMiddleware.dispatch_excluded counted] at rejected
    cases rejected
  | false =>
    have few : m.tokens first < 1 := by
      by_contra enough
      rw [RateLimitMiddleware.dispatch_admitted counted (not_lt.mp enough)] at rejected
      cases rejected
    have refused : (m.limiter.store.consume first.now first.key).1.allowed = false := by
      simpa [RateLimitMiddleware.tokens] using few
    obtain ⟨_, _, awaits⟩ := awaitsTokens_of_rejected positive fits refused
    rw [RateLimitMiddleware.dispatch_rejected counted (not_le.mpr few) positive rfl] at rejected
    cases rejected
    rw [RateLimitMiddleware.dispatch_store counted]
    refine ⟨_, ?_, awaits⟩
    -- what is announced is rounded up
    rw [add_le_add_iff_left]
    exact (Int.le_ceil _).trans (Int.cast_le.mpr (le_max_right _ _))

theorem AwaitsTokens.arrivals {key : Str} {due : ℚ} {start later : RateLimitMiddleware}
    (awaits : AwaitsTokens key 1 due start.limiter.store) {history : ArrivalHistory ρ}
    (run : Trace RateLimitMiddleware.step start history later)
    (noneAdmitted : ∀ made ∈ history, made.label.key = key → excluded made.label.path = false →
      (made.before.dispatch made.label).1.isTooMany = true) :
    AwaitsTokens key 1 due later.limiter.store := by
  induction run with
  | nil => exact awaits
  | @snoc past before arrival after _ taken ih =>
    rw [List.forall_mem_cons] at noneAdmitted
    have awaits := ih noneAdmitted.2
    cases taken
    cases counted : excluded arrival.path with
    | true =>
      rw [RateLimitMiddleware.dispatch_excluded counted]
      exact awaits
    | false =>
      rw [RateLimitMiddleware.dispatch_store counted]
      by_cases own : arrival.key = key
      · have isTooMany := noneAdmitted.1 own counted
        rw [own]
        apply awaits.retry
        by_contra admitted
        have enough : 1 ≤ before.tokens arrival := by
          simpa [RateLimitMiddleware.tokens, own] using admitted
        simp only [RateLimitMiddleware.dispatch_admitted counted enough] at isTooMany
        cases isTooMany
      · exact awaits.other (Ne.symm own) arrival.now 1

end

/-- A rejected call announces a wait `r > 0`.  Whatever comes after it, as long as the
    calls for its key ask for the same amount: those below `t + r` are rejected, and the
    first one from `t + r` on is allowed.  So a client that waits for the seconds of its
    429 is admitted, if no other request under its key was meanwhile. -/
theorem retry_after_exact {ρ : Type} :
    (∀ (store : InMemoryBucketStore κ) (key : κ) (tokens t : ℚ),
      0 < store.rps → 0 < tokens → tokens ≤ store.burst →
      (store.consume t key tokens).1.allowed = false →
      ∃ r : ℚ, (store.consume t key tokens).1.retryAfter = r ∧ 0 < r ∧
        ∀ (history : BucketHistory κ) (later : InMemoryBucketStore κ),
          Trace InMemoryBucketStore.step (store.consume t key tokens).2 history later →
          Chronological BucketCall.now history →
          (∀ made ∈ history, made.label.key = key → made.label.tokens = tokens) →
          (∀ made ∈ history, made.label.key = key → made.label.now < t + r →
              (resultOf made).allowed = false) ∧
            ∀ made past, made :: past <:+ history → made.label.key = key → t + r ≤ made.label.now →
              (∀ earlier ∈ past, earlier.label.key = key → earlier.label.now < t + r) →
              (resultOf made).allowed = true) ∧
      ∀ (m : RateLimitMiddleware) (first : Arrival ρ) (retry : ℤ),
        0 < m.limiter.store.rps → 1 ≤ m.limiter.store.burst →
        (m.dispatch first).1 = .tooManyRequests retry →
        ∀ (history : ArrivalHistory ρ) (later : RateLimitMiddleware),
          Trace RateLimitMiddleware.step (m.dispatch first).2 history later →
          (∀ made ∈ history, made.label.key = first.key → excluded made.label.path = false →
            (made.before.dispatch made.label).1.isTooMany = true) →
          ∀ next : Arrival ρ, next.key = first.key → excluded next.path = false →
            first.now + retry ≤ next.now →
            (later.dispatch next).1 = .downstream next.downstream := by
  refine ⟨?_, ?_⟩
  · intro store key tokens t positive _ fits rejected
    obtain ⟨announced, waitPos, awaits⟩ := awaitsTokens_of_rejected positive fits rejected
    refine ⟨_, announced, waitPos, ?_⟩
    intro history later run ordered sameAmount
    refine ⟨awaits.rejects run sameAmount ordered, ?_⟩
    intro made past isSuffix own late early
    exact (awaits.exact run sameAmount isSuffix own early).mpr late
  · intro m first retry positive fits rejected history later run noneAdmitted next own counted waited
    obtain ⟨due, soon, awaits⟩ := awaitsTokens_of_tooManyRequests positive fits rejected
    have allowed := ((awaits.arrivals run noneAdmitted).allowed_iff next.now).mpr (soon.trans waited)
    have enough : 1 ≤ later.tokens next := by
      simpa [RateLimitMiddleware.tokens, own] using allowed
    rw [RateLimitMiddleware.dispatch_admitted counted enough]

/-- At a rate and burst of one, the second of two calls at the same time is asked to wait
    for a second; one that comes half a second later is rejected as well, and the one that
    waited is admitted.  So it is for requests to the middleware. -/
theorem retry_after_exact_one_second :
    let key := "unknown".toList
    let store := (({ rps := 1, burst := 1 } : InMemoryBucketStore Str).consume 0 key).2
    let call (now : ℚ) (store : InMemoryBucketStore Str) : Transition (InMemoryBucketStore Str) (BucketCall Str) :=
      ⟨store, ⟨now, key, 1⟩, (store.consume now key).2⟩
    let hastyCall := call (1 / 2) (store.consume 0 key).2
    let request (now : ℚ) : Arrival Unit := ⟨now, "/orders".toList, none, none, ()⟩
    let spent := ((RateLimitMiddleware.init 1 1).dispatch (request 0)).2
    let rejected := spent.dispatch (request 0)
    let hasty := rejected.2.dispatch (request (1 / 2))
    ((resultOf hastyCall).allowed = false ∧ (resultOf (call 1 hastyCall.after)).allowed = true) ∧
      rejected.1 = .tooManyRequests 1 ∧ hasty.1 = .tooManyRequests 1 ∧
        (hasty.2.dispatch (request 1)).1 = .downstream () := by
  intro key store call hastyCall request spent rejected hasty
  constructor
  · obtain ⟨r, announced, _, continuations⟩ :=
      (retry_after_exact (ρ := Unit)).1 store key 1 0 (by decide +kernel) (by decide +kernel) (by decide +kernel)
        (by decide +kernel)
    obtain rfl : 1 = r := by
      have oneSecond : (store.consume 0 key).1.retryAfter = ((1 : ℚ) : WithTop ℚ) := by decide +kernel
      exact WithTop.coe_injective (oneSecond.symm.trans announced)
    have run : Trace InMemoryBucketStore.step (store.consume 0 key).2 [call 1 hastyCall.after, hastyCall]
        (call 1 hastyCall.after).after := (Trace.nil.snoc rfl).snoc rfl
    obtain ⟨rejects, admits⟩ := continuations _ _ run (by decide +kernel) (by simp [call, hastyCall])
    constructor
    · exact rejects hastyCall (by simp) rfl (by norm_num [hastyCall, call])
    · refine admits _ [hastyCall] (List.suffix_refl _) rfl (by norm_num [call]) ?_
      rw [List.forall_mem_singleton]
      exact fun _ => by norm_num [hastyCall, call]
  · have announced : rejected.1 = .tooManyRequests 1 := by decide +kernel
    have isTooMany : hasty.1 = .tooManyRequests 1 := by decide +kernel
    refine ⟨announced, isTooMany, ?_⟩
    have run : Trace RateLimitMiddleware.step rejected.2 [⟨rejected.2, request (1 / 2), hasty.2⟩] hasty.2 :=
      .snoc .nil rfl
    apply (retry_after_exact (κ := Str)).2 spent (request 0) 1 (by decide +kernel) (by decide +kernel) announced
      _ _ run _ (request 1) rfl rfl (by norm_num [request])
    intro made isMade _ _
    rw [List.mem_singleton.mp isMade]
    exact congrArg Dispatched.isTooMany isTooMany

end AutoSre.Resilience
