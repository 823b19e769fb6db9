import AutoSre.Resilience.Recovery
import AutoSre.Services.LimitedAuth

/-! # Orders recover

Whatever orders came before, and whatever they have made of the api's breaker and of the
bucket in auth: orders that leave the breaker its recovery timeout and the bucket the time
for a token are served again, and close the breaker.
-/

namespace AutoSre.Services

open AutoSre.Lib AutoSre.Lib.Python AutoSre.Resilience

/-! ## The bucket -/

/-- The bucket of the key, if it was seen, has no debt, and was last called at one of the
    first `n` times. -/
def Solvent (key : Str) (times : ℕ → ℚ) (n : ℕ) (store : InMemoryBucketStore Str) : Prop :=
  ∀ level last, store.buckets.get key = some (level, last) → 0 ≤ level ∧ ∃ k < n, last = times k

namespace Solvent

variable {key : Str} {times : ℕ → ℚ} {n : ℕ} {store : InMemoryBucketStore Str}

theorem later (solvent : Solvent key times n store) : Solvent key times (n + 1) store := by
  intro level last found
  obtain ⟨nonneg, k, before, isLast⟩ := solvent level last found
  exact ⟨nonneg, k, by omega, isLast⟩

theorem le_cur (solvent : Solvent key times n store) {least : ℚ} (within : least ≤ store.burst)
    (refilled : ∀ k < n, least ≤ (times n - times k) * store.rps) : least ≤ store.cur (times n) key := by
  cases found : store.buckets.get key with
  | none => rwa [InMemoryBucketStore.cur_of_unseen found]
  | some bucket =>
    obtain ⟨level, last⟩ := bucket
    obtain ⟨nonneg, k, before, rfl⟩ := solvent level last found
    rw [InMemoryBucketStore.cur_of_seen found, TokenBucket.refill]
    have refilled := refilled k before
    exact le_min within (by linarith)

theorem consume (solvent : Solvent key times n store) (rpsNonneg : 0 ≤ store.rps) (burstNonneg : 0 ≤ store.burst)
    (ordered : Monotone times) : Solvent key times (n + 1) (store.consume (times n) key).2 := by
  intro level last found
  rw [InMemoryBucketStore.consume_get_self, Option.some.injEq, Prod.mk.injEq] at found
  obtain ⟨rfl, rfl⟩ := found
  refine ⟨?_, n, by omega, rfl⟩
  -- time does not run backwards, so a refill takes nothing away
  have nonneg : 0 ≤ store.cur (times n) key :=
    solvent.le_cur burstNonneg fun k before => mul_nonneg (sub_nonneg.mpr (ordered before.le)) rpsNonneg
  rw [InMemoryBucketStore.consume_remaining]
  split
  · linarith
  · exact nonneg

theorem allowed (solvent : Solvent key times n store) (rpsPositive : 0 < store.rps) (oneWhole : 1 ≤ store.burst)
    (spaced : ∀ k < n, times k + 1 / store.rps ≤ times n) : (store.consume (times n) key).1.allowed = true := by
  rw [InMemoryBucketStore.consume_allowed, decide_eq_true_eq]
  refine solvent.le_cur oneWhole fun k before => ?_
  rw [← div_le_iff₀ rpsPositive]
  linarith [spaced k before]

end Solvent

/-! ## Orders in any state of the breaker -/

namespace Platform

def entered (p : Platform) (visit : Visit) : Platform :=
  { p with breaker := (p.breaker.enter authBreaker visit.enterAt).2 }

variable {p : Platform} {visit : Visit}

theorem createOrder_of_rejected (rejected : (p.breaker.enter authBreaker visit.enterAt).1 = false) :
    (p.createOrder visit).2 = p.entered visit := by
  have split : p.breaker.enter authBreaker visit.enterAt = (false, (p.entered visit).breaker) :=
    Prod.ext rejected rfl
  rw [createOrder, split]
  rfl

theorem createOrder_of_admitted (admitted : (p.breaker.enter authBreaker visit.enterAt).1 = true) :
    p.createOrder visit =
      (orderReply visit.order.request visit.suffix ((p.entered visit).postJson visit).1,
        { ((p.entered visit).postJson visit).2 with
          breaker := ((p.entered visit).postJson visit).2.breaker.leave authBreaker visit.leaveAt
            (if ((p.entered visit).postJson visit).1.isSome then .returned else .raised true) }) := by
  have split : p.breaker.enter authBreaker visit.enterAt = (true, (p.entered visit).breaker) :=
    Prod.ext admitted rfl
  rw [createOrder, split]
  rfl

/-- What a call of auth leaves behind, whether the bucket admits it or not. -/
structure Asked (p : Platform) (visit : Visit) (after : Platform) : Prop where
  key : after.key = p.key
  breaker : after.breaker = p.breaker
  identity : after.auth.identity.state = .Closed
  store : after.limiter.limiter.store = (p.limiter.limiter.store.consume visit.authAt p.key).2

theorem asked (identity : p.auth.identity.state = .Closed) (visit : Visit) : p.Asked visit (p.postJson visit).2 := by
  cases admitted : p.admits visit.authAt with
  | true =>
    rw [postJson_of_admits admitted]
    exact ⟨rfl, rfl, (Auth.validate_of_closed identity visit.authAt visit.order.token).2, rfl⟩
  | false =>
    obtain ⟨limiter, raised, left⟩ := postJson_of_refuses admitted
    rw [raised]
    exact ⟨rfl, rfl, identity, left⟩

end Platform

/-! ## The run -/

section

variable {apiHost : Option Str} {rps burst : ℚ} {visits : ℕ → Visit} {n : ℕ} {p : Platform}

/-- What holds after any `n` orders. -/
structure Reached (apiHost : Option Str) (rps burst : ℚ) (visits : ℕ → Visit) (n : ℕ) (p : Platform) : Prop where
  key : p.key = clientKey none apiHost
  identity : p.auth.identity.state = .Closed
  rate : p.limiter.limiter.store.rps = rps
  whole : p.limiter.limiter.store.burst = burst
  solvent : Solvent p.key (fun n => (visits n).authAt) n p.limiter.limiter.store
  dated : p.breaker.state = .Open → ∃ k < n, p.breaker.store.record.openedAt = some (visits k).leaveAt

theorem Reached.createOrder (reached : Reached apiHost rps burst visits n p) (rpsNonneg : 0 ≤ rps)
    (burstNonneg : 0 ≤ burst) (ordered : Monotone fun n => (visits n).authAt) :
    Reached apiHost rps burst visits (n + 1) (p.createOrder (visits n)).2 := by
  obtain ⟨key, identity, rate, whole, solvent, dated⟩ := reached
  cases admitted : (p.breaker.enter authBreaker (visits n).enterAt).1 with
  | false =>
    have same := enter_record_of_rejected admitted
    rw [Platform.createOrder_of_rejected admitted]
    refine ⟨key, identity, rate, whole, solvent.later, fun isOpen => ?_⟩
    obtain ⟨k, before, opened⟩ := dated ((congrArg BreakerRecord.state same).symm.trans isOpen)
    exact ⟨k, by omega, (congrArg BreakerRecord.openedAt same).trans opened⟩
  | true =>
    have asked := (p.entered (visits n)).asked identity (visits n)
    rw [Platform.createOrder_of_admitted admitted]
    -- all that matters of auth's answer is that the breaker hears of it once
    generalize (p.entered (visits n)).postJson (visits n) = answer at asked
    obtain ⟨result, after⟩ := answer
    obtain ⟨sameKey, sameBreaker, stillClosed, store⟩ := asked
    dsimp only at sameKey sameBreaker stillClosed store ⊢
    refine ⟨sameKey.trans key, stillClosed, ?_, ?_, ?_, fun isOpen => ?_⟩
    · rw [store, InMemoryBucketStore.consume_rps]
      exact rate
    · rw [store, InMemoryBucketStore.consume_burst]
      exact whole
    · show Solvent after.key _ _ _
      rw [store, sameKey]
      exact solvent.consume (rate ▸ rpsNonneg) (whole ▸ burstNonneg) ordered
    · rw [sameBreaker] at isOpen ⊢
      cases answered : result.isSome with
      | true =>
        rw [answered] at isOpen
        exact absurd isOpen (wanting_served admitted (visits n).leaveAt).2
      | false =>
        rw [answered] at isOpen
        exact ⟨n, by omega, openedAt_of_opens (not_open_of_admitted admitted) isOpen⟩

theorem Reached.served (reached : Reached apiHost rps burst visits n p) (fits : (visits n).Fits)
    (admitted : (p.breaker.enter authBreaker (visits n).enterAt).1 = true)
    (allowed : p.admits (visits n).authAt = true) :
    (p.createOrder (visits n)).1.status = Auth.orderStatus (visits n).order.token ∧
      wanting authBreaker (p.createOrder (visits n)).2.breaker.store.record =
        wanting authBreaker p.breaker.store.record - 1 ∧
      (p.createOrder (visits n)).2.breaker.store.record.state ≠ .Open := by
  have allowed : (p.entered (visits n)).admits (visits n).authAt = true := allowed
  have stillClosed : (p.entered (visits n)).auth.identity.state = .Closed := reached.identity
  obtain ⟨answered, -⟩ := Auth.validate_of_closed stillClosed (visits n).authAt (visits n).order.token
  rw [Platform.createOrder_of_admitted admitted, Platform.postJson_of_admits allowed, answered,
    postJson_answer_of_short fits.1 fits.2]
  exact ⟨status_orderReply _ _ _, wanting_served admitted (visits n).leaveAt⟩

theorem reached_after (rpsNonneg : 0 ≤ rps) (burstNonneg : 0 ≤ burst)
    (ordered : Monotone fun n => (visits n).authAt) (n : ℕ) :
    Reached apiHost rps burst visits n ((Platform.init apiHost rps burst).after visits n) := by
  induction n with
  | zero =>
    refine ⟨rfl, rfl, rfl, rfl, ?_, fun isOpen => ?_⟩
    · intro level last found
      cases found
    · cases isOpen
  | succ n ih => exact ih.createOrder rpsNonneg burstNonneg ordered

/-- From `n` on, a breaker that is still open was opened by one of the first `n` orders, and
    each order since has brought it down by one. -/
structure Recovering (visits : ℕ → Visit) (n m : ℕ) (p : Platform) : Prop where
  dated : p.breaker.state = .Open → ∃ k < n, p.breaker.store.record.openedAt = some (visits k).leaveAt
  down : wanting authBreaker p.breaker.store.record ≤ authBreaker.successThreshold - (m - n)

theorem Recovering.enter {m : ℕ} (recovering : Recovering visits n m p)
    (due : ∀ k < n, (visits k).leaveAt + authBreaker.recoveryTimeout ≤ (visits m).enterAt) :
    (p.breaker.enter authBreaker (visits m).enterAt).1 = true := by
  refine enter_of_due fun isOpen => ?_
  obtain ⟨k, before, opened⟩ := recovering.dated isOpen
  rw [opened]
  exact due k before

theorem wanting_le (record : BreakerRecord) : wanting authBreaker record ≤ authBreaker.successThreshold := by
  cases isState : record.state <;> simp [wanting, isState, authBreaker]

theorem Reached.admits (reached : Reached apiHost rps burst visits n p) (rpsPositive : 0 < rps)
    (oneWhole : 1 ≤ burst) (spaced : ∀ k < n, (visits k).authAt + 1 / rps ≤ (visits n).authAt) :
    p.admits (visits n).authAt = true := by
  obtain ⟨-, -, rfl, rfl, solvent, -⟩ := reached
  exact solvent.allowed rpsPositive oneWhole spaced

theorem Recovering.createOrder {m : ℕ} (recovering : Recovering visits n m p) (later : n ≤ m)
    (reached : Reached apiHost rps burst visits m p) (fits : (visits m).Fits)
    (admitted : (p.breaker.enter authBreaker (visits m).enterAt).1 = true)
    (allowed : p.admits (visits m).authAt = true) :
    Recovering visits n (m + 1) (p.createOrder (visits m)).2 := by
  obtain ⟨-, wanted, notOpen⟩ := reached.served fits admitted allowed
  refine ⟨fun isOpen => absurd isOpen notOpen, ?_⟩
  have down := recovering.down
  rw [wanted]
  omega

end

/-- Whatever the first `n` orders were and became of them: if each of the others has a token
    that auth accepts, comes to auth `1 / rps` after all orders before it, and to the api a
    recovery timeout after the first `n` were answered, then each of the others is answered by its token,
    and from the success threshold of them on the breaker is closed. -/
theorem orders_recover (apiHost : Option Str) (rps burst : ℚ) (rpsPositive : 0 < rps) (oneWhole : 1 ≤ burst)
    (visits : ℕ → Visit) (ordered : Monotone fun n => (visits n).authAt) (n : ℕ)
    (fits : ∀ m ≥ n, (visits m).Fits)
    (spaced : ∀ m ≥ n, ∀ k < m, (visits k).authAt + 1 / rps ≤ (visits m).authAt)
    (due : ∀ m ≥ n, ∀ k < n, (visits k).leaveAt + authBreaker.recoveryTimeout ≤ (visits m).enterAt)
    (m : ℕ) (later : n ≤ m) :
    (((Platform.init apiHost rps burst).after visits m).createOrder (visits m)).1.status =
        Auth.orderStatus (visits m).order.token ∧
      (n + authBreaker.successThreshold ≤ m →
        ((Platform.init apiHost rps burst).after visits m).breaker.state = .Closed) := by
  have burstNonneg : 0 ≤ burst := zero_le_one.trans oneWhole
  have reached : ∀ m, Reached apiHost rps burst visits m ((Platform.init apiHost rps burst).after visits m) :=
    reached_after rpsPositive.le burstNonneg ordered
  have allowed : ∀ m ≥ n, ((Platform.init apiHost rps burst).after visits m).admits (visits m).authAt = true :=
    fun m later => (reached m).admits rpsPositive oneWhole (spaced m later)
  -- by induction from order `n` on, which the breaker admits because its timeout is over
  have recovering : Recovering visits n m ((Platform.init apiHost rps burst).after visits m) := by
    induction m, later using Nat.le_induction with
    | base => exact ⟨(reached n).dated, (wanting_le _).trans (by simp)⟩
    | succ m later ih =>
      exact ih.createOrder later (reached m) (fits m later) (ih.enter (due m later)) (allowed m later)
  obtain ⟨answered, -, -⟩ := (reached m).served (fits m later) (recovering.enter (due m later)) (allowed m later)
  refine ⟨answered, fun enough => ?_⟩
  rw [CircuitBreaker.state_inMemory, ← @wanting_eq_zero_iff authBreaker]
  have down := recovering.down
  omega

/-- Thirty orders at once, then one a second after a pause of a hundred. -/
def pausedAt (n : ℕ) : ℚ := if n < 30 then 0 else 70 + n

theorem pausedAt_add_one_le {k m : ℕ} (earlier : k < m) (later : 30 ≤ m) : pausedAt k + 1 ≤ pausedAt m := by
  have after : ((k + 1 : ℕ) : ℚ) ≤ m := Nat.cast_le.mpr earlier
  have nonneg : (0 : ℚ) ≤ m := Nat.cast_nonneg m
  push_cast at after
  rw [pausedAt, pausedAt, if_neg (not_lt.mpr later)]
  split
  · linarith
  · linarith

theorem pausedAt_add_hundred_le {k m : ℕ} (early : k < 30) (later : 30 ≤ m) : pausedAt k + 100 ≤ pausedAt m := by
  have after : ((30 : ℕ) : ℚ) ≤ m := Nat.cast_le.mpr later
  push_cast at after
  rw [pausedAt, pausedAt, if_pos early, if_neg (not_lt.mpr later)]
  linarith

theorem pausedAt_monotone : Monotone pausedAt := by
  refine monotone_nat_of_le_succ fun n => ?_
  by_cases later : 30 ≤ n + 1
  · linarith [pausedAt_add_one_le n.lt_succ_self later]
  · rw [pausedAt, pausedAt, if_pos (by omega), if_pos (by omega)]

/-- With the default rates: a hundred seconds after thirty orders at once, orders are served
    again, and the breaker is closed after two of them. -/
theorem orders_recover_after_pause :
    let visits : ℕ → Visit := fun n =>
      { demoVisit with enterAt := pausedAt n, authAt := pausedAt n, leaveAt := pausedAt n }
    (((Platform.init none 10 20).after visits 30).createOrder (visits 30)).1.status = 200 ∧
      ((Platform.init none 10 20).after visits 32).breaker.state = .Closed := by
  intro visits
  have recover := orders_recover none 10 20 (by norm_num) (by norm_num) visits pausedAt_monotone 30
    (fun _ _ => demoVisit_fits)
    (fun m later k earlier => by linarith [pausedAt_add_one_le earlier later])
    (fun m later k early => ?_)
  · exact ⟨(recover 30 le_rfl).1, (recover 32 (by omega)).2 le_rfl⟩
  · show pausedAt k + 30 ≤ pausedAt m
    linarith [pausedAt_add_hundred_le early later]

end AutoSre.Services
