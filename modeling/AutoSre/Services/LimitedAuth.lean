import Mathlib.Algebra.Order.Floor.Semiring
import AutoSre.Observability.RequestContext
import AutoSre.Resilience.RateLimitMiddleware
import AutoSre.Resilience.RateLimiterBounds
import AutoSre.Services.HealthyAuth

/-! # The api's breaker behind auth's rate limiter

Auth is rate limited like every service, and to it all orders come from one client: the
host of the api, which forwards no `X-Forwarded-For`.  `post_json` makes an exception of a
429 as of any other error, so the api's breaker counts the refusals of a healthy auth.

Orders follow one another here, each with a token that auth accepts, and no chaos is on.
The breaker then opens exactly when the bucket of that one client refuses five calls in a
row, whatever else the clients of the api do right:

* `orders_open_breaker_iff`, for orders at any times;
* `conforming_orders_served`, for orders within auth's burst and rate;
* `orders_at_one_instant`, for orders that leave no time for a refill.
-/

namespace AutoSre.Services

open AutoSre.Lib AutoSre.Lib.Python AutoSre.Observability AutoSre.Resilience

/-! ## One order -/

/-- `validate` of auth with its middleware left out: from the body to the response. -/
def Auth.validate (now : ℚ) (token : Str) (auth : Auth) : AuthResponse × Auth :=
  match auth.receive now token with
  | (.inl response, auth) => (response, auth)
  | (.inr request, auth) => auth.respond now request

/-- An order with the context of its request, and the readings of the two services' clocks. -/
structure Visit where
  order : Order
  suffix : Str
  context : Context
  enterAt : ℚ
  authAt : ℚ
  leaveAt : ℚ

/-- The header as it arrives in auth; the transport adds none of that name. -/
def Visit.forwardedFor (visit : Visit) : Option Str :=
  ((HTTPServiceClient.postJson visit.context).items.map fun item => (lower item.1, item.2)).lookup
    "x-forwarded-for".toList

/-- `apiHost` is what auth sees as the host of its client. -/
structure Platform where
  apiHost : Option Str
  breaker : CircuitBreaker InMemoryStore := .fresh
  auth : Auth := {}
  limiter : RateLimitMiddleware

namespace Platform

/-- The call of `/validate` at auth's rate limiter; what the endpoint would respond to it
    goes along. -/
def arrival (p : Platform) (visit : Visit) : Arrival AuthResponse where
  now := visit.authAt
  path := "/validate".toList
  forwardedFor := visit.forwardedFor
  host := p.apiHost
  downstream := (p.auth.validate visit.authAt visit.order.token).1

/-- What comes back from auth's limiter, and what it has left in auth. -/
def receive (p : Platform) (visit : Visit) : Dispatched AuthResponse × RateLimitMiddleware →
    Option Validation × Platform
  | (.downstream response, limiter) =>
    (Services.postJson response, { p with auth := (p.auth.validate visit.authAt visit.order.token).2, limiter })
  -- a 429, or the 500 that is made of an exception; the endpoint is not called
  | (.tooManyRequests _, limiter) | (.ceilError, limiter) => (none, { p with limiter })

def postJson (p : Platform) (visit : Visit) : Option Validation × Platform :=
  p.receive visit (p.limiter.dispatch (p.arrival visit))

def createOrder (p : Platform) (visit : Visit) : OrderReply × Platform :=
  match p.breaker.enter authBreaker visit.enterAt with
  | (false, breaker) => (.circuitOpen authBreaker.name, { p with breaker })
  | (true, breaker) =>
    let (result, p) := postJson { p with breaker } visit
    let ending := if result.isSome then .returned else .raised true
    (orderReply visit.order.request visit.suffix result,
      { p with breaker := p.breaker.leave authBreaker visit.leaveAt ending })

def init (apiHost : Option Str) (rps burst : ℚ) : Platform := { apiHost, limiter := .init rps burst }

def after (p : Platform) (visits : ℕ → Visit) : ℕ → Platform
  | 0 => p
  | n + 1 => ((p.after visits n).createOrder (visits n)).2

end Platform

/-! ## The bucket by itself -/

/-- The store of the limiter, and how many of the last calls it refused in a row. -/
abbrev Bucket := InMemoryBucketStore Str × ℕ

def Bucket.call (key : Str) (now : ℚ) (bucket : Bucket) : Bucket :=
  let (result, store) := bucket.1.consume now key
  (store, if result.allowed then 0 else bucket.2 + 1)

def Bucket.after (bucket : Bucket) (key : Str) (times : ℕ → ℚ) : ℕ → Bucket
  | 0 => bucket
  | n + 1 => (bucket.after key times n).call key (times n)

theorem bucket_at_one_instant (rps burst : ℚ) (key : Str) (now : ℚ) (n : ℕ) :
    let bucket := Bucket.after ({ rps, burst }, 0) key (fun _ => now) n
    bucket.1.burst = burst ∧ bucket.1.cur now key = burst - (min n ⌊burst⌋₊ : ℕ) ∧ bucket.2 = n - ⌊burst⌋₊ := by
  induction n with
  | zero => simp [Bucket.after, InMemoryBucketStore.cur, Dict.empty, Dict.get, minOf_eq_min]
  | succ n ih =>
    intro bucket
    obtain ⟨sameBurst, level, refused⟩ := ih
    set before := Bucket.after ({ rps, burst }, 0) key (fun _ => now) n
    have left : bucket.1.cur now key = min burst (before.1.consume now key).1.remaining := by
      show (before.1.consume now key).2.cur now key = _
      rw [InMemoryBucketStore.cur_of_seen (InMemoryBucketStore.consume_get_self _ _ _ _)]
      simp [TokenBucket.refill, sameBurst]
    have inARow : bucket.2 = if (before.1.consume now key).1.allowed then 0 else before.2 + 1 := rfl
    rw [left, inARow, InMemoryBucketStore.consume_remaining, InMemoryBucketStore.consume_allowed, level, refused]
    refine ⟨(before.1.consume_burst now key 1).trans sameBurst, ?_⟩
    by_cases whole : n < ⌊burst⌋₊
    · have enough : ((n + 1 : ℕ) : ℚ) ≤ burst := (Nat.le_floor_iff' (Nat.succ_ne_zero n)).mp whole
      push_cast at enough
      rw [min_eq_left whole.le, min_eq_left (Nat.succ_le_of_lt whole), if_pos (by linarith)]
      constructor
      · rw [min_eq_right (by linarith)]
        push_cast
        ring
      · rw [if_pos (decide_eq_true (by linarith))]
        omega
    · have few : burst < (⌊burst⌋₊ : ℚ) + 1 := Nat.lt_floor_add_one burst
      have spent : ⌊burst⌋₊ ≤ n := not_lt.mp whole
      have refuses : ¬(1 : ℚ) ≤ burst - (⌊burst⌋₊ : ℕ) := by linarith
      rw [min_eq_right spent, min_eq_right (spent.trans (Nat.le_succ n)), if_neg refuses, decide_eq_false refuses]
      constructor
      · rw [min_eq_right (by simp)]
      · simp
        omega

theorem allowed_at_one_instant (rps burst : ℚ) (key : Str) (now : ℚ) (n : ℕ) :
    ((Bucket.after ({ rps, burst }, 0) key (fun _ => now) n).1.consume now key).1.allowed =
      decide (n < ⌊burst⌋₊) := by
  obtain ⟨-, -, before⟩ := bucket_at_one_instant rps burst key now n
  obtain ⟨-, -, after⟩ := bucket_at_one_instant rps burst key now (n + 1)
  have counted : (Bucket.after ({ rps, burst }, 0) key (fun _ => now) (n + 1)).2 =
      if ((Bucket.after ({ rps, burst }, 0) key (fun _ => now) n).1.consume now key).1.allowed then 0
      else (Bucket.after ({ rps, burst }, 0) key (fun _ => now) n).2 + 1 := rfl
  rw [after, before] at counted
  split at counted
  next isAllowed => rw [isAllowed, decide_eq_true (by omega)]
  next isRefused => rw [Bool.eq_false_iff.mpr isRefused, decide_eq_false (by omega)]

/-- The calls as a run of the limiter, the last one first. -/
def Bucket.history (bucket : Bucket) (key : Str) (times : ℕ → ℚ) : ℕ → BucketHistory Str
  | 0 => []
  | n + 1 =>
    ⟨(bucket.after key times n).1, ⟨times n, key, 1⟩, (bucket.after key times (n + 1)).1⟩ ::
      bucket.history key times n

theorem Bucket.history_run (bucket : Bucket) (key : Str) (times : ℕ → ℚ) (n : ℕ) :
    Trace InMemoryBucketStore.step bucket.1 (bucket.history key times n) (bucket.after key times n).1 ∧
      arrivals key (bucket.history key times n) = (List.range n).map times ∧
      ∀ made ∈ bucket.history key times n, made.label.key = key → made.label.tokens = 1 := by
  induction n with
  | zero => exact ⟨.nil, rfl, by simp [Bucket.history]⟩
  | succ n ih =>
    obtain ⟨run, arrived, oneToken⟩ := ih
    refine ⟨run.snoc rfl, ?_, List.forall_mem_cons.mpr ⟨fun _ => rfl, oneToken⟩⟩
    rw [List.range_succ, List.map_append, ← arrived]
    exact if_pos rfl

/-- A full bucket refuses no call that keeps, with all before it, within the burst and the rate. -/
theorem Bucket.allowed_of_conforms {rps burst : ℚ} {times : ℕ → ℚ} {n : ℕ}
    (conforms : Conforms rps burst ((List.range (n + 1)).map times)) (key : Str) :
    ((Bucket.after ({ rps, burst }, 0) key times n).1.consume (times n) key).1.allowed = true := by
  obtain ⟨run, arrived, oneToken⟩ := Bucket.history_run ({ rps, burst }, 0) key times (n + 1)
  have served := served_of_conforms rfl run oneToken (arrived ▸ conforms)
  rw [Bucket.history, List.forall_mem_cons] at served
  exact served.1 rfl

theorem Bucket.call_of_allowed {bucket : Bucket} {key : Str} {now : ℚ}
    (allowed : (bucket.1.consume now key).1.allowed = true) : (bucket.call key now).2 = 0 := by
  simp only [Bucket.call, allowed]
  rfl

theorem conforms_before {rps burst : ℚ} {times : ℕ → ℚ} {n : ℕ}
    (conforms : Conforms rps burst ((List.range (n + 1)).map times)) :
    Conforms rps burst ((List.range n).map times) := by
  rw [List.range_succ, List.map_append] at conforms
  exact conforms.of_append

/-! ## What one order does -/

theorem Auth.validate_of_closed {auth : Auth} (closed : auth.identity.state = .Closed) (now : ℚ) (token : Str) :
    (auth.validate now token).1 = Auth.answer token ∧
      (auth.validate now token).2.identity.state = .Closed := by
  obtain ⟨same, outcome⟩ := Auth.receive_of_closed closed now token
  rw [Auth.validate]
  split
  next response after received =>
    rw [received] at same outcome
    exact ⟨outcome, same ▸ closed⟩
  next request after received =>
    rw [received] at same outcome
    obtain rfl : after = auth := same
    exact ⟨(Auth.respond_eq_answer after now request).trans (congrArg Auth.answer outcome),
      Auth.respond_of_closed closed now request⟩

/-- The api hands on a correlation ID and nothing else. -/
theorem Visit.forwardedFor_eq_none (visit : Visit) : visit.forwardedFor = none := by
  simp only [forwardedFor, HTTPServiceClient.postJson, HTTPServiceClient.requestHeaders, propagationHeaders]
  split
  · rfl
  · rfl

def Platform.key (p : Platform) : Str := clientKey none p.apiHost

def Visit.Fits (visit : Visit) : Prop :=
  visit.order.token ≠ [] ∧ visit.order.token.length ≤ maxTokenLength

def Platform.admits (p : Platform) (now : ℚ) : Bool := (p.limiter.limiter.store.consume now p.key).1.allowed

theorem Platform.arrival_key (p : Platform) (visit : Visit) : (p.arrival visit).key = p.key := by
  rw [Arrival.key, arrival, visit.forwardedFor_eq_none, key]

theorem Platform.arrival_counted (p : Platform) (visit : Visit) :
    excluded (p.arrival visit).path = false := by
  show excluded "/validate".toList = false
  decide

theorem Platform.postJson_of_admits {p : Platform} {visit : Visit} (admitted : p.admits visit.authAt = true) :
    p.postJson visit =
      (Services.postJson (p.auth.validate visit.authAt visit.order.token).1,
        { p with
          auth := (p.auth.validate visit.authAt visit.order.token).2
          limiter := { p.limiter with limiter := (p.limiter.limiter.check visit.authAt p.key).2 } }) := by
  have enough : 1 ≤ p.limiter.tokens (p.arrival visit) := by
    rw [RateLimitMiddleware.tokens, p.arrival_key visit]
    exact of_decide_eq_true ((InMemoryBucketStore.consume_allowed _ _ _ _).symm.trans admitted)
  rw [Platform.postJson, RateLimitMiddleware.dispatch_admitted (p.arrival_counted visit) enough, p.arrival_key visit]
  rfl

theorem Platform.postJson_of_refuses {p : Platform} {visit : Visit} (refused : p.admits visit.authAt = false) :
    ∃ limiter, p.postJson visit = (none, { p with limiter }) ∧
      limiter.limiter.store = (p.limiter.limiter.store.consume visit.authAt p.key).2 := by
  have store := RateLimitMiddleware.dispatch_store (m := p.limiter) (p.arrival_counted visit)
  rw [p.arrival_key visit] at store
  refine ⟨(p.limiter.dispatch (p.arrival visit)).2, ?_, store⟩
  have few : ¬1 ≤ p.limiter.tokens (p.arrival visit) := by
    rw [RateLimitMiddleware.tokens, p.arrival_key visit]
    exact of_decide_eq_false ((InMemoryBucketStore.consume_allowed _ _ _ _).symm.trans refused)
  rw [Platform.postJson]
  -- at rate zero the refusal is an exception in the limiter, which is an error to the api too
  by_cases positive : 0 < p.limiter.limiter.store.rps
  · rw [RateLimitMiddleware.dispatch_rejected (p.arrival_counted visit) few positive rfl]
    rfl
  · rw [RateLimitMiddleware.dispatch_ceilError (p.arrival_counted visit) few fun holds => absurd holds positive]
    rfl

/-- The bucket has seen the calls of the platform so far, and the breaker has counted what
    it refused. -/
structure Tracks (key : Str) (bucket : Bucket) (p : Platform) : Prop where
  key : p.key = key
  identity : p.auth.identity.state = .Closed
  store : p.limiter.limiter.store = bucket.1
  counting : Counting bucket.2 p.breaker

theorem Tracks.admits {key : Str} {bucket : Bucket} {p : Platform} (tracks : Tracks key bucket p) (now : ℚ) :
    p.admits now = (bucket.1.consume now key).1.allowed := by
  rw [Platform.admits, tracks.key, tracks.store]

theorem Platform.createOrder_of_closed (p : Platform) {visit : Visit} (closed : p.breaker.state = .Closed) :
    p.createOrder visit =
      (orderReply visit.order.request visit.suffix (p.postJson visit).1,
        { (p.postJson visit).2 with
          breaker := (p.postJson visit).2.breaker.leave authBreaker visit.leaveAt
            (if (p.postJson visit).1.isSome then .returned else .raised true) }) := by
  rw [Platform.createOrder, CircuitBreaker.enter_of_closed closed]

/-- An order through a closed breaker is answered by its token, or with 502 if the bucket
    refuses it; the fifth refusal in a row opens the breaker. -/
theorem Tracks.createOrder {key : Str} {bucket : Bucket} {p : Platform} (tracks : Tracks key bucket p)
    {visit : Visit} (fits : visit.Fits) :
    ((p.createOrder visit).1.status =
        if (bucket.1.consume visit.authAt key).1.allowed then Auth.orderStatus visit.order.token else 502) ∧
      (authBreaker.failureThreshold ≤ (bucket.call key visit.authAt).2 →
        (p.createOrder visit).2.breaker = p.breaker.leave authBreaker visit.leaveAt (.raised true) ∧
          (p.createOrder visit).2.breaker.state = .Open) ∧
      (¬authBreaker.failureThreshold ≤ (bucket.call key visit.authAt).2 →
        Tracks key (bucket.call key visit.authAt) (p.createOrder visit).2) := by
  have admits := tracks.admits visit.authAt
  obtain ⟨rfl, identity, store, counting⟩ := tracks
  rw [← admits, p.createOrder_of_closed counting.closed]
  cases admitted : p.admits visit.authAt with
  | true =>
    obtain ⟨answered, stillClosed⟩ := Auth.validate_of_closed identity visit.authAt visit.order.token
    have called : bucket.call p.key visit.authAt = ((bucket.1.consume visit.authAt p.key).2, 0) := by
      simp only [Bucket.call, ← admits, admitted]
      rfl
    rw [Platform.postJson_of_admits admitted, answered, postJson_answer_of_short fits.1 fits.2, called]
    refine ⟨status_orderReply _ _ _, fun enough => ?_, fun _ => ?_⟩
    · exact absurd enough (show ¬authBreaker.failureThreshold ≤ 0 by decide)
    · exact ⟨rfl, stillClosed, congrArg (fun store => (store.consume visit.authAt p.key).2) store,
        counting.returned authBreaker visit.leaveAt⟩
  | false =>
    obtain ⟨limiter, raised, left⟩ := Platform.postJson_of_refuses admitted
    have called : bucket.call p.key visit.authAt =
        ((bucket.1.consume visit.authAt p.key).2, bucket.2 + 1) := by
      simp only [Bucket.call, ← admits, admitted]
      rfl
    have counted := counting.raised authBreaker visit.leaveAt
    rw [raised, called]
    refine ⟨rfl, fun enough => ?_, fun few => ?_⟩
    · rw [if_pos enough] at counted
      exact ⟨rfl, counted⟩
    · rw [if_neg few] at counted
      exact ⟨rfl, identity, by rw [left, store], counted⟩

/-! ## Which orders open the breaker -/

theorem exists_iff_of_until (Holds : ℕ → Prop) {Signal Ends : ℕ → Prop} (start : Holds 0)
    (silent : ¬Signal 0) (exclusive : ∀ n, Holds n → ¬Ends n)
    (advance : ∀ n, Holds n → (Signal (n + 1) → Ends (n + 1)) ∧ (¬Signal (n + 1) → Holds (n + 1))) :
    (∃ n, Ends n) ↔ ∃ n, Signal n := by
  have holds : ∀ n, (∀ m ≤ n, ¬Signal m) → Holds n := by
    intro n
    induction n with
    | zero => exact fun _ => start
    | succ n ih =>
      intro never
      exact (advance n (ih fun m within => never m (by omega))).2 (never (n + 1) le_rfl)
  constructor
  · rintro ⟨n, ends⟩
    by_contra! never
    exact exclusive n (holds n fun m _ => never m) ends
  · intro signalled
    classical
    have first := Nat.find_spec signalled
    have earlier : ∀ m < Nat.find signalled, ¬Signal m := fun m before => Nat.find_min signalled before
    cases isFirst : Nat.find signalled with
    | zero =>
      rw [isFirst] at first
      exact absurd first silent
    | succ n =>
      rw [isFirst] at first earlier
      exact ⟨n + 1, (advance n (holds n fun m within => earlier m (by omega))).1 first⟩

/-- Orders with tokens that auth accepts, one after another at any times, open the api's
    breaker exactly if the bucket of the api, called at the same times, would refuse as
    many calls in a row as the breaker's threshold. -/
theorem orders_open_breaker_iff (apiHost : Option Str) (rps burst : ℚ) (visits : ℕ → Visit)
    (fits : ∀ n, (visits n).Fits) :
    (∃ n, ((Platform.init apiHost rps burst).after visits n).breaker.state = .Open) ↔
      ∃ n, authBreaker.failureThreshold ≤ (Bucket.after ({ rps, burst }, 0) (clientKey none apiHost)
        (fun n => (visits n).authAt) n).2 := by
  refine exists_iff_of_until
    (fun n => Tracks (clientKey none apiHost)
      (Bucket.after ({ rps, burst }, 0) (clientKey none apiHost) (fun n => (visits n).authAt) n)
      ((Platform.init apiHost rps burst).after visits n)) ?_ ?_ ?_ ?_
  · exact ⟨rfl, rfl, rfl, rfl, rfl⟩
  · show ¬authBreaker.failureThreshold ≤ 0
    decide
  · intro n tracks isOpen
    rw [tracks.counting.closed] at isOpen
    cases isOpen
  · intro n tracks
    obtain ⟨-, opens, counts⟩ := tracks.createOrder (fits n)
    exact ⟨fun enough => (opens enough).2, counts⟩

def demoVisit : Visit where
  order := ⟨⟨"laptop".toList, 1, by decide, by decide⟩, orderToken none⟩
  suffix := "1a2b3c4d".toList
  context := {}
  enterAt := 0
  authAt := 0
  leaveAt := 0

theorem demoVisit_fits : demoVisit.Fits := ⟨by decide, by decide⟩

theorem orders_open_breaker_defaults :
    ∃ n, ((Platform.init none 10 20).after (fun _ => demoVisit) n).breaker.state = .Open := by
  refine (orders_open_breaker_iff none 10 20 (fun _ => demoVisit) fun _ => demoVisit_fits).mpr ⟨25, ?_⟩
  obtain ⟨-, -, refused⟩ := bucket_at_one_instant 10 20 (clientKey none none) 0 25
  have whole : ⌊(20 : ℚ)⌋₊ = 20 := Nat.floor_ofNat 20
  rw [whole] at refused
  exact refused.ge

/-! ## Orders within the rate -/

section

variable {apiHost : Option Str} {rps burst : ℚ} {visits : ℕ → Visit}

theorem tracks_of_conforms (fits : ∀ n, (visits n).Fits) {n : ℕ}
    (conforms : Conforms rps burst ((List.range n).map fun m => (visits m).authAt)) :
    Tracks (clientKey none apiHost)
      (Bucket.after ({ rps, burst }, 0) (clientKey none apiHost) (fun m => (visits m).authAt) n)
      ((Platform.init apiHost rps burst).after visits n) := by
  induction n with
  | zero => exact ⟨rfl, rfl, rfl, rfl, rfl⟩
  | succ n ih =>
    obtain ⟨-, -, counts⟩ := (ih (conforms_before conforms)).createOrder (fits n)
    have noneRefused := Bucket.call_of_allowed (Bucket.allowed_of_conforms conforms (clientKey none apiHost))
    refine counts fun enough => ?_
    rw [noneRefused] at enough
    exact absurd enough (by decide)

end

/-- Orders with tokens that auth accepts are all answered by their tokens, and leave the
    breaker closed, as long as their calls keep within auth's burst and rate. -/
theorem conforming_orders_served (apiHost : Option Str) (rps burst : ℚ) (visits : ℕ → Visit)
    (fits : ∀ n, (visits n).Fits) (n : ℕ)
    (conforms : Conforms rps burst ((List.range n).map fun m => (visits m).authAt)) :
    (∀ m < n, (((Platform.init apiHost rps burst).after visits m).createOrder (visits m)).1.status =
        Auth.orderStatus (visits m).order.token) ∧
      ((Platform.init apiHost rps burst).after visits n).breaker.state = .Closed := by
  induction n with
  | zero => exact ⟨fun m before => absurd before m.not_lt_zero, rfl⟩
  | succ n ih =>
    refine ⟨fun m before => ?_, (tracks_of_conforms fits conforms).counting.closed⟩
    rcases Nat.lt_succ_iff_lt_or_eq.mp before with earlier | rfl
    · exact (ih (conforms_before conforms)).1 m earlier
    · obtain ⟨answered, -, -⟩ := (tracks_of_conforms fits (conforms_before conforms)).createOrder (fits m)
      rwa [if_pos (Bucket.allowed_of_conforms conforms (clientKey none apiHost))] at answered

theorem conforms_every_second (n : ℕ) : Conforms 10 20 ((List.range n).map fun m : ℕ => (m : ℚ)) := by
  intro i j first last ordered
  have apart : (0 : ℚ) ≤ j - i := sub_nonneg.mpr (Nat.cast_le.mpr ordered)
  simp only [List.getElem_map, List.getElem_range]
  push_cast [Nat.cast_sub ordered]
  linarith

theorem conforming_orders_served_thousand :
    let visits : ℕ → Visit := fun n => { demoVisit with enterAt := n, authAt := n, leaveAt := n }
    (∀ m < 1000, (((Platform.init none 10 20).after visits m).createOrder (visits m)).1.status =
        Auth.orderStatus (orderToken none)) ∧
      ((Platform.init none 10 20).after visits 1000).breaker.state = .Closed := by
  intro visits
  exact conforming_orders_served none 10 20 visits (fun _ => demoVisit_fits) 1000 (conforms_every_second 1000)

/-! ## Orders at one instant -/

structure Tripped (time : ℚ) (p : Platform) : Prop where
  isOpen : p.breaker.store.record.state = .Open
  dated : p.breaker.store.record.openedAt = some time

theorem openedAt_of_opens {breaker : CircuitBreaker InMemoryStore} (notOpen : breaker.state ≠ .Open)
    {config : BreakerConfig} {now : ℚ} (opens : (breaker.leave config now (.raised true)).state = .Open) :
    (breaker.leave config now (.raised true)).store.record.openedAt = some now := by
  have notOpen : breaker.store.record.state ≠ .Open := notOpen
  by_cases isHalfOpen : breaker.store.record.state = .HalfOpen
  · simp [CircuitBreaker.leave, CircuitBreaker.exit, CircuitBreaker.recordFailure, CircuitBreaker.commit, isHalfOpen]
  · by_cases reached : config.failureThreshold ≤ breaker.store.record.failureCount + 1
    · simp [CircuitBreaker.leave, CircuitBreaker.exit, CircuitBreaker.recordFailure, CircuitBreaker.commit,
        isHalfOpen, reached]
    · simp [CircuitBreaker.leave, CircuitBreaker.exit, CircuitBreaker.recordFailure, CircuitBreaker.commit,
        CircuitBreaker.state, notOpen, isHalfOpen, reached] at opens

theorem Tripped.createOrder {time : ℚ} {p : Platform} (tripped : Tripped time p) {visit : Visit}
    (atOnce : visit.enterAt = time) :
    (p.createOrder visit).1.status = 503 ∧ Tripped time (p.createOrder visit).2 := by
  obtain ⟨isOpen, dated⟩ := tripped
  have rejected : p.breaker.enter authBreaker visit.enterAt = (false, p.breaker.reject) := by
    simp [CircuitBreaker.enter, CircuitBreaker.allow, isOpen, dated, atOnce, authBreaker]
  rw [Platform.createOrder, rejected]
  exact ⟨rfl, isOpen, dated⟩

section

variable {apiHost : Option Str} {rps burst apiTime authTime : ℚ} {visits : ℕ → Visit}

theorem reached_at_one_instant (fits : ∀ n, (visits n).Fits)
    (atOnce : ∀ n, (visits n).enterAt = apiTime ∧ (visits n).authAt = authTime ∧ (visits n).leaveAt = apiTime)
    (n : ℕ) :
    (n < ⌊burst⌋₊ + authBreaker.failureThreshold →
      Tracks (clientKey none apiHost)
        (Bucket.after ({ rps, burst }, 0) (clientKey none apiHost) (fun _ => authTime) n)
        ((Platform.init apiHost rps burst).after visits n)) ∧
    (⌊burst⌋₊ + authBreaker.failureThreshold ≤ n →
      Tripped apiTime ((Platform.init apiHost rps burst).after visits n)) := by
  induction n with
  | zero => exact ⟨fun _ => ⟨rfl, rfl, rfl, rfl, rfl⟩, fun none => absurd none (by simp [authBreaker])⟩
  | succ n ih =>
    obtain ⟨tracks, tripped⟩ := ih
    obtain ⟨enterAt, authAt, leaveAt⟩ := atOnce n
    by_cases opened : ⌊burst⌋₊ + authBreaker.failureThreshold ≤ n
    · exact ⟨fun few => absurd few (by omega), fun _ => ((tripped opened).createOrder enterAt).2⟩
    · have before := tracks (not_le.mp opened)
      obtain ⟨-, opens, counts⟩ := before.createOrder (fits n)
      rw [authAt] at opens counts
      obtain ⟨-, -, refused⟩ := bucket_at_one_instant rps burst (clientKey none apiHost) authTime (n + 1)
      -- the refusals in a row are the orders past the whole tokens of the burst
      have positive : 0 < authBreaker.failureThreshold := by decide
      constructor
      · intro few
        refine counts fun enough => ?_
        have enough : authBreaker.failureThreshold ≤ n + 1 - ⌊burst⌋₊ := enough.trans refused.le
        omega
      · intro enough
        have enough : authBreaker.failureThreshold ≤ n + 1 - ⌊burst⌋₊ := by omega
        obtain ⟨left, isOpen⟩ := opens (enough.trans refused.ge)
        have notOpen : ((Platform.init apiHost rps burst).after visits n).breaker.state ≠ .Open := by
          simp [before.counting.closed]
        have dated := openedAt_of_opens notOpen (left ▸ isOpen)
        rw [← left, leaveAt] at dated
        exact ⟨isOpen, dated⟩

end

/-- Orders with tokens that auth accepts, at one instant and one after another: as many are
    answered by their tokens as auth's burst has whole tokens, the next five are answered
    502, and all others 503. -/
theorem orders_at_one_instant (apiHost : Option Str) (rps burst : ℚ) (apiTime authTime : ℚ)
    (visits : ℕ → Visit) (fits : ∀ n, (visits n).Fits)
    (atOnce : ∀ n, (visits n).enterAt = apiTime ∧ (visits n).authAt = authTime ∧ (visits n).leaveAt = apiTime)
    (n : ℕ) :
    (((Platform.init apiHost rps burst).after visits n).createOrder (visits n)).1.status =
      if n < ⌊burst⌋₊ then Auth.orderStatus (visits n).order.token
      else if n < ⌊burst⌋₊ + authBreaker.failureThreshold then 502 else 503 := by
  obtain ⟨tracks, tripped⟩ := reached_at_one_instant fits atOnce n
  obtain ⟨enterAt, authAt, leaveAt⟩ := atOnce n
  by_cases opened : ⌊burst⌋₊ + authBreaker.failureThreshold ≤ n
  · rw [if_neg (by omega), if_neg (by omega)]
    exact ((tripped opened).createOrder enterAt).1
  · have answered := ((tracks (not_le.mp opened)).createOrder (fits n)).1
    rw [authAt, allowed_at_one_instant] at answered
    rw [answered, if_pos (not_le.mp opened)]
    simp

/-- With the default rates: of orders at one instant the twentieth is created, the next
    five fail, and the twenty-sixth finds the breaker open. -/
theorem orders_at_one_instant_defaults :
    let p := Platform.init none 10 20
    ((p.after (fun _ => demoVisit) 19).createOrder demoVisit).1.status = 200 ∧
      ((p.after (fun _ => demoVisit) 24).createOrder demoVisit).1.status = 502 ∧
      ((p.after (fun _ => demoVisit) 25).createOrder demoVisit).1.status = 503 := by
  intro p
  have answered := orders_at_one_instant none 10 20 0 0 (fun _ => demoVisit) (fun _ => demoVisit_fits)
    fun _ => ⟨rfl, rfl, rfl⟩
  have whole : ⌊(20 : ℚ)⌋₊ = 20 := Nat.floor_ofNat 20
  rw [whole] at answered
  exact ⟨answered 19, answered 24, answered 25⟩

end AutoSre.Services
