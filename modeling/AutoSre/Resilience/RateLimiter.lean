import Mathlib.Order.WithBot
import AutoSre.Lib.Python
import AutoSre.Lib.TokenBucket
import AutoSre.Lib.Trace

/-! # The token bucket rate limiter

`InMemoryBucketStore` and `RateLimiter` of `resilience/rate_limiter.py`, over any type of
numbers: exact rationals unless another is named.  Every `consume` holds the store's lock,
so one call is one step; the clock reading it takes is passed in.
-/

namespace AutoSre.Resilience

open AutoSre.Lib AutoSre.Lib.Python

/-- `retry_after` is `⊤` where the code answers `float("inf")`. -/
structure RateLimitResult (α : Type := ℚ) where
  allowed : Bool
  remaining : α
  retryAfter : WithTop α
deriving DecidableEq

/-- The buckets of all clients: for each key the tokens left and the reading of the
    call that left them. -/
structure InMemoryBucketStore (κ : Type) (α : Type := ℚ) where
  rps : α
  burst : α
  buckets : Dict κ (α × α) := .empty

variable {κ : Type} [DecidableEq κ]

namespace InMemoryBucketStore

section

variable {α : Type} [Add α] [Sub α] [Mul α] [LT α] [DecidableLT α]

/-- The level `consume` finds: a bucket seen for the first time is full. -/
def cur (store : InMemoryBucketStore κ α) (now : α) (key : κ) : α :=
  let (level, last) := (store.buckets.get key).getD (store.burst, now)
  minOf store.burst (level + (now - last) * store.rps)

variable [Div α] [LE α] [DecidableLE α] [OfNat α 0] [OfNat α 1]

def consume (store : InMemoryBucketStore κ α) (now : α) (key : κ) (tokens : α := 1) :
    RateLimitResult α × InMemoryBucketStore κ α :=
  let cur := store.cur now key
  if tokens ≤ cur then
    (⟨true, cur - tokens, (0 : α)⟩,
      { store with buckets := store.buckets.set key (cur - tokens, now) })
  else
    -- a rejected call writes the bucket too: it moves `last` to its own reading
    let retryAfter : WithTop α := if 0 < store.rps then ↑((tokens - cur) / store.rps) else ⊤
    (⟨false, cur, retryAfter⟩, { store with buckets := store.buckets.set key (cur, now) })

/-! ## What one call does -/

variable (store : InMemoryBucketStore κ α) (now : α) (key : κ) (tokens : α)

@[simp] theorem consume_rps : (store.consume now key tokens).2.rps = store.rps := by
  simp only [consume]
  split <;> rfl

@[simp] theorem consume_burst : (store.consume now key tokens).2.burst = store.burst := by
  simp only [consume]
  split <;> rfl

@[simp] theorem consume_allowed :
    (store.consume now key tokens).1.allowed = decide (tokens ≤ store.cur now key) := by
  simp only [consume]
  split
  next enough => simp [enough]
  next few => simp [few]

@[simp] theorem consume_remaining :
    (store.consume now key tokens).1.remaining =
      if tokens ≤ store.cur now key then store.cur now key - tokens else store.cur now key := by
  simp only [consume]
  split <;> rfl

@[simp] theorem consume_get_self :
    (store.consume now key tokens).2.buckets.get key =
      some ((store.consume now key tokens).1.remaining, now) := by
  simp only [consume]
  split <;> simp

theorem consume_get_of_ne {other : κ} (differ : other ≠ key) :
    (store.consume now key tokens).2.buckets.get other = store.buckets.get other := by
  simp only [consume]
  split <;> simp [Dict.get_set_of_ne _ _ differ]

end

/-! ## Exact readings and levels -/

def activeKeys (store : InMemoryBucketStore κ) : ℕ := store.buckets.len

def sample (store : InMemoryBucketStore κ) (limit : ℕ := 20) : List (κ × ℚ) :=
  (store.buckets.items.take limit).map fun item => (item.1, round item.2.1 2)

variable {store : InMemoryBucketStore κ} {now : ℚ} {key : κ}

theorem cur_of_unseen (unseen : store.buckets.get key = none) : store.cur now key = store.burst := by
  simp [cur, unseen, minOf_eq_min]

theorem cur_of_seen {level last : ℚ} (seen : store.buckets.get key = some (level, last)) :
    store.cur now key = TokenBucket.refill store.rps store.burst level (now - last) := by
  simp [cur, seen, TokenBucket.refill, minOf_eq_min]

theorem consume_cur_of_ne (store : InMemoryBucketStore κ) (now later : ℚ) (tokens : ℚ) {key other : κ}
    (differ : other ≠ key) :
    (store.consume now key tokens).2.cur later other = store.cur later other := by
  simp [cur, consume_get_of_ne store now key tokens differ]

end InMemoryBucketStore

/-! ## The limiter -/

/-- `RateLimiter` over an in-memory store, with the counters `rate_limit_requests_total`
    and `rate_limit_rejections_total`. -/
structure RateLimiter (κ : Type) (α : Type := ℚ) where
  rps : α
  burst : α
  store : InMemoryBucketStore κ α
  requestsTotal : ℕ := 0
  rejectionsTotal : ℕ := 0

namespace RateLimiter

section

variable {α : Type}

def init (rps burst : α) : RateLimiter κ α := { rps, burst, store := { rps, burst } }

variable [Add α] [Sub α] [Mul α] [Div α] [LT α] [DecidableLT α] [LE α] [DecidableLE α] [OfNat α 0] [OfNat α 1]

def check (limiter : RateLimiter κ α) (now : α) (key : κ) : RateLimitResult α × RateLimiter κ α :=
  let (result, store) := limiter.store.consume now key
  (result,
    { limiter with
      store
      requestsTotal := limiter.requestsTotal + 1
      rejectionsTotal :=
        if result.allowed then limiter.rejectionsTotal else limiter.rejectionsTotal + 1 })

end

structure Snapshot (κ : Type) where
  requestsPerSecond : ℚ
  burstCapacity : ℚ
  activeClients : ℕ
  sample : List (κ × ℚ)

def snapshot (limiter : RateLimiter κ) : Snapshot κ where
  requestsPerSecond := limiter.rps
  burstCapacity := limiter.burst
  activeClients := limiter.store.activeKeys
  sample := limiter.store.sample

end RateLimiter

/-! ## The middleware's decisions -/

/-- `_client_key`, from the `x-forwarded-for` header and the peer's host. -/
def clientKey (forwardedFor host : Option Str) : Str :=
  match forwardedFor.getD [] with
  | [] => host.getD "unknown".toList -- a missing header and an empty one are the same here
  | c :: rest => strip ((c :: rest).takeWhile (· ≠ ','))

/-- `_EXCLUDE_EXACT` and `_EXCLUDE_PREFIXES` -/
def excluded (path : Str) : Bool :=
  ["/", "/health", "/ready", "/metrics", "/docs", "/redoc", "/openapi.json"].any (·.toList = path) ||
    ["/chaos", "/breaker", "/rate-limit", "/failures"].any fun head => startswith head.toList path

/-- `max(1, math.ceil(retry_after))`; `none` stands for the exception of `math.ceil`. -/
def retrySeconds {α : Type} [MathCeil α] : WithTop α → Option ℤ
  | some wait => (MathCeil.ceil wait).map (max 1)
  | none => none

end AutoSre.Resilience
