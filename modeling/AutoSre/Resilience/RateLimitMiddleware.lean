import AutoSre.Resilience.RateLimiter

/-! # The rate-limit middleware

`RateLimitMiddleware.dispatch`: a request to a path that is not excluded takes a token of
its client, and is answered 429 with the seconds to wait if there is none.  The middleware
rounds the store's wait up to an integer, and `math.ceil` raises on a wait that is not
finite.  The store answers such a wait at a rate of zero, and also where the division by a
tiny rate overflows, so the result on a whole run is about `Float`.
-/

namespace AutoSre.Resilience

open AutoSre.Lib AutoSre.Lib.Python

variable {ρ α : Type}

/-- A request at the middleware, with the reading of the clock and the response that
    `call_next` returns. -/
structure Arrival (ρ : Type) (α : Type := ℚ) where
  now : α
  path : Str
  forwardedFor : Option Str := none
  host : Option Str := none
  downstream : ρ

def Arrival.key (arrival : Arrival ρ α) : Str := clientKey arrival.forwardedFor arrival.host

/-- How a dispatch ends: with the response from downstream, with a 429 and its
    `Retry-After`, or with the exception of `math.ceil`. -/
inductive Dispatched (ρ : Type) where
  | downstream (response : ρ)
  | tooManyRequests (retryAfter : ℤ)
  | ceilError
deriving DecidableEq

def Dispatched.isTooMany : Dispatched ρ → Bool
  | .tooManyRequests _ => true
  | .downstream _ | .ceilError => false

/-- The event persisted with a 429. -/
structure Rejected where
  client : Str
  path : Str
  retryAfter : ℤ
deriving DecidableEq

structure RateLimitMiddleware (α : Type := ℚ) where
  limiter : RateLimiter Str α
  events : List Rejected := []

namespace RateLimitMiddleware

def init (rps burst : α) : RateLimitMiddleware α := { limiter := .init rps burst }

variable [Add α] [Sub α] [Mul α] [LT α] [DecidableLT α]

def tokens (m : RateLimitMiddleware α) (arrival : Arrival ρ α) : α :=
  m.limiter.store.cur arrival.now arrival.key

variable [Div α] [LE α] [DecidableLE α] [OfNat α 0] [OfNat α 1] [MathCeil α]

def dispatch (m : RateLimitMiddleware α) (arrival : Arrival ρ α) : Dispatched ρ × RateLimitMiddleware α :=
  if excluded arrival.path then (.downstream arrival.downstream, m)
  else
    let (result, limiter) := m.limiter.check arrival.now arrival.key
    if result.allowed then (.downstream arrival.downstream, { m with limiter })
    else
      match retrySeconds result.retryAfter with
      | some retry =>
        (.tooManyRequests retry, { limiter, events := ⟨arrival.key, arrival.path, retry⟩ :: m.events })
      | none => (.ceilError, { m with limiter })

def step (m : RateLimitMiddleware α) (arrival : Arrival ρ α) : Option (RateLimitMiddleware α) :=
  some (m.dispatch arrival).2

/-! ## One request -/

section

variable {m : RateLimitMiddleware α} {arrival : Arrival ρ α} {seconds : ℤ}

theorem dispatch_excluded (isExcluded : excluded arrival.path = true) :
    m.dispatch arrival = (.downstream arrival.downstream, m) :=
  if_pos isExcluded

theorem dispatch_admitted (counted : excluded arrival.path = false) (enough : 1 ≤ m.tokens arrival) :
    m.dispatch arrival =
      (.downstream arrival.downstream, { m with limiter := (m.limiter.check arrival.now arrival.key).2 }) := by
  have allowed : (m.limiter.check arrival.now arrival.key).1.allowed = true := by
    simpa [RateLimiter.check, tokens] using enough
  simp only [dispatch, counted, Bool.false_eq_true, if_false, allowed, if_true]

omit [MathCeil α] in
theorem check_of_few (few : ¬1 ≤ m.tokens arrival) :
    (m.limiter.check arrival.now arrival.key).1.allowed = false ∧
      (m.limiter.check arrival.now arrival.key).1.retryAfter =
        if 0 < m.limiter.store.rps then (((1 - m.tokens arrival) / m.limiter.store.rps : α) : WithTop α)
        else ⊤ := by
  have short : ¬1 ≤ m.limiter.store.cur arrival.now arrival.key := few
  simp only [RateLimiter.check, InMemoryBucketStore.consume, short, if_false]
  exact ⟨trivial, rfl⟩

theorem dispatch_rejected (counted : excluded arrival.path = false) (few : ¬1 ≤ m.tokens arrival)
    (positive : 0 < m.limiter.store.rps)
    (rounded : MathCeil.ceil ((1 - m.tokens arrival) / m.limiter.store.rps) = some seconds) :
    let retry := max 1 seconds
    m.dispatch arrival =
      (.tooManyRequests retry,
        { limiter := (m.limiter.check arrival.now arrival.key).2
          events := ⟨arrival.key, arrival.path, retry⟩ :: m.events }) := by
  obtain ⟨refused, wait⟩ := check_of_few few
  have announced : retrySeconds (m.limiter.check arrival.now arrival.key).1.retryAfter = some (max 1 seconds) := by
    rw [wait, if_pos positive]
    exact congrArg (Option.map (max 1)) rounded
  simp only [dispatch, counted, Bool.false_eq_true, if_false, refused, announced]

theorem dispatch_ceilError (counted : excluded arrival.path = false) (few : ¬1 ≤ m.tokens arrival)
    (unbounded : 0 < m.limiter.store.rps →
      MathCeil.ceil ((1 - m.tokens arrival) / m.limiter.store.rps) = none) :
    m.dispatch arrival =
      (.ceilError, { m with limiter := (m.limiter.check arrival.now arrival.key).2 }) := by
  obtain ⟨refused, wait⟩ := check_of_few few
  have raised : retrySeconds (m.limiter.check arrival.now arrival.key).1.retryAfter = none := by
    by_cases positive : 0 < m.limiter.store.rps
    · rw [wait, if_pos positive]
      exact congrArg (Option.map (max 1)) (unbounded positive)
    · rw [wait, if_neg positive]
      rfl
  simp only [dispatch, counted, Bool.false_eq_true, if_false, refused, raised]

/-- The request is answered: from downstream if the bucket admits it, and else with a 429
    that asks for a wait of at least one second. -/
def Responds (m : RateLimitMiddleware α) (arrival : Arrival ρ α) : Prop :=
  if 1 ≤ m.tokens arrival then (m.dispatch arrival).1 = .downstream arrival.downstream
  else ∃ retry, (m.dispatch arrival).1 = .tooManyRequests retry ∧ 1 ≤ retry

/-- There is a token, or a wait that can be rounded up. -/
def HasAnswer (rps : α) (m : RateLimitMiddleware α) (arrival : Arrival ρ α) : Prop :=
  1 ≤ m.tokens arrival ∨
    0 < rps ∧ (MathCeil.ceil ((1 - m.tokens arrival) / rps)).isSome

theorem responds_iff (counted : excluded arrival.path = false) :
    m.Responds arrival ↔ HasAnswer m.limiter.store.rps m arrival := by
  unfold Responds HasAnswer
  by_cases enough : 1 ≤ m.tokens arrival
  · rw [if_pos enough, dispatch_admitted counted enough]
    exact iff_of_true rfl (.inl enough)
  · rw [if_neg enough, or_iff_right enough]
    constructor
    · rintro ⟨retry, isTooMany, _⟩
      by_contra unanswered
      rw [not_and, Bool.not_eq_true, Option.isSome_eq_false_iff, Option.isNone_iff_eq_none] at unanswered
      rw [dispatch_ceilError counted enough unanswered] at isTooMany
      cases isTooMany
    · rintro ⟨positive, finite⟩
      obtain ⟨seconds, rounded⟩ := Option.isSome_iff_exists.mp finite
      rw [dispatch_rejected counted enough positive rounded]
      exact ⟨_, rfl, le_max_left _ _⟩

theorem dispatch_store (counted : excluded arrival.path = false) :
    (m.dispatch arrival).2.limiter.store = (m.limiter.store.consume arrival.now arrival.key).2 := by
  simp only [dispatch, counted, Bool.false_eq_true, if_false]
  split
  · rfl
  · split <;> rfl

theorem dispatch_rps (m : RateLimitMiddleware α) (arrival : Arrival ρ α) :
    (m.dispatch arrival).2.limiter.store.rps = m.limiter.store.rps := by
  cases counted : excluded arrival.path with
  | true => rw [dispatch_excluded counted]
  | false => rw [dispatch_store counted, InMemoryBucketStore.consume_rps]

theorem dispatch_rejectionsTotal
    (answered : excluded arrival.path = false → HasAnswer m.limiter.store.rps m arrival) :
    (m.dispatch arrival).2.limiter.rejectionsTotal =
      m.limiter.rejectionsTotal + if (m.dispatch arrival).1.isTooMany then 1 else 0 := by
  cases counted : excluded arrival.path with
  | true =>
    rw [dispatch_excluded counted]
    rfl
  | false =>
    by_cases enough : 1 ≤ m.tokens arrival
    · rw [dispatch_admitted counted enough]
      have allowed : 1 ≤ m.limiter.store.cur arrival.now arrival.key := enough
      simp [RateLimiter.check, allowed, Dispatched.isTooMany]
    · obtain ⟨positive, finite⟩ := (answered counted).resolve_left enough
      obtain ⟨seconds, rounded⟩ := Option.isSome_iff_exists.mp finite
      rw [dispatch_rejected counted enough positive rounded]
      have refused : ¬1 ≤ m.limiter.store.cur arrival.now arrival.key := enough
      simp [RateLimiter.check, refused, Dispatched.isTooMany]

end

end RateLimitMiddleware

/-! ## Runs -/

abbrev ArrivalHistory (ρ : Type) (α : Type := ℚ) := List (Transition (RateLimitMiddleware α) (Arrival ρ α))

section

variable [Add α] [Sub α] [Mul α] [Div α] [LT α] [DecidableLT α] [LE α] [DecidableLE α] [OfNat α 0] [OfNat α 1]
  [MathCeil α]

def tooManyRequests (history : ArrivalHistory ρ α) : ℕ :=
  history.countP fun made => (made.before.dispatch made.label).1.isTooMany

variable {rps burst : α} {history : ArrivalHistory ρ α} {m : RateLimitMiddleware α}

theorem rps_run (run : Trace RateLimitMiddleware.step (.init rps burst) history m) :
    m.limiter.store.rps = rps := by
  apply run.invariant (P := fun m => m.limiter.store.rps = rps) rfl
  intro before arrival after same taken
  cases taken
  rw [RateLimitMiddleware.dispatch_rps, same]

theorem rps_before (run : Trace RateLimitMiddleware.step (.init rps burst) history m) :
    ∀ made ∈ history, made.before.limiter.store.rps = rps := by
  induction run with
  | nil => simp
  | snoc earlier taken ih => exact List.forall_mem_cons.mpr ⟨rps_run earlier, ih⟩

theorem rejectionsTotal_run (run : Trace RateLimitMiddleware.step (.init rps burst) history m)
    (answered : ∀ made ∈ history, excluded made.label.path = false →
      RateLimitMiddleware.HasAnswer rps made.before made.label) :
    m.limiter.rejectionsTotal = tooManyRequests history := by
  induction run with
  | nil => rfl
  | @snoc past before arrival after earlier taken ih =>
    rw [List.forall_mem_cons] at answered
    cases taken
    have here := answered.1
    simp only [← rps_run earlier] at here
    rw [RateLimitMiddleware.dispatch_rejectionsTotal here, ih answered.2, tooManyRequests, tooManyRequests,
      List.countP_cons]

end

/-- In every run, all requests to paths that are not excluded are answered and the
    rejection counter counts the 429 responses, exactly when each of them found a token or,
    at a positive rate, a wait that is finite in double precision. -/
theorem middleware_responds_iff (rps burst : Float) (history : ArrivalHistory ρ Float)
    (m : RateLimitMiddleware Float) (run : Trace RateLimitMiddleware.step (.init rps burst) history m) :
    ((∀ made ∈ history, excluded made.label.path = false → made.before.Responds made.label) ∧
        m.limiter.rejectionsTotal = tooManyRequests history) ↔
      ∀ made ∈ history, excluded made.label.path = false →
        1 ≤ made.before.tokens made.label ∨
          0 < rps ∧ ((1 - made.before.tokens made.label) / rps).isFinite = true := by
  have rates := rps_before run
  have meaning (made : Transition (RateLimitMiddleware Float) (Arrival ρ Float)) :
      (1 ≤ made.before.tokens made.label ∨
          0 < rps ∧ ((1 - made.before.tokens made.label) / rps).isFinite = true) ↔
        RateLimitMiddleware.HasAnswer rps made.before made.label := by
    rw [RateLimitMiddleware.HasAnswer, isSome_ceil]
  simp only [meaning]
  constructor
  · rintro ⟨responds, _⟩ made isMade counted
    have answered := (RateLimitMiddleware.responds_iff counted).mp (responds made isMade counted)
    rwa [rates made isMade] at answered
  · intro answered
    refine ⟨?_, rejectionsTotal_run run answered⟩
    intro made isMade counted
    rw [RateLimitMiddleware.responds_iff counted, rates made isMade]
    exact answered made isMade counted

theorem middleware_responds_second_of_two :
    ∃ (history : ArrivalHistory Unit Float) (m : RateLimitMiddleware Float),
      Trace RateLimitMiddleware.step (.init 0.5 1) history m ∧ tooManyRequests history = 1 ∧
        m.limiter.rejectionsTotal = tooManyRequests history := by
  obtain ⟨history, m, run, answered, once⟩ :=
    exists_trace_of_replay RateLimitMiddleware.step (.init (0.5 : Float) 1)
      [⟨0, "/orders".toList, none, none, ()⟩, ⟨0.1, "/orders".toList, none, none, ()⟩]
      (fun history _ => (∀ made ∈ history, excluded made.label.path = false →
        1 ≤ made.before.tokens made.label ∨
          (0 : Float) < 0.5 ∧ ((1 - made.before.tokens made.label) / 0.5).isFinite = true) ∧
        tooManyRequests history = 1)
      (by decide +kernel)
  exact ⟨history, m, run, once, ((middleware_responds_iff 0.5 1 history m run).mpr answered).2⟩

/-- At a rate of zero the second request is not answered, and counted all the same. -/
theorem zero_rate_raises :
    ∃ (history : ArrivalHistory Unit Float) (m : RateLimitMiddleware Float),
      Trace RateLimitMiddleware.step (.init 0 1) history m ∧
        history.map (fun made => (made.before.dispatch made.label).1) = [.ceilError, .downstream ()] ∧
        m.limiter.rejectionsTotal = 1 ∧ tooManyRequests history = 0 :=
  exists_trace_of_replay RateLimitMiddleware.step (.init (0 : Float) 1)
    [⟨0, "/orders".toList, none, none, ()⟩, ⟨0, "/orders".toList, none, none, ()⟩]
    (fun history m => history.map (fun made => (made.before.dispatch made.label).1) =
      [.ceilError, .downstream ()] ∧ m.limiter.rejectionsTotal = 1 ∧ tooManyRequests history = 0)
    (by decide +kernel)

/-- So it is at a positive rate by which the wait overflows. -/
example : (0 : Float) < 1e-320 ∧ ((1 - 0) / 1e-320 : Float).isFinite = false := by
  decide +kernel

end AutoSre.Resilience
