import AutoSre.Chaos.Controller
import AutoSre.Lib.Machine
import AutoSre.Resilience.CircuitBreaker
import AutoSre.Resilience.RateLimitMiddleware

/-! # A service behind its middleware

What `create_service_app` builds, with rate limiting: a request goes through
`PrometheusMiddleware`, which applies the chaos of the service, through
`RateLimitMiddleware` and to the router, whose handlers read or change the chaos
state, the buckets, the breaker and the persisted failures.  Which requests the first
two leave alone is decided by two separate lists of paths.

The layers hand a request on to each other within one step.  A request that chaos
delays, and one in a business handler, stays in the service while others go through.  A
handler may make any number of calls through the service's breaker; when they are made
and how they end is given with the inputs, as is every reading of the clock.
`Service.step` answers each input with what becomes of it.

The request context and the security headers touch nothing of this and are left out.
-/

namespace AutoSre.Services.Stack

open AutoSre.Lib AutoSre.Lib.Python AutoSre.Resilience AutoSre.Chaos

/-! ## Requests -/

inductive Method where
  | get
  | post
  | delete
  | other (name : Str)
deriving DecidableEq

/-- The body of a control request, as far as a handler reads it. -/
inductive Payload where
  | empty
  | latency (body : LatencyBody)
  | errors (body : ErrorBody)
  | cpu (body : CPUBody)
  | memory (body : MemoryBody)

structure Request where
  method : Method
  path : Str
  forwardedFor : Option Str := none
  host : Option Str := none
  payload : Payload := .empty
  limit : ℤ := 100
  source : Option Str := none

/-- The endpoints of the shared routers; everything else is `business`. -/
inductive Route where
  | health
  | ready
  | metrics
  | chaosLatency
  | chaosErrors
  | chaosCpu
  | chaosMemory
  | chaosReset
  | chaosStatus
  | breakerStatus
  | rateLimitStatus
  | listFailures
  | clearFailures
  | business
deriving DecidableEq

def routes : List ((Method × Str) × Route) :=
  [((.get, "/health".toList), .health), ((.get, "/ready".toList), .ready),
    ((.get, "/metrics".toList), .metrics), ((.post, "/chaos/latency".toList), .chaosLatency),
    ((.post, "/chaos/errors".toList), .chaosErrors), ((.post, "/chaos/cpu".toList), .chaosCpu),
    ((.post, "/chaos/memory".toList), .chaosMemory), ((.post, "/chaos/reset".toList), .chaosReset),
    ((.get, "/chaos/status".toList), .chaosStatus), ((.get, "/breaker/status".toList), .breakerStatus),
    ((.get, "/rate-limit/status".toList), .rateLimitStatus),
    ((.get, "/failures".toList), .listFailures), ((.delete, "/failures".toList), .clearFailures)]

def Request.route (request : Request) : Route :=
  (routes.lookup (request.method, request.path)).getD .business

theorem Request.route_mem {request : Request} (shared : request.route ≠ .business) :
    ((request.method, request.path), request.route) ∈ routes := by
  unfold Request.route at *
  cases found : routes.lookup (request.method, request.path) with
  | none => simp [found] at shared
  | some route =>
    obtain ⟨before, after, isSplit, _⟩ := List.lookup_eq_some_iff.mp found
    simp [isSplit]

/-! ## The service -/

/-- What `record_event` persists, by its source. -/
inductive Failure where
  | chaos (event : ChaosEvent)
  | circuitBreaker (event : BreakerEvent)
  | rateLimit (client path : Str) (retryAfter : ℤ)
deriving DecidableEq

def Failure.source : Failure → Str
  | .chaos _ => "chaos".toList
  | .circuitBreaker _ => "circuit_breaker".toList
  | .rateLimit _ _ _ => "rate_limit".toList

/-- The RED series: the gauge of requests in progress, and one entry for each count of
    `http_requests_total` and of `http_exceptions_total`. -/
structure Red where
  inProgress : Method → ℤ := fun _ => 0
  requestsTotal : List (Method × Str × ℕ) := []
  exceptionsTotal : List (Method × Str) := []

/-- A request inside `asyncio.sleep`. -/
structure Sleeper (ι : Type) where
  id : ι
  request : Request
  delay : ℚ
  due : ℚ

/-- `handling` are the requests in a business handler, `calling` those of them that
    wait for a call through the breaker; `failures` is latest first. -/
structure Service (ι : Type) where
  chaos : World := {}
  limiter : RateLimiter Str
  breaker : CircuitBreaker InMemoryStore := .fresh
  failures : List Failure := []
  red : Red := {}
  sleeping : List (Sleeper ι) := []
  handling : List (ι × Request) := []
  calling : List ι := []

def Service.init (ι : Type) (rps burst : ℚ) : Service ι := { limiter := .init rps burst }

/-- The answers of the shared endpoints. -/
inductive Answer where
  | health (chaos : ChaosState.Snapshot)
  | ready (ok : Bool) (chaos : ChaosState.Snapshot)
  | metrics
  | chaos (reply : Reply)
  | chaosStatus (chaos : ChaosState.Snapshot)
  | breakerStatus (breaker : CircuitBreaker.Snapshot)
  | rateLimitStatus (limiter : RateLimiter.Snapshot Str)
  | failures (events : List Failure)
  | cleared

def Answer.status : Answer → ℕ
  | .ready ok _ => if ok then 200 else 503
  | .chaos reply => reply.status
  | .health _ | .metrics | .chaosStatus _ | .breakerStatus _ | .rateLimitStatus _ | .failures _ | .cleared => 200

/-- What becomes of an input.  `ignored` is an input that cannot happen in this state,
    `overflow` the exception in the middleware on an infinite wait. -/
inductive Outcome where
  | ignored
  | delayed (seconds : ℚ)
  | injected
  | limited (retryAfter : ℤ)
  | overflow
  | answered (answer : Answer)
  | handling
  | admitted
  | rejected
  | settled
  | responded (status : ℕ)
  | task

/-- `respond` is a handler's response, those of its `HTTPException`s and of the breaker's
    503 among them; `crash` is any other exception. -/
inductive Input (ι : Type) where
  | request (id : ι) (request : Request) (now : ℚ)
  | wake (id : ι) (now : ℚ)
  | call (id : ι) (now : ℚ)
  | callEnded (id : ι) (now : ℚ) (ending : CircuitBreaker.Ending)
  | respond (id : ι) (status : ℕ)
  | crash (id : ι)
  | start (task : Task)
  | finish (task : Task)

/-! ## RED -/

namespace Red

def enter (red : Red) (request : Request) : Red :=
  if request.path = "/metrics".toList then red
  else { red with inProgress := Function.update red.inProgress request.method (red.inProgress request.method + 1) }

/-- The `finally` clause of the dispatch. -/
def leave (red : Red) (request : Request) (status : ℕ) : Red :=
  if request.path = "/metrics".toList then red
  else
    { red with
      inProgress := Function.update red.inProgress request.method (red.inProgress request.method - 1)
      requestsTotal := (request.method, request.path, status) :: red.requestsTotal }

def raised (red : Red) (request : Request) : Red :=
  if request.path = "/metrics".toList then red
  else { red with exceptionsTotal := (request.method, request.path) :: red.exceptionsTotal }

end Red

/-! ## The way of a request -/

namespace Service

variable {ι : Type}

/-- Changes the chaos state, with the events that its handler persisted. -/
def setChaos (s : Service ι) (chaos : World) : Service ι :=
  let persisted := chaos.events.take (chaos.events.length - s.chaos.events.length)
  { s with chaos, failures := persisted.map .chaos ++ s.failures }

def setBreaker (s : Service ι) (breaker : CircuitBreaker InMemoryStore) : Service ι :=
  let persisted := breaker.events.take (breaker.events.length - s.breaker.events.length)
  { s with breaker, failures := persisted.map .circuitBreaker ++ s.failures }

def leave (s : Service ι) (request : Request) (status : ℕ) : Service ι :=
  { s with red := s.red.leave request status }

def answer (s : Service ι) (request : Request) (answer : Answer) : Outcome × Service ι :=
  (.answered answer, s.leave request answer.status)

/-- A chaos control request: the reply of its handler and the state it leaves. -/
def control (s : Service ι) (request : Request) (handled : Reply × World) : Outcome × Service ι :=
  (s.setChaos handled.2).answer request (.chaos handled.1)

/-- `_readiness` of the api and of auth, behind the check of the error toggle. -/
def isReady (s : Service ι) : Bool := !s.chaos.state.errorEnabled && s.breaker.state ≠ .Open

def listFailures (s : Service ι) (request : Request) : List Failure :=
  lastItems request.limit
    (s.failures.reverse.filter fun failure => request.source.all (failure.source = ·))

def dispatch (config : BreakerConfig) (s : Service ι) (id : ι) (request : Request) (now : ℚ) :
    Outcome × Service ι :=
  match request.route with
  | .health => s.answer request (.health s.chaos.status)
  | .ready => s.answer request (.ready s.isReady s.chaos.status)
  | .metrics => s.answer request .metrics
  | .chaosLatency =>
    let body := match request.payload with
      | .latency body => body.validate
      | .empty | .errors _ | .cpu _ | .memory _ => none
    s.control request (s.chaos.handle body World.setLatency)
  | .chaosErrors =>
    let body := match request.payload with
      | .errors body => body.validate
      | .empty | .latency _ | .cpu _ | .memory _ => none
    s.control request (s.chaos.handle body World.setErrors)
  | .chaosCpu =>
    let body := match request.payload with
      | .cpu body => body.validate
      | .empty | .latency _ | .errors _ | .memory _ => none
    s.control request (s.chaos.handle body World.triggerCpu)
  | .chaosMemory =>
    let body := match request.payload with
      | .memory body => body.validate
      | .empty | .latency _ | .errors _ | .cpu _ => none
    s.control request (s.chaos.handle body World.triggerMemory)
  | .chaosReset => s.control request s.chaos.reset
  | .chaosStatus => s.answer request (.chaosStatus s.chaos.status)
  | .breakerStatus => s.answer request (.breakerStatus (s.breaker.snapshot config now))
  | .rateLimitStatus => s.answer request (.rateLimitStatus s.limiter.snapshot)
  | .listFailures => s.answer request (.failures (s.listFailures request))
  | .clearFailures => { s with failures := [] }.answer request .cleared
  | .business => (.handling, { s with handling := (id, request) :: s.handling })

def rateLimit (config : BreakerConfig) (s : Service ι) (id : ι) (request : Request) (now : ℚ) :
    Outcome × Service ι :=
  if excluded request.path then s.dispatch config id request now
  else
    let key := clientKey request.forwardedFor request.host
    let (result, limiter) := s.limiter.check now key
    let s := { s with limiter }
    if result.allowed then s.dispatch config id request now
    else
      match retrySeconds result.retryAfter with
      | some retry =>
        (.limited retry, { s with failures := .rateLimit key request.path retry :: s.failures }.leave request 429)
      | none => (.overflow, { s with red := (s.red.raised request).leave request 500 })

/-- `apply_request_chaos` after its sleep, if there was one: `chaos` is the state it leaves. -/
def injectOrPass (config : BreakerConfig) (s : Service ι) (id : ι) (request : Request) (now : ℚ)
    (chaos : World) : Outcome × Service ι :=
  if s.chaos.state.shouldInjectError.1 then (.injected, { s with chaos }.leave request 500)
  else { s with chaos }.rateLimit config id request now

/-- `PrometheusMiddleware.dispatch`, with `apply_request_chaos` up to its sleep. -/
def receive (config : BreakerConfig) (s : Service ι) (id : ι) (request : Request) (now : ℚ) :
    Outcome × Service ι :=
  let s := { s with red := s.red.enter request }
  -- `/metrics` goes past the chaos; it is a control path as well
  if request.path = "/metrics".toList then s.rateLimit config id request now
  else if World.isControlPath request.path then s.rateLimit config id request now
  else if s.chaos.state.latencyEnabled ∧ 0 < s.chaos.state.latencySeconds then
    let delay := s.chaos.state.latencySeconds
    (.delayed delay,
      { s with
        chaos := s.chaos.arrive request.path
        sleeping := ⟨id, request, delay, now + delay⟩ :: s.sleeping })
  else s.injectOrPass config id request now (s.chaos.arrive request.path)

variable [DecidableEq ι]

def inside (s : Service ι) (id : ι) : Bool :=
  s.sleeping.any (·.id = id) || s.handling.any (·.1 = id)

def step (config : BreakerConfig) (s : Service ι) : Input ι → Outcome × Service ι
  | .request id request now =>
    if s.inside id then (.ignored, s) else s.receive config id request now
  | .wake id now =>
    match s.sleeping.find? (·.id = id) with
    | none => (.ignored, s)
    | some sleeper =>
      if sleeper.due ≤ now then
        { s with sleeping := s.sleeping.eraseP (·.id = id) }.injectOrPass config id sleeper.request now
          (s.chaos.wake sleeper.delay)
      else (.ignored, s)
  | .call id now =>
    if s.handling.any (·.1 = id) ∧ id ∉ s.calling then
      match s.breaker.enter config now with
      | (true, breaker) => (.admitted, { s.setBreaker breaker with calling := id :: s.calling })
      | (false, breaker) => (.rejected, s.setBreaker breaker)
    else (.ignored, s)
  | .callEnded id now ending =>
    if id ∈ s.calling then
      (.settled, { s.setBreaker (s.breaker.leave config now ending) with calling := s.calling.erase id })
    else (.ignored, s)
  | .respond id status =>
    match s.handling.find? (·.1 = id) with
    | none => (.ignored, s)
    | some (_, request) =>
      if id ∈ s.calling then (.ignored, s)
      else (.responded status, { s with handling := s.handling.eraseP (·.1 = id) }.leave request status)
  | .crash id =>
    match s.handling.find? (·.1 = id) with
    | none => (.ignored, s)
    | some (_, request) =>
      if id ∈ s.calling then (.ignored, s)
      else
        (.responded 500, { s with
          handling := s.handling.eraseP (·.1 = id)
          red := (s.red.raised request).leave request 500 })
  | .start task =>
    match s.chaos.step (.start task) with
    | some chaos => (.task, { s with chaos })
    | none => (.ignored, s)
  | .finish task =>
    match s.chaos.step (.finish task) with
    | some chaos => (.task, { s with chaos })
    | none => (.ignored, s)

end Service

/-! ## The middleware in the service -/

/-- The request as the rate-limit middleware sees it. -/
def Request.arrival (request : Request) (now : ℚ) : Arrival Unit where
  now
  path := request.path
  forwardedFor := request.forwardedFor
  host := request.host
  downstream := ()

/-- What the service does with a request after the chaos is what the rate-limit middleware
    makes of it, with the router behind it. -/
theorem Service.rateLimit_eq_dispatch {ι : Type} (config : BreakerConfig) (s : Service ι) (id : ι)
    (request : Request) (now : ℚ) (events : List Rejected) :
    s.rateLimit config id request now =
      match RateLimitMiddleware.dispatch ⟨s.limiter, events⟩ (request.arrival now) with
      | (.downstream _, m) => { s with limiter := m.limiter }.dispatch config id request now
      | (.tooManyRequests retry, m) =>
        let event := .rateLimit (request.arrival now).key request.path retry
        (.limited retry, { s with limiter := m.limiter, failures := event :: s.failures }.leave request 429)
      | (.ceilError, m) =>
        (.overflow, { s with limiter := m.limiter, red := (s.red.raised request).leave request 500 }) := by
  unfold Service.rateLimit RateLimitMiddleware.dispatch
  cases isExcluded : excluded request.path with
  | true => simp [Request.arrival, isExcluded]
  | false =>
    simp only [Request.arrival, isExcluded, Bool.false_eq_true, if_false, Arrival.key]
    by_cases allowed : (s.limiter.check now (clientKey request.forwardedFor request.host)).1.allowed = true
    · simp only [allowed, if_true]
    · simp only [allowed, Bool.false_eq_true, if_false]
      cases retrySeconds (s.limiter.check now (clientKey request.forwardedFor request.host)).1.retryAfter <;> rfl

end AutoSre.Services.Stack
