import AutoSre.Resilience.BreakerHistory
import AutoSre.Services.Stack

/-! # Readiness of a service

`GET /ready` looks at the error toggle and at the state of the breaker, and changes
neither.  An OPEN breaker becomes HALF_OPEN only in the `allow` of a call, so time alone
does not make the service ready again: a service that gets no calls because it is not
ready stays so.
-/

namespace AutoSre.Services.Stack

open AutoSre.Lib AutoSre.Lib.Python AutoSre.Resilience AutoSre.Chaos

variable {ι : Type}

def Outcome.isAdmitted : Outcome → Bool
  | .admitted => true
  | .ignored | .delayed _ | .injected | .limited _ | .overflow | .answered _ | .handling | .rejected | .settled
  | .responded _ | .task => false

/-! ## The request -/

theorem routes_ready : ∀ entry ∈ routes, entry.2 = .ready → entry.1 = (.get, "/ready".toList) := by decide

theorem request_of_ready {request : Request} (asksReady : request.route = .ready) :
    (request.method, request.path) = (.get, "/ready".toList) :=
  routes_ready _ (Request.route_mem (by simp [asksReady])) asksReady

theorem step_ready [DecidableEq ι] (s : Service ι) (config : BreakerConfig) {id : ι} {request : Request}
    (asksReady : request.route = .ready) (isNew : s.inside id = false) (now : ℚ) :
    s.step config (.request id request now) =
      { s with red := s.red.enter request }.answer request (.ready s.isReady s.chaos.status) := by
  obtain ⟨_, isPath⟩ := Prod.mk.inj (request_of_ready asksReady)
  have isControl : World.isControlPath request.path = true := by rw [isPath]; decide
  have isExcluded : excluded request.path = true := by rw [isPath]; decide
  simp only [Service.step, isNew, Service.receive, isControl, Service.rateLimit, isExcluded, Service.dispatch,
    asksReady, Bool.false_eq_true, if_true, if_false, ite_self]
  rfl

theorem step_ready_of_open [DecidableEq ι] {s : Service ι} (isOpen : s.breaker.state = .Open)
    (config : BreakerConfig) {id : ι} {request : Request} (asksReady : request.route = .ready)
    (isNew : s.inside id = false) (now : ℚ) :
    (s.step config (.request id request now)).1 = .answered (.ready false s.chaos.status) ∧
      (s.step config (.request id request now)).2.red.requestsTotal =
        (.get, "/ready".toList, 503) :: s.red.requestsTotal := by
  obtain ⟨isGet, isPath⟩ := Prod.mk.inj (request_of_ready asksReady)
  have unready : s.isReady = false := by simp [Service.isReady, isOpen]
  have notMetrics : ¬request.path = "/metrics".toList := by rw [isPath]; decide
  rw [step_ready s config asksReady isNew now, unready]
  refine ⟨rfl, ?_⟩
  simp only [Service.answer, Service.leave, Red.leave, Red.enter, notMetrics, if_false, Answer.status,
    Bool.false_eq_true]
  rw [isGet, isPath]

/-! ## The breaker through the layers -/

namespace Service

variable (s : Service ι) (config : BreakerConfig) (id : ι) (request : Request) (now : ℚ)

theorem dispatch_breaker : (s.dispatch config id request now).2.breaker = s.breaker := by
  unfold dispatch
  cases request.route <;> rfl

theorem rateLimit_breaker : (s.rateLimit config id request now).2.breaker = s.breaker := by
  unfold rateLimit
  split
  · exact s.dispatch_breaker config id request now
  · dsimp only
    split
    · exact dispatch_breaker _ config id request now
    · split <;> rfl

theorem injectOrPass_breaker (chaos : World) :
    (s.injectOrPass config id request now chaos).2.breaker = s.breaker := by
  unfold injectOrPass
  split
  · rfl
  · exact rateLimit_breaker _ config id request now

theorem receive_breaker : (s.receive config id request now).2.breaker = s.breaker := by
  unfold receive
  dsimp only
  split
  · exact rateLimit_breaker _ config id request now
  · split
    · exact rateLimit_breaker _ config id request now
    · split
      · rfl
      · exact injectOrPass_breaker _ config id request now _

end Service

/-! ## Calls on an OPEN breaker -/

theorem enter_of_open {breaker : CircuitBreaker InMemoryStore} (isOpen : breaker.state = .Open)
    (config : BreakerConfig) (now : ℚ) (refused : (breaker.enter config now).1 = false) :
    (breaker.enter config now).2.state = .Open := by
  obtain ⟨notOpen, -⟩ | ⟨-, -, rejected⟩ | ⟨-, admitted, -⟩ := enter_cases config breaker now
  · exact absurd isOpen notOpen
  · rw [rejected]
    exact isOpen
  · rw [admitted] at refused
    cases refused

theorem enter_admitted_of_open {breaker : CircuitBreaker InMemoryStore} (isOpen : breaker.state = .Open)
    (config : BreakerConfig) (now : ℚ) (admitted : (breaker.enter config now).1 = true) :
    (breaker.enter config now).2.state = .HalfOpen := by
  obtain ⟨notOpen, -⟩ | ⟨-, -, rejected⟩ | ⟨-, -, trial⟩ := enter_cases config breaker now
  · exact absurd isOpen notOpen
  · rw [rejected] at admitted
    cases admitted
  · simp [trial]

theorem leave_of_open {breaker : CircuitBreaker InMemoryStore} (isOpen : breaker.state = .Open)
    (config : BreakerConfig) (now : ℚ) (ending : CircuitBreaker.Ending) :
    (breaker.leave config now ending).state = .Open := by
  have recorded : breaker.store.record.state = .Open := isOpen
  match ending with
  | .returned =>
    simp [CircuitBreaker.leave, CircuitBreaker.exit, CircuitBreaker.recordSuccess, CircuitBreaker.commit, recorded]
  | .raised true =>
    -- a late failure is counted, and may open the breaker once more
    simp only [CircuitBreaker.leave, CircuitBreaker.exit, if_true, CircuitBreaker.recordFailure, load_inMemory,
      recorded, reduceCtorEq, if_false]
    split <;> rfl
  | .raised false => exact isOpen

/-! ## Runs -/

theorem step_of_open [DecidableEq ι] {s : Service ι} (isOpen : s.breaker.state = .Open) (config : BreakerConfig)
    (input : Input ι) (notAdmitted : (s.step config input).1.isAdmitted = false) :
    (s.step config input).2.breaker.state = .Open := by
  cases input with
  | request id request now =>
    simp only [Service.step]
    split
    · exact isOpen
    · rw [Service.receive_breaker]
      exact isOpen
  | wake id now =>
    simp only [Service.step]
    split
    · exact isOpen
    · split
      · rw [Service.injectOrPass_breaker]
        exact isOpen
      · exact isOpen
  | call id now =>
    simp only [Service.step] at *
    split
    next isFree =>
      rw [if_pos isFree] at notAdmitted
      cases entered : s.breaker.enter config now with
      | mk isAdmitted breaker =>
        cases isAdmitted with
        | true => simp [entered, Outcome.isAdmitted] at notAdmitted
        | false =>
          have stays := enter_of_open isOpen config now (by rw [entered])
          rw [entered] at stays
          exact stays
    · exact isOpen
  | callEnded id now ending =>
    simp only [Service.step]
    split
    · exact leave_of_open isOpen config now ending
    · exact isOpen
  | respond id status | crash id =>
    simp only [Service.step]
    split
    · exact isOpen
    · split <;> exact isOpen
  | start task | finish task =>
    simp only [Service.step]
    split <;> exact isOpen

theorem step_admitted_of_open [DecidableEq ι] {s : Service ι} (isOpen : s.breaker.state = .Open)
    (config : BreakerConfig) (id : ι) (now : ℚ) (admitted : (s.step config (.call id now)).1.isAdmitted = true) :
    (s.step config (.call id now)).2.breaker.state = .HalfOpen := by
  simp only [Service.step] at *
  split
  next isFree =>
    rw [if_pos isFree] at admitted
    cases entered : s.breaker.enter config now with
    | mk isAdmitted breaker =>
      cases isAdmitted with
      | true =>
        have moved := enter_admitted_of_open isOpen config now (by rw [entered])
        rw [entered] at moved
        exact moved
      | false => simp [entered, Outcome.isAdmitted] at admitted
  next isTaken =>
    rw [if_neg isTaken] at admitted
    cases admitted

theorem open_run [DecidableEq ι] {config : BreakerConfig} {s : Service ι} (isOpen : s.breaker.state = .Open)
    {inputs : List (Input ι)}
    (notAdmitted : ∀ answer ∈ answers (Service.step config) s inputs, answer.2.isAdmitted = false) :
    (final (Service.step config) s inputs).breaker.state = .Open := by
  induction inputs generalizing s with
  | nil => exact isOpen
  | cons input inputs ih =>
    obtain ⟨here, later⟩ := List.forall_mem_cons.mp notAdmitted
    exact ih (step_of_open isOpen config input here) later

/-- From any state of a service whose breaker is OPEN, and whatever happens to the service
    however long: as long as no call through the breaker was admitted, the breaker is OPEN
    and every `GET /ready` that comes in is answered 503.  The first call that is admitted
    makes it HALF_OPEN. -/
theorem unready_until_admitted [DecidableEq ι] (config : BreakerConfig) (s : Service ι)
    (isOpen : s.breaker.state = .Open) (inputs : List (Input ι))
    (notAdmitted : ∀ answer ∈ answers (Service.step config) s inputs, answer.2.isAdmitted = false) :
    let reached := final (Service.step config) s inputs
    reached.breaker.state = .Open ∧
      (∀ id request now, request.route = .ready → reached.inside id = false →
        (reached.step config (.request id request now)).1 = .answered (.ready false reached.chaos.status) ∧
          (reached.step config (.request id request now)).2.red.requestsTotal =
            (.get, "/ready".toList, 503) :: reached.red.requestsTotal) ∧
      ∀ id now, (reached.step config (.call id now)).1.isAdmitted = true →
        (reached.step config (.call id now)).2.breaker.state = .HalfOpen := by
  intro reached
  have stillOpen := open_run isOpen notAdmitted
  refine ⟨stillOpen, ?_, ?_⟩
  · intro id request now asksReady isNew
    exact step_ready_of_open stillOpen config asksReady isNew now
  · intro id now admitted
    exact step_admitted_of_open stillOpen config id now admitted

/-- A breaker that opened at time 0, asked for readiness long after its recovery timeout,
    behind an order that was refused. -/
theorem unready_until_admitted_much_later :
    let config : BreakerConfig := { name := "auth".toList, failureThreshold := 1 }
    let s : Service ℕ := { Service.init ℕ 10 20 with breaker := CircuitBreaker.fresh.recordFailure config 0 }
    let order : List (Input ℕ) :=
      [.request 0 { method := .post, path := "/orders".toList } 1, .call 0 1, .respond 0 503]
    ((final (Service.step config) s order).step config
        (.request 1 { method := .get, path := "/ready".toList } 3600)).2.red.requestsTotal =
      [(.get, "/ready".toList, 503), (.post, "/orders".toList, 503)] := by
  intro config s order
  have asked := (unready_until_admitted config s (by decide +kernel) order (by decide +kernel)).2.1 1
    { method := .get, path := "/ready".toList } 3600 (by decide +kernel) (by decide +kernel)
  rw [asked.2]
  exact congrArg _ (by decide +kernel)

end AutoSre.Services.Stack
