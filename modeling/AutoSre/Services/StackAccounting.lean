import AutoSre.Chaos.ErrorSpread
import AutoSre.Resilience.CallAccounting
import AutoSre.Services.Observation

/-! # Where the requests of a service go

Each layer of a service counts what it turns away: the chaos its injected errors, the rate
limiter its checks and rejections, the breaker its rejected calls.  `Stock` holds these
counters with the numbers of requests that are inside, and `Posts` says what each way of a
request through the layers adds to them.  A step of the service is one of these postings,
and over a run the counters agree with what became of the requests.
-/

namespace AutoSre.Services.Stack

open AutoSre.Lib AutoSre.Lib.Python AutoSre.Resilience AutoSre.Chaos

variable {ι : Type}

/-- An outcome without its data. -/
inductive Kind where
  | ignored
  | delayed
  | injected
  | limited
  | overflow
  | answered
  | handling
  | admitted
  | rejected
  | settled
  | responded
  | task
deriving DecidableEq

def Outcome.kind : Outcome → Kind
  | .ignored => .ignored
  | .delayed _ => .delayed
  | .injected => .injected
  | .limited _ => .limited
  | .overflow => .overflow
  | .answered _ => .answered
  | .handling => .handling
  | .admitted => .admitted
  | .rejected => .rejected
  | .settled => .settled
  | .responded _ => .responded
  | .task => .task

/-! ## Postings -/

/-- The requests inside the service, and its counters: `chaos_error_injections_total`,
    `rate_limit_requests_total`, `rate_limit_rejections_total` and
    `circuit_breaker_rejections_total`. -/
structure Stock where
  sleeping : ℕ
  handling : ℕ
  calling : ℕ
  injections : ℕ
  checks : ℕ
  rejections : ℕ
  breakerRejections : ℕ

def Service.stock (s : Service ι) : Stock where
  sleeping := s.sleeping.length
  handling := s.handling.length
  calling := s.calling.length
  injections := s.chaos.errorInjectionsTotal
  checks := s.limiter.requestsTotal
  rejections := s.limiter.rejectionsTotal
  breakerRejections := s.breaker.rejectionsTotal

/-- What becomes of a request that does not stay in the chaos layer. -/
inductive Posts (s : Stock) : Kind → Stock → Prop where
  | injected : Posts s .injected { s with injections := s.injections + 1 }
  | limited : Posts s .limited { s with checks := s.checks + 1, rejections := s.rejections + 1 }
  | overflow : Posts s .overflow { s with checks := s.checks + 1, rejections := s.rejections + 1 }
  | answered : Posts s .answered s
  -- a path of the limiter's exclusions that the router does not know itself
  | unlimited : Posts s .handling { s with handling := s.handling + 1 }
  | passed : Posts s .handling { s with handling := s.handling + 1, checks := s.checks + 1 }

/-- What an input does; the flag says whether it is a request that comes in. -/
inductive StepPosts (s : Stock) : Bool → Kind → Stock → Prop where
  | ignored (isRequest : Bool) : StepPosts s isRequest .ignored s
  | delayed : StepPosts s true .delayed { s with sleeping := s.sleeping + 1 }
  | received {kind : Kind} {t : Stock} : Posts s kind t → StepPosts s true kind t
  | woken {kind : Kind} {t : Stock} : 0 < s.sleeping → Posts { s with sleeping := s.sleeping - 1 } kind t →
      StepPosts s false kind t
  | admitted : StepPosts s false .admitted { s with calling := s.calling + 1 }
  | rejected : StepPosts s false .rejected { s with breakerRejections := s.breakerRejections + 1 }
  | settled : 0 < s.calling → StepPosts s false .settled { s with calling := s.calling - 1 }
  | responded : 0 < s.handling → StepPosts s false .responded { s with handling := s.handling - 1 }
  | task : StepPosts s false .task s

def Input.isRequest : Input ι → Bool
  | .request _ _ _ => true
  | .wake _ _ | .call _ _ | .callEnded _ _ _ | .respond _ _ | .crash _ | .start _ | .finish _ => false

/-! ## The layers -/

theorem routes_excluded : ∀ entry ∈ routes, excluded entry.1.2 = true := by decide

theorem excluded_of_route {request : Request} (shared : request.route ≠ .business) :
    excluded request.path = true :=
  routes_excluded _ (Request.route_mem shared)

theorem handle_injections {β : Type} (w : World) (config : Option β) {handler : World → β → Reply × World}
    (keeps : ∀ config, (handler w config).2.errorInjectionsTotal = w.errorInjectionsTotal) :
    (w.handle config handler).2.errorInjectionsTotal = w.errorInjectionsTotal := by
  cases config with
  | none => rfl
  | some config => exact keeps config

theorem triggerMemory_injections (w : World) (config : MemoryConfig) :
    (w.triggerMemory config).2.errorInjectionsTotal = w.errorInjectionsTotal := by
  unfold World.triggerMemory
  split <;> rfl

namespace Service

variable (s : Service ι) (config : BreakerConfig) (id : ι) (request : Request) (now : ℚ)

theorem control_stock (handled : Reply × World) (shared : request.route ≠ .business)
    (keeps : handled.2.errorInjectionsTotal = s.chaos.errorInjectionsTotal) :
    (s.control request handled).1.kind = .answered ∧ (s.control request handled).2.stock = s.stock ∧
      excluded request.path = true := by
  refine ⟨rfl, ?_, excluded_of_route shared⟩
  simp only [control, answer, setChaos, leave, stock, keeps]

theorem dispatch_stock :
    ((s.dispatch config id request now).1.kind = .answered ∧ (s.dispatch config id request now).2.stock = s.stock ∧
        excluded request.path = true) ∨
      ((s.dispatch config id request now).1.kind = .handling ∧
        (s.dispatch config id request now).2.stock = { s.stock with handling := s.stock.handling + 1 }) := by
  unfold dispatch
  cases route : request.route with
  | business => exact .inr ⟨rfl, rfl⟩
  | health | ready | metrics | chaosStatus | breakerStatus | rateLimitStatus | listFailures | clearFailures =>
    exact .inl ⟨rfl, rfl, excluded_of_route (by simp [route])⟩
  | chaosLatency | chaosErrors | chaosCpu =>
    refine .inl (s.control_stock request _ (by simp [route]) ?_)
    exact handle_injections s.chaos _ fun _ => rfl
  | chaosMemory =>
    refine .inl (s.control_stock request _ (by simp [route]) ?_)
    exact handle_injections s.chaos _ (triggerMemory_injections s.chaos)
  | chaosReset => exact .inl (s.control_stock request _ (by simp [route]) rfl)

theorem rateLimit_posts :
    Posts s.stock (s.rateLimit config id request now).1.kind (s.rateLimit config id request now).2.stock := by
  unfold rateLimit
  cases isExcluded : excluded request.path with
  | true =>
    rw [if_pos rfl]
    obtain ⟨isAnswered, same, _⟩ | ⟨isHandling, handled⟩ := s.dispatch_stock config id request now
    · rw [isAnswered, same]
      exact .answered
    · rw [isHandling, handled]
      exact .unlimited
  | false =>
    rw [if_neg Bool.false_ne_true]
    dsimp only
    split
    next allowed =>
      have admitted : (s.limiter.check now (clientKey request.forwardedFor request.host)).2.rejectionsTotal =
          s.limiter.rejectionsTotal := if_pos allowed
      -- a path that is limited is none of the router's own, so it cannot answer here
      obtain ⟨_, _, impossible⟩ | ⟨isHandling, handled⟩ :=
        dispatch_stock { s with limiter := (s.limiter.check now (clientKey request.forwardedFor request.host)).2 }
          config id request now
      · rw [isExcluded] at impossible
        cases impossible
      · rw [isHandling, handled]
        simp only [stock, admitted]
        exact .passed
    next refused =>
      have counted : (s.limiter.check now (clientKey request.forwardedFor request.host)).2.rejectionsTotal =
          s.limiter.rejectionsTotal + 1 := if_neg refused
      split
      · simp only [stock, leave, counted]
        exact .limited
      · simp only [stock, counted]
        exact .overflow

theorem injectOrPass_posts {chaos : World}
    (counts : chaos.errorInjectionsTotal =
      s.chaos.errorInjectionsTotal + if s.chaos.state.shouldInjectError.1 then 1 else 0) :
    Posts s.stock (s.injectOrPass config id request now chaos).1.kind
      (s.injectOrPass config id request now chaos).2.stock := by
  unfold injectOrPass
  split
  next injects =>
    rw [if_pos injects] at counts
    simp only [stock, leave, counts]
    exact .injected
  next passes =>
    rw [if_neg passes, Nat.add_zero] at counts
    have posts := rateLimit_posts { s with chaos } config id request now
    simp only [stock, counts] at posts
    exact posts

end Service

theorem wake_counts (w : World) (delay : ℚ) :
    (w.wake delay).errorInjectionsTotal =
      w.errorInjectionsTotal + if w.state.shouldInjectError.1 then 1 else 0 :=
  World.injectError_counts _

theorem arrive_counts {w : World} {path : Str} (isData : World.isControlPath path = false)
    (prompt : ¬(w.state.latencyEnabled ∧ 0 < w.state.latencySeconds)) :
    (w.arrive path).errorInjectionsTotal =
      w.errorInjectionsTotal + if w.state.shouldInjectError.1 then 1 else 0 := by
  simp only [World.arrive, isData, Bool.false_eq_true, if_false, if_neg prompt, World.injectError_counts]

namespace Service

variable (s : Service ι) (config : BreakerConfig) (id : ι) (request : Request) (now : ℚ)

theorem receive_posts :
    StepPosts s.stock true (s.receive config id request now).1.kind (s.receive config id request now).2.stock := by
  unfold receive
  dsimp only
  split
  next isMetrics => exact .received (rateLimit_posts { s with red := s.red.enter request } config id request now)
  next notMetrics =>
    split
    next isControl => exact .received (rateLimit_posts { s with red := s.red.enter request } config id request now)
    next isData =>
      have isData : World.isControlPath request.path = false := Bool.eq_false_of_not_eq_true isData
      split
      next isDelayed =>
        have asleep : (s.chaos.arrive request.path).errorInjectionsTotal = s.chaos.errorInjectionsTotal := by
          simp only [World.arrive, isData, Bool.false_eq_true, if_false, if_pos isDelayed]
        simp only [stock, asleep, List.length_cons]
        exact .delayed
      next prompt =>
        exact .received (injectOrPass_posts { s with red := s.red.enter request } config id request now
          (arrive_counts isData prompt))

end Service

theorem enter_rejections (config : BreakerConfig) (now : ℚ) (breaker : CircuitBreaker InMemoryStore) :
    (breaker.enter config now).2.rejectionsTotal =
      breaker.rejectionsTotal + if (breaker.enter config now).1 then 0 else 1 := by
  have allowed : (breaker.allow config now).2.rejectionsTotal = breaker.rejectionsTotal :=
    Ledger.rejectionsTotal_operate breaker ⟨now, .allow⟩
  unfold CircuitBreaker.enter
  dsimp only
  split
  · exact allowed
  · simp [CircuitBreaker.reject, allowed]

theorem leave_rejections (config : BreakerConfig) (now : ℚ) (breaker : CircuitBreaker InMemoryStore)
    (ending : CircuitBreaker.Ending) :
    (breaker.leave config now ending).rejectionsTotal = breaker.rejectionsTotal := by
  match ending with
  | .returned => exact Ledger.rejectionsTotal_operate breaker ⟨now, .recordSuccess⟩
  | .raised true => exact Ledger.rejectionsTotal_operate breaker ⟨now, .recordFailure⟩
  | .raised false => rfl

theorem start_injections {w after : World} {task : Task} (taken : w.step (.start task) = some after) :
    after.errorInjectionsTotal = w.errorInjectionsTotal := World.step_counts taken

theorem finish_injections {w after : World} {task : Task} (taken : w.step (.finish task) = some after) :
    after.errorInjectionsTotal = w.errorInjectionsTotal := World.step_counts taken

theorem length_eraseP_of_find? {α : Type} {p : α → Bool} {items : List α} {item : α}
    (found : items.find? p = some item) : 0 < items.length ∧ (items.eraseP p).length = items.length - 1 := by
  have isMember := List.mem_of_find?_eq_some found
  exact ⟨List.length_pos_of_mem isMember, List.length_eraseP_of_mem isMember (List.find?_some found)⟩

namespace Service

variable [DecidableEq ι] (s : Service ι) (config : BreakerConfig)

theorem step_posts (input : Input ι) :
    StepPosts s.stock input.isRequest (s.step config input).1.kind (s.step config input).2.stock := by
  cases input with
  | request id request now =>
    simp only [step]
    split
    · exact .ignored true
    · exact s.receive_posts config id request now
  | wake id now =>
    simp only [step]
    split
    next => exact .ignored false
    next sleeper found =>
      split
      next isDue =>
        obtain ⟨positive, erased⟩ := length_eraseP_of_find? found
        -- awake again, the request goes through the layers as one fewer sleeps
        have posts := injectOrPass_posts { s with sleeping := s.sleeping.eraseP (·.id = id) } config id
          sleeper.request now (wake_counts s.chaos sleeper.delay)
        refine .woken positive ?_
        simp only [stock, erased] at posts ⊢
        exact posts
      next => exact .ignored false
  | call id now =>
    simp only [step]
    split
    next =>
      have counted := enter_rejections config now s.breaker
      cases entered : s.breaker.enter config now with
      | mk isAdmitted breaker =>
        rw [entered] at counted
        cases isAdmitted with
        | true =>
          simp only [if_true, Nat.add_zero] at counted
          simp only [stock, setBreaker, counted, List.length_cons]
          exact .admitted
        | false =>
          simp only [Bool.false_eq_true, if_false] at counted
          simp only [stock, setBreaker, counted]
          exact .rejected
    next => exact .ignored false
  | callEnded id now ending =>
    simp only [step]
    split
    next isCalling =>
      have positive := List.length_pos_of_mem isCalling
      simp only [stock, setBreaker, leave_rejections, List.length_erase_of_mem isCalling]
      exact .settled positive
    next => exact .ignored false
  | respond id status =>
    simp only [step]
    split
    next => exact .ignored false
    next found =>
      obtain ⟨positive, erased⟩ := length_eraseP_of_find? found
      split
      next => exact .ignored false
      next =>
        simp only [stock, leave, erased]
        exact .responded positive
  | crash id =>
    simp only [step]
    split
    next => exact .ignored false
    next found =>
      obtain ⟨positive, erased⟩ := length_eraseP_of_find? found
      split
      next => exact .ignored false
      next =>
        simp only [stock, erased]
        exact .responded positive
  | start task =>
    simp only [step]
    split
    next chaos taken =>
      simp only [stock, start_injections taken]
      exact .task
    next => exact .ignored false
  | finish task =>
    simp only [step]
    split
    next chaos taken =>
      simp only [stock, finish_injections taken]
      exact .task
    next => exact .ignored false

end Service

/-! ## Runs -/

/-- The inputs of the run with what became of them. -/
abbrev ServiceLog (ι : Type) := List (Input ι × Outcome)

def tally (kind : Kind) (log : ServiceLog ι) : ℕ := log.countP fun entry => entry.2.kind = kind

def accepted (log : ServiceLog ι) : ℕ := log.countP fun entry => entry.1.isRequest ∧ entry.2.kind ≠ .ignored

/-- The stock after a run, against the stock before it and the outcomes of the run. -/
structure Reconciled (before after : Stock) (log : ServiceLog ι) : Prop where
  requests : before.sleeping + accepted log = after.sleeping + tally .injected log + tally .limited log +
    tally .overflow log + tally .answered log + tally .handling log
  handlers : before.handling + tally .handling log = after.handling + tally .responded log
  calls : before.calling + tally .admitted log = after.calling + tally .settled log
  injections : after.injections = before.injections + tally .injected log
  rejections : after.rejections = before.rejections + tally .limited log + tally .overflow log
  checksLower : before.checks + tally .limited log + tally .overflow log ≤ after.checks
  checksUpper : after.checks ≤ before.checks + tally .limited log + tally .overflow log + tally .handling log
  breakerRejections : after.breakerRejections = before.breakerRejections + tally .rejected log

theorem Reconciled.trans {before middle after : Stock} {first second : ServiceLog ι}
    (earlier : Reconciled before middle first) (later : Reconciled middle after second) :
    Reconciled before after (first ++ second) := by
  obtain ⟨requests, handlers, calls, injections, rejections, checksLower, checksUpper, breakerRejections⟩ := earlier
  obtain ⟨requests', handlers', calls', injections', rejections', checksLower', checksUpper', breakerRejections'⟩ :=
    later
  have tallied : ∀ kind, tally kind (first ++ second) = tally kind first + tally kind second :=
    fun kind => List.countP_append
  have came : accepted (first ++ second) = accepted first + accepted second := List.countP_append
  constructor <;> simp only [tallied, came] <;> omega

theorem Reconciled.step {before after : Stock} {input : Input ι} {outcome : Outcome}
    (posts : StepPosts before input.isRequest outcome.kind after) :
    Reconciled before after [(input, outcome)] := by
  generalize isRequest : input.isRequest = flag at posts
  generalize isKind : outcome.kind = kind at posts
  cases posts with
  | ignored | delayed | admitted | rejected | settled | responded | task =>
    constructor <;> simp [tally, accepted, isRequest, isKind] <;> omega
  | received posts =>
    cases posts <;> constructor <;> simp [tally, accepted, isRequest, isKind]
  | woken asleep posts =>
    cases posts <;> constructor <;> simp [tally, accepted, isRequest, isKind] <;> omega

theorem reconciled_run [DecidableEq ι] (config : BreakerConfig) (s : Service ι) (inputs : List (Input ι)) :
    Reconciled s.stock (final (Service.step config) s inputs).stock (answers (Service.step config) s inputs) := by
  induction inputs generalizing s with
  | nil => constructor <;> simp [answers, tally, accepted]
  -- the log lists the first input first, so a run is one step before the rest
  | cons input inputs ih => exact (Reconciled.step (s.step_posts config input)).trans (ih _)

/-- In every run of a service, in numbers: each request that came in is asleep, was turned
    away by one layer, was answered, or was handed to its handler; a handler is running or
    has responded, and an admitted call is under way or has ended.  The counters of the
    layers count the requests each of them turned away, and the limiter checks no request
    that another layer answered. -/
theorem stack_accounting [DecidableEq ι] (config : BreakerConfig) (rps burst : ℚ) (inputs : List (Input ι)) :
    let s := final (Service.step config) (Service.init ι rps burst) inputs
    let log := answers (Service.step config) (Service.init ι rps burst) inputs
    accepted log = s.sleeping.length + tally .injected log + tally .limited log + tally .overflow log +
        tally .answered log + tally .handling log ∧
      tally .handling log = s.handling.length + tally .responded log ∧
      tally .admitted log = s.calling.length + tally .settled log ∧
      s.chaos.errorInjectionsTotal = tally .injected log ∧
      s.limiter.rejectionsTotal = tally .limited log + tally .overflow log ∧
      s.limiter.rejectionsTotal ≤ s.limiter.requestsTotal ∧
      s.limiter.requestsTotal ≤ s.limiter.rejectionsTotal + tally .handling log ∧
      s.breaker.rejectionsTotal = tally .rejected log := by
  intro s log
  have reconciled : Reconciled ⟨0, 0, 0, 0, 0, 0, 0⟩ s.stock log :=
    reconciled_run config (Service.init ι rps burst) inputs
  obtain ⟨requests, handlers, calls, injections, rejections, checksLower, checksUpper, breakerRejections⟩ := reconciled
  simp only [Service.stock, Nat.zero_add] at *
  refine ⟨requests, handlers, calls, injections, rejections, ?_, ?_, breakerRejections⟩
  · rw [rejections]
    exact checksLower
  · rw [rejections]
    exact checksUpper

end AutoSre.Services.Stack
