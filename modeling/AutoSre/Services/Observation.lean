import AutoSre.Services.Stack

/-! # Observation does not perturb

The read-only control requests move the RED series and nothing else of a service, and
nothing that answers another request reads these series.  So two runs that differ only
in such requests treat all others alike.  A control path, read-only or not, is on both
lists of the middleware: its request goes straight to the router.
-/

namespace AutoSre.Services.Stack

open AutoSre.Lib AutoSre.Lib.Python AutoSre.Resilience AutoSre.Chaos

/-! ## Read-only control requests -/

def observedPaths : List Str :=
  ["/health".toList, "/ready".toList, "/metrics".toList, "/chaos/status".toList,
    "/breaker/status".toList, "/rate-limit/status".toList, "/failures".toList]

def Request.isObserver (request : Request) : Bool :=
  request.method = .get && observedPaths.contains request.path

def Input.isObserver {ι : Type} : Input ι → Bool
  | .request _ asked _ => asked.isObserver
  | .wake _ _ | .call _ _ | .callEnded _ _ _ | .respond _ _ | .crash _ | .start _ | .finish _ => false

def Route.isReadOnly : Route → Bool
  | .health | .ready | .metrics | .chaosStatus | .breakerStatus | .rateLimitStatus | .listFailures => true
  | .chaosLatency | .chaosErrors | .chaosCpu | .chaosMemory | .chaosReset | .clearFailures | .business => false

/-- The request went through the middleware to the router within its step, and its
    answer, if it has one by then, is neither a 500 nor a 429. -/
def Outcome.routed : Outcome → Bool
  | .answered answer => answer.status ≠ 500 && answer.status ≠ 429
  | .handling => true
  | .ignored | .delayed _ | .injected | .limited _ | .overflow => false
  | .admitted | .rejected | .settled | .responded _ | .task => false

theorem observedPaths_routes :
    ∀ path ∈ observedPaths,
      ((routes.lookup (Method.get, path)).getD .business).isReadOnly = true ∧
        World.isControlPath path = true := by
  decide

theorem Request.isObserver_route {request : Request} (observer : request.isObserver = true) :
    request.route.isReadOnly = true ∧ World.isControlPath request.path = true := by
  obtain ⟨isGet, member⟩ : request.method = .get ∧ request.path ∈ observedPaths := by
    simpa [Request.isObserver] using observer
  rw [Request.route, isGet]
  exact observedPaths_routes request.path member

/-- The two lists differ only in `/`, which the rate limiter lets pass as well. -/
theorem excluded_of_isControlPath {path : Str} (control : World.isControlPath path = true) :
    excluded path = true := by
  unfold World.isControlPath at control
  unfold excluded
  rw [Bool.or_eq_true] at control ⊢
  apply control.imp_left
  intro exact
  rw [List.any_cons, exact, Bool.or_true]

theorem Answer.status_routed (answer : Answer) : (Outcome.answered answer).routed = true := by
  cases answer with
  | ready ok chaos => cases ok <;> rfl
  | chaos reply => cases reply <;> rfl
  | health _ | metrics | chaosStatus _ | breakerStatus _ | rateLimitStatus _ | failures _ | cleared => rfl

namespace Service

variable {ι : Type}

/-! ## Control requests -/

section

variable (s : Service ι) (config : BreakerConfig) (id : ι) (request : Request) (now : ℚ)

theorem dispatch_routed : (s.dispatch config id request now).1.routed = true := by
  unfold dispatch
  cases request.route with
  | business => rfl
  | health | ready | metrics | chaosLatency | chaosErrors | chaosCpu | chaosMemory | chaosReset | chaosStatus
  | breakerStatus | rateLimitStatus | listFailures | clearFailures => exact Answer.status_routed _

theorem rateLimit_of_isControlPath (control : World.isControlPath request.path = true) :
    s.rateLimit config id request now = s.dispatch config id request now :=
  if_pos (excluded_of_isControlPath control)

theorem receive_of_isControlPath (control : World.isControlPath request.path = true) :
    s.receive config id request now =
      { s with red := s.red.enter request }.dispatch config id request now := by
  unfold receive
  dsimp only
  rw [if_pos control, rateLimit_of_isControlPath _ config id request now control, ite_self]

@[simp] theorem dispatch_sleeping : (s.dispatch config id request now).2.sleeping = s.sleeping := by
  unfold dispatch
  cases request.route <;> rfl

@[simp] theorem rateLimit_sleeping : (s.rateLimit config id request now).2.sleeping = s.sleeping := by
  unfold rateLimit
  split
  · exact dispatch_sleeping s config id request now
  · dsimp only
    split
    · exact dispatch_sleeping _ config id request now
    · split <;> rfl

@[simp] theorem injectOrPass_sleeping (chaos : World) :
    (s.injectOrPass config id request now chaos).2.sleeping = s.sleeping := by
  unfold injectOrPass
  split
  · rfl
  · exact rateLimit_sleeping _ config id request now

end

/-- No control request is inside `asyncio.sleep`. -/
def DataSleepers (s : Service ι) : Prop :=
  ∀ sleeper ∈ s.sleeping, World.isControlPath sleeper.request.path = false

theorem receive_dataSleepers {s : Service ι} (asleep : DataSleepers s) (config : BreakerConfig) (id : ι)
    (request : Request) (now : ℚ) : DataSleepers (s.receive config id request now).2 := by
  by_cases control : World.isControlPath request.path = true
  · rw [receive_of_isControlPath s config id request now control]
    unfold DataSleepers
    rw [dispatch_sleeping]
    exact asleep
  · have notMetrics : request.path ≠ "/metrics".toList := by
      intro isMetrics
      rw [isMetrics] at control
      exact control (by decide)
    unfold receive
    dsimp only
    rw [if_neg notMetrics, if_neg control]
    split
    · exact List.forall_mem_cons.mpr ⟨Bool.eq_false_of_not_eq_true control, asleep⟩
    · unfold DataSleepers
      rw [injectOrPass_sleeping]
      exact asleep

/-! ## Services that differ in their RED series -/

def SameButRed (s t : Service ι) : Prop := ∃ red, s = { t with red }

theorem SameButRed.refl (s : Service ι) : SameButRed s s := ⟨s.red, rfl⟩

theorem SameButRed.trans {s t u : Service ι} (left : SameButRed s t) (right : SameButRed t u) :
    SameButRed s u := by
  obtain ⟨red, rfl⟩ := left
  obtain ⟨_, rfl⟩ := right
  exact ⟨red, rfl⟩

theorem SameButRed.symm {s t : Service ι} (same : SameButRed s t) : SameButRed t s := by
  obtain ⟨red, rfl⟩ := same
  exact ⟨t.red, rfl⟩

theorem dispatch_of_isReadOnly (s : Service ι) (config : BreakerConfig) (id : ι) (request : Request)
    (now : ℚ) (readOnly : request.route.isReadOnly = true) :
    SameButRed (s.dispatch config id request now).2 s := by
  unfold dispatch
  cases route : request.route with
  | health | ready | metrics | chaosStatus | breakerStatus | rateLimitStatus | listFailures => exact ⟨_, rfl⟩
  | chaosLatency | chaosErrors | chaosCpu | chaosMemory | chaosReset | clearFailures | business =>
    rw [route] at readOnly
    cases readOnly

/-- Two steps with the same outcome, to services that differ in their RED series. -/
def Alike (left right : Outcome × Service ι) : Prop := left.1 = right.1 ∧ SameButRed left.2 right.2

section

variable {s t : Service ι} (same : SameButRed s t) (config : BreakerConfig) (id : ι) (request : Request)
  (now : ℚ)

include same

theorem dispatch_alike : Alike (s.dispatch config id request now) (t.dispatch config id request now) := by
  obtain ⟨red, rfl⟩ := same
  unfold dispatch
  cases request.route <;> exact ⟨rfl, _, rfl⟩

theorem rateLimit_alike : Alike (s.rateLimit config id request now) (t.rateLimit config id request now) := by
  obtain ⟨red, rfl⟩ := same
  unfold rateLimit
  split
  · apply dispatch_alike
    exact ⟨red, rfl⟩
  · dsimp only
    split
    · apply dispatch_alike
      exact ⟨red, rfl⟩
    · split <;> exact ⟨rfl, _, rfl⟩

theorem injectOrPass_alike (chaos : World) :
    Alike (s.injectOrPass config id request now chaos) (t.injectOrPass config id request now chaos) := by
  obtain ⟨red, rfl⟩ := same
  unfold injectOrPass
  dsimp only
  split
  · exact ⟨rfl, _, rfl⟩
  · apply rateLimit_alike
    exact ⟨red, rfl⟩

theorem receive_alike : Alike (s.receive config id request now) (t.receive config id request now) := by
  obtain ⟨red, rfl⟩ := same
  unfold receive
  dsimp only
  split
  · apply rateLimit_alike
    exact ⟨_, rfl⟩
  · split
    · apply rateLimit_alike
      exact ⟨_, rfl⟩
    · split
      · exact ⟨rfl, _, rfl⟩
      · apply injectOrPass_alike
        exact ⟨_, rfl⟩

end

variable [DecidableEq ι]

theorem step_alike {s t : Service ι} (same : SameButRed s t) (config : BreakerConfig) (input : Input ι) :
    Alike (s.step config input) (t.step config input) := by
  obtain ⟨red, rfl⟩ := same
  cases input with
  | request id request now =>
    by_cases inside : t.inside id = true
    · have insideToo : { t with red }.inside id = true := inside
      rw [step, step, if_pos inside, if_pos insideToo]
      exact ⟨rfl, red, rfl⟩
    · have outsideToo : ¬ { t with red }.inside id = true := inside
      rw [step, step, if_neg inside, if_neg outsideToo]
      apply receive_alike
      exact ⟨red, rfl⟩
  | wake id now =>
    cases found : t.sleeping.find? (·.id = id) with
    | none =>
      simp only [step, found]
      exact ⟨rfl, red, rfl⟩
    | some sleeper =>
      simp only [step, found]
      split
      · apply injectOrPass_alike
        exact ⟨red, rfl⟩
      · exact ⟨rfl, red, rfl⟩
  | call id now =>
    simp only [step]
    split
    · split <;> exact ⟨rfl, red, rfl⟩
    · exact ⟨rfl, red, rfl⟩
  | callEnded id now ending =>
    simp only [step]
    split <;> exact ⟨rfl, red, rfl⟩
  | respond id _ | crash id =>
    cases found : t.handling.find? (·.1 = id) with
    | none =>
      simp only [step, found]
      exact ⟨rfl, red, rfl⟩
    | some handled =>
      simp only [step, found]
      split <;> exact ⟨rfl, _, rfl⟩
  | start task | finish task =>
    simp only [step]
    split <;> exact ⟨rfl, red, rfl⟩

theorem step_of_isObserver (s : Service ι) (config : BreakerConfig) {input : Input ι}
    (observer : input.isObserver = true) : SameButRed (s.step config input).2 s := by
  cases input with
  | request id request now =>
    obtain ⟨readOnly, control⟩ := Request.isObserver_route observer
    simp only [step]
    split
    · exact .refl s
    · rw [receive_of_isControlPath s config id request now control]
      exact (dispatch_of_isReadOnly _ config id request now readOnly).trans ⟨_, rfl⟩
  | wake _ _ | call _ _ | callEnded _ _ _ | respond _ _ | crash _ | start _ | finish _ => cases observer

theorem step_projects (config : BreakerConfig) :
    Projects (step config) (step config) (Option.guard fun input : Input ι => !input.isObserver)
      SameButRed where
  dropped := by
    intro s t input same notKept
    have observer : input.isObserver = true := by simpa [Option.guard] using notKept
    exact (step_of_isObserver s config observer).trans same
  kept := by
    intro s t input named same isKept
    obtain ⟨_, rfl⟩ : input.isObserver = false ∧ input = named := by simpa [Option.guard] using isKept
    exact step_alike same config input

theorem step_dataSleepers {s : Service ι} (asleep : DataSleepers s) (config : BreakerConfig)
    (input : Input ι) : DataSleepers (s.step config input).2 := by
  cases input with
  | request id request now =>
    simp only [step]
    split
    · exact asleep
    · exact receive_dataSleepers asleep config id request now
  | wake id now =>
    cases found : s.sleeping.find? (·.id = id) with
    | none =>
      simp only [step, found]
      exact asleep
    | some sleeper =>
      simp only [step, found]
      split
      · unfold DataSleepers
        rw [injectOrPass_sleeping]
        intro other member
        exact asleep other (List.mem_of_mem_eraseP member)
      · exact asleep
  | call id now =>
    simp only [step]
    split
    · split <;> exact asleep
    · exact asleep
  | callEnded id now ending =>
    simp only [step]
    split <;> exact asleep
  | respond id _ | crash id =>
    cases found : s.handling.find? (·.1 = id) with
    | none =>
      simp only [step, found]
      exact asleep
    | some handled =>
      simp only [step, found]
      split <;> exact asleep
  | start task | finish task =>
    simp only [step]
    split <;> exact asleep

end Service

open Service

variable {ι : Type} [DecidableEq ι]

def fates (config : BreakerConfig) (rps burst : ℚ) (inputs : List (Input ι)) : List (Input ι × Outcome) :=
  answers (step config) (.init ι rps burst) inputs

def reached (config : BreakerConfig) (rps burst : ℚ) (inputs : List (Input ι)) : Service ι :=
  final (step config) (.init ι rps burst) inputs

theorem reached_dataSleepers (config : BreakerConfig) (rps burst : ℚ) (inputs : List (Input ι)) :
    DataSleepers (reached config rps burst inputs) := by
  have preserved : ∀ (s : Service ι) (input : Input ι), DataSleepers s → DataSleepers (s.step config input).2 := by
    intro s input asleep
    exact step_dataSleepers asleep config input
  have awake : DataSleepers (Service.init ι rps burst) := by
    intro sleeper member
    cases member
  exact final_invariant preserved awake inputs

/-- Two runs that differ only in read-only control requests treat every other input
    alike and end in services that differ only in their RED series.  In every reached
    state a control request goes straight to the router, and none is asleep, so that no
    `wake` fails or limits one. -/
theorem observation_unseen (config : BreakerConfig) (rps burst : ℚ) (inputs others : List (Input ι))
    (same : inputs.filter (!·.isObserver) = others.filter (!·.isObserver)) :
    (fates config rps burst inputs).filter (!·.1.isObserver) =
        (fates config rps burst others).filter (!·.1.isObserver) ∧
      (∃ red, reached config rps burst inputs = { reached config rps burst others with red }) ∧
      (∀ id request now, World.isControlPath request.path = true →
        (reached config rps burst inputs).inside id = false →
          ((reached config rps burst inputs).step config (.request id request now)).1.routed = true) ∧
      ∀ sleeper ∈ (reached config rps burst inputs).sleeping,
        World.isControlPath sleeper.request.path = false := by
  have start := SameButRed.refl (Service.init ι rps burst)
  obtain ⟨fatesLeft, reachedLeft⟩ := (step_projects config).run_filter start inputs
  obtain ⟨fatesRight, reachedRight⟩ := (step_projects config).run_filter start others
  refine ⟨?_, ?_, ?_, reached_dataSleepers config rps burst inputs⟩
  · rw [fates, fates, fatesLeft, fatesRight, same]
  · rw [same] at reachedLeft
    exact reachedLeft.trans reachedRight.symm
  · intro id request now control outside
    have free : ¬ (reached config rps burst inputs).inside id = true := by
      rw [outside]
      exact Bool.false_ne_true
    rw [step, if_neg free, receive_of_isControlPath _ config id request now control]
    exact dispatch_routed _ config id request now

/-- The second of two orders meets an empty bucket, whether the buckets are looked at
    in between or not, and the failures can be cleared after that. -/
theorem observation_unseen_orders :
    let config : BreakerConfig := ⟨"auth".toList, 5, 30, 2⟩
    let order : Request := { method := .post, path := "/orders".toList }
    let look : Request := { method := .get, path := "/rate-limit/status".toList }
    let clear : Request := { method := .delete, path := "/failures".toList }
    let orders : List (Input ℕ) := [.request 0 order 0, .request 1 order 0]
    let looked : List (Input ℕ) := [.request 0 order 0, .request 2 look 0, .request 1 order 0]
    (fates config 1 1 looked).filter (!·.1.isObserver) = (fates config 1 1 orders).filter (!·.1.isObserver) ∧
      (fates config 1 1 orders).map (·.2.routed) = [true, false] ∧
      ((reached config 1 1 looked).step config (.request 3 clear 0)).1.routed = true := by
  intro config order look clear orders looked
  obtain ⟨alike, _, control, _⟩ := observation_unseen config 1 1 looked orders rfl
  exact ⟨alike, by decide +kernel, control 3 clear 0 rfl (by decide +kernel)⟩

end AutoSre.Services.Stack
