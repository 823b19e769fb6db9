import AutoSre.Lib.Metrics
import AutoSre.Lib.Trace
import Mathlib.Tactic.Ring

/-! # The RED metrics

`PrometheusMiddleware.dispatch` raises a gauge before it waits for anything and lowers it
in its `finally`, where it also counts and times the request.  It waits in two places,
for the chaos of the service and for `call_next`; between them any number of other
requests may come and go.  A scrape of `/metrics` only waits for `call_next`.

The books are kept against `departures`, which says how each request left without
looking at a metric.
-/

namespace AutoSre.Observability

open AutoSre.Lib AutoSre.Lib.Python AutoSre.Lib.Metrics

/-! ## Dispatch -/

/-- Where a request waits inside `dispatch`; `scrape` is the `call_next` of `/metrics`. -/
inductive Stage where
  | scrape
  | chaos
  | downstream
deriving DecidableEq

structure InDispatch where
  method : Str
  path : Str
  startTime : ℚ
  stage : Stage
deriving DecidableEq

structure RequestLabels where
  method : Str
  endpoint : Str
  status : Str
deriving DecidableEq

structure DurationLabels where
  method : Str
  endpoint : Str
deriving DecidableEq

structure ExceptionLabels where
  method : Str
  endpoint : Str
  exceptionType : Str
deriving DecidableEq

/-- How a wait ends.  `route` is the template of the route that the router matched, if it
    came to that; only the chaos of the service passes or injects. -/
inductive Outcome where
  | passed
  | injected (statusCode : ℕ)
  | response (statusCode : ℕ) (route : Option Str)
  | exception (exceptionType : Str) (route : Option Str)
  | cancelled (route : Option Str)

/-- The middleware of a service with its metrics and the requests inside `dispatch`;
    `chaos` says whether it was given a chaos controller. -/
structure PrometheusMiddleware where
  chaos : Bool
  requestsTotal : Counter RequestLabels := .empty
  durationSeconds : Histogram DurationLabels := {}
  inProgress : Gauge Str := .empty
  exceptionsTotal : Counter ExceptionLabels := .empty
  inFlight : List InDispatch := []

def metricsPath : Str := "/metrics".toList

def statusText (statusCode : ℕ) : Str := (toString statusCode).toList

def routeLabel (route : Option Str) (path : Str) : Str := orDefault route path

namespace PrometheusMiddleware

def enter (m : PrometheusMiddleware) (method path : Str) (now : ℚ) : PrometheusMiddleware :=
  if path = metricsPath then { m with inFlight := ⟨method, path, now, .scrape⟩ :: m.inFlight }
  else
    { m with
      inProgress := m.inProgress.inc method
      inFlight := ⟨method, path, now, if m.chaos then .chaos else .downstream⟩ :: m.inFlight }

/-- The `except` block. -/
def caught (m : PrometheusMiddleware) (request : InDispatch) (route : Option Str) (exceptionType : Str) :
    PrometheusMiddleware :=
  { m with
    exceptionsTotal := m.exceptionsTotal.inc ⟨request.method, routeLabel route request.path, exceptionType⟩ }

/-- The `finally` block. -/
def leave (m : PrometheusMiddleware) (request : InDispatch) (now : ℚ) (route : Option Str) (statusCode : Str) :
    PrometheusMiddleware :=
  let duration := now - request.startTime
  let endpoint := routeLabel route request.path
  { m with
    requestsTotal := m.requestsTotal.inc ⟨request.method, endpoint, statusCode⟩
    durationSeconds := m.durationSeconds.observe ⟨request.method, endpoint⟩ duration
    inProgress := m.inProgress.dec request.method }

/-- From the end of a wait to the next one or to the end of `dispatch`; the request is no
    longer among those that wait. -/
def resume (m : PrometheusMiddleware) (request : InDispatch) (now : ℚ) (outcome : Outcome) :
    Option PrometheusMiddleware :=
  match request.stage, outcome with
  | .scrape, .response _ _ | .scrape, .exception _ _ | .scrape, .cancelled _ => some m
  | .chaos, .passed => some { m with inFlight := { request with stage := .downstream } :: m.inFlight }
  | .chaos, .injected statusCode => some (m.leave request now none (statusText statusCode))
  | .downstream, .response statusCode route => some (m.leave request now route (statusText statusCode))
  | .chaos, .exception exceptionType route | .downstream, .exception exceptionType route =>
    some ((m.caught request route exceptionType).leave request now route "500".toList)
  | .chaos, .cancelled route | .downstream, .cancelled route =>
    some (m.leave request now route "500".toList)
  | .scrape, .passed | .scrape, .injected _ | .chaos, .response _ _ => none
  | .downstream, .passed | .downstream, .injected _ => none

end PrometheusMiddleware

inductive Event where
  | enter (method path : Str) (now : ℚ)
  | resume (request : InDispatch) (now : ℚ) (outcome : Outcome)

def PrometheusMiddleware.step (m : PrometheusMiddleware) : Event → Option PrometheusMiddleware
  | .enter method path now => some (m.enter method path now)
  | .resume request now outcome =>
    if request ∈ m.inFlight then
      PrometheusMiddleware.resume { m with inFlight := m.inFlight.erase request } request now outcome
    else none

/-! ## Departures -/

inductive Ending where
  | response (statusCode : ℕ)
  | exception (exceptionType : Str)
  | cancellation
deriving DecidableEq

/-- How a request left `dispatch`. -/
structure Departure where
  method : Str
  endpoint : Str
  ending : Ending
deriving DecidableEq

/-- The status of the response, and `500` if there is none. -/
def Departure.status (departure : Departure) : Str :=
  match departure.ending with
  | .response statusCode => statusText statusCode
  | .exception _ | .cancellation => "500".toList

def Departure.requestLabels (departure : Departure) : RequestLabels :=
  ⟨departure.method, departure.endpoint, departure.status⟩

def Departure.durationLabels (departure : Departure) : DurationLabels :=
  ⟨departure.method, departure.endpoint⟩

def Departure.exceptionLabels (departure : Departure) : Option ExceptionLabels :=
  match departure.ending with
  | .exception exceptionType => some ⟨departure.method, departure.endpoint, exceptionType⟩
  | .response _ | .cancellation => none

/-- The departure of a request whose wait ends so; one that chaos lets pass does not leave. -/
def InDispatch.departure (request : InDispatch) : Outcome → Option Departure
  | .passed => none
  | .injected statusCode => some ⟨request.method, routeLabel none request.path, .response statusCode⟩
  | .response statusCode route => some ⟨request.method, routeLabel route request.path, .response statusCode⟩
  | .exception exceptionType route =>
    some ⟨request.method, routeLabel route request.path, .exception exceptionType⟩
  | .cancelled route => some ⟨request.method, routeLabel route request.path, .cancellation⟩

abbrev DispatchHistory := List (Transition PrometheusMiddleware Event)

/-- The requests other than scrapes that left `dispatch`, latest first. -/
def departures (history : DispatchHistory) : List Departure :=
  history.filterMap fun made =>
    match made.label with
    | .enter _ _ _ => none
    | .resume request _ outcome => if request.path = metricsPath then none else request.departure outcome

def entered (history : DispatchHistory) (method : Str) : ℕ :=
  history.countP fun made =>
    match made.label with
    | .enter other path _ => other = method ∧ path ≠ metricsPath
    | .resume _ _ _ => false

/-- A request of the method, other than a scrape. -/
def InDispatch.counted (method : Str) (request : InDispatch) : Bool :=
  request.method = method ∧ request.path ≠ metricsPath

def PrometheusMiddleware.inside (m : PrometheusMiddleware) (method : Str) : ℕ :=
  m.inFlight.countP (InDispatch.counted method)

/-! ## One step -/

/-- What the `except` and the `finally` together record of a departure. -/
def PrometheusMiddleware.settle (m : PrometheusMiddleware) (request : InDispatch) (now : ℚ)
    (departure : Departure) : PrometheusMiddleware :=
  { m with
    requestsTotal := m.requestsTotal.inc departure.requestLabels
    durationSeconds := m.durationSeconds.observe departure.durationLabels (now - request.startTime)
    inProgress := m.inProgress.dec departure.method
    exceptionsTotal := departure.exceptionLabels.elim m.exceptionsTotal m.exceptionsTotal.inc }

/-- What a step may do after a wait. -/
inductive Resumed (m : PrometheusMiddleware) (request : InDispatch) (now : ℚ) (outcome : Outcome) :
    PrometheusMiddleware → Prop where
  | scraped (isScrape : request.stage = .scrape) : Resumed m request now outcome m
  | passed (waited : request.stage = .chaos) (stays : request.departure outcome = none) :
      Resumed m request now outcome
        { m with inFlight := { request with stage := .downstream } :: m.inFlight }
  | departed {after : PrometheusMiddleware} (measured : request.stage ≠ .scrape) (departure : Departure)
      (departs : request.departure outcome = some departure)
      (settled : after = m.settle request now departure) : Resumed m request now outcome after

section

variable {m after : PrometheusMiddleware} {request : InDispatch} {now : ℚ} {outcome : Outcome}

theorem PrometheusMiddleware.resumed (taken : m.resume request now outcome = some after) :
    Resumed m request now outcome after := by
  cases stage : request.stage with
  | scrape =>
    cases outcome with
    | passed | injected => simp [resume, stage] at taken
    | response | exception | cancelled =>
      simp only [resume, stage, Option.some.injEq] at taken
      rw [← taken]
      exact .scraped stage
  | chaos =>
    have measured : request.stage ≠ .scrape := by simp [stage]
    cases outcome with
    | response => simp [resume, stage] at taken
    | passed =>
      simp only [resume, stage, Option.some.injEq] at taken
      rw [← taken]
      exact .passed stage rfl
    | injected | exception | cancelled =>
      simp only [resume, stage, Option.some.injEq] at taken
      rw [← taken]
      exact .departed measured _ rfl rfl
  | downstream =>
    have measured : request.stage ≠ .scrape := by simp [stage]
    cases outcome with
    | passed | injected => simp [resume, stage] at taken
    | response | exception | cancelled =>
      simp only [resume, stage, Option.some.injEq] at taken
      rw [← taken]
      exact .departed measured _ rfl rfl

theorem InDispatch.departure_method {departure : Departure} (departs : request.departure outcome = some departure) :
    departure.method = request.method := by
  cases outcome with
  | passed => cases departs
  | injected | response | exception | cancelled =>
    cases departs
    rfl

theorem PrometheusMiddleware.inside_erase (isInside : request ∈ m.inFlight) (method : Str) :
    m.inside method =
      (m.inFlight.erase request).countP (InDispatch.counted method) +
        if request.counted method then 1 else 0 := by
  rw [inside, (List.perm_cons_erase isInside).countP_eq, List.countP_cons]

end

/-! ## The books -/

/-- The metrics agree with the requests inside `dispatch` and with those that have left,
    and these are all that arrived. -/
structure Accounted (arrived : Str → ℕ) (left : List Departure) (m : PrometheusMiddleware) : Prop where
  staged : ∀ request ∈ m.inFlight, request.stage = .scrape ↔ request.path = metricsPath
  balance : ∀ method, arrived method = m.inside method + left.countP (fun departure => departure.method = method)
  inProgress : ∀ method, m.inProgress.value method = m.inside method
  requests : Counts m.requestsTotal (left.map Departure.requestLabels)
  durations : Counts m.durationSeconds.count (left.map Departure.durationLabels)
  exceptions : Counts m.exceptionsTotal (left.filterMap Departure.exceptionLabels)

theorem entered_enter (m after : PrometheusMiddleware) (method path : Str) (now : ℚ) (past : DispatchHistory)
    (other : Str) :
    entered (⟨m, .enter method path now, after⟩ :: past) other =
      entered past other + if method = other ∧ path ≠ metricsPath then 1 else 0 := by
  simp [entered, List.countP_cons]

theorem entered_resume (m after : PrometheusMiddleware) (request : InDispatch) (now : ℚ) (outcome : Outcome)
    (past : DispatchHistory) : entered (⟨m, .resume request now outcome, after⟩ :: past) = entered past := by
  funext method
  simp [entered]

theorem departures_scrape (m after : PrometheusMiddleware) {request : InDispatch} (now : ℚ) (outcome : Outcome)
    (past : DispatchHistory) (isScrape : request.path = metricsPath) :
    departures (⟨m, .resume request now outcome, after⟩ :: past) = departures past := by
  simp [departures, isScrape]

theorem departures_resume (m after : PrometheusMiddleware) {request : InDispatch} (now : ℚ) (outcome : Outcome)
    (past : DispatchHistory) (measured : request.path ≠ metricsPath) :
    departures (⟨m, .resume request now outcome, after⟩ :: past) =
      (request.departure outcome).toList ++ departures past := by
  cases departs : request.departure outcome <;> simp [departures, measured, departs]

section

variable {m after : PrometheusMiddleware} {arrived : Str → ℕ} {left : List Departure} {request : InDispatch}

/-- Nothing has to be booked as long as equally many requests that count are inside. -/
theorem Accounted.move (accounted : Accounted arrived left m) {inFlight : List InDispatch}
    (staged : ∀ request ∈ inFlight, request.stage = .scrape ↔ request.path = metricsPath)
    (same : ∀ method, inFlight.countP (InDispatch.counted method) = m.inside method) :
    Accounted arrived left { m with inFlight } where
  staged := staged
  balance := by
    intro method
    rw [accounted.balance, ← same]
    rfl
  inProgress := by
    intro method
    rw [accounted.inProgress, ← same]
    rfl
  requests := accounted.requests
  durations := accounted.durations
  exceptions := accounted.exceptions

theorem Accounted.enter (accounted : Accounted arrived left m) (method path : Str) (now : ℚ) :
    Accounted (fun other => arrived other + if method = other ∧ path ≠ metricsPath then 1 else 0) left
      (m.enter method path now) := by
  unfold PrometheusMiddleware.enter
  by_cases isScrape : path = metricsPath
  · simp only [isScrape, ne_eq, not_true_eq_false, and_false, if_false, add_zero]
    apply accounted.move
    · exact List.forall_mem_cons.mpr ⟨iff_of_true rfl rfl, accounted.staged⟩
    · intro other
      simp [PrometheusMiddleware.inside, InDispatch.counted]
  · rw [if_neg isScrape]
    have grows : ∀ stage other,
        m.inside other + (if method = other then 1 else 0) =
          (⟨method, path, now, stage⟩ :: m.inFlight).countP (InDispatch.counted other) := by
      intro stage other
      simp [PrometheusMiddleware.inside, InDispatch.counted, isScrape, List.countP_cons]
    refine { accounted with staged := ?_, balance := ?_, inProgress := ?_ }
    · refine List.forall_mem_cons.mpr ⟨iff_of_false ?_ isScrape, accounted.staged⟩
      cases m.chaos <;> simp
    · intro other
      simp only [accounted.balance, isScrape, ne_eq, not_false_eq_true, and_true]
      rw [add_right_comm, grows]
      rfl
    · intro other
      rw [Gauge.value_inc, accounted.inProgress]
      exact_mod_cast grows _ other

theorem Accounted.settle (accounted : Accounted arrived left m) (now : ℚ) (departure : Departure)
    (isInside : request ∈ m.inFlight) (measured : request.stage ≠ .scrape)
    (method : departure.method = request.method) :
    Accounted arrived (departure :: left)
      (PrometheusMiddleware.settle { m with inFlight := m.inFlight.erase request } request now departure) where
  staged := fun other isLeft => accounted.staged other (List.mem_of_mem_erase isLeft)
  balance := by
    intro other
    have path := (not_congr (accounted.staged request isInside)).mp measured
    change _ = (m.inFlight.erase request).countP (InDispatch.counted other) + _
    rw [accounted.balance, PrometheusMiddleware.inside_erase isInside, List.countP_cons]
    simp only [InDispatch.counted, path, method, ne_eq, not_false_eq_true, and_true, decide_eq_true_eq]
    ring
  inProgress := by
    intro other
    have counts := accounted.inProgress other
    rw [PrometheusMiddleware.inside_erase isInside] at counts
    have path := (not_congr (accounted.staged request isInside)).mp measured
    change (m.inProgress.dec departure.method).value other =
      ((m.inFlight.erase request).countP (InDispatch.counted other) : ℤ)
    rw [Gauge.value_dec, counts, method]
    by_cases same : request.method = other
    · simp [InDispatch.counted, path, same]
    · simp [InDispatch.counted, same]
  requests := accounted.requests.inc departure.requestLabels
  durations := accounted.durations.inc departure.durationLabels
  exceptions := by
    rw [List.filterMap_cons]
    change Counts (departure.exceptionLabels.elim m.exceptionsTotal m.exceptionsTotal.inc) _
    cases departure.exceptionLabels with
    | none => exact accounted.exceptions
    | some labels => exact accounted.exceptions.inc labels

theorem Accounted.step {event : Event} {past : DispatchHistory}
    (accounted : Accounted (entered past) (departures past) m) (taken : m.step event = some after) :
    Accounted (entered (⟨m, event, after⟩ :: past)) (departures (⟨m, event, after⟩ :: past)) after := by
  cases event with
  | enter method path now =>
    cases taken
    rw [funext (entered_enter m _ method path now past)]
    exact accounted.enter method path now
  | resume request now outcome =>
    rw [entered_resume]
    simp only [PrometheusMiddleware.step] at taken
    split at taken
    next isInside =>
      have staged := accounted.staged request isInside
      have waiting : ∀ other ∈ m.inFlight.erase request, other.stage = .scrape ↔ other.path = metricsPath :=
        fun other isLeft => accounted.staged other (List.mem_of_mem_erase isLeft)
      cases PrometheusMiddleware.resumed taken with
      | scraped isScrape =>
        have path := staged.mp isScrape
        rw [departures_scrape _ _ now outcome past path]
        apply accounted.move waiting
        intro method
        rw [PrometheusMiddleware.inside_erase isInside]
        simp [InDispatch.counted, path]
      | passed waited stays =>
        have path : request.path ≠ metricsPath := by simpa [waited] using staged
        rw [departures_resume _ _ now outcome past path, stays]
        refine accounted.move ?_ ?_
        · exact List.forall_mem_cons.mpr ⟨iff_of_false (by simp) path, waiting⟩
        · intro method
          rw [PrometheusMiddleware.inside_erase isInside, List.countP_cons]
          rfl
      | departed measured departure departs settled =>
        subst settled
        have path := (not_congr staged).mp measured
        rw [departures_resume _ _ now outcome past path, departs]
        exact accounted.settle now departure isInside measured (InDispatch.departure_method departs)
    next absent => cases taken

end

theorem accounted_run {chaos : Bool} {history : DispatchHistory} {m : PrometheusMiddleware}
    (run : Trace PrometheusMiddleware.step { chaos } history m) :
    Accounted (entered history) (departures history) m := by
  apply run.history_invariant (P := fun past m => Accounted (entered past) (departures past) m)
  · exact
      { staged := nofun
        balance := fun _ => rfl
        inProgress := fun _ => rfl
        requests := .empty
        durations := .empty
        exceptions := .empty }
  · intro past before event after _ accounted taken
    exact accounted.step taken

/-- At every moment of every interleaving: the gauge of a method is the number of its
    requests inside `dispatch`; its requests are counted and timed once each, when they
    leave; a response is counted under its status, anything else under `500`; and the
    exceptions are those that left by one. -/
theorem red_accounting {chaos : Bool} {history : DispatchHistory} {m : PrometheusMiddleware}
    (run : Trace PrometheusMiddleware.step { chaos } history m) :
    (∀ method, m.inProgress.value method = m.inside method ∧ 0 ≤ m.inProgress.value method ∧
      entered history method =
        m.inside method + (departures history).countP fun departure => departure.method = method) ∧
    (∀ method, m.requestsTotal.total (fun labels => labels.method = method) =
        m.durationSeconds.count.total (fun labels => labels.method = method) ∧
      m.requestsTotal.total (fun labels => labels.method = method) =
        (departures history).countP fun departure => departure.method = method) ∧
    (∀ method endpoint status, m.requestsTotal.value ⟨method, endpoint, status⟩ =
      (departures history).countP fun departure =>
        departure.method = method ∧ departure.endpoint = endpoint ∧ departure.status = status) ∧
    ∀ method endpoint exceptionType, m.exceptionsTotal.value ⟨method, endpoint, exceptionType⟩ =
      (departures history).count ⟨method, endpoint, .exception exceptionType⟩ := by
  have accounted := accounted_run run
  refine ⟨?_, ?_, ?_, ?_⟩
  · intro method
    refine ⟨accounted.inProgress method, ?_, accounted.balance method⟩
    rw [accounted.inProgress]
    exact Int.natCast_nonneg _
  · intro method
    have requests := accounted.requests.total fun labels => labels.method = method
    have durations := accounted.durations.total fun labels => labels.method = method
    rw [List.countP_map] at requests durations
    exact ⟨requests.trans durations.symm, requests⟩
  · intro method endpoint status
    rw [accounted.requests.value, List.count_eq_countP, List.countP_map]
    apply List.countP_congr
    intro departure _
    simp [Departure.requestLabels]
  · intro method endpoint exceptionType
    rw [accounted.exceptions.value, List.count_filterMap, List.count_eq_countP]
    apply List.countP_congr
    intro departure _
    obtain ⟨_, _, ending⟩ := departure
    cases ending <;> simp [Departure.exceptionLabels]

/-- Two orders and a scrape at once: one order passes the chaos and waits for its handler,
    the scrape leaves without a trace, and the other order is injected an error. -/
theorem red_accounting_interleaved :
    let get := "GET".toList
    let orders := "/orders".toList
    ∃ (history : DispatchHistory) (m : PrometheusMiddleware),
      Trace PrometheusMiddleware.step { chaos := true } history m ∧
        m.inProgress.value get = 1 ∧
        m.requestsTotal.total (fun labels => labels.method = get) = 1 ∧
        m.requestsTotal.value ⟨get, orders, "500".toList⟩ = 1 := by
  intro get orders
  let waits (path : Str) (stage : Stage) : InDispatch := ⟨get, path, 0, stage⟩
  obtain ⟨history, m, run, inside, left⟩ :=
    exists_trace_of_replay PrometheusMiddleware.step { chaos := true }
      [.enter get orders 0, .enter get metricsPath 0, .enter get orders 0,
        .resume (waits orders .chaos) 1 .passed, .resume (waits metricsPath .scrape) 1 (.response 200 none),
        .resume (waits orders .chaos) 2 (.injected 500)]
      (fun history m => m.inside get = 1 ∧ departures history = [⟨get, orders, .response 500⟩])
      (by decide +kernel)
  obtain ⟨gauge, totals, counts, _⟩ := red_accounting run
  refine ⟨history, m, run, ?_, ?_, ?_⟩
  · rw [(gauge get).1, inside]
    rfl
  · rw [(totals get).2, left]
    rfl
  · rw [counts, left]
    decide +kernel

end AutoSre.Observability
