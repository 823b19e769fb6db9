import AutoSre.GoServer.Config
import AutoSre.Lib.Metrics

/-! # The prober

`probeAll` runs for each target the checks that its fields enable, and `record` counts
each of them.  A check counts as a failure if its result has an error and as a timeout if
it says so.  `newResult` sets both from one error; `HTTPCheck` makes a result of its own
when there is no request to send, and adds an error to the result of a bad status.
-/

namespace AutoSre.Prober

open AutoSre.Lib.Metrics AutoSre.GoServer

/-! ## Checks -/

/-- An error as far as it is looked at: `netError` is the answer of `Timeout` if there is
    a `net.Error` in the chain, the flags say whether the two errors are in it. -/
structure Error where
  message : String
  netError : Option Bool := none
  deadlineExceeded : Bool := false
  osDeadlineExceeded : Bool := false
deriving Inhabited

def isTimeout (err : Error) : Bool :=
  match err.netError with
  | some timeout => timeout
  | none => err.deadlineExceeded || err.osDeadlineExceeded

structure Result where
  latency : ℚ
  timedOut : Bool := false
  err : Option Error := none

def newResult (elapsed : ℚ) (err : Option Error) : Result where
  latency := elapsed
  timedOut := err.any isTimeout
  err := err

/-- What came of an attempt, and how long it took. -/
structure Timed (α : Type) where
  elapsed : ℚ
  outcome : α
deriving Inhabited

def dnsLookup (lookup : Timed (Option Error)) : Result := newResult lookup.elapsed lookup.outcome

def tcpConnect (dial : Timed (Option Error)) : Result := newResult dial.elapsed dial.outcome

/-- The request could not be built, it failed, or there is a response. -/
inductive Exchange where
  | invalid (err : Error)
  | failed (err : Error)
  | response (statusCode : ℕ) (status : String)
deriving Inhabited

def httpCheck (exchange : Timed Exchange) : Result × ℕ :=
  match exchange.outcome with
  | .invalid err => ({ latency := exchange.elapsed, err := some err }, 0)
  | .failed err => (newResult exchange.elapsed (some err), 0)
  | .response statusCode status =>
    let res := newResult exchange.elapsed none
    if 400 ≤ statusCode then ({ res with err := some { message := "unhealthy status: " ++ status } }, statusCode)
    else (res, statusCode)

/-! ## Metrics -/

inductive Check where
  | dns
  | tcp
  | http
deriving DecidableEq

structure Labels where
  target : String
  check : Check
deriving DecidableEq

structure Metrics where
  latency : Histogram Labels := {}
  requests : Counter Labels := .empty
  failures : Counter Labels := .empty
  dnsLookup : Histogram String := {}
  tcpConnections : Counter String := .empty
  timeouts : Counter Labels := .empty

/-- What the checks of one target would come to, as far as they are made. -/
structure Outcomes where
  dns : Timed (Option Error)
  tcp : Timed (Option Error)
  http : Timed Exchange
deriving Inhabited

namespace Metrics

def record (m : Metrics) (target : String) (check : Check) (r : Result) : Metrics :=
  let m := { m with
    requests := m.requests.inc ⟨target, check⟩
    latency := m.latency.observe ⟨target, check⟩ r.latency }
  let m := if r.timedOut then { m with timeouts := m.timeouts.inc ⟨target, check⟩ } else m
  if r.err.isSome then { m with failures := m.failures.inc ⟨target, check⟩ } else m

def probeDNS (m : Metrics) (target : String) (lookup : Timed (Option Error)) : Metrics :=
  let r := Prober.dnsLookup lookup
  let m := m.record target .dns r
  { m with dnsLookup := m.dnsLookup.observe target r.latency }

def probeTCP (m : Metrics) (target : String) (dial : Timed (Option Error)) : Metrics :=
  let r := tcpConnect dial
  let m := { m with tcpConnections := m.tcpConnections.inc target }
  m.record target .tcp r

def probeHTTP (m : Metrics) (target : String) (exchange : Timed Exchange) : Metrics :=
  let (r, _) := httpCheck exchange
  m.record target .http r

def probeTarget (m : Metrics) (t : Target) (outcomes : Outcomes) : Metrics :=
  let m := if t.host ≠ "" then m.probeDNS t.name outcomes.dns else m
  let m := if t.host ≠ "" ∧ t.port > 0 then m.probeTCP t.name outcomes.tcp else m
  if t.http ≠ "" then m.probeHTTP t.name outcomes.http else m

/-- A round over the targets; `round` gives the outcomes by the target's position. -/
def probeAll (m : Metrics) (targets : List Target) (round : ℕ → Outcomes) : Metrics :=
  targets.zipIdx.foldl (fun m entry => m.probeTarget entry.1 (round entry.2)) m

end Metrics

def run (targets : List Target) (rounds : List (ℕ → Outcomes)) : Metrics :=
  rounds.foldl (fun m round => m.probeAll targets round) {}

/-! ## Attempts -/

inductive Attempt where
  | dns (target : String) (lookup : Timed (Option Error))
  | tcp (target : String) (dial : Timed (Option Error))
  | http (target : String) (exchange : Timed Exchange)

namespace Attempt

def target : Attempt → String
  | .dns target _ | .tcp target _ | .http target _ => target

def check : Attempt → Check
  | .dns _ _ => .dns
  | .tcp _ _ => .tcp
  | .http _ _ => .http

def labels (attempt : Attempt) : Labels := ⟨attempt.target, attempt.check⟩

def result : Attempt → Result
  | .dns _ lookup => dnsLookup lookup
  | .tcp _ dial => tcpConnect dial
  | .http _ exchange => (httpCheck exchange).1

/-- The check failed: a lookup or a connection with an error, and an HTTP check whose
    request failed or whose status is 400 or above. -/
def failed : Attempt → Bool
  | .dns _ lookup => lookup.outcome.isSome
  | .tcp _ dial => dial.outcome.isSome
  | .http _ exchange =>
    match exchange.outcome with
    | .invalid _ | .failed _ => true
    | .response statusCode _ => 400 ≤ statusCode

end Attempt

def attemptsOf (t : Target) (outcomes : Outcomes) : List Attempt :=
  (if t.host ≠ "" then [.dns t.name outcomes.dns] else []) ++
    (if t.host ≠ "" ∧ t.port > 0 then [.tcp t.name outcomes.tcp] else []) ++
      if t.http ≠ "" then [.http t.name outcomes.http] else []

def attempts (targets : List Target) (rounds : List (ℕ → Outcomes)) : List Attempt :=
  rounds.flatMap fun round => targets.zipIdx.flatMap fun entry => attemptsOf entry.1 (round entry.2)

/-! ## What each check counts -/

theorem Attempt.isSome_err_result (attempt : Attempt) : attempt.result.err.isSome = attempt.failed := by
  cases attempt with
  | dns target lookup => rfl
  | tcp target dial => rfl
  | http target exchange =>
    obtain ⟨elapsed, outcome⟩ := exchange
    cases outcome with
    | invalid err => rfl
    | failed err => rfl
    | response statusCode status =>
      by_cases unhealthy : 400 ≤ statusCode
      · simp [Attempt.result, Attempt.failed, httpCheck, unhealthy]
      · simp [Attempt.result, Attempt.failed, httpCheck, newResult, unhealthy]

theorem newResult_timedOut {elapsed : ℚ} {err : Option Error} (timedOut : (newResult elapsed err).timedOut = true) :
    err.isSome = true := by
  cases err with
  | none => cases timedOut
  | some err => rfl

theorem Attempt.failed_of_timedOut {attempt : Attempt} (timedOut : attempt.result.timedOut = true) :
    attempt.failed = true := by
  cases attempt with
  | dns target lookup => exact newResult_timedOut timedOut
  | tcp target dial => exact newResult_timedOut timedOut
  | http target exchange =>
    obtain ⟨elapsed, outcome⟩ := exchange
    cases outcome with
    | invalid err => rfl
    | failed err => rfl
    | response statusCode status =>
      simp only [Attempt.result, httpCheck] at timedOut
      split at timedOut <;> cases timedOut

namespace Metrics

theorem record_eq (m : Metrics) (target : String) (check : Check) (r : Result) :
    m.record target check r =
      { m with
        requests := m.requests.inc ⟨target, check⟩
        latency := m.latency.observe ⟨target, check⟩ r.latency
        timeouts := if r.timedOut then m.timeouts.inc ⟨target, check⟩ else m.timeouts
        failures := if r.err.isSome then m.failures.inc ⟨target, check⟩ else m.failures } := by
  unfold record
  cases r.timedOut <;> cases r.err.isSome <;> rfl

def probe (m : Metrics) : Attempt → Metrics
  | .dns target lookup => m.probeDNS target lookup
  | .tcp target dial => m.probeTCP target dial
  | .http target exchange => m.probeHTTP target exchange

theorem probeTarget_eq (m : Metrics) (t : Target) (outcomes : Outcomes) :
    m.probeTarget t outcomes = (attemptsOf t outcomes).foldl probe m := by
  unfold probeTarget attemptsOf
  by_cases host : t.host ≠ "" <;> by_cases port : t.port > 0 <;> by_cases http : t.http ≠ "" <;>
    simp [host, port, http, probe]

theorem probe_eq (m : Metrics) (attempt : Attempt) :
    m.probe attempt =
      { latency := m.latency.observe attempt.labels attempt.result.latency
        requests := m.requests.inc attempt.labels
        failures := if attempt.failed then m.failures.inc attempt.labels else m.failures
        dnsLookup :=
          if attempt.check = .dns then m.dnsLookup.observe attempt.target attempt.result.latency
          else m.dnsLookup
        tcpConnections :=
          if attempt.check = .tcp then m.tcpConnections.inc attempt.target else m.tcpConnections
        timeouts := if attempt.result.timedOut then m.timeouts.inc attempt.labels else m.timeouts } := by
  rw [← attempt.isSome_err_result]
  cases attempt with
  | dns target lookup =>
    simp only [probe, probeDNS, record_eq]
    rfl
  | tcp target dial =>
    simp only [probe, probeTCP, record_eq]
    rfl
  | http target exchange =>
    simp only [probe, probeHTTP, record_eq]
    rfl

end Metrics

theorem run_eq (targets : List Target) (rounds : List (ℕ → Outcomes)) :
    run targets rounds = (attempts targets rounds).foldl Metrics.probe {} := by
  simp only [run, attempts, List.foldl_flatMap, Metrics.probeAll, Metrics.probeTarget_eq]

/-! ## The books -/

structure Accounted (m : Metrics) (past : List Attempt) : Prop where
  requests : Counts m.requests (past.map Attempt.labels)
  latency : Counts m.latency.count (past.map Attempt.labels)
  failures : Counts m.failures ((past.filter Attempt.failed).map Attempt.labels)
  timeouts : Counts m.timeouts ((past.filter fun attempt => attempt.result.timedOut).map Attempt.labels)
  dnsLookup : Counts m.dnsLookup.count ((past.filter fun attempt => attempt.check = .dns).map Attempt.target)
  tcpConnections : Counts m.tcpConnections ((past.filter fun attempt => attempt.check = .tcp).map Attempt.target)

theorem Accounted.empty : Accounted {} [] where
  requests := .empty
  latency := .empty
  failures := .empty
  timeouts := .empty
  dnsLookup := .empty
  tcpConnections := .empty

theorem Accounted.probe {m : Metrics} {past : List Attempt} (accounted : Accounted m past) (attempt : Attempt) :
    Accounted (m.probe attempt) (past ++ [attempt]) := by
  rw [Metrics.probe_eq]
  exact
    { requests := by
        rw [List.map_append]
        exact accounted.requests.snoc attempt.labels
      latency := by
        rw [List.map_append]
        exact accounted.latency.snoc attempt.labels
      failures := accounted.failures.snoc_filter attempt
      timeouts := accounted.timeouts.snoc_filter attempt
      dnsLookup := by
        simp only [apply_ite Histogram.count, Histogram.observe]
        simpa using accounted.dnsLookup.snoc_filter attempt
      tcpConnections := by simpa using accounted.tcpConnections.snoc_filter attempt }

theorem Accounted.probes {m : Metrics} {past : List Attempt} (accounted : Accounted m past)
    (later : List Attempt) : Accounted (later.foldl Metrics.probe m) (past ++ later) := by
  induction later generalizing m past with
  | nil => simpa using accounted
  | cons attempt later ih => simpa using ih (accounted.probe attempt)

theorem accounted_run (targets : List Target) (rounds : List (ℕ → Outcomes)) :
    Accounted (run targets rounds) (attempts targets rounds) := by
  rw [run_eq]
  exact Accounted.empty.probes (attempts targets rounds)

theorem count_labels (past : List Attempt) (name : String) (check : Check) :
    ((past.filter fun attempt => attempt.check = check).map Attempt.target).count name =
      (past.map Attempt.labels).count ⟨name, check⟩ := by
  rw [List.count_eq_countP, List.count_eq_countP, List.countP_map, List.countP_map, List.countP_filter]
  apply List.countP_congr
  intro attempt _
  simp [Attempt.labels]

/-- After any number of rounds over any targets, whatever comes of the checks, the metrics
    of every target and check are consistent, and the failures are the attempts that
    failed: for an HTTP check, without a response or with a status of 400 or above. -/
theorem prober_counters_consistent (targets : List Target) (rounds : List (ℕ → Outcomes)) (name : String)
    (check : Check) :
    let m := run targets rounds
    m.timeouts.value ⟨name, check⟩ ≤ m.failures.value ⟨name, check⟩ ∧
      m.failures.value ⟨name, check⟩ ≤ m.requests.value ⟨name, check⟩ ∧
      m.latency.count.value ⟨name, check⟩ = m.requests.value ⟨name, check⟩ ∧
      m.dnsLookup.count.value name = m.requests.value ⟨name, .dns⟩ ∧
      m.tcpConnections.value name = m.requests.value ⟨name, .tcp⟩ ∧
      m.failures.value ⟨name, check⟩ =
        (attempts targets rounds).countP fun attempt => attempt.labels = ⟨name, check⟩ ∧ attempt.failed := by
  intro m
  have accounted := accounted_run targets rounds
  refine ⟨?_, ?_, ?_, ?_, ?_, ?_⟩
  · rw [accounted.timeouts.value, accounted.failures.value]
    apply List.Sublist.count_le
    apply List.Sublist.map
    exact List.monotone_filter_right _ fun attempt timedOut => Attempt.failed_of_timedOut timedOut
  · rw [accounted.failures.value, accounted.requests.value]
    exact (List.filter_sublist.map _).count_le _
  · rw [accounted.latency.value, accounted.requests.value]
  · rw [accounted.dnsLookup.value, accounted.requests.value, count_labels]
  · rw [accounted.tcpConnections.value, accounted.requests.value, count_labels]
  · rw [accounted.failures.value, List.count_eq_countP, List.countP_map, List.countP_filter]
    apply List.countP_congr
    intro attempt _
    simp

end AutoSre.Prober
