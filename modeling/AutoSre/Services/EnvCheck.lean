import AutoSre.Lib.PythonNumbers

/-! # The check of the environment and its readers

`validate_env` tries the numeric variables before a service is built, and five places read
them later with a default of their own.  Check and readers parse alike.  They disagree on
what counts as unset: to the check that is also a variable with an empty value, to
`os.getenv` with a default it is not.
-/

namespace AutoSre.Services

open AutoSre.Lib.Python

/-- `os.environ` -/
abbrev Environ := Str → Option Str

/-- `os.getenv(name, default)` -/
def Environ.getenv (env : Environ) (name default : Str) : Str := (env name).getD default

/-! ## `validate_env` -/

inductive Caster where
  | int
  | float
deriving DecidableEq

/-- `caster(raw)` does not raise. -/
def Caster.accepts : Caster → Str → Bool
  | .int, raw => (parseInt raw).isSome
  | .float, raw => (parseFloat raw).isSome

def numeric : List (Str × Caster) :=
  [("PORT".toList, .int), ("RATE_LIMIT_RPS".toList, .float), ("RATE_LIMIT_BURST".toList, .float),
    ("WORKER_INTERVAL".toList, .float), ("WORKER_JOB_SECONDS".toList, .float), ("AUTH_DEP_LATENCY".toList, .float)]

/-- The messages: `missing required env var: name` and `name=raw is not a valid caster`. -/
inductive Problem where
  | missing (name : Str)
  | invalid (name raw : Str) (caster : Caster)
deriving DecidableEq

/-- Neither `None` nor empty, which are both false. -/
def truthy (value : Option Str) : Option Str := value.filter (· ≠ [])

def missingProblem (env : Environ) (name : Str) : Option Problem :=
  match truthy (env name) with
  | some _ => none
  | none => some (.missing name)

def numericProblem (env : Environ) (name : Str) (caster : Caster) : Option Problem :=
  match truthy (env name) with
  | some raw => if caster.accepts raw then none else some (.invalid name raw caster)
  | none => none

def problems (env : Environ) (required : List Str) : List Problem :=
  required.filterMap (missingProblem env) ++ numeric.filterMap fun entry => numericProblem env entry.1 entry.2

/-- `error` stands for the `RuntimeError` that lists the problems. -/
def validateEnv (env : Environ) (required : List Str := []) : Except (List Problem) Unit :=
  if problems env required = [] then .ok () else .error (problems env required)

/-! ## The readers -/

def readInt (env : Environ) (name default : String) : Option ℤ :=
  parseInt (env.getenv name.toList default.toList)

def readFloat (env : Environ) (name default : String) : Option PyFloat :=
  parseFloat (env.getenv name.toList default.toList)

/-- The port in `api/main.py`; `auth` and `worker` have their own defaults. -/
def apiPort (env : Environ) : Option ℤ := readInt env "PORT" "8000"

def authPort (env : Environ) : Option ℤ := readInt env "PORT" "8001"

def workerPort (env : Environ) : Option ℤ := readInt env "PORT" "8002"

def workerInterval (env : Environ) : Option PyFloat := readFloat env "WORKER_INTERVAL" "5"

def jobBaseSeconds (env : Environ) : Option PyFloat := readFloat env "WORKER_JOB_SECONDS" "0.2"

def depLatency (env : Environ) : Option PyFloat := readFloat env "AUTH_DEP_LATENCY" "0.08"

/-- The arguments of `RateLimiter(rps, burst)`. -/
structure LimiterRates where
  rps : PyFloat
  burst : PyFloat
deriving DecidableEq

/-- `get_limiter`; `cached` is the limiter that an earlier call has built, or one that was
    set. -/
def getLimiter (cached : Option LimiterRates) (env : Environ) : Option LimiterRates :=
  match cached with
  | some limiter => some limiter
  | none => Option.map₂ LimiterRates.mk (readFloat env "RATE_LIMIT_RPS" "10") (readFloat env "RATE_LIMIT_BURST" "20")

/-- No reader raises. -/
structure ReadsSucceed (env : Environ) : Prop where
  limiter : ∀ cached, (getLimiter cached env).isSome
  apiPort : (apiPort env).isSome
  authPort : (authPort env).isSome
  workerPort : (workerPort env).isSome
  workerInterval : (workerInterval env).isSome
  jobBaseSeconds : (jobBaseSeconds env).isSome
  depLatency : (depLatency env).isSome

/-! ## What the check covers -/

theorem Caster.not_accepts_nil (caster : Caster) : caster.accepts [] = false := by
  cases caster with
  | int => rw [Caster.accepts, parseInt_nil, Option.isSome_none]
  | float => rw [Caster.accepts, parseFloat_nil, Option.isSome_none]

theorem truthy_eq_some {raw : Str} (nonempty : raw ≠ []) : truthy (some raw) = some raw := by
  simp [truthy, Option.filter, nonempty]

section

variable {env : Environ} {required : List Str}

theorem accepts_of_validateEnv (accepted : validateEnv env required = .ok ()) {name raw : Str} {caster : Caster}
    (known : (name, caster) ∈ numeric) (isSet : env name = some raw) (nonempty : raw ≠ []) :
    caster.accepts raw = true := by
  unfold validateEnv at accepted
  split at accepted
  next noProblem =>
    have unproblematic := List.filterMap_eq_nil_iff.mp (List.append_eq_nil_iff.mp noProblem).2 _ known
    rw [numericProblem, isSet, truthy_eq_some nonempty] at unproblematic
    by_contra refused
    simp [refused] at unproblematic
  next => cases accepted

/-- A reader with a proper default raises for an empty value, and for nothing else that
    has passed the check. -/
theorem accepts_getenv_iff (accepted : validateEnv env required = .ok ()) {name default : Str} {caster : Caster}
    (known : (name, caster) ∈ numeric) (proper : caster.accepts default = true) :
    caster.accepts (env.getenv name default) = true ↔ env name ≠ some [] := by
  unfold Environ.getenv
  cases isSet : env name with
  | none => exact iff_of_true proper (by simp)
  | some raw =>
    by_cases empty : raw = []
    · subst empty
      exact iff_of_false (by simp [Caster.not_accepts_nil]) (by simp)
    · exact iff_of_true (accepts_of_validateEnv accepted known isSet empty) (by simpa using empty)

theorem getLimiter_isSome_iff (env : Environ) : (∀ cached, (getLimiter cached env).isSome) ↔
    (readFloat env "RATE_LIMIT_RPS" "10").isSome ∧ (readFloat env "RATE_LIMIT_BURST" "20").isSome := by
  constructor
  · intro built
    obtain ⟨limiter, built⟩ := Option.isSome_iff_exists.mp (built none)
    obtain ⟨rps, burst, first, second, _⟩ := Option.map₂_eq_some_iff.mp built
    exact ⟨Option.isSome_iff_exists.mpr ⟨rps, first⟩, Option.isSome_iff_exists.mpr ⟨burst, second⟩⟩
  · rintro ⟨first, second⟩ cached
    obtain ⟨rps, first⟩ := Option.isSome_iff_exists.mp first
    obtain ⟨burst, second⟩ := Option.isSome_iff_exists.mp second
    cases cached with
    | some limiter => rfl
    | none => simp [getLimiter, first, second]

theorem readPort_isSome_iff (accepted : validateEnv env required = .ok ()) (default : String)
    (proper : (parseInt default.toList).isSome) :
    (readInt env "PORT" default).isSome ↔ env "PORT".toList ≠ some [] :=
  accepts_getenv_iff accepted (show ("PORT".toList, Caster.int) ∈ numeric by decide) proper

theorem readFloat_isSome_iff (accepted : validateEnv env required = .ok ()) (name default : String)
    (known : (name.toList, Caster.float) ∈ numeric) (proper : (parseFloat default.toList).isSome) :
    (readFloat env name default).isSome ↔ env name.toList ≠ some [] :=
  accepts_getenv_iff accepted known proper

/-- In an environment that has passed the check no reader raises, exactly when none of the
    numeric variables is set to the empty string. -/
theorem reads_succeed_iff (accepted : validateEnv env required = .ok ()) :
    ReadsSucceed env ↔ ∀ entry ∈ numeric, env entry.1 ≠ some [] := by
  have rps := readFloat_isSome_iff accepted "RATE_LIMIT_RPS" "10" (by decide) (by decide +kernel)
  have burst := readFloat_isSome_iff accepted "RATE_LIMIT_BURST" "20" (by decide) (by decide +kernel)
  have interval := readFloat_isSome_iff accepted "WORKER_INTERVAL" "5" (by decide) (by decide +kernel)
  have jobSeconds := readFloat_isSome_iff accepted "WORKER_JOB_SECONDS" "0.2" (by decide) (by decide +kernel)
  have latency := readFloat_isSome_iff accepted "AUTH_DEP_LATENCY" "0.08" (by decide) (by decide +kernel)
  simp only [numeric, List.forall_mem_cons, List.not_mem_nil, false_imp_iff, implies_true, and_true, ← rps, ← burst,
    ← interval, ← jobSeconds, ← latency]
  constructor
  · intro succeed
    obtain ⟨rates, burstRate⟩ := (getLimiter_isSome_iff env).mp succeed.limiter
    have portSet := (readPort_isSome_iff accepted "8000" (by decide)).mp succeed.apiPort
    exact ⟨portSet, rates, burstRate, succeed.workerInterval, succeed.jobBaseSeconds, succeed.depLatency⟩
  · rintro ⟨portSet, rates, burstRate, worker, job, dep⟩
    exact {
      limiter := (getLimiter_isSome_iff env).mpr ⟨rates, burstRate⟩
      apiPort := (readPort_isSome_iff accepted "8000" (by decide)).mpr portSet
      authPort := (readPort_isSome_iff accepted "8001" (by decide)).mpr portSet
      workerPort := (readPort_isSome_iff accepted "8002" (by decide)).mpr portSet
      workerInterval := worker
      jobBaseSeconds := job
      depLatency := dep }

end

def environOf (settings : List (String × String)) : Environ := fun name =>
  (settings.find? fun setting => setting.1.toList = name).map fun setting => setting.2.toList

theorem reads_succeed_with_values :
    let env := environOf [("PORT", "8080"), ("RATE_LIMIT_RPS", " 1_000 "), ("WORKER_INTERVAL", "5e-1")]
    validateEnv env = .ok () ∧ ReadsSucceed env := by
  intro env
  have accepted : validateEnv env = .ok () := by decide +kernel
  exact ⟨accepted, (reads_succeed_iff accepted).mpr (by decide +kernel)⟩

/-- An empty port passes the check, and every read of it raises. -/
theorem reads_fail_with_empty_port :
    let env := environOf [("PORT", "")]
    validateEnv env = .ok () ∧ apiPort env = none ∧ ¬ ReadsSucceed env := by
  intro env
  have raised : apiPort env = none := by decide +kernel
  refine ⟨by decide +kernel, raised, fun succeed => ?_⟩
  have parsed := succeed.apiPort
  rw [raised] at parsed
  cases parsed

end AutoSre.Services
