import Mathlib.Algebra.Order.Ring.Int
import Mathlib.Data.Rat.Defs

/-! # Configuration of the Go services

`internal/config/config.go`: every field has a built-in default, a YAML file may set some
of them, and environment variables come last.  `strconv.ParseFloat`, `time.ParseDuration`
and `yaml.Unmarshal` are parameters, so that what is proved holds whatever they accept.

`LoadNetwork` follows that order in every field.  `LoadService` forgets the listen address
of the file.
-/

namespace AutoSre.GoServer

/-! ## The operating system -/

inductive FileRead where
  | data (bytes : String)
  | notExist
  | failed (error : String)

/-- The environment and the files of a process. -/
structure OS where
  environ : String → Option String
  readFile : String → FileRead

/-- `os.Getenv` is empty for a variable that is not set. -/
def OS.getenv (os : OS) (key : String) : String := (os.environ key).getD ""

/-- The value of a variable that is set and not empty. -/
def OS.setting (os : OS) (key : String) : Option String := (os.environ key).filter (· ≠ "")

/-! ## `strconv.Atoi` -/

def digits : ℕ → List Char → Option ℕ
  | n, [] => some n
  | n, c :: rest => if '0' ≤ c ∧ c ≤ '9' then digits (10 * n + (c.toNat - '0'.toNat)) rest else none

/-- An optional sign and at least one digit; the result is an `int` of 64 bits. -/
def atoi (text : String) : Option ℤ :=
  let inRange (n : ℤ) : Option ℤ := if -2 ^ 63 ≤ n ∧ n < 2 ^ 63 then some n else none
  match text.toList with
  | [] | ['-'] | ['+'] => none
  | '-' :: rest => (digits 0 rest).bind fun n => inRange (-n)
  | '+' :: rest => (digits 0 rest).bind fun n => inRange n
  | c :: rest => (digits 0 (c :: rest)).bind fun n => inRange n

/-! ## Reading the environment -/

inductive Expected where
  | integer
  | number
  | duration
deriving DecidableEq

/-- `KEY="value": not a valid ...` -/
structure ParseError where
  key : String
  value : String
  expected : Expected
deriving DecidableEq

/-- The errors so far, in the order of the reads. -/
structure Env where
  errs : List ParseError := []

namespace Env

variable {α : Type}

def str (os : OS) (key fallback : String) : String := if os.getenv key ≠ "" then os.getenv key else fallback

def parsed (parse : String → Option α) (expected : Expected) (e : Env) (os : OS) (key : String) (fallback : α) :
    α × Env :=
  let v := os.getenv key
  if v = "" then (fallback, e)
  else
    match parse v with
    | some value => (value, e)
    | none => (fallback, ⟨e.errs ++ [⟨key, v, expected⟩]⟩)

def int : Env → OS → String → ℤ → ℤ × Env := parsed atoi .integer

def float (parseFloat : String → Option α) : Env → OS → String → α → α × Env := parsed parseFloat .number

/-- Unlike `int` and `float` it parses the fallback too, and gives zero for what it cannot
    parse. -/
def duration [Zero α] (parseDuration : String → Option α) (e : Env) (os : OS) (key fallback : String) : α × Env :=
  let raw := str os key fallback
  match parseDuration raw with
  | some value => (value, e)
  | none => (0, ⟨e.errs ++ [⟨key, raw, .duration⟩]⟩)

end Env

/-! ## Loading -/

inductive LoadError where
  | read (error : String)
  | yaml (error : String)
  | invalid (errs : List ParseError)
deriving DecidableEq

def Env.err (e : Env) : Option LoadError := if e.errs = [] then none else some (.invalid e.errs)

/-- What the file at the path sets: nothing, if there is no path or no file. -/
def loadYAML {ω : Type} (os : OS) (unmarshal : String → Except String ω) (nothing : ω) (path : String) :
    Except LoadError ω :=
  if path = "" then .ok nothing
  else
    match os.readFile path with
    | .data bytes => (unmarshal bytes).mapError .yaml
    | .notExist => .ok nothing
    | .failed error => .error (.read error)

/-- `fmt.Sprintf(":%d", port)` -/
def portAddr (port : ℤ) : String := ":" ++ toString port

structure ServiceConfig (F : Type) where
  service : String
  listenAddr : String
  failureLogPath : String
  rateLimitRPS : F
  rateLimitBurst : F
  authURL : String
deriving DecidableEq

/-- The fields of a `ServiceConfig` that a YAML document sets; `Unmarshal` leaves the
    others as they are. -/
structure ServiceOverlay (F : Type) where
  service : Option String := none
  listenAddr : Option String := none
  failureLogPath : Option String := none
  rateLimitRPS : Option F := none
  rateLimitBurst : Option F := none
  authURL : Option String := none

def ServiceOverlay.onto {F : Type} (overlay : ServiceOverlay F) (cfg : ServiceConfig F) : ServiceConfig F where
  service := overlay.service.getD cfg.service
  listenAddr := overlay.listenAddr.getD cfg.listenAddr
  failureLogPath := overlay.failureLogPath.getD cfg.failureLogPath
  rateLimitRPS := overlay.rateLimitRPS.getD cfg.rateLimitRPS
  rateLimitBurst := overlay.rateLimitBurst.getD cfg.rateLimitBurst
  authURL := overlay.authURL.getD cfg.authURL

def loadService {F : Type} [OfNat F 10] [OfNat F 20] (parseFloat : String → Option F)
    (unmarshal : String → Except String (ServiceOverlay F)) (os : OS) (service : String) (defaultPort : ℤ) :
    Except LoadError (ServiceConfig F) :=
  let cfg : ServiceConfig F := {
    service
    listenAddr := portAddr defaultPort
    failureLogPath := "data/failures.jsonl"
    rateLimitRPS := 10
    rateLimitBurst := 20
    authURL := "http://auth:8001" }
  match loadYAML os unmarshal {} (os.getenv "CONFIG_FILE") with
  | .error error => .error error
  | .ok overlay =>
    let cfg := overlay.onto cfg
    let e : Env := {}
    -- the fallback of the port is the default again, not what the file says
    let (port, e) := e.int os "PORT" defaultPort
    let (rateLimitRPS, e) := e.float parseFloat os "RATE_LIMIT_RPS" cfg.rateLimitRPS
    let (rateLimitBurst, e) := e.float parseFloat os "RATE_LIMIT_BURST" cfg.rateLimitBurst
    let cfg := { cfg with
      listenAddr := portAddr port
      failureLogPath := Env.str os "FAILURE_LOG_PATH" cfg.failureLogPath
      rateLimitRPS
      rateLimitBurst
      authURL := Env.str os "AUTH_URL" cfg.authURL }
    match e.err with
    | some error => .error error
    | none => .ok cfg

structure Target where
  name : String
  host : String := ""
  port : ℤ := 0
  http : String := ""
deriving DecidableEq

structure NetworkConfig (D : Type) where
  listenAddr : String
  pollInterval : D
  timeout : D
  targets : List Target
deriving DecidableEq

/-- The fields of a `netFile` that a YAML document sets. -/
structure NetworkOverlay where
  listenAddr : Option String := none
  pollInterval : Option String := none
  timeout : Option String := none
  targets : Option (List Target) := none

def loadNetwork {D : Type} [Zero D] (parseDuration : String → Option D)
    (unmarshal : String → Except String NetworkOverlay) (os : OS) : Except LoadError (NetworkConfig D) :=
  match loadYAML os unmarshal {} (Env.str os "NETD_CONFIG" "config.yaml") with
  | .error error => .error error
  | .ok file =>
    let e : Env := {}
    let listenAddr := Env.str os "NETD_LISTEN_ADDR" (file.listenAddr.getD ":2112")
    let (pollInterval, e) := e.duration parseDuration os "NETD_POLL_INTERVAL" (file.pollInterval.getD "15s")
    let (timeout, e) := e.duration parseDuration os "NETD_TIMEOUT" (file.timeout.getD "5s")
    match e.err with
    | some error => .error error
    | none => .ok ⟨listenAddr, pollInterval, timeout, file.targets.getD []⟩

/-! ## Precedence -/

/-- The rule for one field: the environment, else the file, else the default. -/
def Resolved {α : Type} (parse : String → Option α) (setting : Option String) (fromFile : Option α)
    (builtin value : α) : Prop :=
  match setting with
  | some text => parse text = some value
  | none => value = fromFile.getD builtin

/-- What becomes of the rule if the file has no part in the value: it holds where the
    environment decides, or where the file would not have made a difference. -/
theorem Resolved.forgets_file_iff {α β : Type} {parse : String → Option α} {setting : Option String}
    {builtin value : α} (forgetful : Resolved parse setting none builtin value) (format : α → β)
    (fromFile : Option β) :
    Resolved (fun text => (parse text).map format) setting fromFile (format builtin) (format value) ↔
      setting ≠ none ∨ fromFile = none ∨ fromFile = some (format builtin) := by
  cases setting with
  | some text =>
    have parsed : parse text = some value := forgetful
    exact iff_of_true (by simp [Resolved, parsed]) (.inl (by simp))
  | none =>
    obtain rfl : value = builtin := forgetful
    cases fromFile with
    | none => exact iff_of_true rfl (.inr (.inl rfl))
    | some written => simp [Resolved, eq_comm]

theorem OS.setting_eq (os : OS) (key : String) :
    os.setting key = if os.getenv key = "" then none else some (os.getenv key) := by
  unfold OS.setting OS.getenv
  cases os.environ key with
  | none => rfl
  | some value => by_cases empty : value = "" <;> simp [empty, Option.filter]

namespace Env

variable {α : Type} {os : OS}

theorem str_resolved (os : OS) (key : String) (fromFile : Option String) (builtin : String) :
    Resolved some (os.setting key) fromFile builtin (str os key (fromFile.getD builtin)) := by
  rw [OS.setting_eq, str]
  by_cases empty : os.getenv key = ""
  · simp [Resolved, empty]
  · simp [Resolved, empty]

theorem errs_of_err {e : Env} (clean : e.err = none) : e.errs = [] := by
  unfold err at clean
  split at clean
  next none => exact none
  next => cases clean

theorem parsed_errs {parse : String → Option α} {expected : Expected} {e : Env} {key : String} {fallback : α}
    (clean : (parsed parse expected e os key fallback).2.errs = []) : e.errs = [] := by
  simp only [parsed] at clean
  split at clean
  next unset => exact clean
  next set =>
    split at clean
    next value => exact clean
    next => simp at clean

theorem parsed_resolved {parse : String → Option α} {expected : Expected} {e : Env} {key : String}
    {fromFile : Option α} {builtin : α}
    (clean : (parsed parse expected e os key (fromFile.getD builtin)).2.errs = []) :
    Resolved parse (os.setting key) fromFile builtin
      (parsed parse expected e os key (fromFile.getD builtin)).1 := by
  rw [OS.setting_eq]
  simp only [parsed] at clean ⊢
  split
  next unset => rfl
  next set =>
    rw [if_neg set] at clean
    cases read : parse (os.getenv key) with
    | some value => exact read
    | none => simp [read] at clean

theorem duration_errs [Zero α] {parseDuration : String → Option α} {e : Env} {key fallback : String}
    (clean : (duration parseDuration e os key fallback).2.errs = []) : e.errs = [] := by
  simp only [duration] at clean
  split at clean
  next value => exact clean
  next => simp at clean

theorem duration_resolved [Zero α] {parseDuration : String → Option α} {e : Env} {key : String}
    {fromFile : Option String} {builtin : String}
    (clean : (duration parseDuration e os key (fromFile.getD builtin)).2.errs = []) :
    ∃ text, Resolved some (os.setting key) fromFile builtin text ∧
      parseDuration text = some (duration parseDuration e os key (fromFile.getD builtin)).1 := by
  refine ⟨_, str_resolved os key fromFile builtin, ?_⟩
  simp only [duration] at clean ⊢
  cases read : parseDuration (str os key (fromFile.getD builtin)) with
  | some value => rfl
  | none => simp [read] at clean

end Env

section

variable {F : Type} [OfNat F 10] [OfNat F 20] {parseFloat : String → Option F}
  {unmarshal : String → Except String (ServiceOverlay F)} {os : OS} {service : String} {defaultPort : ℤ}
  {overlay : ServiceOverlay F} {cfg : ServiceConfig F}

/-- The five fields follow the rule, `overlay` being what the file sets. -/
structure ServicePrecedence (parseFloat : String → Option F) (os : OS) (defaultPort : ℤ)
    (overlay : ServiceOverlay F) (cfg : ServiceConfig F) : Prop where
  listenAddr : Resolved (fun text => (atoi text).map portAddr) (os.setting "PORT") overlay.listenAddr
    (portAddr defaultPort) cfg.listenAddr
  failureLogPath : Resolved some (os.setting "FAILURE_LOG_PATH") overlay.failureLogPath "data/failures.jsonl"
    cfg.failureLogPath
  rateLimitRPS : Resolved parseFloat (os.setting "RATE_LIMIT_RPS") overlay.rateLimitRPS 10 cfg.rateLimitRPS
  rateLimitBurst : Resolved parseFloat (os.setting "RATE_LIMIT_BURST") overlay.rateLimitBurst 20
    cfg.rateLimitBurst
  authURL : Resolved some (os.setting "AUTH_URL") overlay.authURL "http://auth:8001" cfg.authURL

/-- Four fields follow the rule as they are; the listen address is that of a port which
    the file has no part in. -/
theorem loadService_resolved (overlaid : loadYAML os unmarshal {} (os.getenv "CONFIG_FILE") = .ok overlay)
    (loaded : loadService parseFloat unmarshal os service defaultPort = .ok cfg) :
    (∃ port, Resolved atoi (os.setting "PORT") none defaultPort port ∧ cfg.listenAddr = portAddr port) ∧
      Resolved some (os.setting "FAILURE_LOG_PATH") overlay.failureLogPath "data/failures.jsonl"
        cfg.failureLogPath ∧
      Resolved parseFloat (os.setting "RATE_LIMIT_RPS") overlay.rateLimitRPS 10 cfg.rateLimitRPS ∧
      Resolved parseFloat (os.setting "RATE_LIMIT_BURST") overlay.rateLimitBurst 20 cfg.rateLimitBurst ∧
      Resolved some (os.setting "AUTH_URL") overlay.authURL "http://auth:8001" cfg.authURL := by
  simp only [loadService, overlaid, ServiceOverlay.onto] at loaded
  split at loaded
  next error failed => cases loaded
  next clean =>
    cases loaded
    have clean := Env.errs_of_err clean
    have burst := Env.parsed_resolved clean
    have clean := Env.parsed_errs clean
    have rps := Env.parsed_resolved clean
    have clean := Env.parsed_errs clean
    have port : Resolved atoi (os.setting "PORT") none defaultPort _ := Env.parsed_resolved clean
    exact ⟨⟨_, port, rfl⟩, Env.str_resolved _ _ _ _, rps, burst, Env.str_resolved _ _ _ _⟩

/-- The configuration follows the documented order exactly when the port is given, or the
    file leaves the listen address alone or repeats the default. -/
theorem loadService_precedence_iff (overlaid : loadYAML os unmarshal {} (os.getenv "CONFIG_FILE") = .ok overlay)
    (loaded : loadService parseFloat unmarshal os service defaultPort = .ok cfg) :
    ServicePrecedence parseFloat os defaultPort overlay cfg ↔
      os.setting "PORT" ≠ none ∨ overlay.listenAddr = none ∨ overlay.listenAddr = some (portAddr defaultPort) := by
  obtain ⟨⟨port, fromEnv, listenAddr⟩, failureLogPath, rps, burst, authURL⟩ := loadService_resolved overlaid loaded
  have listenAddr_iff := fromEnv.forgets_file_iff portAddr overlay.listenAddr
  rw [← listenAddr] at listenAddr_iff
  rw [← listenAddr_iff]
  exact ⟨fun follows => follows.listenAddr, fun resolved => ⟨resolved, failureLogPath, rps, burst, authURL⟩⟩

end

def processWith (environ : List (String × String)) (configYaml : String) : OS where
  environ key := environ.lookup key
  readFile path := if path = "config.yaml" then .data configYaml else .notExist

/-- Integers are numbers, which is all that the two runs below need. -/
def parseIntegral (text : String) : Option ℚ := (atoi text).map fun n => n

def unmarshalListenAddr (bytes : String) : Except String (ServiceOverlay ℚ) :=
  if bytes = "listen_addr: 127.0.0.1:9000\n" then .ok { listenAddr := some "127.0.0.1:9000" }
  else if bytes = "rate_limit_rps: 5\nauth_url: http://localhost:8001\n" then
    .ok { rateLimitRPS := some 5, authURL := some "http://localhost:8001" }
  else .error "not one of the documents"

/-- A port from the environment, a rate and a URL from the file, the rest by default. -/
theorem loadService_precedence_layers :
    let os := processWith [("CONFIG_FILE", "config.yaml"), ("PORT", "9999"), ("AUTH_URL", "")]
      "rate_limit_rps: 5\nauth_url: http://localhost:8001\n"
    let overlay : ServiceOverlay ℚ := { rateLimitRPS := some 5, authURL := some "http://localhost:8001" }
    let cfg : ServiceConfig ℚ := ⟨"api", ":9999", "data/failures.jsonl", 5, 20, "http://localhost:8001"⟩
    loadService parseIntegral unmarshalListenAddr os "api" 8000 = .ok cfg ∧
      ServicePrecedence parseIntegral os 8000 overlay cfg := by
  intro os overlay cfg
  have loaded : loadService parseIntegral unmarshalListenAddr os "api" 8000 = .ok cfg := by decide +kernel
  have given : os.setting "PORT" ≠ none := by decide +kernel
  exact ⟨loaded, (loadService_precedence_iff (by rfl) loaded).mpr (.inl given)⟩

/-- The file sets the listen address and nothing else does, and the default wins. -/
theorem loadService_precedence_forgets_listenAddr :
    let os := processWith [("CONFIG_FILE", "config.yaml")] "listen_addr: 127.0.0.1:9000\n"
    let overlay : ServiceOverlay ℚ := { listenAddr := some "127.0.0.1:9000" }
    let cfg : ServiceConfig ℚ := ⟨"api", ":8000", "data/failures.jsonl", 10, 20, "http://auth:8001"⟩
    loadYAML os unmarshalListenAddr {} (os.getenv "CONFIG_FILE") = .ok overlay ∧
      loadService parseIntegral unmarshalListenAddr os "api" 8000 = .ok cfg ∧
      ¬ ServicePrecedence parseIntegral os 8000 overlay cfg := by
  intro os overlay cfg
  refine ⟨by rfl, by decide +kernel, fun follows => ?_⟩
  have fromFile : ":8000" = "127.0.0.1:9000" := follows.listenAddr
  exact absurd fromFile (by decide)

/-! The sibling does what `LoadService` misses. -/

/-- The fields of the network daemon, the durations by their texts. -/
structure NetworkPrecedence {D : Type} (parseDuration : String → Option D) (os : OS) (file : NetworkOverlay)
    (cfg : NetworkConfig D) : Prop where
  listenAddr : Resolved some (os.setting "NETD_LISTEN_ADDR") file.listenAddr ":2112" cfg.listenAddr
  pollInterval : ∃ text, Resolved some (os.setting "NETD_POLL_INTERVAL") file.pollInterval "15s" text ∧
    parseDuration text = some cfg.pollInterval
  timeout : ∃ text, Resolved some (os.setting "NETD_TIMEOUT") file.timeout "5s" text ∧
    parseDuration text = some cfg.timeout
  targets : cfg.targets = file.targets.getD []

theorem loadNetwork_precedence {D : Type} [Zero D] {parseDuration : String → Option D}
    {unmarshal : String → Except String NetworkOverlay} {os : OS} {file : NetworkOverlay} {cfg : NetworkConfig D}
    (overlaid : loadYAML os unmarshal {} (Env.str os "NETD_CONFIG" "config.yaml") = .ok file)
    (loaded : loadNetwork parseDuration unmarshal os = .ok cfg) :
    NetworkPrecedence parseDuration os file cfg := by
  simp only [loadNetwork, overlaid] at loaded
  split at loaded
  next error failed => cases loaded
  next clean =>
    cases loaded
    have clean := Env.errs_of_err clean
    have timeout := Env.duration_resolved clean
    have pollInterval := Env.duration_resolved (Env.duration_errs clean)
    exact ⟨Env.str_resolved _ _ _ _, pollInterval, timeout, rfl⟩

end AutoSre.GoServer
