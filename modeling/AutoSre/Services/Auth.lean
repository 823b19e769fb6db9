import AutoSre.Resilience.CircuitBreaker

/-! # The auth service

`auth/main.py` behind its middleware: a request that the rate limiter admitted and that
no chaos touched.  The handler awaits the identity provider, so a validation takes two
steps, `receive` up to the call of the backend and `respond` from its return on.
-/

namespace AutoSre.Services

open AutoSre.Lib.Python AutoSre.Resilience

def invalidTokens : List Str := ["".toList, "invalid".toList, "expired".toList]

def maxTokenLength : ℕ := 4096

structure TokenRequest where
  token : Str
  length_bounds : 1 ≤ token.length ∧ token.length ≤ maxTokenLength
deriving DecidableEq

def tokenRequest (token : Str) : Option TokenRequest :=
  if bounds : 1 ≤ token.length ∧ token.length ≤ maxTokenLength then some ⟨token, bounds⟩ else none

def identityBreaker : BreakerConfig where
  name := "identity-provider".toList
  failureThreshold := 5
  recoveryTimeout := 20
  successThreshold := 2

/-- The JSON object that `validate` returns. -/
structure Validation where
  valid : Bool
  token : Str
deriving DecidableEq

inductive AuthResponse where
  | ok (validation : Validation)
  | unprocessable
  | circuitOpen (name : Str)
deriving DecidableEq

namespace AuthResponse

def status : AuthResponse → ℕ
  | .ok _ => 200
  | .unprocessable => 422
  | .circuitOpen _ => 503

def json : AuthResponse → Option Validation
  | .ok validation => some validation
  | .unprocessable | .circuitOpen _ => none

end AuthResponse

/-- The service: the breaker before the identity provider and the two series of
    `auth_token_validations_total`. -/
structure Auth where
  identity : CircuitBreaker InMemoryStore := .fresh
  validTotal : ℕ := 0
  invalidTotal : ℕ := 0

namespace Auth

/-- A request up to the call of the backend, or to the response where it gets no further. -/
def receive (now : ℚ) (token : Str) (auth : Auth) : (AuthResponse ⊕ TokenRequest) × Auth :=
  match tokenRequest token with
  | none => (.inl .unprocessable, auth)
  | some request =>
    match auth.identity.enter identityBreaker now with
    | (true, identity) => (.inr request, { auth with identity })
    -- `CircuitBreakerOpenError`, turned into a response by the shared handler
    | (false, identity) => (.inl (.circuitOpen identityBreaker.name), { auth with identity })

/-- The backend has answered whether the token is valid. -/
def respond (now : ℚ) (request : TokenRequest) (auth : Auth) : AuthResponse × Auth :=
  let valid := decide (request.token ∉ invalidTokens)
  (.ok ⟨valid, request.token⟩,
    { identity := auth.identity.leave identityBreaker now .returned
      validTotal := if valid then auth.validTotal + 1 else auth.validTotal
      invalidTotal := if valid then auth.invalidTotal else auth.invalidTotal + 1 })

/-- How auth answers for a token while its identity breaker is closed. -/
def answer (token : Str) : AuthResponse :=
  if 1 ≤ token.length ∧ token.length ≤ maxTokenLength then .ok ⟨decide (token ∉ invalidTokens), token⟩
  else .unprocessable

/-- The status an order is meant to get for its token. -/
def orderStatus (token : Str) : ℕ := if token ∈ invalidTokens then 401 else 200

theorem receive_of_closed {auth : Auth} (closed : auth.identity.state = .Closed) (now : ℚ)
    (token : Str) :
    (auth.receive now token).2 = auth ∧
      match (auth.receive now token).1 with
      | .inl response => response = answer token
      | .inr request => request.token = token := by
  by_cases bounds : 1 ≤ token.length ∧ token.length ≤ maxTokenLength
  · simp [receive, tokenRequest, bounds, CircuitBreaker.enter_of_closed closed]
  · simp [receive, tokenRequest, bounds, answer]

theorem respond_eq_answer (auth : Auth) (now : ℚ) (request : TokenRequest) :
    (auth.respond now request).1 = answer request.token := by
  simp [respond, answer, request.length_bounds]

theorem respond_of_closed {auth : Auth} (closed : auth.identity.state = .Closed) (now : ℚ)
    (request : TokenRequest) : (auth.respond now request).2.identity.state = .Closed :=
  CircuitBreaker.closed_returned_of_closed closed identityBreaker now

end Auth

end AutoSre.Services
