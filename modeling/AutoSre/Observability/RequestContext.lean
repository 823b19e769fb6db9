import AutoSre.Lib.Python

/-! # Request and correlation IDs

`RequestContextMiddleware` binds two IDs to each request, and `HTTPServiceClient` hands
the correlation ID on with every call it makes meanwhile, so that a chain of services
should share one.  The two sides have different ideas of "no ID": on arrival it is an
absent or empty header, and for the client it is the default `"-"` of the context
variable.  A client of the first service may send that very text.

A header value is bytes on the wire and latin-1 text in the services, one character a
byte; here it is the text.
-/

namespace AutoSre.Observability

open AutoSre.Lib.Python

/-- The headers of a request or response, with names in lower case. -/
abbrev Headers := List (Str × Str)

def scopeHeader (headers : Headers) (name : Str) : Option Str := headers.lookup name

def xRequestId : Str := "x-request-id".toList

def xCorrelationId : Str := "x-correlation-id".toList

/-! ## Context -/

/-- `request_id_var` and `correlation_id_var` with their defaults. -/
structure Context where
  requestId : Str := "-".toList
  correlationId : Str := "-".toList
deriving DecidableEq

/-- What `new_id` returns, the hex digits of a UUID. -/
structure NewId where
  hex : Str
  length : hex.length = 32
  digits : ∀ c ∈ hex, c ∈ "0123456789abcdef".toList

theorem NewId.ne_nil (fresh : NewId) : fresh.hex ≠ [] := by
  intro empty
  have length := fresh.length
  rw [empty] at length
  cases length

theorem NewId.ne_unset (fresh : NewId) : fresh.hex ≠ "-".toList := by
  intro unset
  have length := fresh.length
  rw [unset] at length
  cases length

def propagationHeaders (context : Context) : Dict Str Str :=
  if context.correlationId ≠ [] ∧ context.correlationId ≠ "-".toList then
    ⟨[("X-Correlation-ID".toList, context.correlationId)]⟩
  else .empty

/-! ## Middleware -/

inductive ScopeType where
  | http
  | websocket
  | lifespan
deriving DecidableEq

structure Scope where
  type : ScopeType
  headers : Headers

/-- The messages an application sends; the start of a response without headers has none. -/
inductive Message where
  | responseStart (status : ℕ) (headers : Headers)
  | responseBody (body : Str)
  | other
deriving DecidableEq

def Message.isStart : Message → Bool
  | .responseStart _ _ => true
  | .responseBody _ | .other => false

namespace RequestContextMiddleware

def sendWrapper (rid cid : Str) : Message → Message
  | .responseStart status headers => .responseStart status (headers ++ [(xRequestId, rid), (xCorrelationId, cid)])
  | message => message

/-- The context in which the application runs, and what becomes of the messages it sends.
    `outer` is the context that is restored in the end. -/
def call (outer : Context) (scope : Scope) (fresh : NewId) : Context × (Message → Message) :=
  match scope.type with
  | .http =>
    let rid := orDefault (scopeHeader scope.headers xRequestId) fresh.hex
    let cid := orDefault (scopeHeader scope.headers xCorrelationId) rid
    (⟨rid, cid⟩, sendWrapper rid cid)
  | .websocket | .lifespan => (outer, id)

end RequestContextMiddleware

/-! ## Client -/

/-- The headers of a call; `headers` are the caller's own and win. -/
def HTTPServiceClient.requestHeaders (context : Context) (headers : Dict Str Str) : Dict Str Str :=
  (propagationHeaders context).merge headers

def HTTPServiceClient.getJson (context : Context) (headers : Dict Str Str := .empty) : Dict Str Str :=
  requestHeaders context headers

def HTTPServiceClient.postJson (context : Context) (headers : Dict Str Str := .empty) : Dict Str Str :=
  requestHeaders context headers

def lower (name : Str) : Str := name.map Char.toLower

/-- The header names neither ID. -/
def Foreign (name : Str) : Prop := name ≠ xRequestId ∧ name ≠ xCorrelationId

instance (name : Str) : Decidable (Foreign name) := inferInstanceAs (Decidable (_ ∧ _))

/-- A call of the next service, with the caller's own headers and those that the transport
    adds.  The callers in the services give none of their own. -/
structure ServiceCall where
  posts : Bool
  headers : Dict Str Str := .empty
  added : Headers := []
  headersForeign : ∀ item ∈ headers.items, Foreign (lower item.1)
  addedForeign : ∀ header ∈ added, Foreign header.1

def ServiceCall.sent (call : ServiceCall) (context : Context) : Dict Str Str :=
  if call.posts then HTTPServiceClient.postJson context call.headers
  else HTTPServiceClient.getJson context call.headers

theorem ServiceCall.sent_eq (call : ServiceCall) (context : Context) :
    call.sent context = (propagationHeaders context).merge call.headers :=
  ite_self _

/-- What the next service finds in its scope: the values as they were sent. -/
def ServiceCall.arrives (call : ServiceCall) (context : Context) : Headers :=
  call.added ++ (call.sent context).items.map fun item => (lower item.1, item.2)

theorem lookup_append_of_absent {before after : Headers} {name : Str} (absent : ∀ header ∈ before, header.1 ≠ name) :
    (before ++ after).lookup name = after.lookup name := by
  induction before with
  | nil => rfl
  | cons header before ih =>
    obtain ⟨here, later⟩ := List.forall_mem_cons.mp absent
    have skipped : (name == header.1) = false := beq_false_of_ne (Ne.symm here)
    rw [List.cons_append, List.lookup_cons, skipped]
    exact ih later

theorem ServiceCall.scopeHeader_arrives (call : ServiceCall) (context : Context) {name : Str}
    (isId : ¬Foreign name) :
    scopeHeader (call.arrives context) name =
      ((propagationHeaders context).items.map fun item => (lower item.1, item.2)).lookup name := by
  have other : ∀ {found : Str}, Foreign found → found ≠ name := by
    rintro found foreign rfl
    exact isId foreign
  rw [scopeHeader, ServiceCall.arrives, call.sent_eq context,
    lookup_append_of_absent fun header member => other (call.addedForeign header member)]
  exact Dict.lookup_map_merge lower _ _ fun item member => other (call.headersForeign item member)

theorem ServiceCall.arrives_requestId (call : ServiceCall) (context : Context) :
    scopeHeader (call.arrives context) xRequestId = none := by
  rw [call.scopeHeader_arrives context (by decide), propagationHeaders]
  split
  · rfl
  · rfl

theorem ServiceCall.arrives_correlationId (call : ServiceCall) {context : Context}
    (nonempty : context.correlationId ≠ []) (set : context.correlationId ≠ "-".toList) :
    scopeHeader (call.arrives context) xCorrelationId = some context.correlationId := by
  rw [call.scopeHeader_arrives context (by decide), propagationHeaders, if_pos ⟨nonempty, set⟩]
  rfl

theorem ServiceCall.arrives_unset (call : ServiceCall) {context : Context}
    (unset : context.correlationId = "-".toList) :
    scopeHeader (call.arrives context) xCorrelationId = none := by
  rw [call.scopeHeader_arrives context (by decide), propagationHeaders, if_neg (by simp [unset])]
  rfl

/-! ## Chains of services -/

/-- A service in a chain: the ID it would generate, the messages its application sends,
    and the call with which it reaches the next one.  An application that raises sends
    what it sent before; what Starlette answers then does not go through the middleware. -/
structure Service where
  fresh : NewId
  messages : List Message
  call : ServiceCall

def Service.Responds (service : Service) : Prop := ∃ message ∈ service.messages, message.isStart = true

/-- What a service made of its request. -/
structure Served where
  context : Context
  sent : List Message

def Service.serve (service : Service) (headers : Headers) : Served :=
  let (context, send) := RequestContextMiddleware.call {} ⟨.http, headers⟩ service.fresh
  ⟨context, service.messages.map send⟩

def chain (headers : Headers) : List Service → List Served
  | [] => []
  | service :: later =>
    let served := service.serve headers
    served :: chain (service.call.arrives served.context) later

/-- The service bound the ID, and its response carries it. -/
structure Served.Carries (cid : Str) (served : Served) : Prop where
  bound : served.context.correlationId = cid
  responds : ∃ message ∈ served.sent, message.isStart = true
  echoed : ∀ status headers, .responseStart status headers ∈ served.sent → (xCorrelationId, cid) ∈ headers

/-- The inbound correlation ID, if there is one, and else the request ID of the first service. -/
def chainId (headers : Headers) (first : Service) : Str :=
  orDefault (scopeHeader headers xCorrelationId) (first.serve headers).context.requestId

section

variable {headers : Headers} {service : Service} {cid : Str}

theorem Service.serve_correlationId (service : Service) (headers : Headers) :
    (service.serve headers).context.correlationId =
      orDefault (scopeHeader headers xCorrelationId) (service.serve headers).context.requestId :=
  rfl

theorem Service.serve_requestId (service : Service) (headers : Headers) :
    (service.serve headers).context.requestId = orDefault (scopeHeader headers xRequestId) service.fresh.hex :=
  rfl

theorem Service.serve_sent (service : Service) (headers : Headers) :
    (service.serve headers).sent =
      service.messages.map (RequestContextMiddleware.sendWrapper (service.serve headers).context.requestId
        (service.serve headers).context.correlationId) :=
  rfl

theorem chainId_ne_nil (headers : Headers) (first : Service) : chainId headers first ≠ [] := by
  apply orDefault_ne_nil
  rw [Service.serve_requestId]
  exact orDefault_ne_nil _ first.fresh.ne_nil

@[simp] theorem RequestContextMiddleware.sendWrapper_isStart (rid cid : Str) (message : Message) :
    (sendWrapper rid cid message).isStart = message.isStart := by
  cases message <;> rfl

theorem Service.serve_carries_iff (bound : (service.serve headers).context.correlationId = cid) :
    (service.serve headers).Carries cid ↔ service.Responds := by
  constructor
  · rintro ⟨_, responds, _⟩
    rw [Service.serve_sent] at responds
    simpa [Service.Responds] using responds
  · intro responds
    refine ⟨bound, ?_, ?_⟩
    · rw [Service.serve_sent]
      simpa [Service.Responds] using responds
    · intro status sent isSent
      rw [Service.serve_sent, bound, List.mem_map] at isSent
      obtain ⟨message, _, wrapped⟩ := isSent
      cases message with
      | responseStart started own =>
        cases wrapped
        simp
      | responseBody _ => cases wrapped
      | other => cases wrapped

/-- From a service on that received a proper ID, all bind that ID. -/
theorem chain_carries_iff (nonempty : cid ≠ []) (set : cid ≠ "-".toList) (services : List Service)
    (received : scopeHeader headers xCorrelationId = some cid) :
    (∀ served ∈ chain headers services, served.Carries cid) ↔ ∀ service ∈ services, service.Responds := by
  induction services generalizing headers with
  | nil => simp [chain]
  | cons service later ih =>
    have bound : (service.serve headers).context.correlationId = cid := by
      rw [Service.serve_correlationId, received, orDefault_some nonempty]
    subst bound
    rw [chain, List.forall_mem_cons, List.forall_mem_cons, Service.serve_carries_iff rfl]
    exact and_congr_right fun _ => ih (service.call.arrives_correlationId nonempty set)

end

/-- The services of a chain all bind and echo its ID exactly when each of them responds,
    and there is only one of them or the ID is not the `"-"` that stands for none. -/
theorem one_correlation_id_iff (headers : Headers) (first : Service) (later : List Service) :
    (∀ served ∈ chain headers (first :: later), served.Carries (chainId headers first)) ↔
      (later = [] ∨ chainId headers first ≠ "-".toList) ∧ ∀ service ∈ first :: later, service.Responds := by
  have bound : (first.serve headers).context.correlationId = chainId headers first := rfl
  rw [chain, List.forall_mem_cons, List.forall_mem_cons, Service.serve_carries_iff bound]
  cases later with
  | nil => simp [chain]
  | cons next later =>
    by_cases set : chainId headers first = "-".toList
    · -- the next service is sent no ID and generates one
      refine iff_of_false ?_ fun condition => condition.1.elim nofun fun other => other set
      rintro ⟨_, carried⟩
      have same := (carried _ List.mem_cons_self).bound
      rw [Service.serve_correlationId, first.call.arrives_unset (bound.trans set), Service.serve_requestId,
        ServiceCall.arrives_requestId, set] at same
      exact next.fresh.ne_unset same
    · have received := first.call.arrives_correlationId (bound ▸ chainId_ne_nil headers first) (bound ▸ set)
      rw [bound] at received
      rw [chain_carries_iff (chainId_ne_nil headers first) set (next :: later) received]
      exact (and_iff_right (.inr set)).symm

/-- A client sends the correlation ID `"-"` to the first of two services.  Both respond, but
    the second binds and echoes an ID of its own. -/
theorem dash_breaks_chain :
    let fresh : NewId := ⟨List.replicate 32 '0', rfl, by simp⟩
    let service : Service := ⟨fresh, [.responseStart 200 []], ⟨true, .empty, [], by decide, by decide⟩⟩
    let headers : Headers := [(xCorrelationId, "-".toList)]
    chainId headers service = "-".toList ∧
      (chain headers [service, service]).map (fun served => served.context.correlationId) =
        ["-".toList, fresh.hex] ∧
      ¬∀ served ∈ chain headers [service, service], served.Carries (chainId headers service) := by
  intro fresh service headers
  refine ⟨rfl, rfl, ?_⟩
  intro carried
  have bound := (carried (service.serve []) (.tail _ (.head _))).bound
  exact fresh.ne_unset bound

end AutoSre.Observability
