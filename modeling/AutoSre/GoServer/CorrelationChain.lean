import AutoSre.GoServer.ResponseHeader
import AutoSre.Observability.RequestContext

/-! # A chain that begins in Go

The Go api calls auth, which is written in Python, through `internal/clients`.  Both sides
hand the correlation ID on by conventions of their own: to Go an ID is what is not empty, and
Python also takes `"-"` for none, but only when it sends one.
-/

namespace AutoSre.GoServer

open AutoSre.Lib.NetHttp AutoSre.Lib.Python AutoSre.Observability

/-! ## The call of auth -/

/-- The header of the request that `Validate` makes; `correlationId` is that of its context. -/
def Auth.validateHeader (correlationId : String) : Header :=
  let header := Header.set [] "Content-Type" "application/json"
  if correlationId ≠ "" then header.set "X-Correlation-ID" correlationId else header

/-- What a Python service finds in its scope, after the fields that the transport adds. -/
def arrives (added : Headers) (header : Header) : Headers :=
  added ++ header.map fun field => (lower field.1.toList, field.2.toList)

theorem scopeHeader_arrives {added : Headers} (foreign : ∀ header ∈ added, Foreign header.1)
    {correlationId : String} (nonempty : correlationId ≠ "") :
    scopeHeader (arrives added (Auth.validateHeader correlationId)) xCorrelationId = some correlationId.toList := by
  have sameName : (xCorrelationId == lower "X-Correlation-ID".toList) = true := by decide
  rw [scopeHeader, arrives, lookup_append_of_absent fun header member => (foreign header member).2,
    Auth.validateHeader, if_pos nonempty, Header.set, List.map_cons, List.lookup_cons, sameName]

/-! ## The ID that the Go side binds -/

theorem boundRequestId_ne_empty {around : Circumstances} (generated : around.newRequestId ≠ "") (request : Request) :
    boundRequestId around request ≠ "" := by
  rw [boundRequestId]
  split
  · exact generated
  · assumption

theorem boundCorrelationId_eq {around : Circumstances} (generated : around.newRequestId ≠ "") (request : Request) :
    boundCorrelationId around request =
      if request.header.get "X-Correlation-ID" = "" then boundRequestId around request
      else request.header.get "X-Correlation-ID" := by
  have requestId := boundRequestId_ne_empty generated request
  by_cases inbound : request.header.get "X-Correlation-ID" = ""
  · simp [boundCorrelationId, inbound, requestId]
  · simp [boundCorrelationId, inbound]

theorem boundCorrelationId_ne_empty {around : Circumstances} (generated : around.newRequestId ≠ "")
    (request : Request) : boundCorrelationId around request ≠ "" := by
  rw [boundCorrelationId_eq generated]
  split
  · exact boundRequestId_ne_empty generated request
  · assumption

/-! ## The chain -/

/-- The Python part of a chain, from the ID that its first service receives: that service
    binds it whatever it is, and hands it on unless it is `"-"`. -/
theorem received_carries_iff {headers : Headers} {cid : Str} (nonempty : cid ≠ [])
    (received : scopeHeader headers xCorrelationId = some cid) (services : List Observability.Service) :
    (∀ served ∈ Observability.chain headers services, served.Carries cid) ↔
      (services.length ≤ 1 ∨ cid ≠ "-".toList) ∧ ∀ service ∈ services, service.Responds := by
  by_cases set : cid = "-".toList
  · subst set
    match services with
    | [] => simp [Observability.chain]
    | [service] =>
      have bound : (service.serve headers).context.correlationId = "-".toList := by
        rw [Service.serve_correlationId, received, orDefault_some nonempty]
      simpa [Observability.chain] using Service.serve_carries_iff bound
    | service :: next :: later =>
      have bound : (service.serve headers).context.correlationId = "-".toList := by
        rw [Service.serve_correlationId, received, orDefault_some nonempty]
      -- the second service is sent no ID and generates one
      refine iff_of_false ?_ fun condition => ?_
      · intro carried
        have same := (carried _ (.tail _ List.mem_cons_self)).bound
        rw [Service.serve_correlationId, service.call.arrives_unset bound, Service.serve_requestId,
          ServiceCall.arrives_requestId] at same
        exact next.fresh.ne_unset same
      · simp at condition
  · rw [chain_carries_iff nonempty set services received]
    exact (and_iff_right (.inr set)).symm

/-- The Go api binds one ID for a request, and answers with it unless its handler sets that
    field: the inbound correlation ID, and without one the request ID.  With the ID in the
    handler's context the call of `Validate` reaches a chain of Python services, and these
    all bind and echo the same ID exactly when each of them responds, and there is only one
    of them or the ID is not `"-"`. -/
theorem go_chain_carries_iff (around : Circumstances) (generated : around.newRequestId ≠ "")
    (behaviour : Request → HandlerBehaviour HeaderCode) (request : Request)
    (untouched : lastSet "X-Correlation-ID" (bufferedCalls (behaviour (bound around request))) = none)
    (added : Headers) (foreign : ∀ header ∈ added, Foreign header.1) (services : List Observability.Service) :
    let r := bound around request
    r.correlationId =
        (if request.header.get "X-Correlation-ID" = "" then r.requestId else request.header.get "X-Correlation-ID") ∧
      ((newRouter around (behave behaviour)).serveHTTP ({} : Response HeaderCode) request).writer.sentHeader.get
          "X-Correlation-ID" = r.correlationId ∧
      ((∀ served ∈ Observability.chain (arrives added (Auth.validateHeader r.correlationId)) services,
          served.Carries r.correlationId.toList) ↔
        (services.length ≤ 1 ∨ r.correlationId ≠ "-") ∧ ∀ service ∈ services, service.Responds) := by
  intro r
  have nonempty : r.correlationId ≠ "" := boundCorrelationId_ne_empty generated request
  refine ⟨boundCorrelationId_eq generated request, ?_, ?_⟩
  · rw [newRouter_sentHeader, untouched, get_boundHeader]
    cases around.deadline <;> rfl
  · rw [received_carries_iff (by simpa using nonempty) (scopeHeader_arrives foreign nonempty)]
    simp only [ne_eq, String.toList_inj]

/-- The Go api and auth, with a client that sends `"-"` and a handler that answers 200. -/
theorem go_chain_carries_dash :
    let fresh : NewId := ⟨List.replicate 32 '0', rfl, by simp⟩
    let auth : Observability.Service := ⟨fresh, [.responseStart 200 []], ⟨true, .empty, [], by decide, by decide⟩⟩
    let around : Circumstances := ⟨"0123456789abcdef0123456789abcdef", "", none, 50⟩
    let request : Request := { method := "POST", path := "/orders", header := [("X-Correlation-ID", "-")] }
    ∀ served ∈ Observability.chain
        (arrives [] (Auth.validateHeader (bound around request).correlationId)) [auth],
      served.Carries (bound around request).correlationId.toList := by
  intro fresh auth around request
  have chained := go_chain_carries_iff around (by decide) (fun _ => ⟨[.writeHeader ⟨200, by decide⟩], .returned⟩)
    request rfl [] (by simp) [auth]
  refine chained.2.2.mpr ⟨.inl (by simp), ?_⟩
  simp [auth, Observability.Service.Responds, Message.isStart]

end AutoSre.GoServer
