import AutoSre.GoServer.PanicRecovery

/-! # The header of a response

`RequestID` and `CorrelationID` set their fields on the connection before anything else
runs, and everything below them writes into a buffer with a header of its own.  The buffer
is copied over when the handler returns, so a field that a handler sets goes out even if
it is set after the status; past the deadline nothing of the buffer does.  The fields that
`net/http` itself adds as it sends, such as `Date`, are not part of the model.
-/

namespace AutoSre.GoServer

open AutoSre.Lib.NetHttp ResponseWriter

/-! ## The request as its handler sees it -/

def boundRequestId (around : Circumstances) (request : Request) : String :=
  if request.header.get "X-Request-ID" = "" then around.newRequestId else request.header.get "X-Request-ID"

def boundCorrelationId (around : Circumstances) (request : Request) : String :=
  let id := request.header.get "X-Correlation-ID"
  let id := if id = "" then boundRequestId around request else id
  if id = "" then around.newCorrelationId else id

def bound (around : Circumstances) (request : Request) : Request :=
  { request with
    requestId := boundRequestId around request
    correlationId := boundCorrelationId around request }

def boundHeader (around : Circumstances) (request : Request) : Header :=
  Header.set (Header.set [] "X-Request-ID" (boundRequestId around request)) "X-Correlation-ID"
    (boundCorrelationId around request)

/-- The calls that end up in the buffer: the handler's, and those of `Recover` after a panic. -/
def bufferedCalls (behaviour : HandlerBehaviour HeaderCode) : List (WriterCall HeaderCode) :=
  match behaviour.ending with
  | .returned => behaviour.calls
  | .panicked _ => behaviour.calls ++ recoverCalls

def panicLines (request : Request) (behaviour : HandlerBehaviour HeaderCode) : List (LogLine HeaderCode) :=
  match behaviour.ending with
  | .returned => []
  | .panicked value => [.panicRecovered value request.path request.requestId]

/-! ## Below the IDs -/

theorem recoverPanic_behave (behaviour : Request → HandlerBehaviour HeaderCode) (r : Request)
    {σ : Type} [ResponseWriter HeaderCode σ] (w : σ) :
    (recoverPanic (behave behaviour)).serveHTTP w r =
      ⟨(bufferedCalls (behaviour r)).foldl WriterCall.apply w, .returned, panicLines r (behaviour r)⟩ := by
  cases ended : (behaviour r).ending with
  | returned => simp [recoverPanic, behave, bufferedCalls, panicLines, ended]
  | panicked value =>
    simp [recoverPanic, behave, bufferedCalls, panicLines, ended, recoverCalls, List.foldl_append, WriterCall.apply]

theorem newRouter_eq (around : Circumstances) (mux : HTTPHandler HeaderCode) (request : Request) :
    (newRouter around mux).serveHTTP ({} : Response HeaderCode) request =
      (logger around.durationMs (timeout around.deadline (recoverPanic mux))).serveHTTP
        ({ header := boundHeader around request } : Response HeaderCode) (bound around request) := rfl

theorem get_boundHeader (around : Circumstances) (request : Request) (name : String) :
    (boundHeader around request).get name =
      if name = "X-Correlation-ID" then boundCorrelationId around request
      else if name = "X-Request-ID" then boundRequestId around request
      else "" := by
  simp only [boundHeader, Header.get, Header.lookup_set, List.lookup_nil]
  split
  · rfl
  · split <;> rfl

/-- What the logger's recorder holds after the timeout handler: the header that the
    connection sends is the one it had, with the buffer's fields over it in time. -/
theorem timeout_sentHeader (deadline : Option ℕ) (behaviour : Request → HandlerBehaviour HeaderCode) (r : Request)
    (header : Header) (name : String) :
    let served := (timeout deadline (recoverPanic (behave behaviour))).serveHTTP
      ({ writer := { header } } : StatusRecorder HeaderCode (Response HeaderCode)) r
    served.writer.writer.sentHeader.lookup name =
        (match deadline with
          | some _ => none
          | none => lastSet name (bufferedCalls (behaviour r))).or (header.lookup name) ∧
      served.ending = .returned ∧ served.log = panicLines r (behaviour r) := by
  intro served
  have final : StatusCodes.informational (StatusCodes.ok : HeaderCode) = false := by decide
  cases deadline with
  | some left =>
    have inside := recoverPanic_behave behaviour r ({ left := some left } : TimeoutWriter HeaderCode)
    have log : served.log = panicLines r (behaviour r) := by
      simp only [served, timeout, timeoutHandler, inside]
    -- past the deadline the 503 goes out on the connection itself, with the header it had
    have sent : (Response.write (Response.writeHeader ({ header } : Response HeaderCode)
        StatusCodes.serviceUnavailable) "\x7b\"error\":\"request timeout\"\x7d").sentHeader = header :=
      Response.sentHeader_write_writeHeader rfl final _ _
    refine ⟨?_, rfl, log⟩
    exact congrArg (List.lookup name) sent
  | none =>
    have inside := recoverPanic_behave behaviour r ({ left := none } : TimeoutWriter HeaderCode)
    simp only [served, timeout, timeoutHandler, inside]
    refine ⟨?_, trivial, trivial⟩
    generalize isBuffer : (bufferedCalls (behaviour r)).foldl WriterCall.apply
      ({ left := none } : TimeoutWriter HeaderCode) = buffer
    have fields : buffer.header.lookup name = (lastSet name (bufferedCalls (behaviour r))).or none := by
      rw [← isBuffer]
      exact TimeoutWriter.lookup_foldl_apply rfl _ name
    rw [Option.or_none] at fields
    let recorder : StatusRecorder HeaderCode (Response HeaderCode) := { writer := { header } }
    have below : (copyHeader recorder buffer.header).writer =
        copyHeader ({ header } : Response HeaderCode) buffer.header :=
      recorder.writer_copyHeader buffer.header
    -- copying the fields sends nothing yet, so all of them go out with the status
    have unsent : (copyHeader ({ header } : Response HeaderCode) buffer.header).status = none :=
      (Response.copyHeader_status _ _).1
    have sent := Response.sentHeader_write_writeHeader unsent final (buffer.code.getD StatusCodes.ok) buffer.buffer
    have same : (write (writeHeader (copyHeader recorder buffer.header) (buffer.code.getD StatusCodes.ok))
        buffer.buffer).writer.sentHeader =
          (copyHeader ({ header } : Response HeaderCode) buffer.header).header := by
      rw [← sent, ← below]
      rfl
    rw [same, Response.lookup_copyHeader, fields]

/-- The field that is sent: the handler's, if it was done in time, and else the one set
    before it ran. -/
theorem newRouter_sentHeader (around : Circumstances) (behaviour : Request → HandlerBehaviour HeaderCode)
    (request : Request) (name : String) :
    ((newRouter around (behave behaviour)).serveHTTP ({} : Response HeaderCode) request).writer.sentHeader.get name =
      (match around.deadline with
        | some _ => none
        | none => lastSet name (bufferedCalls (behaviour (bound around request)))).getD
          ((boundHeader around request).get name) := by
  obtain ⟨sent, _, _⟩ :=
    timeout_sentHeader around.deadline behaviour (bound around request) (boundHeader around request) name
  rw [Header.get, newRouter_eq, logger_writer, sent, Header.get]
  cases (match around.deadline with
    | some _ => none
    | none => lastSet name (bufferedCalls (behaviour (bound around request)))) <;> rfl

end AutoSre.GoServer
