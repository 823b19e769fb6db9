import AutoSre.Lib.NetHttp

/-! # The middleware of the Go services

The chain that `router.New` puts around the routes of a service.  What a middleware takes
from the outside, an ID that `newID` would generate, a duration or the moment of the
deadline, is a parameter of it.
-/

namespace AutoSre.GoServer

open AutoSre.Lib.NetHttp ResponseWriter

/-- A request with the IDs in its context; an ID that is not bound is empty. -/
structure Request where
  method : String
  path : String
  header : Header := []
  requestId : String := ""
  correlationId : String := ""

inductive LogLine (κ : Type) where
  | request (method path : String) (status : κ) (durationMs : ℕ) (requestId correlationId : String)
  | panicRecovered (err path requestId : String)
deriving DecidableEq

variable {κ : Type}

def LogLine.requestStatus : LogLine κ → Option κ
  | .request _ _ status _ _ _ => some status
  | .panicRecovered _ _ _ => none

abbrev HTTPHandler (κ : Type) := Handler κ Request (LogLine κ)

abbrev Middleware (κ : Type) := HTTPHandler κ → HTTPHandler κ

/-- The first listed runs outermost. -/
def chain (h : HTTPHandler κ) (mws : List (Middleware κ)) : HTTPHandler κ := mws.foldr (fun mw h => mw h) h

/-! ## IDs -/

def requestID (newID : String) : Middleware κ := fun next =>
  { serveHTTP := fun w r =>
      let id := if r.header.get "X-Request-ID" = "" then newID else r.header.get "X-Request-ID"
      next.serveHTTP (setHeader w "X-Request-ID" id) { r with requestId := id }
    usesWriter := fun kept _ holds _ => next.usesWriter kept (kept.setHeader holds _ _) _ }

def correlationID (newID : String) : Middleware κ := fun next =>
  { serveHTTP := fun w r =>
      let id := r.header.get "X-Correlation-ID"
      let id := if id = "" then r.requestId else id
      let id := if id = "" then newID else id
      next.serveHTTP (setHeader w "X-Correlation-ID" id) { r with correlationId := id }
    usesWriter := fun kept _ holds _ => next.usesWriter kept (kept.setHeader holds _ _) _ }

/-! ## Logging -/

variable [StatusCodes κ]

structure StatusRecorder (κ σ : Type) [StatusCodes κ] where
  writer : σ
  status : κ := StatusCodes.ok
  written : Bool := false

namespace StatusRecorder

variable {σ : Type} [ResponseWriter κ σ]

def note (rec : StatusRecorder κ σ) (code : κ) : StatusRecorder κ σ :=
  if rec.written then rec else { rec with status := code, written := true }

instance : ResponseWriter κ (StatusRecorder κ σ) where
  setHeader rec name value := { rec with writer := setHeader rec.writer name value }
  writeHeader rec code := { rec.note code with writer := writeHeader rec.writer code }
  write rec bytes := { rec.note StatusCodes.ok with writer := write rec.writer bytes }

theorem kept {P : σ → Prop} (kept : Kept P) : Kept fun rec : StatusRecorder κ σ => P rec.writer where
  setHeader := fun holds name value => kept.setHeader holds name value
  writeHeader := fun holds code => kept.writeHeader holds code
  write := fun holds bytes => kept.write holds bytes

end StatusRecorder

/-- A panic goes through before there is a line. -/
def logger (durationMs : ℕ) : Middleware κ := fun next =>
  { serveHTTP := fun w r =>
      let served := next.serveHTTP ({ writer := w } : StatusRecorder κ _) r
      match served.ending with
      | .panicked value => ⟨served.writer.writer, .panicked value, served.log⟩
      | .returned =>
        let line := .request r.method r.path served.writer.status durationMs r.requestId r.correlationId
        ⟨served.writer.writer, .returned, served.log ++ [line]⟩
    usesWriter := by
      intro σ _ P kept w holds r
      have below := next.usesWriter (StatusRecorder.kept kept) (w := { writer := w }) holds r
      simp only
      split <;> exact below }

/-! ## Panics and timeouts -/

def internalServerErrorBody : String := "\x7b\"error\":\"internal server error\"\x7d"

/-- `Recover`: a panic ends here, with a line of its own and whatever the writer makes of a
    500. -/
def recoverPanic : Middleware κ := fun next =>
  { serveHTTP := fun w r =>
      let served := next.serveHTTP w r
      match served.ending with
      | .returned => served
      | .panicked value =>
        let w := setHeader served.writer "Content-Type" "application/json"
        let w := writeHeader w StatusCodes.internalServerError
        let w := write w internalServerErrorBody
        ⟨w, .returned, served.log ++ [.panicRecovered value r.path r.requestId]⟩
    usesWriter := by
      intro σ _ P kept w holds r
      have below := next.usesWriter kept holds r
      simp only
      split
      · exact below
      · exact kept.write (kept.writeHeader (kept.setHeader below _ _) _) _ }

def timeout (deadline : Option ℕ) : Middleware κ :=
  timeoutHandler deadline "\x7b\"error\":\"request timeout\"\x7d"

/-! ## The router -/

/-- What happens around a request: the IDs that would be generated, the calls that its
    handler makes before the deadline passes, if it does, and the time it takes. -/
structure Circumstances where
  newRequestId : String
  newCorrelationId : String
  deadline : Option ℕ
  durationMs : ℕ

/-- `router.New`; `mux` serves the routes. -/
def newRouter (around : Circumstances) (mux : HTTPHandler κ) : HTTPHandler κ :=
  chain mux
    [requestID around.newRequestId, correlationID around.newCorrelationId, logger around.durationMs,
      timeout around.deadline, recoverPanic]

end AutoSre.GoServer
