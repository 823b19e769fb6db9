import AutoSre.GoServer.Middleware

/-! # The request log

Three writers hold a status for one response: the buffer of the timeout, the recorder of
the logger and the connection.  The recorder and the connection see the same calls in the
same order and both go by the first, so they agree however they are used.  What remains
is that the logger gets to write its line, and writes it once: below it, `Recover` lets
no panic through and a timeout does not either.
-/

namespace AutoSre.GoServer

open AutoSre.Lib.NetHttp ResponseWriter

/-! ## Recorder and connection -/

/-- The recorder has the status of the connection, and 200 as long as there is none. -/
structure Agrees (rec : StatusRecorder StatusCode Conn) : Prop where
  sent : rec.writer.status = if rec.written then some rec.status else none
  unset : rec.written = false → rec.status = .ok

theorem Agrees.clientStatus {rec : StatusRecorder StatusCode Conn} (agrees : Agrees rec) :
    rec.writer.clientStatus = rec.status := by
  rw [Response.clientStatus, agrees.sent]
  cases written : rec.written with
  | true => rfl
  | false => exact (agrees.unset written).symm

theorem Agrees.note {rec : StatusRecorder StatusCode Conn} (agrees : Agrees rec) (code : StatusCode) {conn : Conn}
    (sent : conn.status = some (rec.writer.status.getD code)) :
    Agrees { rec.note code with writer := conn } := by
  have status := agrees.sent
  cases written : rec.written with
  | true =>
    rw [written, if_pos rfl] at status
    refine ⟨?_, by simp [StatusRecorder.note, written]⟩
    simp [StatusRecorder.note, written, sent, status]
  | false =>
    rw [written, if_neg Bool.false_ne_true] at status
    refine ⟨?_, by simp [StatusRecorder.note, written]⟩
    simp [StatusRecorder.note, written, sent, status]

theorem writeHeader_status (conn : Conn) (code : StatusCode) :
    (conn.writeHeader code).status = some (conn.status.getD code) := by
  cases status : conn.status <;> simp [Response.writeHeader, StatusCodes.informational, status]

theorem agrees_kept : Kept Agrees where
  setHeader := fun agrees _ _ => ⟨agrees.sent, agrees.unset⟩
  writeHeader := fun agrees code => agrees.note code (writeHeader_status _ code)
  write := fun agrees _ => agrees.note .ok (writeHeader_status _ .ok)

/-! ## One line for each request -/

theorem recoverPanic_returns (next : HTTPHandler StatusCode) : (recoverPanic next).Returns := by
  intro σ _ w r
  simp only [recoverPanic]
  split
  next returned => exact returned
  next panicked => rfl

theorem recoverPanic_quiet {next : HTTPHandler StatusCode} (quiet : next.Quiet LogLine.requestStatus) :
    (recoverPanic next).Quiet LogLine.requestStatus := by
  intro σ _ w r
  simp only [recoverPanic]
  split
  next returned => exact quiet σ w r
  next panicked => simp [quiet σ w r, LogLine.requestStatus]

/-- The handler returns, and its one request line has the status that the client receives. -/
structure Truthful (served : Served Conn (LogLine StatusCode)) : Prop where
  returned : served.ending = .returned
  line : served.log.filterMap LogLine.requestStatus = [served.writer.clientStatus]

/-- The logger tells the truth about every handler that returns and logs no request
    itself, whatever it does with its writer. -/
theorem logger_truthful (durationMs : ℕ) {next : HTTPHandler StatusCode} (returns : next.Returns)
    (quiet : next.Quiet LogLine.requestStatus) {conn : Conn} (unsent : conn.status = none) (r : Request) :
    Truthful ((logger durationMs next).serveHTTP conn r) := by
  have start : Agrees { writer := conn } := ⟨unsent, fun _ => rfl⟩
  have agrees := next.usesWriter agrees_kept start r
  have returned := returns (StatusRecorder StatusCode Conn) { writer := conn } r
  have unlogged := quiet (StatusRecorder StatusCode Conn) { writer := conn } r
  refine ⟨?_, ?_⟩
  · simp only [logger, returned]
  · simp only [logger, returned, List.filterMap_append, unlogged, agrees.clientStatus]
    rfl

/-- Whatever a handler does, and whether it is done before the deadline or not: its request
    is logged in one line, with the status that the client receives. -/
theorem request_log_truthful (around : Circumstances) (behaviour : Request → Behaviour) (request : Request) :
    let served := (newRouter around (behave behaviour)).serveHTTP ({} : Conn) request
    served.ending = .returned ∧
      served.log.filterMap LogLine.requestStatus = [served.writer.clientStatus] := by
  intro served
  have returns : (timeout around.deadline (recoverPanic (behave behaviour))).Returns :=
    timeoutHandler_returns around.deadline _ (recoverPanic_returns (behave behaviour))
  have quiet : (timeout around.deadline (recoverPanic (behave behaviour))).Quiet LogLine.requestStatus :=
    timeoutHandler_quiet around.deadline _ (recoverPanic_quiet (behave_quiet LogLine.requestStatus behaviour))
  have truthful : Truthful served := logger_truthful around.durationMs returns quiet rfl _
  exact ⟨truthful.returned, truthful.line⟩

-- a handler that panics after it has written: the panic has its own line, and the first
-- status stands for the client and for the log
example :
    let mux : HTTPHandler StatusCode := behave fun _ => ⟨[.write "partial"], .panicked "boom"⟩
    let served := (newRouter ⟨"r", "c", none, 3⟩ mux).serveHTTP ({} : Conn) ⟨"GET", "/orders", [], "", ""⟩
    served.log = [.panicRecovered "boom" "/orders" "r", .request "GET" "/orders" .ok 3 "r" "r"] ∧
      served.writer.clientStatus = .ok := by
  decide

end AutoSre.GoServer
