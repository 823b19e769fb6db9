import AutoSre.GoServer.Middleware
import Mathlib.Data.Int.Notation

/-! # What a client sees of a panic

`Recover` stands inside of `Timeout`, so what it writes goes into the buffer after whatever
the handler wrote before it panicked.  The buffer keeps the first status and all bytes:
the 500 and its body reach the client exactly when the handler had fixed no other status
and written nothing.
-/

namespace AutoSre.GoServer

open AutoSre.Lib.NetHttp ResponseWriter

/-! ## Handlers that panic -/

/-- A call that a handler makes on its writer before it panics. -/
inductive HandlerCall where
  | writeHeader (code : ℤ)
  | write (bytes : String)
deriving DecidableEq

/-- The calls that take effect: `WriteHeader` panics itself for a code that it does not
    take. -/
def callsMade : List HandlerCall → List (WriterCall HeaderCode)
  | [] => []
  | .write bytes :: calls => .write bytes :: callsMade calls
  | .writeHeader code :: calls =>
    if valid : 100 ≤ code ∧ code ≤ 999 then .writeHeader ⟨code.toNat, by omega⟩ :: callsMade calls
    else []

/-- The value of the first panic; `value` is that of the handler's own. -/
def panicValue (value : String) : List HandlerCall → String
  | [] => value
  | .write _ :: calls => panicValue value calls
  | .writeHeader code :: calls =>
    if 100 ≤ code ∧ code ≤ 999 then panicValue value calls else "invalid WriteHeader code " ++ toString code

def panicking (calls : List HandlerCall) (value : String) : HandlerBehaviour HeaderCode where
  calls := callsMade calls
  ending := .panicked (panicValue value calls)

/-! ## Through the chain -/

variable {κ : Type} [StatusCodes κ]

theorem StatusRecorder.writer_copyHeader {σ : Type} [ResponseWriter κ σ] (rec : StatusRecorder κ σ)
    (fields : Header) : (copyHeader rec fields).writer = copyHeader rec.writer fields := by
  induction fields with
  | nil => rfl
  | cons field fields ih => exact congrArg (setHeader · field.1 field.2) ih

theorem StatusRecorder.send {rec : StatusRecorder κ (Response κ)} (unsent : rec.writer.status = none)
    (empty : rec.writer.body = "") (fields : Header) (code : κ) (bytes : String) :
    let conn := (write (writeHeader (copyHeader rec fields) code) bytes).writer
    conn.clientStatus = (if StatusCodes.informational code then StatusCodes.ok else code) ∧ conn.body = bytes := by
  obtain ⟨sameStatus, sameBody⟩ := Response.copyHeader_status rec.writer fields
  rw [← rec.writer_copyHeader] at sameStatus sameBody
  obtain ⟨status, body⟩ := Response.write_writeHeader (sameStatus.trans unsent) code bytes
  rw [sameBody, empty, String.empty_append] at body
  exact ⟨status, body⟩

def recoverCalls : List (WriterCall κ) :=
  [.setHeader "Content-Type" "application/json", .writeHeader StatusCodes.internalServerError,
    .write internalServerErrorBody]

theorem recoverPanic_panicked (calls : List (WriterCall κ)) (value : String) (r : Request) :
    let served := (recoverPanic (behave fun _ => ⟨calls, .panicked value⟩)).serveHTTP
      ({ left := none } : TimeoutWriter κ) r
    served.ending = .returned ∧
      served.writer.code = some ((calls.findSome? WriterCall.status).getD StatusCodes.internalServerError) ∧
      served.writer.buffer = String.join (calls.map WriterCall.bytes) ++ internalServerErrorBody := by
  intro served
  have after : served.writer = (calls ++ recoverCalls).foldl WriterCall.apply { left := none } := by
    rw [List.foldl_append]
    rfl
  obtain ⟨code, buffer⟩ := TimeoutWriter.foldl_apply (w := ({ left := none } : TimeoutWriter κ)) rfl
    (calls ++ recoverCalls)
  refine ⟨rfl, ?_, ?_⟩
  · rw [after, code, List.findSome?_append]
    cases calls.findSome? WriterCall.status <;> rfl
  · rw [after, buffer, List.map_append, String.join_append]
    simp [recoverCalls, WriterCall.bytes]

theorem logger_writer {σ : Type} [ResponseWriter κ σ] (durationMs : ℕ) (next : HTTPHandler κ) (w : σ)
    (r : Request) :
    ((logger durationMs next).serveHTTP w r).writer =
      (next.serveHTTP ({ writer := w } : StatusRecorder κ σ) r).writer.writer := by
  simp only [logger]
  split <;> rfl

theorem newRouter_panicked (around : Circumstances) (calls : List (WriterCall κ)) (value : String)
    (request : Request) :
    let conn := ((newRouter { around with deadline := none }
      (behave fun _ => ⟨calls, .panicked value⟩)).serveHTTP ({} : Response κ) request).writer
    let code := (calls.findSome? WriterCall.status).getD StatusCodes.internalServerError
    conn.clientStatus = (if StatusCodes.informational code then StatusCodes.ok else code) ∧
      conn.body = String.join (calls.map WriterCall.bytes) ++ internalServerErrorBody := by
  intro conn code
  obtain ⟨w, r, unsent, empty, below⟩ : ∃ (w : Response κ) (r : Request), w.status = none ∧ w.body = "" ∧
      conn = ((logger around.durationMs (timeout none
        (recoverPanic (behave fun _ => ⟨calls, .panicked value⟩)))).serveHTTP w r).writer :=
    ⟨_, _, rfl, rfl, rfl⟩
  obtain ⟨returned, buffered, written⟩ := recoverPanic_panicked calls value r
  rw [below, logger_writer, timeout, timeoutHandler_unlimited rfl returned buffered written]
  exact StatusRecorder.send unsent empty _ code _

/-! ## The 500 -/

/-- Before it panicked the handler fixed no status but 500, and wrote nothing. -/
structure LeavesNoTrace (calls : List HandlerCall) : Prop where
  status : ∀ code ∈ (callsMade calls).findSome? WriterCall.status, code.code = 500
  bytes : ∀ call ∈ callsMade calls, call.bytes = ""

theorem join_eq_empty_iff (texts : List String) : String.join texts = "" ↔ ∀ text ∈ texts, text = "" := by
  induction texts with
  | nil => simp
  | cons text texts ih => rw [String.join_cons, String.append_eq_empty_iff, ih, List.forall_mem_cons]

theorem append_eq_right_iff (text rest : String) : text ++ rest = rest ↔ text = "" := by
  rw [← String.toList_inj, String.toList_append, List.append_left_eq_self, String.toList_eq_nil_iff]

/-- A handler that panics before the deadline is answered with the 500 and its body, and
    nothing else, exactly when it left no trace in the buffer. -/
theorem panic_becomes_500_iff (around : Circumstances) (calls : List HandlerCall) (value : String)
    (request : Request) :
    let conn := ((newRouter { around with deadline := none }
      (behave fun _ => panicking calls value)).serveHTTP ({} : Response HeaderCode) request).writer
    (conn.clientStatus.code = 500 ∧ conn.body = internalServerErrorBody) ↔ LeavesNoTrace calls := by
  intro conn
  obtain ⟨status, body⟩ := newRouter_panicked around (callsMade calls) (panicValue value calls) request
  have written : conn.body = internalServerErrorBody ↔ ∀ call ∈ callsMade calls, call.bytes = "" := by
    rw [show conn.body = _ from body, append_eq_right_iff, join_eq_empty_iff, List.forall_mem_map]
  have sent : conn.clientStatus.code = 500 ↔
      ∀ code ∈ (callsMade calls).findSome? WriterCall.status, code.code = 500 := by
    rw [show conn.clientStatus = _ from status]
    cases (callsMade calls).findSome? WriterCall.status with
    | none => simp [StatusCodes.internalServerError, StatusCodes.informational]
    | some code =>
      simp only [Option.getD_some, Option.mem_some_iff, forall_eq']
      split
      next informational =>
        have below : code.code < 200 := (of_decide_eq_true informational).1
        exact iff_of_false (by decide) (by omega)
      next final => rfl
  rw [sent, written]
  exact ⟨fun ⟨status, bytes⟩ => ⟨status, bytes⟩, fun trace => ⟨trace.status, trace.bytes⟩⟩

/-- A handler that wrote before it panicked: the client gets a 200 with both bodies. -/
theorem panic_becomes_500_after_write :
    let conn := ((newRouter ⟨"r", "c", none, 3⟩
      (behave fun _ => panicking [.write "partial"] "boom")).serveHTTP ({} : Response HeaderCode)
        ⟨"GET", "/orders", [], "", ""⟩).writer
    conn.clientStatus.code = 200 ∧ conn.body = "partial" ++ internalServerErrorBody ∧
      ¬ (conn.clientStatus.code = 500 ∧ conn.body = internalServerErrorBody) := by
  decide

end AutoSre.GoServer
