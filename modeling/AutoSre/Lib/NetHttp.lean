import Mathlib.Data.List.Basic

/-! # Handlers and response writers

Go's `net/http` as far as a middleware meets it.  A handler is given a response writer of
any kind and can use it only through the interface; here that is a field of `Handler`, so
that what holds of a writer however it is used holds of it after any handler.

`Response` is the writer of the server, and `timeoutHandler` runs a handler against a
buffer that is sent when the handler returns.  Log lines are an output of a handler like
any other.

The codes that handlers use are a type of their own: `StatusCode` has those of final
responses, `HeaderCode` all that `WriteHeader` takes.
-/

namespace AutoSre.Lib.NetHttp

/-! ## Status codes -/

/-- The codes that a writer takes.  An informational one announces the response and is not
    its status. -/
class StatusCodes (κ : Type) where
  ok : κ
  internalServerError : κ
  serviceUnavailable : κ
  informational : κ → Bool

/-- The status of a final response. -/
structure StatusCode where
  code : ℕ
  isFinal : 200 ≤ code ∧ code ≤ 599
deriving DecidableEq

def StatusCode.ok : StatusCode := ⟨200, by decide⟩

def StatusCode.internalServerError : StatusCode := ⟨500, by decide⟩

def StatusCode.serviceUnavailable : StatusCode := ⟨503, by decide⟩

instance : StatusCodes StatusCode where
  ok := .ok
  internalServerError := .internalServerError
  serviceUnavailable := .serviceUnavailable
  informational _ := false

/-- A code that `WriteHeader` takes; for any other it panics. -/
structure HeaderCode where
  code : ℕ
  isValid : 100 ≤ code ∧ code ≤ 999
deriving DecidableEq

/-- 101 switches protocols and ends the response, the other codes below 200 do not. -/
instance : StatusCodes HeaderCode where
  ok := ⟨200, by decide⟩
  internalServerError := ⟨500, by decide⟩
  serviceUnavailable := ⟨503, by decide⟩
  informational code := code.code < 200 ∧ code.code ≠ 101

/-! ## Writers -/

/-- The fields of a header, each under one spelling of its name: names are not made
    canonical. -/
abbrev Header := List (String × String)

/-- `Header.Get`, which is empty for a field that is not there. -/
def Header.get (header : Header) (name : String) : String := (header.lookup name).getD ""

def Header.set (header : Header) (name value : String) : Header :=
  (name, value) :: header.filter fun field => field.1 ≠ name

theorem Header.lookup_set (header : Header) (name value other : String) :
    (header.set name value).lookup other = if other = name then some value else header.lookup other := by
  by_cases same : other = name
  · simp [Header.set, same]
  · have skipped : (other == name) = false := beq_false_of_ne same
    simp only [Header.set, List.lookup_cons, skipped, if_neg same]
    induction header with
    | nil => rfl
    | cons field header ih =>
      obtain ⟨key, old⟩ := field
      by_cases isOther : other = key
      · have kept : key ≠ name := fun isName => same (isOther.trans isName)
        simp [isOther, kept]
      · by_cases isName : key = name
        · simpa [isName, List.lookup_cons, skipped] using ih
        · simpa [isName, List.lookup_cons, beq_false_of_ne isOther] using ih

/-- `setHeader` is `Header().Set`. -/
class ResponseWriter (κ : outParam Type) (σ : Type) where
  setHeader : σ → String → String → σ
  writeHeader : σ → κ → σ
  write : σ → String → σ

open ResponseWriter

variable {κ ρ ℓ : Type}

/-- `P` holds of the writer however it is used. -/
structure Kept {σ : Type} [ResponseWriter κ σ] (P : σ → Prop) : Prop where
  setHeader : ∀ {w}, P w → ∀ name value, P (setHeader w name value)
  writeHeader : ∀ {w}, P w → ∀ code, P (writeHeader w code)
  write : ∀ {w}, P w → ∀ bytes, P (write w bytes)

def copyHeader {σ : Type} [ResponseWriter κ σ] (w : σ) (fields : Header) : σ :=
  fields.foldr (fun field w => setHeader w field.1 field.2) w

theorem Kept.copyHeader {σ : Type} [ResponseWriter κ σ] {P : σ → Prop} (kept : Kept P) {w : σ} (holds : P w)
    (fields : Header) : P (copyHeader w fields) := by
  induction fields with
  | nil => exact holds
  | cons field fields ih => exact kept.setHeader ih field.1 field.2

/-! ## Handlers -/

inductive Ending where
  | returned
  | panicked (value : String)
deriving DecidableEq

structure Served (σ ℓ : Type) where
  writer : σ
  ending : Ending
  log : List ℓ

structure Handler (κ ρ ℓ : Type) where
  serveHTTP : ∀ {σ : Type} [ResponseWriter κ σ], σ → ρ → Served σ ℓ
  usesWriter : ∀ {σ : Type} [ResponseWriter κ σ] {P : σ → Prop}, Kept P →
    ∀ {w : σ}, P w → ∀ request, P (serveHTTP w request).writer

def Handler.Returns (h : Handler κ ρ ℓ) : Prop :=
  ∀ (σ : Type) [ResponseWriter κ σ] (w : σ) (request : ρ), (h.serveHTTP w request).ending = .returned

/-- No line of the handler is of the kind. -/
def Handler.Quiet {τ : Type} (kind : ℓ → Option τ) (h : Handler κ ρ ℓ) : Prop :=
  ∀ (σ : Type) [ResponseWriter κ σ] (w : σ) (request : ρ), (h.serveHTTP w request).log.filterMap kind = []

/-- A call that a handler makes on its writer. -/
inductive WriterCall (κ : Type) where
  | setHeader (name value : String)
  | writeHeader (code : κ)
  | write (bytes : String)

def WriterCall.apply {σ : Type} [ResponseWriter κ σ] (w : σ) : WriterCall κ → σ
  | .setHeader name value => ResponseWriter.setHeader w name value
  | .writeHeader code => ResponseWriter.writeHeader w code
  | .write bytes => ResponseWriter.write w bytes

section

variable [StatusCodes κ]

/-- The status that the call gives to a response without one. -/
def WriterCall.status : WriterCall κ → Option κ
  | .setHeader _ _ => none
  | .writeHeader code => some code
  | .write _ => some StatusCodes.ok

def WriterCall.bytes : WriterCall κ → String
  | .setHeader _ _ | .writeHeader _ => ""
  | .write bytes => bytes

end

def WriterCall.sets (name : String) : WriterCall κ → Option String
  | .setHeader field value => if field = name then some value else none
  | .writeHeader _ | .write _ => none

def lastSet (name : String) : List (WriterCall κ) → Option String
  | [] => none
  | call :: calls => (lastSet name calls).or (call.sets name)

theorem Kept.apply {σ : Type} [ResponseWriter κ σ] {P : σ → Prop} (kept : Kept P) {w : σ} (holds : P w)
    (call : WriterCall κ) : P (call.apply w) := by
  cases call with
  | setHeader name value => exact kept.setHeader holds name value
  | writeHeader code => exact kept.writeHeader holds code
  | write bytes => exact kept.write holds bytes

/-- What a handler does with a request: its calls in turn, and then its end. -/
structure HandlerBehaviour (κ : Type) where
  calls : List (WriterCall κ)
  ending : Ending

abbrev Behaviour := HandlerBehaviour StatusCode

theorem Kept.calls {σ : Type} [ResponseWriter κ σ] {P : σ → Prop} (kept : Kept P) {w : σ} (holds : P w)
    (calls : List (WriterCall κ)) : P (calls.foldl WriterCall.apply w) := by
  induction calls generalizing w with
  | nil => exact holds
  | cons call calls ih => exact ih (kept.apply holds call)

def behave (behaviour : ρ → HandlerBehaviour κ) : Handler κ ρ ℓ where
  serveHTTP w request := ⟨(behaviour request).calls.foldl WriterCall.apply w, (behaviour request).ending, []⟩
  usesWriter kept _ holds request := kept.calls holds (behaviour request).calls

theorem behave_quiet {τ : Type} (kind : ℓ → Option τ) (behaviour : ρ → HandlerBehaviour κ) :
    (behave behaviour).Quiet kind :=
  fun _ _ _ _ => rfl

/-! ## The connection -/

/-- The response on the connection.  The first status is sent with the header as it is then;
    `header` is the one that handlers still change.  `body` is what was written, also where
    none of it is sent: in answer to `HEAD`, or with a 204 or a 304. -/
structure Response (κ : Type) where
  header : Header := []
  status : Option κ := none
  sentHeader : Header := []
  body : String := ""

abbrev Conn := Response StatusCode

namespace Response

variable [StatusCodes κ]

def writeHeader (conn : Response κ) (code : κ) : Response κ :=
  match conn.status with
  | some _ => conn
  | none =>
    if StatusCodes.informational code then conn
    else { conn with status := some code, sentHeader := conn.header }

def write (conn : Response κ) (bytes : String) : Response κ :=
  let conn := conn.writeHeader StatusCodes.ok
  { conn with body := conn.body ++ bytes }

instance : ResponseWriter κ (Response κ) where
  setHeader conn name value := { conn with header := conn.header.set name value }
  writeHeader := writeHeader
  write := write

/-- The status the client receives; a response that nobody wrote is sent with 200. -/
def clientStatus (conn : Response κ) : κ := conn.status.getD StatusCodes.ok

theorem copyHeader_status (conn : Response κ) (fields : Header) :
    (copyHeader conn fields).status = conn.status ∧ (copyHeader conn fields).body = conn.body := by
  induction fields with
  | nil => exact ⟨rfl, rfl⟩
  | cons field fields ih => exact ih

theorem lookup_copyHeader (conn : Response κ) (fields : Header) (name : String) :
    (copyHeader conn fields).header.lookup name = (fields.lookup name).or (conn.header.lookup name) := by
  induction fields with
  | nil => rfl
  | cons field fields ih =>
    obtain ⟨key, value⟩ := field
    have set : (copyHeader conn ((key, value) :: fields)).header = (copyHeader conn fields).header.set key value := rfl
    rw [set, Header.lookup_set, ih]
    by_cases isKey : name = key
    · simp [isKey]
    · simp [isKey, List.lookup_cons, beq_false_of_ne isKey]

theorem sentHeader_write_writeHeader {conn : Response κ} (unsent : conn.status = none)
    (final : StatusCodes.informational (StatusCodes.ok : κ) = false) (code : κ) (bytes : String) :
    (write (writeHeader conn code) bytes).sentHeader = conn.header := by
  cases informational : StatusCodes.informational code with
  | true => simp [write, writeHeader, unsent, informational, final]
  | false => simp [write, writeHeader, unsent, informational]

theorem write_writeHeader {conn : Response κ} (unsent : conn.status = none) (code : κ) (bytes : String) :
    (write (writeHeader conn code) bytes).clientStatus =
        (if StatusCodes.informational code then StatusCodes.ok else code) ∧
      (write (writeHeader conn code) bytes).body = conn.body ++ bytes := by
  cases informational : StatusCodes.informational code with
  | true =>
    cases final : StatusCodes.informational (StatusCodes.ok : κ) <;>
      simp [write, writeHeader, clientStatus, unsent, informational, final]
  | false => simp [write, writeHeader, clientStatus, unsent, informational]

end Response

/-! ## Timeouts -/

/-- The buffer of a `TimeoutHandler`.  `left` are the calls that come before the deadline, if
    the handler is not done by then. -/
structure TimeoutWriter (κ : Type) where
  left : Option ℕ
  header : Header := []
  code : Option κ := none
  buffer : String := ""

namespace TimeoutWriter

def within (w : TimeoutWriter κ) (call : TimeoutWriter κ → TimeoutWriter κ) : TimeoutWriter κ :=
  match w.left with
  | none => call w
  | some 0 => w
  | some (left + 1) => call { w with left := some left }

/-- The first code stands, also an informational one. -/
def writeHeader (w : TimeoutWriter κ) (code : κ) : TimeoutWriter κ :=
  { w with code := some (w.code.getD code) }

variable [StatusCodes κ]

def write (w : TimeoutWriter κ) (bytes : String) : TimeoutWriter κ :=
  let w := w.writeHeader StatusCodes.ok
  { w with buffer := w.buffer ++ bytes }

instance : ResponseWriter κ (TimeoutWriter κ) where
  setHeader w name value := w.within fun w => { w with header := w.header.set name value }
  writeHeader w code := w.within fun w => w.writeHeader code
  write w bytes := w.within fun w => w.write bytes

theorem apply_unlimited {w : TimeoutWriter κ} (unlimited : w.left = none) (call : WriterCall κ) :
    (call.apply w).left = none ∧ (call.apply w).code = w.code.or call.status ∧
      (call.apply w).buffer = w.buffer ++ call.bytes := by
  obtain ⟨left, header, code, buffer⟩ := w
  obtain rfl : left = none := unlimited
  cases call with
  | setHeader name value => simp [WriterCall.apply, setHeader, within, WriterCall.status, WriterCall.bytes]
  | writeHeader first =>
    cases code <;> simp [WriterCall.apply, ResponseWriter.writeHeader, within, TimeoutWriter.writeHeader,
      WriterCall.status, WriterCall.bytes]
  | write bytes =>
    cases code <;> simp [WriterCall.apply, ResponseWriter.write, within, TimeoutWriter.write,
      TimeoutWriter.writeHeader, WriterCall.status, WriterCall.bytes]

theorem foldl_apply {w : TimeoutWriter κ} (unlimited : w.left = none) (calls : List (WriterCall κ)) :
    (calls.foldl WriterCall.apply w).code = w.code.or (calls.findSome? WriterCall.status) ∧
      (calls.foldl WriterCall.apply w).buffer = w.buffer ++ String.join (calls.map WriterCall.bytes) := by
  induction calls generalizing w with
  | nil => simp
  | cons call calls ih =>
    obtain ⟨left, code, buffer⟩ := apply_unlimited unlimited call
    obtain ⟨laterCode, laterBuffer⟩ := ih left
    rw [List.foldl_cons, laterCode, laterBuffer, code, buffer, Option.or_assoc, List.findSome?_cons, List.map_cons,
      String.join_cons, String.append_assoc]
    cases call.status with
    | none => exact ⟨rfl, rfl⟩
    | some first => exact ⟨rfl, rfl⟩

theorem lookup_apply {w : TimeoutWriter κ} (unlimited : w.left = none) (call : WriterCall κ) (name : String) :
    (call.apply w).header.lookup name = (call.sets name).or (w.header.lookup name) := by
  obtain ⟨left, header, code, buffer⟩ := w
  obtain rfl : left = none := unlimited
  cases call with
  | setHeader field value =>
    have set : (WriterCall.apply (⟨none, header, code, buffer⟩ : TimeoutWriter κ) (.setHeader field value)).header =
        header.set field value := rfl
    rw [set, Header.lookup_set, WriterCall.sets]
    by_cases isField : name = field
    · simp [isField]
    · simp [isField, Ne.symm isField]
  | writeHeader first => rfl
  | write bytes => rfl

theorem lookup_foldl_apply {w : TimeoutWriter κ} (unlimited : w.left = none) (calls : List (WriterCall κ))
    (name : String) :
    (calls.foldl WriterCall.apply w).header.lookup name = (lastSet name calls).or (w.header.lookup name) := by
  induction calls generalizing w with
  | nil => simp [lastSet]
  | cons call calls ih =>
    rw [List.foldl_cons, ih (apply_unlimited unlimited call).1, lookup_apply unlimited, lastSet, Option.or_assoc]

end TimeoutWriter

section

variable [StatusCodes κ]

/-- `http.TimeoutHandler`.  Past the deadline it does not wait for the handler, which goes on
    by itself, and whose lines may then come later than their place in the log here. -/
def timeoutHandler (deadline : Option ℕ) (body : String) (inner : Handler κ ρ ℓ) : Handler κ ρ ℓ where
  serveHTTP w request :=
    let inside := inner.serveHTTP ({ left := deadline } : TimeoutWriter κ) request
    match deadline, inside.ending with
    | some _, _ => ⟨write (writeHeader w StatusCodes.serviceUnavailable) body, .returned, inside.log⟩
    | none, .panicked value => ⟨w, .panicked value, inside.log⟩
    | none, .returned =>
      let w := copyHeader w inside.writer.header
      ⟨write (writeHeader w (inside.writer.code.getD StatusCodes.ok)) inside.writer.buffer, .returned, inside.log⟩
  usesWriter kept w holds request := by
    simp only
    split
    · exact kept.write (kept.writeHeader holds _) _
    · exact holds
    · exact kept.write (kept.writeHeader (kept.copyHeader holds _) _) _

theorem timeoutHandler_returns (deadline : Option ℕ) (body : String) {inner : Handler κ ρ ℓ}
    (returns : inner.Returns) : (timeoutHandler deadline body inner).Returns := by
  intro σ _ w request
  have ended := returns (TimeoutWriter κ) { left := deadline } request
  cases deadline with
  | some left => rfl
  | none => simp only [timeoutHandler, ended]

theorem timeoutHandler_unlimited {σ : Type} [ResponseWriter κ σ] {inner : Handler κ ρ ℓ} {request : ρ}
    {code : κ} {buffer : String} {inside : Served (TimeoutWriter κ) ℓ}
    (served : inner.serveHTTP { left := none } request = inside) (returned : inside.ending = .returned)
    (coded : inside.writer.code = some code) (buffered : inside.writer.buffer = buffer) (body : String) (w : σ) :
    ((timeoutHandler none body inner).serveHTTP w request).writer =
      write (writeHeader (copyHeader w inside.writer.header) code) buffer := by
  simp only [timeoutHandler, served, returned, coded, buffered, Option.getD_some]

theorem timeoutHandler_quiet {τ : Type} {kind : ℓ → Option τ} (deadline : Option ℕ) (body : String)
    {inner : Handler κ ρ ℓ} (quiet : inner.Quiet kind) : (timeoutHandler deadline body inner).Quiet kind := by
  intro σ _ w request
  simp only [timeoutHandler]
  split <;> exact quiet (TimeoutWriter κ) _ _

end

end AutoSre.Lib.NetHttp
