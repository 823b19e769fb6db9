import AutoSre.Services.Orders

/-! # Two implementations of the order endpoint

`create_order` of `api/main.py` and `CreateOrder` of `internal/handlers/orders.go`
are meant to keep one status contract: 422 for an invalid body, 401 for an invalid
token, 502 when auth cannot be reached, 200 with the order echoed.  Both limit an item
to 1-100 characters, but Pydantic counts code points and Go's `len` counts the bytes
of the UTF-8 encoding.  `SameLimits` are the bodies on which the two agree: it also speaks
of the text that the values are read from, since `1e2` is an integer for Pydantic only and
Go reads a limited number of bytes.
-/

namespace AutoSre.Services

open AutoSre.Lib.Python AutoSre.Resilience

/-- A JSON body with exactly the fields `item` and `quantity`: their values, whether the
    quantity is written without a point and an exponent, and how many bytes of the body
    there are up to the closing brace and with it. -/
structure OrderBody where
  item : Str
  quantity : ℤ
  isLiteral : Bool
  size : ℕ

/-- What the call to auth comes to. -/
inductive TokenCheck where
  | valid
  | invalid
  | error
deriving DecidableEq

/-- What the contract is about: the status, and on success the order that is echoed. -/
structure OrderAnswer where
  status : ℕ
  echo : Option (Str × ℤ)
deriving DecidableEq

/-! ## Python -/

/-- `sys.int_info.default_max_str_digits` -/
def maxStrDigits : ℕ := 4300

def orderRequest (item : Str) (quantity : ℤ) : Option OrderRequest :=
  if itemLength : 1 ≤ item.length ∧ item.length ≤ 100 then
    if bounds : 0 < quantity ∧ quantity ≤ 1000 then some ⟨item, quantity, itemLength, bounds⟩ else none
  else none

/-- What the endpoint answers: `badBody` for a body whose text could not be converted,
    `unprocessable` for one that the model refuses. -/
inductive EndpointReply where
  | badBody
  | unprocessable
  | handled (reply : OrderReply)

def OrderReply.echo : OrderReply → Option (Str × ℤ)
  | .created _ item quantity => some (item, quantity)
  | .invalidToken | .authUnavailable | .circuitOpen _ => none

def EndpointReply.answer : EndpointReply → OrderAnswer
  | .badBody => ⟨400, none⟩
  | .unprocessable => ⟨422, none⟩
  | .handled reply => ⟨reply.status, reply.echo⟩

/-- The result of `auth_client.post_json`; `none` stands for the exception it raises. -/
def TokenCheck.postJson (token : Str) : TokenCheck → Option Validation
  | .valid => some ⟨true, token⟩
  | .invalid => some ⟨false, token⟩
  | .error => none

/-- `create_order` behind the body's model, given what auth answers for a token and the
    suffix of the id it would draw. -/
def createOrder (breaker : CircuitBreaker InMemoryStore) (now : ℚ) (body : OrderBody)
    (authorization : Option Str) (validate : Str → TokenCheck) (suffix : Str) : EndpointReply :=
  -- the JSON reader refuses integers with too many digits before any model sees them; what
  -- has a point or an exponent it reads as a float, which the model takes at its value
  if body.isLiteral ∧ 10 ^ maxStrDigits ≤ body.quantity.natAbs then .badBody
  else
    match orderRequest body.item body.quantity with
    | none => .unprocessable
    | some request =>
      let token := orderToken authorization
      if (breaker.enter authBreaker now).1 then
        .handled (orderReply request suffix ((validate token).postJson token))
      else .handled (.circuitOpen authBreaker.name)

/-! ## Go -/

namespace Go

/-- `len` of a string: the bytes of its UTF-8 encoding. -/
def len (text : Str) : ℕ := (text.map Char.utf8Size).sum

structure OrderRequest where
  item : Str
  quantity : ℤ

/-- `orderRequest.validate`: the error, if there is one. -/
def OrderRequest.validate (o : OrderRequest) : Option String :=
  if len o.item < 1 ∨ 100 < len o.item then some "item must be 1-100 characters"
  else if o.quantity < 1 ∨ 1000 < o.quantity then some "quantity must be between 1 and 1000"
  else none

/-- `io.LimitReader(r.Body, 1<<20)` -/
def bodyLimit : ℕ := 2 ^ 20

/-- `dec.Decode`, which stops at the closing brace: an object that goes on beyond the limit
    is cut short, and a quantity that is no integer literal of 64 bits does not fit the
    field. -/
def decode (body : OrderBody) : Option OrderRequest :=
  if bodyLimit < body.size then none
  else if body.isLiteral ∧ -2 ^ 63 ≤ body.quantity ∧ body.quantity < 2 ^ 63 then
    some ⟨body.item, body.quantity⟩
  else none

/-- `undecodable` is a 422 with the decoder's error, `abandoned` the return without a
    response when the client went away. -/
inductive Reply where
  | undecodable
  | unprocessable (detail : String)
  | badGateway (detail : String)
  | unauthorized (detail : String)
  | abandoned
  | ok (orderId item : Str) (quantity : ℤ)

def Reply.answer : Reply → Option OrderAnswer
  | .undecodable | .unprocessable _ => some ⟨422, none⟩
  | .badGateway _ => some ⟨502, none⟩
  | .unauthorized _ => some ⟨401, none⟩
  | .abandoned => none
  | .ok _ item quantity => some ⟨200, some (item, quantity)⟩

def isSpace (c : Char) : Bool :=
  let n := c.toNat
  (9 ≤ n && n ≤ 13) || n == 32 || n == 0x85 || n == 0xA0 || n == 0x1680 ||
    (0x2000 ≤ n && n ≤ 0x200A) || n == 0x2028 || n == 0x2029 || n == 0x202F || n == 0x205F ||
    n == 0x3000

def trimSpace (text : Str) : Str :=
  ((text.dropWhile isSpace).reverse.dropWhile isSpace).reverse

/-- The token of an `Authorization` header; `r.Header.Get` gives the empty string for
    one that is absent. -/
def orderToken (authorization : Option Str) : Str :=
  let token := trimSpace (removePrefix "Bearer ".toList (authorization.getD []))
  if token = [] then "demo-token".toList else token

/-- `CreateOrder`, given what `h.auth.Validate` answers for a token, whether the client
    is gone before the simulated work is done, and the id it would draw. -/
def createOrder (body : OrderBody) (authorization : Option Str) (validate : Str → TokenCheck)
    (gone : Bool) (shortId : Str) : Reply :=
  match decode body with
  | none => .undecodable
  | some request =>
    match request.validate with
    | some error => .unprocessable error
    | none =>
      match validate (orderToken authorization) with
      | .error => .badGateway "auth dependency unavailable"
      | .invalid => .unauthorized "invalid token"
      | .valid =>
        if gone then .abandoned
        else .ok ("order_".toList ++ shortId) request.item request.quantity

end Go

/-! ## Agreement -/

def WellFormed (body : OrderBody) : Prop :=
  (1 ≤ body.item.length ∧ body.item.length ≤ 100) ∧ 0 < body.quantity ∧ body.quantity ≤ 1000

def Readable (body : OrderBody) : Prop :=
  body.isLiteral = true → body.quantity.natAbs < 10 ^ maxStrDigits

section

variable {breaker : CircuitBreaker InMemoryStore} {now : ℚ} {body : OrderBody} {validate : Str → TokenCheck}
  {suffix shortId : Str}

theorem WellFormed.readable (wellFormed : WellFormed body) : Readable body := by
  intro _
  have bounded : body.quantity.natAbs ≤ 1000 := by
    obtain ⟨_, positive, atMost⟩ := wellFormed
    omega
  have large : 10 ^ 4 ≤ 10 ^ maxStrDigits := Nat.pow_le_pow_right (by decide) (by decide)
  omega

end

end AutoSre.Services
