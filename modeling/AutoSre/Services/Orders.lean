import Mathlib.Algebra.Order.Group.Multiset
import Mathlib.Tactic.Abel
import AutoSre.Lib.Trace
import AutoSre.Services.Auth

/-! # Orders across two services

`create_order` of `api/main.py` and the auth service it calls through its breaker.  Any
number of orders are in flight: an order waits for auth to receive it, for the identity
provider, and for auth's response to come back, and other orders move in between.

The identity provider answers and auth is otherwise healthy, so only what clients send
decides how orders end.  A token longer than auth's model allows is refused with 422,
which `post_json` raises and the breaker counts as a failure of auth.
-/

namespace AutoSre.Services

open AutoSre.Lib AutoSre.Lib.Python AutoSre.Resilience

/-! ## `create_order` -/

structure OrderRequest where
  item : Str
  quantity : ℤ
  item_length : 1 ≤ item.length ∧ item.length ≤ 100
  quantity_bounds : 0 < quantity ∧ quantity ≤ 1000
deriving DecidableEq

inductive OrderReply where
  | created (orderId item : Str) (quantity : ℤ)
  | invalidToken
  | authUnavailable
  | circuitOpen (name : Str)
deriving DecidableEq

def OrderReply.status : OrderReply → ℕ
  | .created _ _ _ => 200
  | .invalidToken => 401
  | .authUnavailable => 502
  | .circuitOpen _ => 503

def authBreaker : BreakerConfig where
  name := "auth".toList
  failureThreshold := 5
  recoveryTimeout := 30
  successThreshold := 2

/-- The token of an `Authorization` header: without its scheme and blanks, and the demo
    token where nothing is left. -/
def orderToken (authorization : Option Str) : Str :=
  -- a missing header and an empty one are the same here
  let token := strip (removePrefix "Bearer ".toList (authorization.getD []))
  if token = [] then "demo-token".toList else token

/-- `post_json` on the response: `none` stands for the `HTTPStatusError` of
    `raise_for_status`. -/
def postJson (response : AuthResponse) : Option Validation :=
  if 400 ≤ response.status then none else response.json

/-- `create_order` from the end of the breaker's call on. -/
def orderReply (request : OrderRequest) (suffix : Str) : Option Validation → OrderReply
  | none => .authUnavailable
  | some result =>
    if result.valid then .created ("order_".toList ++ suffix) request.item request.quantity
    else .invalidToken

theorem orderToken_ne_nil (authorization : Option Str) : orderToken authorization ≠ [] := by
  simp only [orderToken]
  split
  · decide
  · assumption

theorem orderToken_bearer {token : Str} (nonempty : token ≠ []) (solid : ∀ c ∈ token, isSpace c = false) :
    orderToken (some ("Bearer ".toList ++ token)) = token := by
  simp only [orderToken, Option.getD_some, removePrefix_append, strip_of_solid solid, nonempty, if_false]

/-! ## The two services -/

structure Order where
  request : OrderRequest
  token : Str
deriving DecidableEq

/-- Both services and the orders between them, by what each is waiting for. -/
structure Orders where
  breaker : CircuitBreaker InMemoryStore := .fresh
  auth : Auth := {}
  requested : List Order := []
  validating : List (Order × TokenRequest) := []
  responded : List (Order × AuthResponse) := []
  answered : List (Order × OrderReply) := []

/-- `post` is a request to the api, `receive` and `respond` are the two halves of auth's
    handler, and `answer` is the rest of `create_order`, which draws the suffix of an
    order id. -/
inductive Event where
  | post (request : OrderRequest) (authorization : Option Str) (now : ℚ)
  | receive (order : Order) (now : ℚ)
  | respond (order : Order) (request : TokenRequest) (now : ℚ)
  | answer (order : Order) (response : AuthResponse) (suffix : Str) (now : ℚ)

namespace Orders

/-- `create_order` up to its first `await`: a rejected order is answered at once. -/
def post (s : Orders) (order : Order) (now : ℚ) : Orders :=
  match s.breaker.enter authBreaker now with
  | (true, breaker) => { s with breaker, requested := order :: s.requested }
  | (false, breaker) =>
    { s with breaker, answered := (order, .circuitOpen authBreaker.name) :: s.answered }

def receive (s : Orders) (order : Order) (now : ℚ) : Orders :=
  let (outcome, auth) := s.auth.receive now order.token
  let s := { s with auth, requested := s.requested.erase order }
  match outcome with
  | .inl response => { s with responded := (order, response) :: s.responded }
  | .inr request => { s with validating := (order, request) :: s.validating }

def respond (s : Orders) (order : Order) (request : TokenRequest) (now : ℚ) : Orders :=
  let (response, auth) := s.auth.respond now request
  { s with
    auth
    validating := s.validating.erase (order, request)
    responded := (order, response) :: s.responded }

def answer (s : Orders) (order : Order) (response : AuthResponse) (suffix : Str) (now : ℚ) :
    Orders :=
  let result := postJson response
  -- the exception of `post_json` is one of `expected_exceptions`
  let ending := if result.isSome then .returned else .raised true
  { s with
    breaker := s.breaker.leave authBreaker now ending
    responded := s.responded.erase (order, response)
    answered := (order, orderReply order.request suffix result) :: s.answered }

def step (s : Orders) : Event → Option Orders
  | .post request authorization now => some (s.post ⟨request, orderToken authorization⟩ now)
  | .receive order now => if order ∈ s.requested then some (s.receive order now) else none
  | .respond order request now =>
    if (order, request) ∈ s.validating then some (s.respond order request now) else none
  | .answer order response suffix now =>
    if (order, response) ∈ s.responded then some (s.answer order response suffix now) else none

/-- The steps as cases. -/
inductive Moves (s : Orders) : Event → Orders → Prop where
  | post (request : OrderRequest) (authorization : Option Str) (now : ℚ) :
      Moves s (.post request authorization now) (s.post ⟨request, orderToken authorization⟩ now)
  | receive (order : Order) (now : ℚ) : order ∈ s.requested →
      Moves s (.receive order now) (s.receive order now)
  | respond (order : Order) (request : TokenRequest) (now : ℚ) : (order, request) ∈ s.validating →
      Moves s (.respond order request now) (s.respond order request now)
  | answer (order : Order) (response : AuthResponse) (suffix : Str) (now : ℚ) :
      (order, response) ∈ s.responded →
      Moves s (.answer order response suffix now) (s.answer order response suffix now)

theorem step_moves {s after : Orders} {event : Event} (taken : s.step event = some after) :
    s.Moves event after := by
  cases event with
  | post request authorization now =>
    cases taken
    exact .post request authorization now
  | receive order now =>
    obtain ⟨member, taken⟩ := Option.ite_none_right_eq_some.mp taken
    cases taken
    exact .receive order now member
  | respond order request now =>
    obtain ⟨member, taken⟩ := Option.ite_none_right_eq_some.mp taken
    cases taken
    exact .respond order request now member
  | answer order response suffix now =>
    obtain ⟨member, taken⟩ := Option.ite_none_right_eq_some.mp taken
    cases taken
    exact .answer order response suffix now member

end Orders

abbrev OrderHistory := List (Transition Orders Event)

/-! ## No order is lost or answered twice -/

def Event.posted : Event → Option Order
  | .post request authorization _ => some ⟨request, orderToken authorization⟩
  | .receive _ _ | .respond _ _ _ | .answer _ _ _ _ => none

def posted (history : OrderHistory) : List Order := history.filterMap fun made => made.label.posted

theorem token_ne_nil_of_posted {history : OrderHistory} {order : Order}
    (member : order ∈ posted history) : order.token ≠ [] := by
  obtain ⟨made, -, posts⟩ := List.mem_filterMap.mp member
  cases event : made.label with
  | post request authorization now =>
    rw [event] at posts
    cases posts
    exact orderToken_ne_nil authorization
  | receive _ _ | respond _ _ _ | answer _ _ _ _ =>
    rw [event] at posts
    cases posts

def Orders.all (s : Orders) : Multiset Order :=
  s.requested + s.validating.map Prod.fst + s.responded.map Prod.fst + s.answered.map Prod.fst

theorem map_erase_add {α β : Type} [BEq α] [LawfulBEq α] (image : α → β) {taken : α} {items : List α}
    (member : taken ∈ items) :
    ({image taken} + ((items.erase taken).map image : List β) : Multiset β) = (items.map image : List β) :=
  (Multiset.coe_eq_coe.mpr ((List.perm_cons_erase member).map image)).symm

theorem all_step {s after : Orders} {event : Event} (taken : s.step event = some after) :
    after.all = event.posted.toList + s.all := by
  cases Orders.step_moves taken with
  | post request authorization now =>
    simp only [Orders.post]
    split <;>
      simp only [Orders.all, Event.posted, Option.toList_some, List.map_cons, ← Multiset.cons_coe,
        ← Multiset.singleton_add, Multiset.coe_nil] <;> abel
  | receive order now member =>
    have moved := map_erase_add id member
    simp only [List.map_id, id] at moved
    simp only [Orders.receive, Event.posted, Option.toList_none, Multiset.coe_nil, zero_add]
    split <;> simp only [Orders.all, ← moved, List.map_cons, ← Multiset.cons_coe,
      ← Multiset.singleton_add] <;> abel
  | respond order request now member =>
    simp only [Orders.respond, Event.posted, Option.toList_none, Multiset.coe_nil, Orders.all,
      ← map_erase_add Prod.fst member, List.map_cons, ← Multiset.cons_coe, ← Multiset.singleton_add]
    abel
  | answer order response suffix now member =>
    simp only [Orders.answer, Event.posted, Option.toList_none, Multiset.coe_nil, Orders.all,
      ← map_erase_add Prod.fst member, List.map_cons, ← Multiset.cons_coe, ← Multiset.singleton_add]
    abel

theorem all_eq_posted {history : OrderHistory} {s : Orders} (run : Trace Orders.step {} history s) :
    s.all = posted history := by
  induction run with
  | nil => rfl
  | @snoc past before event after earlier taken ih =>
    rw [all_step taken, ih]
    cases event <;> rfl

end AutoSre.Services
