import AutoSre.Services.Orders

/-! # What clients can do to the api's breaker

Auth is healthy in this development, so its breaker before the identity provider stays
closed and each of its responses is `Auth.answer` of the token.  The api's breaker then
stays closed, and orders are answered 200 or 401, exactly as long as no client sends a
token that is too long for auth's model.
-/

namespace AutoSre.Services

open AutoSre.Lib AutoSre.Lib.Python AutoSre.Resilience

/-! ## What auth answers -/

theorem postJson_answer_of_short {token : Str} (nonempty : token ≠ [])
    (short : token.length ≤ maxTokenLength) :
    postJson (Auth.answer token) = some ⟨decide (token ∉ invalidTokens), token⟩ := by
  have bounds : 1 ≤ token.length ∧ token.length ≤ maxTokenLength :=
    ⟨List.length_pos_iff.mpr nonempty, short⟩
  simp [postJson, Auth.answer, bounds, AuthResponse.status, AuthResponse.json]

theorem postJson_answer_of_long {token : Str} (long : maxTokenLength < token.length) :
    postJson (Auth.answer token) = none := by
  simp [postJson, Auth.answer, not_le.mpr long, AuthResponse.status]

theorem status_orderReply (request : OrderRequest) (suffix token : Str) :
    (orderReply request suffix (some ⟨decide (token ∉ invalidTokens), token⟩)).status =
      Auth.orderStatus token := by
  by_cases invalid : token ∈ invalidTokens <;>
    simp [orderReply, Auth.orderStatus, OrderReply.status, invalid]

/-! ## Every run -/

/-- What holds in every run: auth's own breaker is closed, its responses are those of a
    healthy auth, and an order with a token that is too long ends in a server error. -/
structure Sound (s : Orders) : Prop where
  identity_closed : s.auth.identity.state = .Closed
  validating : ∀ visit ∈ s.validating, visit.2.token = visit.1.token
  responded : ∀ visit ∈ s.responded, visit.2 = Auth.answer visit.1.token
  answered : ∀ visit ∈ s.answered, maxTokenLength < visit.1.token.length → 500 ≤ visit.2.status

theorem Sound.step {s after : Orders} {event : Event} (sound : Sound s)
    (taken : s.step event = some after) : Sound after := by
  obtain ⟨identity_closed, validating, responded, answered⟩ := sound
  cases Orders.step_moves taken with
  | post request authorization now =>
    simp only [Orders.post]
    split
    · exact ⟨identity_closed, validating, responded, answered⟩
    · exact ⟨identity_closed, validating, responded,
        List.forall_mem_cons.mpr ⟨fun _ => by simp [OrderReply.status], answered⟩⟩
  | receive order now member =>
    obtain ⟨same, outcome⟩ := Auth.receive_of_closed identity_closed now order.token
    simp only [Orders.receive, same]
    split
    next response refused =>
      rw [refused] at outcome
      exact ⟨identity_closed, validating, List.forall_mem_cons.mpr ⟨outcome, responded⟩, answered⟩
    next request accepted =>
      rw [accepted] at outcome
      exact ⟨identity_closed, List.forall_mem_cons.mpr ⟨outcome, validating⟩, responded, answered⟩
  | respond order request now member =>
    refine ⟨Auth.respond_of_closed identity_closed now request,
      fun visit kept => validating visit (List.mem_of_mem_erase kept),
      List.forall_mem_cons.mpr ⟨?_, responded⟩, answered⟩
    exact (Auth.respond_eq_answer s.auth now request).trans (congrArg Auth.answer (validating _ member))
  | answer order response suffix now member =>
    refine ⟨identity_closed, validating,
      fun visit kept => responded visit (List.mem_of_mem_erase kept),
      List.forall_mem_cons.mpr ⟨fun long => ?_, answered⟩⟩
    have answer_eq : response = Auth.answer order.token := responded _ member
    -- auth refused the token, so the api answers 502
    simp [answer_eq, postJson_answer_of_long long, orderReply, OrderReply.status]

theorem sound_run {history : OrderHistory} {s : Orders} (run : Trace Orders.step {} history s) :
    Sound s := by
  refine run.invariant (P := Sound) ?_ fun _ _ _ sound taken => sound.step taken
  exact ⟨rfl, by simp, by simp, by simp⟩

/-! ## The breaker -/

/-- The breaker is closed and the orders answered so far got the status they were meant
    to get. -/
structure Served (s : Orders) : Prop where
  closed : s.breaker.state = .Closed
  answered : ∀ visit ∈ s.answered, visit.2.status = Auth.orderStatus visit.1.token

theorem Served.step {s after : Orders} {event : Event} (served : Served s) (sound : Sound s)
    (short : ∀ order ∈ s.all, order.token ≠ [] ∧ order.token.length ≤ maxTokenLength)
    (taken : s.step event = some after) : Served after := by
  obtain ⟨closed, answered⟩ := served
  cases Orders.step_moves taken with
  | post request authorization now =>
    simp only [Orders.post, CircuitBreaker.enter_of_closed closed]
    exact ⟨closed, answered⟩
  | receive order now member =>
    simp only [Orders.receive]
    split <;> exact ⟨closed, answered⟩
  | respond order request now member =>
    exact ⟨closed, answered⟩
  | answer order response suffix now member =>
    -- the only step that reaches the breaker with an outcome
    have inSystem : order ∈ s.all := by
      have : order ∈ s.responded.map Prod.fst := List.mem_map_of_mem member
      simp only [Orders.all, Multiset.mem_add, Multiset.mem_coe]
      tauto
    obtain ⟨nonempty, fits⟩ := short order inSystem
    have answer_eq : response = Auth.answer order.token := sound.responded _ member
    have returned := postJson_answer_of_short nonempty fits
    constructor
    · simpa [Orders.answer, answer_eq, returned] using
        CircuitBreaker.closed_returned_of_closed closed authBreaker now
    · refine List.forall_mem_cons.mpr ⟨?_, answered⟩
      rw [answer_eq, returned]
      exact status_orderReply order.request suffix order.token

theorem served_run {history : OrderHistory} {s : Orders} (run : Trace Orders.step {} history s)
    (short : ∀ order ∈ posted history, order.token.length ≤ maxTokenLength) :
    Always (fun _ s => Served s) {} history ∧ Served s := by
  induction run with
  | nil => exact ⟨⟨rfl, by simp⟩, rfl, by simp⟩
  | @snoc past before event after earlier taken ih =>
    have earlierShort : ∀ order ∈ posted past, order.token.length ≤ maxTokenLength := by
      intro order member
      refine short order ?_
      obtain ⟨made, inPast, posts⟩ := List.mem_filterMap.mp member
      exact List.mem_filterMap.mpr ⟨made, List.mem_cons_of_mem _ inPast, posts⟩
    obtain ⟨throughout, served⟩ := ih earlierShort
    have now := served.step (sound_run earlier) (fun order member => by
      rw [all_eq_posted earlier, Multiset.mem_coe] at member
      exact ⟨token_ne_nil_of_posted member, earlierShort order member⟩) taken
    exact ⟨⟨now, throughout⟩, now⟩

/-! ## Every order is answered -/

structure Orders.Complete (s : Orders) : Prop where
  requested : s.requested = []
  validating : s.validating = []
  responded : s.responded = []

/-- The steps that the orders in flight still have before them, at most. -/
def Orders.remaining (s : Orders) : ℕ :=
  3 * s.requested.length + 2 * s.validating.length + s.responded.length

theorem exists_progress (s : Orders) :
    s.Complete ∨ ∃ event after, s.step event = some after ∧ event.posted = none ∧
      after.remaining < s.remaining := by
  cases requested : s.requested with
  | cons order orders =>
    refine .inr ⟨.receive order 0, s.receive order 0, by simp [Orders.step, requested], rfl, ?_⟩
    simp only [Orders.receive]
    split <;> simp [Orders.remaining, requested] <;> omega
  | nil =>
    cases validating : s.validating with
    | cons visit visits =>
      refine .inr ⟨.respond visit.1 visit.2 0, s.respond visit.1 visit.2 0,
        by simp [Orders.step, validating], rfl, ?_⟩
      simp [Orders.respond, Orders.remaining, validating]
      omega
    | nil =>
      cases responded : s.responded with
      | cons visit visits =>
        refine .inr ⟨.answer visit.1 visit.2 [] 0, s.answer visit.1 visit.2 [] 0,
          by simp [Orders.step, responded], rfl, ?_⟩
        simp [Orders.answer, Orders.remaining, responded]
      | nil => exact .inl ⟨requested, validating, responded⟩

-- by induction on `remaining`, which every step of an order in flight lowers
theorem exists_completion (s : Orders) :
    ∃ rest later, Trace Orders.step s rest later ∧ posted rest = [] ∧ later.Complete := by
  induction bound : s.remaining using Nat.strong_induction_on generalizing s with
  | _ n ih =>
    obtain complete | ⟨event, after, taken, quiet, less⟩ := exists_progress s
    · exact ⟨[], s, .nil, rfl, complete⟩
    · obtain ⟨rest, later, run, silent, complete⟩ := ih _ (bound ▸ less) after rfl
      refine ⟨rest ++ [⟨s, event, after⟩], later, run.prepend taken, ?_, complete⟩
      simpa [posted, quiet] using silent

/-- The orders of every run can be brought to their answers.  Once they are, each order
    posted has one answer; and the breaker was closed throughout and every answer was 401
    or 200 by its token exactly when no token was longer than auth's model allows, which
    is enough at every moment of every run. -/
theorem auth_breaker_undisturbed_iff (history : OrderHistory) (s : Orders)
    (run : Trace Orders.step {} history s) :
    (∃ rest later, Trace Orders.step s rest later ∧ posted rest = [] ∧ later.Complete) ∧
      ((∀ order ∈ posted history, order.token.length ≤ maxTokenLength) →
        Always (fun _ s => Served s) {} history) ∧
      (s.Complete →
        (s.answered.map Prod.fst).Perm (posted history) ∧
          (Always (fun _ s => Served s) {} history ↔
            ∀ order ∈ posted history, order.token.length ≤ maxTokenLength)) := by
  refine ⟨exists_completion s, fun short => (served_run run short).1, fun complete => ?_⟩
  have all : (s.answered.map Prod.fst).Perm (posted history) := by
    have all_eq := all_eq_posted run
    simp only [Orders.all, complete.requested, complete.validating, complete.responded, List.map_nil,
      Multiset.coe_nil, zero_add] at all_eq
    exact Multiset.coe_eq_coe.mp all_eq
  refine ⟨all, ?_, fun short => (served_run run short).1⟩
  intro throughout order member
  obtain ⟨visit, answered, rfl⟩ := List.mem_map.mp (all.mem_iff.mpr member)
  -- an order with a long token was answered with a server error, not with 200 or 401
  by_contra long
  have status := (throughout.last run).answered visit answered
  have failed := (sound_run run).answered visit answered (not_le.mp long)
  rw [status, Auth.orderStatus] at failed
  split at failed <;> omega

theorem auth_breaker_undisturbed_demo_token :
    ∃ (history : OrderHistory) (s : Orders), Trace Orders.step {} history s ∧ history.length = 4 ∧
      Always (fun _ s => Served s) {} history := by
  let order : Order := ⟨⟨"laptop".toList, 1, by decide, by decide⟩, "demo-token".toList⟩
  obtain ⟨history, s, run, taken, short⟩ := exists_trace_of_replay Orders.step {}
    [.post order.request none 0, .receive order 1, .respond order ⟨order.token, by decide⟩ 2,
      .answer order (.ok ⟨true, order.token⟩) "1a2b3c4d".toList 3]
    (fun history _ => history.length = 4 ∧
      ∀ order ∈ posted history, order.token.length ≤ maxTokenLength) (by decide +kernel)
  exact ⟨history, s, run, taken, (auth_breaker_undisturbed_iff history s run).2.1 short⟩

theorem long_order {history : OrderHistory} {s : Orders} (run : Trace Orders.step {} history s)
    (closed : s.breaker.state = .Closed) (request : OrderRequest) (authorization : Option Str)
    (long : maxTokenLength < (orderToken authorization).length) :
    ∃ longer, Trace Orders.step {} longer { s with
      breaker := s.breaker.leave authBreaker 0 (.raised true)
      answered := (⟨request, orderToken authorization⟩, .authUnavailable) :: s.answered } := by
  have refused : s.auth.receive 0 (orderToken authorization) = (.inl .unprocessable, s.auth) := by
    simp [Auth.receive, tokenRequest, not_le.mpr long]
  let order : Order := ⟨request, orderToken authorization⟩
  have post : s.step (.post request authorization 0) =
      some { s with requested := order :: s.requested } := by
    simp [Orders.step, Orders.post, CircuitBreaker.enter_of_closed closed, order]
  have receive : Orders.step { s with requested := order :: s.requested } (.receive order 0) =
      some { s with responded := (order, .unprocessable) :: s.responded } := by
    simp [Orders.step, Orders.receive, refused, order]
  have answer : Orders.step { s with responded := (order, .unprocessable) :: s.responded }
      (.answer order .unprocessable [] 0) = some { s with
        breaker := s.breaker.leave authBreaker 0 (.raised true)
        answered := (order, .authUnavailable) :: s.answered } := by
    simp [Orders.step, Orders.answer, postJson, AuthResponse.status, orderReply]
  exact ⟨_, ((run.snoc post).snoc receive).snoc answer⟩

theorem long_orders (request : OrderRequest) (authorization : Option Str)
    (long : maxTokenLength < (orderToken authorization).length) (n : ℕ)
    (fewer : n < authBreaker.failureThreshold) :
    ∃ history s, Trace Orders.step {} history s ∧ s.Complete ∧ Counting n s.breaker ∧
      s.answered = List.replicate n (⟨request, orderToken authorization⟩, .authUnavailable) := by
  induction n with
  | zero => exact ⟨[], {}, .nil, ⟨rfl, rfl, rfl⟩, ⟨rfl, rfl⟩, rfl⟩
  | succ n ih =>
    obtain ⟨history, s, run, ⟨requested, validating, responded⟩, counting, answered⟩ := ih (by omega)
    obtain ⟨longer, run⟩ := long_order run counting.closed request authorization long
    have counted := counting.raised authBreaker 0
    rw [if_neg (by omega)] at counted
    exact ⟨longer, _, run, ⟨requested, validating, responded⟩, counted,
      by simp [answered, List.replicate_succ]⟩

/-- Any token that is too long opens the breaker when it is sent as often as the threshold. -/
theorem long_token_opens (request : OrderRequest) (token : Str) (solid : ∀ c ∈ token, isSpace c = false)
    (long : maxTokenLength < token.length) :
    ∃ (history : OrderHistory) (s : Orders), Trace Orders.step {} history s ∧ s.Complete ∧
      s.breaker.state = .Open ∧ s.answered = List.replicate 5 (⟨request, token⟩, .authUnavailable) := by
  have derived : orderToken (some ("Bearer ".toList ++ token)) = token :=
    orderToken_bearer (List.ne_nil_of_length_pos (Nat.zero_lt_of_lt long)) solid
  rw [← derived] at long
  obtain ⟨history, s, run, ⟨requested, validating, responded⟩, counting, answered⟩ :=
    long_orders request _ long 4 (by decide)
  obtain ⟨longer, run⟩ := long_order run counting.closed request _ long
  have opened := counting.raised authBreaker 0
  rw [if_pos (by decide)] at opened
  refine ⟨longer, _, run, ⟨requested, validating, responded⟩, opened, ?_⟩
  simp only [answered, derived, ← List.replicate_succ]

/-- Five orders with a token of 4097 characters are answered 502 and open the breaker. -/
theorem long_tokens_open_breaker :
    ∃ (history : OrderHistory) (s : Orders), Trace Orders.step {} history s ∧ s.Complete ∧
      s.breaker.state = .Open ∧ s.answered.length = 5 ∧
      ∀ visit ∈ s.answered, visit.1.token = List.replicate 4097 'a' ∧ visit.2.status = 502 := by
  obtain ⟨history, s, run, complete, opened, answered⟩ :=
    long_token_opens ⟨"laptop".toList, 1, by decide, by decide⟩ (List.replicate 4097 'a')
      (fun c member => by rw [List.eq_of_mem_replicate member]; decide)
      (by rw [List.length_replicate, maxTokenLength]; omega)
  refine ⟨history, s, run, complete, opened, by rw [answered, List.length_replicate], ?_⟩
  intro visit member
  rw [answered] at member
  rw [List.eq_of_mem_replicate member]
  exact ⟨rfl, rfl⟩

end AutoSre.Services
