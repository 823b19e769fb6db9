import Mathlib.Data.List.Nodup
import Mathlib.Data.List.TakeWhile
import AutoSre.Resilience.RateLimitMiddleware

/-! # The clients that a limiter knows

The store makes a bucket for every client it is asked about and never removes one, and
`/rate-limit/status` reports the table as it stands: how many clients there are, and for
the first of them the level that was written back at their last request.  No time passes
in a report; a bucket is refilled when its client comes again.
-/

namespace AutoSre.Resilience

open AutoSre.Lib AutoSre.Lib.Python

variable {ρ : Type}

/-- The clients of the requests that were checked, in the order in which they first came. -/
def clientsSeen : ArrivalHistory ρ → List Str
  | [] => []
  | made :: past =>
    if excluded made.label.path then clientsSeen past else Dict.withKey (clientsSeen past) made.label.key

def levelLeft (client : Str) : ArrivalHistory ρ → Option ℚ
  | [] => none
  | made :: past =>
    if excluded made.label.path = false ∧ made.label.key = client then
      some (made.before.limiter.check made.label.now client).1.remaining
    else levelLeft client past

def checksMade (history : ArrivalHistory ρ) : ℕ := history.countP fun made => !excluded made.label.path

/-- The table of the store against the requests so far. -/
structure Tabled (history : ArrivalHistory ρ) (m : RateLimitMiddleware) : Prop where
  clients : m.limiter.store.buckets.keys = clientsSeen history
  levels : ∀ client, (m.limiter.store.buckets.get client).map Prod.fst = levelLeft client history
  checks : m.limiter.requestsTotal = checksMade history

theorem InMemoryBucketStore.keys_consume {κ : Type} [DecidableEq κ] (store : InMemoryBucketStore κ) (now : ℚ)
    (key : κ) :
    (store.consume now key).2.buckets.keys = Dict.withKey store.buckets.keys key := by
  simp only [consume]
  split <;> exact Dict.keys_set store.buckets key _

theorem dispatch_requestsTotal (m : RateLimitMiddleware) (arrival : Arrival ρ) :
    (m.dispatch arrival).2.limiter.requestsTotal =
      m.limiter.requestsTotal + if excluded arrival.path then 0 else 1 := by
  cases counted : excluded arrival.path with
  | true =>
    rw [RateLimitMiddleware.dispatch_excluded counted]
    rfl
  | false =>
    simp only [RateLimitMiddleware.dispatch, counted, Bool.false_eq_true, if_false]
    split
    · rfl
    · split <;> rfl

theorem tabled_run {rps burst : ℚ} {history : ArrivalHistory ρ} {m : RateLimitMiddleware}
    (run : Trace RateLimitMiddleware.step (.init rps burst) history m) : Tabled history m := by
  induction run with
  | nil => exact ⟨rfl, fun _ => rfl, rfl⟩
  | @snoc past before arrival after _ taken ih =>
    cases taken
    obtain ⟨clients, levels, checks⟩ := ih
    have counted := dispatch_requestsTotal before arrival
    cases isExcluded : excluded arrival.path with
    | true =>
      rw [RateLimitMiddleware.dispatch_excluded isExcluded]
      refine ⟨by simpa [clientsSeen, isExcluded] using clients, fun client => ?_, ?_⟩
      · simpa [levelLeft, isExcluded] using levels client
      · simpa [checksMade, isExcluded] using checks
    | false =>
      have store := RateLimitMiddleware.dispatch_store (m := before) isExcluded
      constructor
      · rw [store, InMemoryBucketStore.keys_consume, clients]
        simp [clientsSeen, isExcluded]
      · intro client
        rw [store]
        by_cases isClient : arrival.key = client
        · subst isClient
          rw [InMemoryBucketStore.consume_get_self]
          simp [levelLeft, isExcluded, RateLimiter.check]
        · rw [InMemoryBucketStore.consume_get_of_ne _ _ _ _ (Ne.symm isClient)]
          simpa [levelLeft, isExcluded, isClient] using levels client
      · rw [counted, checks]
        simp [checksMade, isExcluded]

theorem nodup_clientsSeen (history : ArrivalHistory ρ) : (clientsSeen history).Nodup := by
  induction history with
  | nil => exact List.nodup_nil
  | cons made past ih =>
    simp only [clientsSeen]
    split
    · exact ih
    · exact Dict.nodup_withKey ih _

theorem Tabled.exists_level {history : ArrivalHistory ρ} {m : RateLimitMiddleware} (tabled : Tabled history m)
    {client : Str} (seen : client ∈ clientsSeen history) : ∃ level, levelLeft client history = some level := by
  rw [← tabled.clients] at seen
  rw [← tabled.levels]
  cases found : m.limiter.store.buckets.get client with
  | none => exact absurd seen (Dict.get_eq_none_iff.mp found)
  | some bucket => exact ⟨bucket.1, rfl⟩

/-- The clients of the sample are the first of the table, each with its own level: no
    client stands in the table twice. -/
theorem Tabled.sample {history : ArrivalHistory ρ} {m : RateLimitMiddleware} (tabled : Tabled history m) :
    m.limiter.snapshot.sample = ((clientsSeen history).take 20).filterMap fun client =>
      (levelLeft client history).map fun level => (client, round level 2) := by
  -- no name twice, so an item of the table is what a lookup of its name finds
  have nodup : m.limiter.store.buckets.keys.Nodup := tabled.clients ▸ nodup_clientsSeen history
  have level : ∀ item ∈ m.limiter.store.buckets.items.take 20,
      levelLeft item.1 history = some item.2.1 := by
    intro item isItem
    rw [← tabled.levels, Dict.get_of_mem_items nodup (List.mem_of_mem_take isItem)]
    rfl
  show (m.limiter.store.buckets.items.take 20).map _ = _
  rw [← tabled.clients, Dict.keys, ← List.map_take, List.filterMap_map, ← List.filterMap_eq_map']
  refine List.filterMap_congr fun item isItem => ?_
  simp [level item isItem]

theorem Tabled.activeClients {history : ArrivalHistory ρ} {m : RateLimitMiddleware} (tabled : Tabled history m) :
    m.limiter.snapshot.activeClients = (clientsSeen history).length := by
  rw [← tabled.clients, Dict.keys, List.length_map]
  rfl

/-- After any requests `/rate-limit/status` counts every client that was ever checked, and
    samples the first twenty of them in the order in which they came, each with the level
    that its last check left; and each request to a path that is not excluded was checked
    once. -/
theorem status_of_history (rps burst : ℚ) (history : ArrivalHistory ρ) (m : RateLimitMiddleware)
    (run : Trace RateLimitMiddleware.step (.init rps burst) history m) :
    m.limiter.snapshot.activeClients = (clientsSeen history).length ∧
      (clientsSeen history).Nodup ∧
      (∀ client ∈ clientsSeen history, ∃ level, levelLeft client history = some level) ∧
      m.limiter.snapshot.sample = ((clientsSeen history).take 20).filterMap (fun client =>
        (levelLeft client history).map fun level => (client, round level 2)) ∧
      m.limiter.requestsTotal = checksMade history := by
  have tabled := tabled_run run
  exact ⟨tabled.activeClients, nodup_clientsSeen history, fun _ => tabled.exists_level, tabled.sample, tabled.checks⟩

theorem status_of_two_clients :
    ∃ (history : ArrivalHistory Unit) (m : RateLimitMiddleware),
      Trace RateLimitMiddleware.step (.init 1 2) history m ∧ m.limiter.snapshot.activeClients = 2 ∧
        m.limiter.snapshot.sample = [("a".toList, 1 / 2), ("b".toList, 1)] ∧
        m.limiter.requestsTotal = 3 := by
  obtain ⟨history, m, run, seen, sampled, checked⟩ :=
    exists_trace_of_replay RateLimitMiddleware.step (.init 1 2)
      [⟨0, "/orders".toList, none, some "a".toList, ()⟩, ⟨0, "/orders".toList, some "b, c".toList, none, ()⟩,
        ⟨0, "/health".toList, none, some "d".toList, ()⟩, ⟨1 / 2, "/orders".toList, none, some "a".toList, ()⟩]
      (fun history _ => clientsSeen history = ["a".toList, "b".toList] ∧
        (((clientsSeen history).take 20).filterMap fun client =>
          (levelLeft client history).map fun level => (client, round level 2)) =
            [("a".toList, 1 / 2), ("b".toList, 1)] ∧
        checksMade history = 3)
      (by decide +kernel)
  obtain ⟨active, -, -, sample, checks⟩ := status_of_history 1 2 history m run
  exact ⟨history, m, run, by rw [active, seen]; rfl, sample.trans sampled, checks.trans checked⟩

/-! ## A client under many names

The key of a request is the first entry of `X-Forwarded-For`, and the header is the
client's own. -/

theorem burst_run {rps burst : ℚ} {history : ArrivalHistory ρ} {m : RateLimitMiddleware}
    (run : Trace RateLimitMiddleware.step (.init rps burst) history m) : m.limiter.store.burst = burst := by
  refine run.invariant (P := fun m => m.limiter.store.burst = burst) rfl ?_
  intro before arrival after same taken
  cases taken
  cases counted : excluded arrival.path with
  | true =>
    rw [RateLimitMiddleware.dispatch_excluded counted]
    exact same
  | false => rw [RateLimitMiddleware.dispatch_store counted, InMemoryBucketStore.consume_burst, same]

/-- A header that is one name, with nothing for the limiter to cut off. -/
structure PlainName (name : Str) : Prop where
  nonempty : name ≠ []
  noComma : ∀ c ∈ name, c ≠ ','
  solid : ∀ c ∈ name, isSpace c = false

theorem key_of_plain {arrival : Arrival ρ} (plain : PlainName (arrival.forwardedFor.getD [])) :
    arrival.key = arrival.forwardedFor.getD [] := by
  obtain ⟨nonempty, noComma, solid⟩ := plain
  unfold Arrival.key clientKey
  split
  next empty => exact absurd empty nonempty
  next c rest name =>
    rw [name] at noComma solid ⊢
    have whole : (c :: rest).takeWhile (· ≠ ',') = c :: rest :=
      List.takeWhile_eq_self_iff.mpr (by simpa using noComma)
    rw [whole, strip_of_solid solid]

theorem plainName_singleton {c : Char} (noComma : c ≠ ',') (solid : isSpace c = false) : PlainName [c] :=
  ⟨List.cons_ne_nil c [], List.forall_mem_singleton.mpr noComma, List.forall_mem_singleton.mpr solid⟩

theorem Tabled.dispatch_fresh {history : ArrivalHistory ρ} {m : RateLimitMiddleware} (tabled : Tabled history m)
    {arrival : Arrival ρ} (counted : excluded arrival.path = false) (fresh : arrival.key ∉ clientsSeen history)
    (enough : 1 ≤ m.limiter.store.burst) :
    (m.dispatch arrival).1 = .downstream arrival.downstream := by
  rw [← tabled.clients, ← Dict.get_eq_none_iff] at fresh
  have full : 1 ≤ m.tokens arrival := by
    rw [RateLimitMiddleware.tokens, InMemoryBucketStore.cur_of_unseen fresh]
    exact enough
  rw [RateLimitMiddleware.dispatch_admitted counted full]

/-- In every state of a limiter with a burst of at least one, a client that sends each
    request under another name that is new is never rejected, whatever the hosts, the paths
    and the times of the requests, and each name stays in the table. -/
theorem rotating_forwarded_for (rps burst : ℚ) (enough : 1 ≤ burst) (requests : List (Arrival ρ))
    (counted : ∀ request ∈ requests, excluded request.path = false)
    (plain : ∀ request ∈ requests, PlainName (request.forwardedFor.getD [])) (history : ArrivalHistory ρ)
    (m : RateLimitMiddleware) (run : Trace RateLimitMiddleware.step (.init rps burst) history m)
    (fresh : (clientsSeen history ++ requests.map fun request => request.forwardedFor.getD []).Nodup) :
    ∃ (sent : ArrivalHistory ρ) (later : RateLimitMiddleware),
      Trace RateLimitMiddleware.step (.init rps burst) (sent ++ history) later ∧
        sent.map (·.label) = requests.reverse ∧
        (∀ made ∈ sent, (made.before.dispatch made.label).1 = .downstream made.label.downstream) ∧
        later.limiter.snapshot.activeClients = m.limiter.snapshot.activeClients + requests.length := by
  induction requests generalizing history m with
  | nil => exact ⟨[], m, run, rfl, by simp, rfl⟩
  | cons arrival requests ih =>
    obtain ⟨isCounted, counted⟩ := List.forall_mem_cons.mp counted
    obtain ⟨isPlain, plain⟩ := List.forall_mem_cons.mp plain
    have key := key_of_plain isPlain
    rw [List.map_cons, ← key] at fresh
    have isNew : arrival.key ∉ clientsSeen history := by
      intro isSeen
      exact (List.nodup_append.mp fresh).2.2 _ isSeen _ List.mem_cons_self rfl
    have seen : clientsSeen (⟨m, arrival, (m.dispatch arrival).2⟩ :: history) =
        clientsSeen history ++ [arrival.key] := by
      simp only [clientsSeen, isCounted, Bool.false_eq_true, if_false]
      rw [Dict.withKey_of_not_mem isNew]
    have longer : Trace RateLimitMiddleware.step (.init rps burst)
        (⟨m, arrival, (m.dispatch arrival).2⟩ :: history) (m.dispatch arrival).2 := run.snoc rfl
    have fresh : (clientsSeen (⟨m, arrival, (m.dispatch arrival).2⟩ :: history) ++
        requests.map fun request => request.forwardedFor.getD []).Nodup := by
      rw [seen, List.append_assoc]
      exact fresh
    obtain ⟨sent, later, continued, labels, answered, active⟩ := ih counted plain _ _ longer fresh
    have admitted := (tabled_run run).dispatch_fresh isCounted isNew (by rwa [burst_run run])
    refine ⟨sent ++ [⟨m, arrival, (m.dispatch arrival).2⟩], later, ?_, ?_, ?_, ?_⟩
    · rw [List.append_assoc]
      exact continued
    · simp [labels]
    · intro made isMade
      cases List.mem_append.mp isMade with
      | inl isLater => exact answered made isLater
      | inr isFirst =>
        rw [List.mem_singleton.mp isFirst]
        exact admitted
    · rw [active, (tabled_run longer).activeClients, seen, (tabled_run run).activeClients]
      simp
      omega

theorem rotating_forwarded_for_two :
    ∃ (sent : ArrivalHistory Unit) (later : RateLimitMiddleware),
      Trace RateLimitMiddleware.step (.init 1 1) (sent ++ []) later ∧ sent.length = 2 ∧
        later.limiter.snapshot.activeClients = 2 := by
  let requests : List (Arrival Unit) :=
    [⟨0, "/orders".toList, some "a".toList, some "c".toList, ()⟩,
      ⟨1 / 2, "/validate".toList, some "b".toList, none, ()⟩]
  have plain : ∀ request ∈ requests, PlainName (request.forwardedFor.getD []) := by
    rw [List.forall_mem_cons, List.forall_mem_singleton]
    exact ⟨plainName_singleton (by decide) (by decide), plainName_singleton (by decide) (by decide)⟩
  have counted : ∀ request ∈ requests, excluded request.path = false := by
    rw [List.forall_mem_cons, List.forall_mem_singleton]
    exact ⟨by decide, by decide⟩
  obtain ⟨sent, later, continued, labels, -, active⟩ :=
    rotating_forwarded_for 1 1 le_rfl requests counted plain [] _ .nil (by decide)
  exact ⟨sent, later, continued, by simpa [requests] using congrArg List.length labels, active⟩

end AutoSre.Resilience
