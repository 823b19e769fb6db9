import AutoSre.Lib.Machine
import AutoSre.Resilience.BreakerHistory

/-! # Breakers over a copying store

`InMemoryStore.load` hands out the live record, so a branch that forgot its `save`
would still be seen by the next `load`.  A store behind a network, the seam that
`BreakerStore` is there for, hands out a copy, and only what is saved is seen.  A
breaker cannot tell the two apart: every branch that assigns to the record saves it.
-/

namespace AutoSre.Resilience

open AutoSre.Lib

/-- `load` hands out a fresh copy of the record last saved: assigning to the copy
    does not reach the store. -/
structure LoadsCopies (S : Type) [BreakerStore S] : Prop where
  load_assign : ∀ (store : S) (record : BreakerRecord),
    BreakerStore.load (BreakerStore.assign store record) = BreakerStore.load store
  load_save : ∀ (store : S) (record : BreakerRecord),
    BreakerStore.load (BreakerStore.save store record) = record

/-- The copying store with nothing behind it but the saved record. -/
structure CopyingStore where
  saved : BreakerRecord := {}

instance : BreakerStore CopyingStore where
  load store := store.saved
  assign store _ := store
  save _ record := ⟨record⟩

theorem loadsCopies_copyingStore : LoadsCopies CopyingStore where
  load_assign _ _ := rfl
  load_save _ _ := rfl

/-! ## Everything a caller can ask of a breaker -/

inductive BreakerRequest where
  | call (op : Op)
  | state
  | snapshot
deriving DecidableEq, Repr

structure TimedRequest where
  now : ℚ
  request : BreakerRequest
deriving DecidableEq, Repr

inductive BreakerResponse where
  | allowed (answer : Bool)
  | none
  | state (state : BreakerState)
  | snapshot (snapshot : CircuitBreaker.Snapshot)

namespace CircuitBreaker

variable {S T : Type} [BreakerStore S] [BreakerStore T]

def perform (config : BreakerConfig) (breaker : CircuitBreaker S) (made : TimedRequest) :
    BreakerResponse × CircuitBreaker S :=
  match made.request with
  | .call .allow =>
    let (answer, breaker) := breaker.allow config made.now
    (.allowed answer, breaker)
  | .call .recordSuccess => (.none, breaker.recordSuccess config)
  | .call .recordFailure => (.none, breaker.recordFailure config made.now)
  | .state => (.state breaker.state, breaker)
  | .snapshot => (.snapshot (breaker.snapshot config made.now), breaker)

/-- Two breakers over different stores that hold the same record and show the same series. -/
structure Alike (breaker : CircuitBreaker S) (other : CircuitBreaker T) : Prop where
  record : BreakerStore.load breaker.store = BreakerStore.load other.store
  stateGauge : breaker.stateGauge = other.stateGauge
  openTotal : breaker.openTotal = other.openTotal
  rejectionsTotal : breaker.rejectionsTotal = other.rejectionsTotal
  events : breaker.events = other.events

/-- All that a branch ends with, seen through the next `load`: the committed record.
    Both kinds of store have this, one by `assign` and one by `save`. -/
def Commits (S : Type) [BreakerStore S] : Prop :=
  ∀ (store : S) (record : BreakerRecord),
    BreakerStore.load (BreakerStore.save (BreakerStore.assign store record) record) = record

theorem commits_inMemory : Commits InMemoryStore := fun _ _ => rfl

theorem commits_of_loadsCopies (copies : LoadsCopies S) : Commits S := by
  intro store record
  exact copies.load_save (BreakerStore.assign store record) record

variable {breaker : CircuitBreaker S} {other : CircuitBreaker T}

/-- The shape of every branch that changes the breaker: a commit, and new values of the
    series that depend on the record and the old series only. -/
theorem Alike.commit (alike : Alike breaker other) (commits : Commits S) (commits' : Commits T)
    (record : BreakerRecord) {gauge gauge' opened opened' : ℕ} {events events' : List BreakerEvent}
    (sameGauge : gauge = gauge') (sameOpened : opened = opened') (sameEvents : events = events') :
    Alike { breaker.commit record with stateGauge := gauge, openTotal := opened, events }
      { other.commit record with stateGauge := gauge', openTotal := opened', events := events' } where
  record := (commits _ record).trans (commits' _ record).symm
  stateGauge := sameGauge
  openTotal := sameOpened
  rejectionsTotal := alike.rejectionsTotal
  events := sameEvents

theorem Alike.allow (alike : Alike breaker other) (commits : Commits S) (commits' : Commits T)
    (config : BreakerConfig) (now : ℚ) :
    (breaker.allow config now).1 = (other.allow config now).1 ∧
      Alike (breaker.allow config now).2 (other.allow config now).2 := by
  simp only [CircuitBreaker.allow, alike.record]
  split
  next isOpen =>
    split
    next early => exact ⟨rfl, alike⟩
    next late =>
      exact ⟨rfl, alike.commit commits commits' _ rfl alike.openTotal (by rw [alike.events])⟩
  next notOpen => exact ⟨rfl, alike⟩

theorem Alike.recordSuccess (alike : Alike breaker other) (commits : Commits S) (commits' : Commits T)
    (config : BreakerConfig) : Alike (breaker.recordSuccess config) (other.recordSuccess config) := by
  simp only [CircuitBreaker.recordSuccess, alike.record]
  split
  next isHalfOpen =>
    split
    next enough => exact alike.commit commits commits' _ rfl alike.openTotal (by rw [alike.events])
    next few => exact alike.commit commits commits' _ alike.stateGauge alike.openTotal alike.events
  next notHalfOpen => exact alike.commit commits commits' _ alike.stateGauge alike.openTotal alike.events

theorem Alike.recordFailure (alike : Alike breaker other) (commits : Commits S) (commits' : Commits T)
    (config : BreakerConfig) (now : ℚ) :
    Alike (breaker.recordFailure config now) (other.recordFailure config now) := by
  simp only [CircuitBreaker.recordFailure, alike.record]
  split
  next isHalfOpen =>
    exact alike.commit commits commits' _ rfl (by rw [alike.openTotal]) (by rw [alike.events])
  next notHalfOpen =>
    split
    next enough =>
      exact alike.commit commits commits' _ rfl (by rw [alike.openTotal]) (by rw [alike.events])
    next few => exact alike.commit commits commits' _ alike.stateGauge alike.openTotal alike.events

theorem Alike.state (alike : Alike breaker other) : breaker.state = other.state := by
  simp only [CircuitBreaker.state, alike.record]

theorem Alike.snapshot (alike : Alike breaker other) (config : BreakerConfig) (now : ℚ) :
    breaker.snapshot config now = other.snapshot config now := by
  simp only [CircuitBreaker.snapshot, CircuitBreaker.remaining, alike.record]

theorem perform_projects (commits : Commits S) (commits' : Commits T) (config : BreakerConfig) :
    Projects (perform config (S := S)) (perform config (S := T)) some Alike where
  dropped := by
    intro breaker other made alike isNone
    cases isNone
  kept := by
    intro breaker other made named alike isSome
    cases isSome
    obtain ⟨now, request⟩ := made
    cases request with
    | call op =>
      cases op with
      | allow =>
        obtain ⟨sameAnswer, alike⟩ := alike.allow commits commits' config now
        exact ⟨congrArg BreakerResponse.allowed sameAnswer, alike⟩
      | recordSuccess => exact ⟨rfl, alike.recordSuccess commits commits' config⟩
      | recordFailure => exact ⟨rfl, alike.recordFailure commits commits' config now⟩
    | state => exact ⟨congrArg BreakerResponse.state alike.state, alike⟩
    | snapshot => exact ⟨congrArg BreakerResponse.snapshot (alike.snapshot config now), alike⟩

end CircuitBreaker

open CircuitBreaker in
/-- Over a store that hands out copies, a breaker answers every request, raises every
    counter, sets the gauge and emits its events as it does over `InMemoryStore`. -/
theorem breaker_store_independence {S : Type} [BreakerStore S] (copies : LoadsCopies S) (start : S)
    (initial : BreakerStore.load start = {}) (config : BreakerConfig) (requests : List TimedRequest) :
    answers (perform config) (init start) requests = answers (perform config) fresh requests ∧
      (final (perform config) (init start) requests).stateGauge =
        (final (perform config) fresh requests).stateGauge ∧
      (final (perform config) (init start) requests).openTotal =
        (final (perform config) fresh requests).openTotal ∧
      (final (perform config) (init start) requests).rejectionsTotal =
        (final (perform config) fresh requests).rejectionsTotal ∧
      (final (perform config) (init start) requests).events =
        (final (perform config) fresh requests).events := by
  have projects := perform_projects (commits_of_loadsCopies copies) commits_inMemory config
  have alike : Alike (init start) fresh := ⟨initial, by simp [init, initial, fresh], rfl, rfl, rfl⟩
  obtain ⟨sameAnswers, sameFinal⟩ := projects.run alike requests
  simp only [List.filterMap_some] at sameAnswers sameFinal
  refine ⟨?_, sameFinal.stateGauge, sameFinal.openTotal, sameFinal.rejectionsTotal, sameFinal.events⟩
  simpa [selected] using sameAnswers

open CircuitBreaker in
theorem breaker_store_independence_trip :
    let config : BreakerConfig := ⟨"auth".toList, 1, 30, 2⟩
    let requests : List TimedRequest :=
      [⟨0, .call .recordFailure⟩, ⟨1, .call .allow⟩, ⟨30, .call .allow⟩, ⟨31, .state⟩]
    (final (perform config) (init (S := CopyingStore) {}) requests).stateGauge = 2 := by
  intro config requests
  have same := breaker_store_independence loadsCopies_copyingStore {} rfl config requests
  exact same.2.1.trans (by decide +kernel)

end AutoSre.Resilience
