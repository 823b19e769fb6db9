import Mathlib.Data.List.Nodup
import Mathlib.Data.List.Perm.Basic

/-! # Changes that are told after the lock

Threads change a shared object under its lock, and each tells of its change after it has
let go of the lock, when others may have changed the object again.  A change has a number,
its place in the order in which the lock was held, which is told to nobody; an `Outbox`
holds the changes that are still to be told, those that were, and those whose telling
failed.

Nothing is lost or told twice, but the order may change on the way.  `inOrder_settle_iff`
says when it does not: each thread that tells is the one that has waited longest.
-/

namespace AutoSre.Lib

variable {θ α : Type}

/-- The changes with their numbers, latest first. -/
def numbered : List α → List (ℕ × α)
  | [] => []
  | change :: past => (past.length, change) :: numbered past

@[simp] theorem map_snd_numbered (changes : List α) : (numbered changes).map Prod.snd = changes := by
  induction changes with
  | nil => rfl
  | cons change past ih => simp [numbered, ih]

theorem lt_length_of_mem_numbered {changes : List α} {item : ℕ × α} (isItem : item ∈ numbered changes) :
    item.1 < changes.length := by
  induction changes with
  | nil => cases isItem
  | cons change past ih =>
    cases List.mem_cons.mp isItem with
    | inl isLatest => simp [isLatest]
    | inr isEarlier => exact Nat.lt_succ_of_lt (ih isEarlier)

theorem nodup_numbered (changes : List α) : (numbered changes).Nodup := by
  induction changes with
  | nil => exact List.nodup_nil
  | cons change past ih =>
    refine List.nodup_cons.mpr ⟨?_, ih⟩
    intro again
    exact absurd (lt_length_of_mem_numbered again) (Nat.lt_irrefl _)

/-- All lists are latest first. -/
structure Outbox (θ α : Type) where
  pending : List (θ × ℕ × α) := []
  written : List (ℕ × α) := []
  lost : List (ℕ × α) := []
deriving DecidableEq

namespace Outbox

variable [DecidableEq θ]

def holds (box : Outbox θ α) (thread : θ) : Bool := decide (thread ∈ box.pending.map Prod.fst)

def oldest (box : Outbox θ α) : Option θ := (box.pending.map Prod.fst).getLast?

def announce (box : Outbox θ α) (thread : θ) (number : ℕ) : Option α → Outbox θ α
  | none => box
  | some change => { box with pending := (thread, number, change) :: box.pending }

def settle (box : Outbox θ α) (thread : θ) (kept : Bool) : Option (Outbox θ α) :=
  (box.pending.find? (fun held => held.1 = thread)).map fun held =>
    let pending := box.pending.eraseP fun held => held.1 = thread
    if kept then { box with pending, written := held.2 :: box.written }
    else { box with pending, lost := held.2 :: box.lost }

theorem settle_cases {box next : Outbox θ α} {thread : θ} {kept : Bool}
    (settled : box.settle thread kept = some next) :
    ∃ newer item older, box.pending = newer ++ (thread, item) :: older ∧ next.pending = newer ++ older ∧
      next.written = (if kept then item :: box.written else box.written) ∧
      next.lost = (if kept then box.lost else item :: box.lost) := by
  obtain ⟨held, found, rfl⟩ := Option.map_eq_some_iff.mp settled
  obtain ⟨isThread, newer, older, split, others⟩ := List.find?_eq_some_iff_append.mp found
  have isThread : held.1 = thread := of_decide_eq_true isThread
  subst isThread
  have erased : box.pending.eraseP (fun other => decide (other.1 = held.1)) = newer ++ older := by
    rw [split, List.eraseP_append_right _ (by simpa using others)]
    simp
  refine ⟨newer, held.2, older, split, ?_⟩
  cases kept <;> exact ⟨erased, rfl, rfl⟩

/-! ## Nothing is lost -/

/-- The changes are all in the outbox, each once, and each thread waits with one. -/
structure Accounts (changes : List α) (box : Outbox θ α) : Prop where
  threads : (box.pending.map Prod.fst).Nodup
  items : (box.pending.map Prod.snd ++ (box.written ++ box.lost)).Perm (numbered changes)

omit [DecidableEq θ] in
theorem accounts_empty : Accounts [] ({} : Outbox θ α) := ⟨List.nodup_nil, .nil⟩

theorem Accounts.announce {changes : List α} {box : Outbox θ α} (accounts : Accounts changes box) {thread : θ}
    (free : box.holds thread = false) (change : Option α) :
    Accounts (change.toList ++ changes) (box.announce thread changes.length change) := by
  cases change with
  | none => exact accounts
  | some change =>
    refine ⟨List.nodup_cons.mpr ⟨of_decide_eq_false free, accounts.threads⟩, ?_⟩
    exact accounts.items.cons (changes.length, change)

theorem Accounts.settle {changes : List α} {box next : Outbox θ α} (accounts : Accounts changes box)
    {thread : θ} {kept : Bool} (settled : box.settle thread kept = some next) : Accounts changes next := by
  obtain ⟨newer, item, older, split, pending, written, lost⟩ := settle_cases settled
  obtain ⟨threads, items⟩ := accounts
  rw [split] at threads items
  constructor
  · rw [pending]
    refine threads.sublist ?_
    simp
  · have told : (next.written ++ next.lost).Perm (item :: (box.written ++ box.lost)) := by
      rw [written, lost]
      cases kept with
      | false => exact List.perm_middle
      | true => exact .refl _
    refine .trans ?_ items
    rw [pending, List.map_append, List.map_append, List.map_cons, List.append_assoc, List.append_assoc,
      List.cons_append]
    refine .append_left _ ((told.append_left _).trans ?_)
    exact List.perm_middle

/-! ## The order in which the changes are told -/

/-- The changes that were told are the first ones, in their order, and the rest is pending. -/
def InOrder (changes : List α) (box : Outbox θ α) : Prop :=
  box.pending.map Prod.snd ++ box.written = numbered changes

omit [DecidableEq θ] in
theorem InOrder.announce {changes : List α} {box : Outbox θ α} (inOrder : InOrder changes box) (thread : θ)
    (change : Option α) : InOrder (change.toList ++ changes) (box.announce thread changes.length change) := by
  cases change with
  | none => exact inOrder
  | some change => exact congrArg ((changes.length, change) :: ·) inOrder

theorem inOrder_settle_iff {changes : List α} {box next : Outbox θ α} (accounts : Accounts changes box)
    (inOrder : InOrder changes box) {thread : θ} {kept : Bool}
    (settled : box.settle thread kept = some next) :
    InOrder changes next ↔ kept = true ∧ box.oldest = some thread := by
  obtain ⟨newer, item, older, split, pending, written, -⟩ := settle_cases settled
  -- numbers tell the changes apart, so one list cannot stand for two orders
  have distinct : (box.pending.map Prod.snd ++ box.written).Nodup := inOrder ▸ nodup_numbered changes
  have threads := accounts.threads
  rw [oldest, InOrder, ← inOrder, pending, written]
  rw [split] at distinct threads ⊢
  cases kept with
  | false =>
    constructor
    · intro same
      have lengths := congrArg List.length same
      simp at lengths
    · rintro ⟨⟨⟩, -⟩
  | true =>
    cases older with
    | nil => simp
    -- someone has waited longer, whose change should come first
    | cons overtaken older =>
      constructor
      · intro same
        obtain ⟨again, -⟩ : overtaken.2 = item ∧ _ := by simpa using same
        exfalso
        simp [again, List.nodup_append] at distinct
      · rintro ⟨-, isOldest⟩
        have waits : thread ∈ (overtaken :: older).map Prod.fst := by
          refine List.mem_of_getLast? ?_
          simpa using isOldest
        rw [List.map_append, List.map_cons] at threads
        exact absurd waits (List.nodup_cons.mp (List.nodup_append.mp threads).2.1).1

end Outbox

end AutoSre.Lib
