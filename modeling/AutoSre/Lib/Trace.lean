import Mathlib.Data.List.Basic

/-! # Runs of a labelled transition function

A system is a partial step function `σ → α → Option σ`: `none` means that the
label is not enabled in that state.  `Trace step init history state` says that
the transitions of `history`, latest first, lead from `init` to `state`.
Keeping the transitions (and not only the labels) lets a specification be
written as a plain recursive function over the history.

`Always` speaks about every moment of a run, and `always_iff_forall` is the rule
that settles such statements: a property that one step keeps exactly when the
step meets a condition holds throughout a run exactly when all its steps do.
-/

namespace AutoSre.Lib

variable {σ α : Type*}

/-- One transition of a run: the state it leaves, its label, the state it enters. -/
structure Transition (σ α : Type*) where
  before : σ
  label : α
  after : σ

/-- `Trace step init history state`: the transitions of `history`, latest first,
    are steps of the system and lead from `init` to `state`. -/
inductive Trace (step : σ → α → Option σ) (init : σ) : List (Transition σ α) → σ → Prop where
  | nil : Trace step init [] init
  | snoc {history : List (Transition σ α)} {state : σ} {label : α} {next : σ} :
      Trace step init history state → step state label = some next →
      Trace step init (⟨state, label, next⟩ :: history) next

/-- `P` holds of the past and the state at every moment of the run. -/
def Always (P : List (Transition σ α) → σ → Prop) (init : σ) : List (Transition σ α) → Prop
  | [] => P [] init
  | transition :: past => P (transition :: past) transition.after ∧ Always P init past

theorem Always.mono {P Q : List (Transition σ α) → σ → Prop} {init : σ}
    (weaken : ∀ past state, P past state → Q past state) :
    ∀ {history : List (Transition σ α)}, Always P init history → Always Q init history
  | [], now => weaken _ _ now
  | _ :: _, ⟨now, before⟩ => ⟨weaken _ _ now, Always.mono weaken before⟩

theorem Always.last {step : σ → α → Option σ} {P : List (Transition σ α) → σ → Prop} {init state : σ}
    {history : List (Transition σ α)} (throughout : Always P init history)
    (run : Trace step init history state) : P history state := by
  cases run with
  | nil => exact throughout
  | snoc _ _ => exact throughout.1

/-- The labels of the run carry non-decreasing readings of the clock. -/
def Chronological {τ : Type*} [LE τ] (clock : α → τ) (history : List (Transition σ α)) : Prop :=
  (history.map fun transition => clock transition.label).Pairwise (fun later earlier => earlier ≤ later)

instance {τ : Type*} [LE τ] [DecidableLE τ] (clock : α → τ) (history : List (Transition σ α)) :
    Decidable (Chronological clock history) :=
  inferInstanceAs (Decidable (List.Pairwise _ _))

/-- Takes the labels in turn, keeping the transitions. -/
def replay (step : σ → α → Option σ) :
    List (Transition σ α) → σ → List α → Option (List (Transition σ α) × σ)
  | history, state, [] => some (history, state)
  | history, state, label :: labels =>
    match step state label with
    | some next => replay step (⟨state, label, next⟩ :: history) next labels
    | none => none

theorem trace_of_replay {step : σ → α → Option σ} {init : σ} (labels : List α)
    {history : List (Transition σ α)} {state : σ} (run : Trace step init history state)
    {reached : List (Transition σ α) × σ} (replayed : replay step history state labels = some reached) :
    Trace step init reached.1 reached.2 := by
  induction labels generalizing history state with
  | nil =>
    cases replayed
    exact run
  | cons label labels ih =>
    simp only [replay] at replayed
    cases taken : step state label with
    | none => simp [taken] at replayed
    | some next =>
      simp only [taken] at replayed
      exact ih (run.snoc taken) replayed

/-- A decidable property of the run along given labels is settled by replaying them. -/
theorem exists_trace_of_replay (step : σ → α → Option σ) (init : σ) (labels : List α)
    (P : List (Transition σ α) → σ → Prop) [∀ history state, Decidable (P history state)]
    (checked : (replay step [] init labels).any (fun reached => decide (P reached.1 reached.2)) = true) :
    ∃ history state, Trace step init history state ∧ P history state := by
  obtain ⟨reached, replayed, holds⟩ := (Option.any_eq_true _ _).mp checked
  exact ⟨reached.1, reached.2, trace_of_replay labels .nil replayed, of_decide_eq_true holds⟩

namespace Trace

variable {step : σ → α → Option σ} {init state : σ} {history : List (Transition σ α)}

/-- A property of states that holds initially and is kept by every step holds
    of the state a run ends in. -/
theorem invariant (run : Trace step init history state) {P : σ → Prop} (start : P init)
    (advance : ∀ before label after, P before → step before label = some after → P after) :
    P state := by
  induction run with
  | nil => exact start
  | snoc _ taken ih => exact advance _ _ _ ih taken

theorem step_of_mem (run : Trace step init history state) :
    ∀ made ∈ history, step made.before made.label = some made.after := by
  induction run with
  | nil => simp
  | snoc _ taken ih => exact List.forall_mem_cons.mpr ⟨taken, ih⟩

theorem of_suffix (run : Trace step init history state) {made : Transition σ α}
    {past : List (Transition σ α)} (isSuffix : made :: past <:+ history) :
    Trace step init past made.before := by
  induction run with
  | nil => cases List.suffix_nil.mp isSuffix
  | snoc earlier taken ih =>
    cases List.suffix_cons_iff.mp isSuffix with
    | inl last =>
      cases last
      exact earlier
    | inr within => exact ih within

theorem prepend {first : σ} {label : α} (run : Trace step init history state)
    (taken : step first label = some init) :
    Trace step first (history ++ [⟨first, label, init⟩]) state := by
  induction run with
  | nil => exact .snoc .nil taken
  | snoc _ later ih => exact .snoc ih later

theorem trans (run : Trace step init history state) {later : List (Transition σ α)} {final : σ}
    (continued : Trace step state later final) : Trace step init (later ++ history) final := by
  induction continued with
  | nil => exact run
  | snoc _ taken ih => exact ih.snoc taken

/-- The history-aware form of `invariant`: the property may look at the past,
    and its step may use that the past is a run. -/
theorem history_invariant (run : Trace step init history state)
    {P : List (Transition σ α) → σ → Prop} (start : P [] init)
    (advance : ∀ past before label after, Trace step init past before → P past before →
      step before label = some after → P (⟨before, label, after⟩ :: past) after) :
    P history state := by
  induction run with
  | nil => exact start
  | snoc earlier taken ih => exact advance _ _ _ _ earlier ih taken

theorem always_of_forall (run : Trace step init history state) {C : α → Prop}
    {P : List (Transition σ α) → σ → Prop}
    (holds : ∀ past reached, Trace step init past reached → (∀ made ∈ past, C made.label) → P past reached)
    (meets : ∀ made ∈ history, C made.label) : Always P init history := by
  induction run with
  | nil => exact holds [] init .nil meets
  | snoc earlier taken ih =>
    have before := (List.forall_mem_cons.mp meets).2
    exact ⟨holds _ _ (earlier.snoc taken) meets, ih before⟩

/-- If a step keeps `P` exactly when it meets `C`, then `P` holds at every moment
    of a run exactly when every step of the run meets `C`. -/
theorem always_iff_forall (run : Trace step init history state)
    {P : List (Transition σ α) → σ → Prop} {C : σ → α → Prop} (start : P [] init)
    (advance : ∀ past before label after, Trace step init past before → P past before →
      step before label = some after → (P (⟨before, label, after⟩ :: past) after ↔ C before label)) :
    Always P init history ↔ ∀ taken ∈ history, C taken.before taken.label := by
  -- `P` at the end of the run is carried along, so that the step rule applies to the last step
  have strong : (Always P init history → P history state) ∧
      (Always P init history ↔ ∀ taken ∈ history, C taken.before taken.label) := by
    induction run with
    | nil => exact ⟨id, by simpa [Always] using start⟩
    | @snoc past before label after earlier taken ih =>
      refine ⟨fun holds => holds.1, ?_⟩
      simp only [Always, List.forall_mem_cons]
      constructor
      · rintro ⟨now, throughout⟩
        exact ⟨(advance _ _ _ _ earlier (ih.1 throughout) taken).mp now, ih.2.mp throughout⟩
      · rintro ⟨meets, rest⟩
        have throughout := ih.2.mpr rest
        exact ⟨(advance _ _ _ _ earlier (ih.1 throughout) taken).mpr meets, throughout⟩
  exact strong.2

end Trace

end AutoSre.Lib
