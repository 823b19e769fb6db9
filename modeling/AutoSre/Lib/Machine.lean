import Mathlib.Data.List.Basic

/-! # Two runs of a machine with outputs

A machine is a total step function `σ → α → ω × σ`: each input is answered with
an output.  `answers` lists the inputs of a run with what they were answered.

`Projects` relates a machine to a second one that is given only some of the
inputs, possibly under another name: the inputs that `select` drops leave the
related states related, and the others are answered alike on both sides.  Such a
relation between states carries over to whole runs (`Projects.run`).  With
`select` total it is a lockstep simulation, with `select` a filter it is
noninterference: nobody whose inputs are kept can tell that others were dropped.
-/

namespace AutoSre.Lib

variable {σ τ α β ω : Type*}

def answers (machine : σ → α → ω × σ) : σ → List α → List (α × ω)
  | _, [] => []
  | state, input :: inputs =>
    (input, (machine state input).1) :: answers machine (machine state input).2 inputs

def final (machine : σ → α → ω × σ) (state : σ) (inputs : List α) : σ :=
  inputs.foldl (fun state input => (machine state input).2) state

@[simp] theorem final_nil (machine : σ → α → ω × σ) (state : σ) : final machine state [] = state := rfl

@[simp] theorem final_cons (machine : σ → α → ω × σ) (state : σ) (input : α) (inputs : List α) :
    final machine state (input :: inputs) = final machine (machine state input).2 inputs := rfl

theorem final_invariant {machine : σ → α → ω × σ} {Invariant : σ → Prop}
    (preserved : ∀ state input, Invariant state → Invariant (machine state input).2) {state : σ}
    (holds : Invariant state) (inputs : List α) : Invariant (final machine state inputs) := by
  induction inputs generalizing state with
  | nil => exact holds
  | cons input inputs ih => exact ih (preserved state input holds)

/-- The answers to the inputs that `select` keeps, under the names it gives them. -/
def selected (select : α → Option β) (log : List (α × ω)) : List (β × ω) :=
  log.filterMap fun answer => (select answer.1).map fun input => (input, answer.2)

structure Projects (machine : σ → α → ω × σ) (part : τ → β → ω × τ) (select : α → Option β)
    (Related : σ → τ → Prop) : Prop where
  dropped : ∀ {state other input}, Related state other → select input = none →
    Related (machine state input).2 other
  kept : ∀ {state other input named}, Related state other → select input = some named →
    (machine state input).1 = (part other named).1 ∧
      Related (machine state input).2 (part other named).2

/-- The kept inputs are answered as in a run of the second machine on them alone,
    and the final states are related. -/
theorem Projects.run {machine : σ → α → ω × σ} {part : τ → β → ω × τ} {select : α → Option β}
    {Related : σ → τ → Prop} (projects : Projects machine part select Related) {state : σ} {other : τ}
    (related : Related state other) (inputs : List α) :
    selected select (answers machine state inputs) = answers part other (inputs.filterMap select) ∧
      Related (final machine state inputs) (final part other (inputs.filterMap select)) := by
  induction inputs generalizing state other with
  | nil => exact ⟨rfl, related⟩
  | cons input inputs ih =>
    cases chosen : select input with
    | none =>
      have later := ih (projects.dropped related chosen)
      simpa [answers, selected, chosen] using later
    | some named =>
      obtain ⟨alike, related⟩ := projects.kept related chosen
      have later := ih related
      simpa [answers, selected, chosen, alike] using later

theorem selected_guard (keep : α → Bool) (log : List (α × ω)) :
    selected (Option.guard fun input => keep input) log = log.filter fun answer => keep answer.1 := by
  induction log with
  | nil => rfl
  | cons answer log ih =>
    by_cases chosen : keep answer.1 = true
    · simpa [selected, Option.guard, chosen] using ih
    · simpa [selected, Option.guard, chosen] using ih

theorem Projects.run_filter {machine : σ → α → ω × σ} {keep : α → Bool} {Related : σ → σ → Prop}
    (projects : Projects machine machine (Option.guard fun input => keep input) Related) {state other : σ}
    (related : Related state other) (inputs : List α) :
    (answers machine state inputs).filter (fun answer => keep answer.1) =
        answers machine other (inputs.filter keep) ∧
      Related (final machine state inputs) (final machine other (inputs.filter keep)) := by
  have result := projects.run related inputs
  rwa [selected_guard, List.filterMap_eq_filter] at result

end AutoSre.Lib
