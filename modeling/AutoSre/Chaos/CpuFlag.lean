import AutoSre.Chaos.Controller

/-! # The CPU flag

`_run_cpu` sets one boolean before its burn and clears it after it, whoever else is
burning.  The flag and the gauge are right as long as every burn that ends is the last
one; the first to end while another goes on makes both wrong.
-/

namespace AutoSre.Chaos

open AutoSre.Lib AutoSre.Lib.Python

def Task.isCpu : Task → Bool
  | .cpu _ => true
  | .memory _ _ => false

/-- Some `_run_cpu` task has started its burn and not yet finished it. -/
def World.Burning (w : World) : Prop := ∃ task ∈ w.running, task.isCpu = true

structure CpuTruthful (w : World) : Prop where
  flag : w.state.cpuRunning = true ↔ w.Burning
  gauge : w.active.cpu = true ↔ w.Burning

/-- A burn that ends leaves no other one going on. -/
def EndsLast (w : World) : Event → Prop
  | .finish (.cpu duration) => ∀ other ∈ w.running.erase (.cpu duration), other.isCpu = false
  | .finish (.memory _ _) | .latency _ | .errors _ | .cpu _ | .memory _ => True
  | .reset | .status | .start _ | .arrive _ | .wake _ => True

instance (w : World) : DecidablePred (EndsLast w)
  | .finish (.cpu duration) =>
    inferInstanceAs (Decidable (∀ other ∈ w.running.erase (.cpu duration), other.isCpu = false))
  | .finish (.memory _ _) | .latency _ | .errors _ | .cpu _ | .memory _ => .isTrue trivial
  | .reset | .status | .start _ | .arrive _ | .wake _ => .isTrue trivial

theorem CpuTruthful.congr {w after : World} (truthful : CpuTruthful w)
    (flag : after.state.cpuRunning = w.state.cpuRunning) (gauge : after.active.cpu = w.active.cpu)
    (burning : after.Burning ↔ w.Burning) : CpuTruthful after where
  flag := by rw [flag, burning, truthful.flag]
  gauge := by rw [gauge, burning, truthful.gauge]

theorem CpuTruthful.launch {w : World} (truthful : CpuTruthful w) (task : Task) :
    CpuTruthful (w.launch task) := by
  cases task with
  | cpu duration =>
    have burning : (w.launch (.cpu duration)).Burning := ⟨.cpu duration, List.mem_cons_self, rfl⟩
    exact ⟨iff_of_true rfl burning, iff_of_true rfl burning⟩
  | memory sizeBytes hold =>
    refine truthful.congr rfl rfl ?_
    simp [World.Burning, World.launch, Task.isCpu]

/-- Here the two part: a burn that ends clears the flag, whether or not it was the last. -/
theorem CpuTruthful.retire_iff {w : World} (truthful : CpuTruthful w) (task : Task) :
    CpuTruthful (w.retire task) ↔ EndsLast w (.finish task) := by
  cases task with
  | cpu duration =>
    have cleared : (w.retire (.cpu duration)).state.cpuRunning = false := rfl
    have shown : (w.retire (.cpu duration)).active.cpu = false := rfl
    constructor
    · intro after other isLeft
      by_contra isCpu
      have isSet := after.flag.mpr ⟨other, isLeft, Bool.eq_true_of_not_eq_false isCpu⟩
      rw [cleared] at isSet
      cases isSet
    · intro endsLast
      have quiet : ¬(w.retire (.cpu duration)).Burning := by
        rintro ⟨other, isLeft, isCpu⟩
        rw [endsLast other isLeft] at isCpu
        cases isCpu
      exact ⟨by simp [cleared, quiet], by simp [shown, quiet]⟩
  | memory sizeBytes hold =>
    refine iff_of_true (truthful.congr rfl rfl ?_) trivial
    apply exists_congr
    intro task
    apply and_congr_left
    intro isCpu
    apply List.mem_erase_of_ne
    rintro rfl
    cases isCpu

theorem CpuTruthful.step_iff {w after : World} {event : Event} (truthful : CpuTruthful w)
    (taken : w.step event = some after) : CpuTruthful after ↔ EndsLast w event := by
  cases World.step_moves taken with
  | latency body =>
    cases body.validate with
    | none => exact iff_of_true truthful trivial
    | some config => exact iff_of_true (truthful.congr rfl rfl .rfl) trivial
  | errors body =>
    cases body.validate with
    | none => exact iff_of_true truthful trivial
    | some config => exact iff_of_true (truthful.congr rfl rfl .rfl) trivial
  | cpu body =>
    cases body.validate with
    | none => exact iff_of_true truthful trivial
    | some config => exact iff_of_true (truthful.congr rfl rfl .rfl) trivial
  | memory body =>
    obtain ⟨eventsTotal, events, scheduled, handled⟩ := w.handle_triggerMemory_eq body.validate
    rw [handled]
    exact iff_of_true (truthful.congr rfl rfl .rfl) trivial
  | reset => exact iff_of_true (truthful.congr rfl rfl .rfl) trivial
  | status => exact iff_of_true truthful trivial
  | start task member => exact iff_of_true (truthful.launch task) trivial
  | finish task member => exact truthful.retire_iff task
  | arrive path =>
    obtain ⟨accumulator, total, sleeping, arrived⟩ := w.arrive_eq path
    rw [arrived]
    exact iff_of_true (truthful.congr rfl rfl .rfl) trivial
  | wake delay asleep =>
    obtain ⟨accumulator, total, woken⟩ := w.wake_eq delay
    rw [woken]
    exact iff_of_true (truthful.congr rfl rfl .rfl) trivial

/-- In every run, the flag and the gauge are right at every moment exactly when no
    burn ended while another one was going on. -/
theorem cpu_flag_truthful_iff (history : ChaosHistory) (w : World) (run : Trace World.step {} history w) :
    Always (fun _ w => CpuTruthful w) {} history ↔ ∀ made ∈ history, EndsLast made.before made.label := by
  apply run.always_iff_forall
  · exact ⟨by simp [World.Burning], by simp [World.Burning]⟩
  · intro past before event after _ truthful taken
    exact truthful.step_iff taken

theorem cpu_flag_truthful_in_turn :
    ∃ (history : ChaosHistory) (w : World), Trace World.step {} history w ∧
      Task.cpu 1 ∈ w.running ∧ Always (fun _ w => CpuTruthful w) {} history := by
  obtain ⟨history, w, run, ends, burning⟩ := exists_trace_of_replay World.step {}
    [.cpu { durationSeconds := some 30 }, .start (.cpu 30), .finish (.cpu 30),
      .cpu { durationSeconds := some 1 }, .start (.cpu 1)]
    (fun history w => (∀ made ∈ history, EndsLast made.before made.label) ∧ Task.cpu 1 ∈ w.running)
    (by decide +kernel)
  exact ⟨history, w, run, burning, (cpu_flag_truthful_iff history w run).mpr ends⟩

/-- Of two burns that overlap, the shorter one ends first and clears the flag of the other. -/
theorem cpu_flag_cleared_while_burning :
    ∃ (history : ChaosHistory) (w : World), Trace World.step {} history w ∧
      Task.cpu 30 ∈ w.running ∧ w.state.cpuRunning = false ∧ w.active.cpu = false ∧ ¬CpuTruthful w := by
  obtain ⟨history, w, run, burning, cleared, off⟩ := exists_trace_of_replay World.step {}
    [.cpu { durationSeconds := some 30 }, .cpu { durationSeconds := some 1 }, .start (.cpu 30),
      .start (.cpu 1), .finish (.cpu 1)]
    (fun _ w => Task.cpu 30 ∈ w.running ∧ w.state.cpuRunning = false ∧ w.active.cpu = false)
    (by decide +kernel)
  refine ⟨history, w, run, burning, cleared, off, ?_⟩
  intro truthful
  have isSet := truthful.flag.mpr ⟨.cpu 30, burning, rfl⟩
  rw [cleared] at isSet
  cases isSet

end AutoSre.Chaos
