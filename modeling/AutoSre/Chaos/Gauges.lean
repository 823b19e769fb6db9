import AutoSre.Chaos.Controller

/-! # The gauges show the state

The handlers and the tasks write `chaos_active` and the state at about a dozen
places, and the memory gauge only conditionally.  In every run the two agree, as
long as every memory request comes to at least one byte: a block of zero bytes would
switch the gauge on and leave `memory_bytes` at zero.
-/

namespace AutoSre.Chaos

open AutoSre.Lib AutoSre.Lib.Python

/-- The gauges agree with the state, and no task that is still to start will break that. -/
structure GaugesAgree (w : World) : Prop where
  latency : w.active.latency = w.state.latencyEnabled
  errors : w.active.errors = w.state.errorEnabled
  cpu : w.active.cpu = w.state.cpuRunning
  memory : w.active.memory = decide (0 < w.state.memoryBytes)
  scheduled : ∀ sizeBytes hold, .memory sizeBytes hold ∈ w.scheduled → 1 ≤ sizeBytes

/-- A memory request that validates comes to at least one byte. -/
def AtLeastOneByte : Event → Prop
  | .memory body => ∀ config ∈ body.validate, 1 ≤ config.sizeBytes
  | .latency _ | .errors _ | .cpu _ | .reset | .status | .start _ | .finish _ | .arrive _ | .wake _ => True

instance : DecidablePred AtLeastOneByte
  | .memory body => inferInstanceAs (Decidable (∀ config ∈ body.validate, 1 ≤ config.sizeBytes))
  | .latency _ | .errors _ | .cpu _ | .reset | .status | .start _ | .finish _ | .arrive _ | .wake _ =>
    .isTrue trivial

theorem GaugesAgree.congr {w after : World} (agree : GaugesAgree w) (active : after.active = w.active)
    (latency : after.state.latencyEnabled = w.state.latencyEnabled)
    (errors : after.state.errorEnabled = w.state.errorEnabled)
    (cpu : after.state.cpuRunning = w.state.cpuRunning)
    (memory : after.state.memoryBytes = w.state.memoryBytes)
    (scheduled : after.scheduled = w.scheduled) : GaugesAgree after where
  latency := by rw [active, latency, agree.latency]
  errors := by rw [active, errors, agree.errors]
  cpu := by rw [active, cpu, agree.cpu]
  memory := by rw [active, memory, agree.memory]
  scheduled := by simpa only [scheduled] using agree.scheduled

theorem GaugesAgree.launch {w : World} (agree : GaugesAgree w) {task : Task} (member : task ∈ w.scheduled) :
    GaugesAgree (w.launch task) := by
  have remaining : ∀ sizeBytes hold, .memory sizeBytes hold ∈ w.scheduled.erase task → 1 ≤ sizeBytes := by
    intro sizeBytes hold isLeft
    exact agree.scheduled sizeBytes hold (List.mem_of_mem_erase isLeft)
  cases task with
  | cpu duration => exact ⟨agree.latency, agree.errors, rfl, agree.memory, remaining⟩
  | memory sizeBytes hold =>
    have positive := agree.scheduled sizeBytes hold member
    refine ⟨agree.latency, agree.errors, agree.cpu, ?_, remaining⟩
    show true = decide (0 < w.state.memoryBytes + sizeBytes)
    exact (decide_eq_true (by omega)).symm

theorem GaugesAgree.retire {w : World} (agree : GaugesAgree w) (task : Task) : GaugesAgree (w.retire task) := by
  cases task with
  | cpu duration => exact ⟨agree.latency, agree.errors, rfl, agree.memory, agree.scheduled⟩
  | memory sizeBytes hold =>
    refine ⟨agree.latency, agree.errors, agree.cpu, ?_, agree.scheduled⟩
    show (if w.state.memoryBytes - sizeBytes = 0 then false else w.active.memory) =
      decide (0 < w.state.memoryBytes - sizeBytes)
    split
    next empty => simp [empty]
    next held =>
      -- bytes that are left were there before, so the gauge was on and stays on
      have before : 0 < w.state.memoryBytes := by omega
      have after : 0 < w.state.memoryBytes - sizeBytes := by omega
      simp [agree.memory, before, after]

theorem GaugesAgree.step {w after : World} {event : Event} (agree : GaugesAgree w)
    (atLeastOne : AtLeastOneByte event) (taken : w.step event = some after) : GaugesAgree after := by
  cases World.step_moves taken with
  | latency body =>
    cases body.validate with
    | none => exact agree
    | some config => exact ⟨rfl, agree.errors, agree.cpu, agree.memory, agree.scheduled⟩
  | errors body =>
    cases body.validate with
    | none => exact agree
    | some config => exact ⟨agree.latency, rfl, agree.cpu, agree.memory, agree.scheduled⟩
  | cpu body =>
    cases body.validate with
    | none => exact agree
    | some config =>
      refine ⟨agree.latency, agree.errors, agree.cpu, agree.memory, ?_⟩
      intro sizeBytes hold isScheduled
      cases isScheduled with
      | tail _ earlier => exact agree.scheduled sizeBytes hold earlier
  | memory body =>
    cases validated : body.validate with
    | none => exact agree
    | some config =>
      have positive : 1 ≤ config.sizeBytes := atLeastOne config validated
      simp only [World.handle, World.triggerMemory]
      split
      next overCap => exact agree
      next fits =>
        refine ⟨agree.latency, agree.errors, agree.cpu, agree.memory, ?_⟩
        intro sizeBytes hold isScheduled
        cases isScheduled with
        | head => exact positive
        | tail _ earlier => exact agree.scheduled sizeBytes hold earlier
  | reset => exact ⟨rfl, rfl, agree.cpu, rfl, agree.scheduled⟩
  | status => exact agree
  | start task member => exact agree.launch member
  | finish task member => exact agree.retire task
  | arrive path =>
    obtain ⟨accumulator, total, sleeping, arrived⟩ := w.arrive_eq path
    rw [arrived]
    exact agree.congr rfl rfl rfl rfl rfl rfl
  | wake delay asleep =>
    obtain ⟨accumulator, total, woken⟩ := w.wake_eq delay
    rw [woken]
    exact agree.congr rfl rfl rfl rfl rfl rfl

theorem gaugesAgree_run {w : World} {history : ChaosHistory} (run : Trace World.step {} history w)
    (atLeastOne : ∀ made ∈ history, AtLeastOneByte made.label) : GaugesAgree w := by
  induction run with
  | nil => exact ⟨rfl, rfl, rfl, rfl, by simp⟩
  | snoc _ taken ih =>
    rw [List.forall_mem_cons] at atLeastOne
    exact (ih atLeastOne.2).step atLeastOne.1 taken

/-- In every run whose memory requests come to at least one byte, each gauge is on
    exactly when its mode is on in the state, and `/chaos/status` answers `active`
    exactly when some gauge is on. -/
theorem gauges_show_state (history : ChaosHistory) (w : World) (run : Trace World.step {} history w)
    (atLeastOne : ∀ made ∈ history, AtLeastOneByte made.label) :
    (w.active.latency = true ↔ w.state.latencyEnabled = true) ∧
      (w.active.errors = true ↔ w.state.errorEnabled = true) ∧
      (w.active.cpu = true ↔ w.state.cpuRunning = true) ∧
      (w.active.memory = true ↔ 0 < w.state.memoryBytes) ∧
      (w.status.active = true ↔
        w.active.latency = true ∨ w.active.errors = true ∨ w.active.cpu = true ∨
          w.active.memory = true) := by
  have agree := gaugesAgree_run run atLeastOne
  refine ⟨by rw [agree.latency], by rw [agree.errors], by rw [agree.cpu], by simp [agree.memory], ?_⟩
  simp only [World.status, ChaosState.snapshot, ChaosState.isActive, Bool.or_eq_true, agree.latency,
    agree.errors, agree.cpu, agree.memory, or_assoc]

theorem gauges_show_state_late_expiry :
    ∃ (history : ChaosHistory) (w : World), Trace World.step {} history w ∧
      w.active.memory = false ∧ (w.active.memory = true ↔ 0 < w.state.memoryBytes) := by
  obtain ⟨history, w, run, atLeastOne, off⟩ := exists_trace_of_replay World.step {}
    [.memory { sizeMb := some (1 / 1048576) }, .start (.memory 1 10), .reset, .finish (.memory 1 10)]
    (fun history w => (∀ made ∈ history, AtLeastOneByte made.label) ∧ w.active.memory = false)
    (by decide +kernel)
  exact ⟨history, w, run, off, (gauges_show_state history w run atLeastOne).2.2.2.1⟩

end AutoSre.Chaos
