import AutoSre.Chaos.Controller

/-! # What a reset quiesces

`reset` clears the toggles and the memory counters.  It neither clears `cpu_running`
nor cancels the tasks already created, so a burn goes on, and a task that starts after
the reset switches its mode on again.  `Idle` is what has to hold before the reset for
chaos to stay off after it.
-/

namespace AutoSre.Chaos

open AutoSre.Lib AutoSre.Lib.Python

/-! ## What a reset is for -/

/-- The requests that turn chaos on: an enabled toggle, a burn, an accepted allocation. -/
def Enables (w : World) : Event → Prop
  | .latency body => ∃ config ∈ body.validate, config.enable = true
  | .errors body => ∃ config ∈ body.validate, config.enable = true
  | .cpu body => ∃ config, config ∈ body.validate
  | .memory body => ∃ config ∈ body.validate, w.state.memoryBytes + config.sizeBytes ≤ memoryMaxBytes
  | .reset | .status | .start _ | .finish _ | .arrive _ | .wake _ => False

/-- The reply to a reset in `w`, and every snapshot until chaos is next turned on, says
    that chaos is not active. -/
def ResetQuiesces (w : World) : Prop :=
  (∃ chaos, w.reset.1 = .reset chaos ∧ chaos.active = false) ∧
    ∀ (history : ChaosHistory) (later : World), Trace World.step w.reset.2 history later →
      (∀ made ∈ history, ¬Enables made.before made.label) → later.status.active = false

/-- No burn is on, and no task is scheduled that would switch its mode on. -/
structure Idle (w : World) : Prop where
  cpu_off : w.state.cpuRunning = false
  no_burn : ∀ duration, .cpu duration ∉ w.scheduled
  no_block : ∀ sizeBytes hold, .memory sizeBytes hold ∈ w.scheduled → sizeBytes = 0

/-! ## Chaos stays off -/

/-- Chaos is off and nothing scheduled will switch it on. -/
structure Calm (w : World) : Prop extends Idle w where
  latency_off : w.state.latencyEnabled = false
  errors_off : w.state.errorEnabled = false
  memory_off : w.state.memoryBytes = 0

theorem Calm.active_eq_false {w : World} (calm : Calm w) : w.status.active = false := by
  simp [World.status, ChaosState.snapshot, ChaosState.isActive, calm.latency_off, calm.errors_off,
    calm.cpu_off, calm.memory_off]

theorem Idle.calm_reset {w : World} (idle : Idle w) : Calm w.reset.2 where
  cpu_off := idle.cpu_off
  no_burn := idle.no_burn
  no_block := idle.no_block
  latency_off := rfl
  errors_off := rfl
  memory_off := rfl

theorem Calm.congr {w after : World} (calm : Calm w)
    (latency : after.state.latencyEnabled = w.state.latencyEnabled)
    (errors : after.state.errorEnabled = w.state.errorEnabled)
    (cpu : after.state.cpuRunning = w.state.cpuRunning)
    (memory : after.state.memoryBytes = w.state.memoryBytes)
    (scheduled : after.scheduled = w.scheduled) : Calm after where
  cpu_off := cpu.trans calm.cpu_off
  no_burn := by simpa only [scheduled] using calm.no_burn
  no_block := by simpa only [scheduled] using calm.no_block
  latency_off := latency.trans calm.latency_off
  errors_off := errors.trans calm.errors_off
  memory_off := memory.trans calm.memory_off

theorem Calm.launch {w : World} (calm : Calm w) {task : Task} (member : task ∈ w.scheduled) :
    Calm (w.launch task) := by
  cases task with
  | cpu duration => exact absurd member (calm.no_burn duration)
  | memory sizeBytes hold =>
    -- an allocation of zero bytes leaves `memory_bytes` at zero
    obtain rfl := calm.no_block sizeBytes hold member
    exact {
      cpu_off := calm.cpu_off
      no_burn := fun duration scheduled => calm.no_burn duration (List.mem_of_mem_erase scheduled)
      no_block := fun size hold scheduled => calm.no_block size hold (List.mem_of_mem_erase scheduled)
      latency_off := calm.latency_off
      errors_off := calm.errors_off
      memory_off := calm.memory_off }

theorem Calm.retire {w : World} (calm : Calm w) (task : Task) : Calm (w.retire task) := by
  cases task with
  | cpu duration => exact calm.congr rfl rfl calm.cpu_off.symm rfl rfl
  | memory sizeBytes hold =>
    refine calm.congr rfl rfl rfl ?_ rfl
    simp [World.retire, World.finishTask, calm.memory_off]

theorem Calm.step {w after : World} {event : Event} (calm : Calm w) (off : ¬Enables w event)
    (taken : w.step event = some after) : Calm after := by
  cases World.step_moves taken with
  | latency body =>
    cases validated : body.validate with
    | none => exact calm
    | some config =>
      have disabled : config.enable = false := by simpa [Enables, validated] using off
      exact calm.congr (disabled.trans calm.latency_off.symm) rfl rfl rfl rfl
  | errors body =>
    cases validated : body.validate with
    | none => exact calm
    | some config =>
      have disabled : config.enable = false := by simpa [Enables, validated] using off
      exact calm.congr rfl (disabled.trans calm.errors_off.symm) rfl rfl rfl
  | cpu body =>
    cases validated : body.validate with
    | none => exact calm
    | some config => exact absurd ⟨config, validated⟩ off
  | memory body =>
    cases validated : body.validate with
    | none => exact calm
    | some config =>
      have beyond : memoryMaxBytes < w.state.memoryBytes + config.sizeBytes := by
        simpa [Enables, validated] using off
      simpa [World.handle, World.triggerMemory, beyond] using calm
  | reset => exact calm.toIdle.calm_reset
  | status => exact calm
  | start task member => exact calm.launch member
  | finish task member => exact calm.retire task
  | arrive path =>
    obtain ⟨accumulator, total, sleeping, arrived⟩ := w.arrive_eq path
    rw [arrived]
    exact calm.congr rfl rfl rfl rfl rfl
  | wake delay asleep =>
    obtain ⟨accumulator, total, woken⟩ := w.wake_eq delay
    rw [woken]
    exact calm.congr rfl rfl rfl rfl rfl

theorem Calm.run {w later : World} {history : ChaosHistory} (calm : Calm w)
    (run : Trace World.step w history later)
    (off : ∀ made ∈ history, ¬Enables made.before made.label) : Calm later := by
  induction run with
  | nil => exact calm
  | snoc earlier taken ih =>
    simp only [List.forall_mem_cons] at off
    exact (ih off.2).step off.1 taken

/-! ## Chaos comes back -/

-- a task scheduled before the reset can be the next thing that happens after it
theorem status_after_launch {w : World} (quiesces : ResetQuiesces w) {task : Task}
    (member : task ∈ w.scheduled) : (w.reset.2.launch task).status.active = false := by
  have taken : w.reset.2.step (.start task) = some (w.reset.2.launch task) :=
    World.step_start member
  exact quiesces.2 _ _ (.snoc .nil taken) (by simp [Enables])

/-- A reset quiesces chaos exactly when no burn is on and no burn or non-empty block is
    scheduled. -/
theorem reset_quiesces_iff (w : World) : ResetQuiesces w ↔ Idle w := by
  constructor
  · intro quiesces
    refine ⟨?_, ?_, ?_⟩
    · obtain ⟨⟨chaos, replied, off⟩, -⟩ := quiesces
      cases replied
      simp_all [ChaosState.snapshot, ChaosState.isActive]
    · intro duration member
      have off := status_after_launch quiesces member
      simp [World.launch, World.startTask, World.status, ChaosState.snapshot, ChaosState.isActive] at off
    · intro sizeBytes hold member
      have off := status_after_launch quiesces member
      simp_all [World.launch, World.startTask, World.reset, World.status, ChaosState.snapshot, ChaosState.isActive]
  · intro idle
    refine ⟨⟨_, rfl, idle.calm_reset.active_eq_false⟩, ?_⟩
    intro history later run off
    exact (idle.calm_reset.run run off).active_eq_false

theorem reset_during_burn_stays_active :
    ∃ (history : ChaosHistory) (w : World), Trace World.step {} history w ∧
      w.reset.2.status.active = true ∧ ¬ResetQuiesces w := by
  obtain ⟨history, w, run, active⟩ := exists_trace_of_replay World.step {}
    [.cpu { durationSeconds := some 30 }, .start (.cpu 30)]
    (fun _ w => w.reset.2.status.active = true) (by decide +kernel)
  refine ⟨history, w, run, active, ?_⟩
  intro quiesces
  have off := quiesces.2 [] _ .nil (by simp)
  rw [active] at off
  cases off

end AutoSre.Chaos
