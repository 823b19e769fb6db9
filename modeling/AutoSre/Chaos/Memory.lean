import Mathlib.Algebra.BigOperators.Group.List.Lemmas
import AutoSre.Chaos.Controller

/-! # Memory chaos: the cap and the accounting

`trigger_memory` checks the cap against `memory_bytes`, which is raised only when the
task starts and zeroed by a reset while tasks still hold their blocks.  So the cap is
kept exactly as long as each accepted request also fits beside what is held and what
is scheduled (`Overcommits`).

`_run_memory` subtracts its size when it ends whether or not its block was still
listed.  So `memory_bytes` is the size of the listed blocks exactly as long as no task
ends whose block a reset has forgotten while other blocks are listed (`ForgottenHold`).
-/

namespace AutoSre.Chaos

open AutoSre.Lib AutoSre.Lib.Python

/-! ## What a step does to memory -/

def Task.bytes : Task → ℕ
  | .cpu _ => 0
  | .memory sizeBytes _ => sizeBytes

namespace World

/-- The bytes of the blocks that started tasks still reference. -/
def heldBytes (w : World) : ℕ := (w.running.map Task.bytes).sum

/-- The bytes that tasks created and not yet started will allocate. -/
def scheduledBytes (w : World) : ℕ := (w.scheduled.map Task.bytes).sum

end World

/-- Two worlds agree on everything the memory mode reads or writes. -/
structure SameMemory (w after : World) : Prop where
  bytes : after.state.memoryBytes = w.state.memoryBytes
  blocks : after.state.memoryBlocks = w.state.memoryBlocks
  scheduled : after.scheduled = w.scheduled
  running : after.running = w.running

def Event.touchesMemory : Event → Bool
  | .memory _ | .reset | .start _ | .finish _ => true
  | .latency _ | .errors _ | .cpu _ | .status | .arrive _ | .wake _ => false

/-- What one step can do to the memory mode. -/
inductive MemoryEffect (w : World) : Event → World → Prop where
  | frame {event : Event} {after : World} : event.touchesMemory = false → SameMemory w after →
      MemoryEffect w event after
  | burn {event : Event} {after : World} (duration : ℚ) : event.touchesMemory = false →
      SameMemory { w with scheduled := .cpu duration :: w.scheduled } after → MemoryEffect w event after
  | refused (body : MemoryBody) :
      (∀ config, body.validate = some config →
        memoryMaxBytes < w.state.memoryBytes + config.sizeBytes) →
      MemoryEffect w (.memory body) w
  | accepted (body : MemoryBody) (config : MemoryConfig) {after : World} : body.validate = some config →
      w.state.memoryBytes + config.sizeBytes ≤ memoryMaxBytes →
      SameMemory
        { w with scheduled := .memory config.sizeBytes config.holdSeconds :: w.scheduled } after →
      MemoryEffect w (.memory body) after
  | forgotten : MemoryEffect w .reset w.reset.2
  | started (task : Task) : task ∈ w.scheduled →
      MemoryEffect w (.start task) (w.launch task)
  | finished (task : Task) : task ∈ w.running →
      MemoryEffect w (.finish task) (w.retire task)

theorem step_memoryEffect {w after : World} {event : Event} (taken : w.step event = some after) :
    MemoryEffect w event after := by
  cases World.step_moves taken with
  | latency body | errors body =>
    refine .frame rfl ?_
    simp only [World.handle]
    split <;> exact ⟨rfl, rfl, rfl, rfl⟩
  | cpu body =>
    simp only [World.handle]
    split
    · exact .burn _ rfl ⟨rfl, rfl, rfl, rfl⟩
    · exact .frame rfl ⟨rfl, rfl, rfl, rfl⟩
  | memory body =>
    cases validated : body.validate with
    | none => exact .refused body (by simp [validated])
    | some config =>
      simp only [World.handle, World.triggerMemory]
      split
      next beyond => exact .refused body (by simpa [validated] using beyond)
      next within => exact .accepted body config validated (not_lt.mp within) ⟨rfl, rfl, rfl, rfl⟩
  | reset => exact .forgotten
  | status => exact .frame rfl ⟨rfl, rfl, rfl, rfl⟩
  | start task member => exact .started task member
  | finish task member => exact .finished task member
  | arrive path =>
    obtain ⟨accumulator, total, sleeping, arrived⟩ := w.arrive_eq path
    rw [arrived]
    exact .frame rfl ⟨rfl, rfl, rfl, rfl⟩
  | wake delay asleep =>
    obtain ⟨accumulator, total, woken⟩ := w.wake_eq delay
    rw [woken]
    exact .frame rfl ⟨rfl, rfl, rfl, rfl⟩

/-! ## The cap -/

/-- An accepted request that does not fit beside the blocks still held and the tasks
    still scheduled. -/
def Overcommits (w : World) : Event → Prop
  | .memory body =>
    ∃ config, config ∈ body.validate ∧
      w.state.memoryBytes + config.sizeBytes ≤ memoryMaxBytes ∧
      memoryMaxBytes < w.heldBytes + w.scheduledBytes + config.sizeBytes
  | _ => False

instance (w : World) : DecidablePred (Overcommits w)
  | .memory body => inferInstanceAs (Decidable (∃ config, config ∈ body.validate ∧ _))
  | .latency _ | .errors _ | .cpu _ | .reset | .status | .start _ | .finish _ | .arrive _
  | .wake _ => inferInstanceAs (Decidable False)

/-- However the tasks scheduled so far start, the blocks held stay under the cap. -/
def UnderCap (w : World) : Prop :=
  ∀ (starts : ChaosHistory) (later : World), Trace World.step w starts later →
    (∀ made ∈ starts, ∃ task, made.label = .start task) → later.heldBytes ≤ memoryMaxBytes

theorem committed_launch {w : World} {task : Task} (member : task ∈ w.scheduled) :
    (w.launch task).heldBytes + (w.launch task).scheduledBytes = w.heldBytes + w.scheduledBytes := by
  have split := List.sum_map_erase Task.bytes member
  simp only [World.heldBytes, World.scheduledBytes, World.launch, List.map_cons, List.sum_cons]
  omega

theorem committed_retire {w : World} {task : Task} (member : task ∈ w.running) :
    task.bytes + ((w.retire task).heldBytes + (w.retire task).scheduledBytes) =
      w.heldBytes + w.scheduledBytes := by
  have freed := List.sum_map_erase Task.bytes member
  have same : (w.finishTask task).scheduled = w.scheduled := by cases task <;> rfl
  simp only [World.heldBytes, World.scheduledBytes, World.retire, same]
  omega

theorem exists_all_started (tasks : List Task) (w : World) (all : w.scheduled = tasks) :
    ∃ starts later, Trace World.step w starts later ∧
      (∀ made ∈ starts, ∃ task, made.label = .start task) ∧
      later.heldBytes = w.heldBytes + w.scheduledBytes := by
  induction tasks generalizing w with
  | nil => exact ⟨[], w, .nil, by simp, by simp [World.scheduledBytes, all]⟩
  | cons task tasks ih =>
    have member : task ∈ w.scheduled := by simp [all]
    obtain ⟨starts, later, run, areStarts, held⟩ := ih (w.launch task) (by simp [World.launch, all])
    refine ⟨starts ++ [⟨w, .start task, _⟩], later, run.prepend (World.step_start member), ?_, ?_⟩
    · simpa [or_imp, forall_and] using areStarts
    · rw [held, committed_launch member]

theorem underCap_iff (w : World) : UnderCap w ↔ w.heldBytes + w.scheduledBytes ≤ memoryMaxBytes := by
  constructor
  · intro safe
    obtain ⟨starts, later, run, areStarts, held⟩ := exists_all_started w.scheduled w rfl
    rw [← held]
    exact safe starts later run areStarts
  · intro fits starts later run areStarts
    -- a run of starts keeps the sum of held and scheduled bytes
    have kept : later.heldBytes + later.scheduledBytes = w.heldBytes + w.scheduledBytes := by
      induction run with
      | nil => rfl
      | @snoc past before label after earlier taken ih =>
        simp only [List.forall_mem_cons] at areStarts
        obtain ⟨⟨task, rfl⟩, areStarts⟩ := areStarts
        rw [← ih areStarts]
        cases step_memoryEffect taken with
        | frame neutral _ | burn _ neutral _ => cases neutral
        | started _ member => exact committed_launch member
    omega

theorem not_overcommits {w : World} {event : Event} (neutral : event.touchesMemory = false) :
    ¬Overcommits w event := by
  cases event <;> simp_all [Overcommits, Event.touchesMemory]

-- UnderCap speaks about continuations; its arithmetic form `underCap_iff` is what a step
-- is checked against
theorem underCap_step {w after : World} {event : Event} (safe : UnderCap w)
    (taken : w.step event = some after) : UnderCap after ↔ ¬Overcommits w event := by
  rw [underCap_iff] at safe ⊢
  cases step_memoryEffect taken with
  | frame neutral same =>
    simpa [not_overcommits neutral, World.heldBytes, World.scheduledBytes, same.running,
      same.scheduled] using safe
  | burn duration neutral same =>
    simpa [not_overcommits neutral, World.heldBytes, World.scheduledBytes, same.running,
      same.scheduled, Task.bytes] using safe
  | refused body beyond =>
    have noCommit : ¬Overcommits w (.memory body) := by
      rintro ⟨config, validated, within, -⟩
      exact absurd (beyond config validated) (not_lt.mpr within)
    simp [noCommit, safe]
  | accepted body config validated within same =>
    -- the handler looked at `memory_bytes` only
    simp only [Overcommits, validated, Option.mem_some_iff, exists_eq_left', within, true_and, not_lt,
      World.heldBytes, World.scheduledBytes, same.running, same.scheduled, List.map_cons,
      List.sum_cons, Task.bytes]
    omega
  | forgotten => simpa [Overcommits, World.reset, World.heldBytes, World.scheduledBytes] using safe
  | started task member => simpa [Overcommits, committed_launch member] using safe
  | finished task member =>
    have freed := committed_retire member
    simp only [Overcommits, not_false_iff, iff_true]
    omega

/-- In every run the blocks held stay under the cap if no accepted request overcommits;
    and the run, with its scheduled tasks free to start at any moment, stays under the cap
    exactly then. -/
theorem memory_cap_iff (history : ChaosHistory) (w : World) (run : Trace World.step {} history w) :
    ((∀ made ∈ history, ¬Overcommits made.before made.label) →
        Always (fun _ w => w.heldBytes ≤ memoryMaxBytes) {} history) ∧
      (Always (fun _ w => UnderCap w) {} history ↔
        ∀ made ∈ history, ¬Overcommits made.before made.label) := by
  have exact_ : Always (fun _ w => UnderCap w) {} history ↔
      ∀ made ∈ history, ¬Overcommits made.before made.label := by
    refine run.always_iff_forall (C := fun w event => ¬Overcommits w event) ?_ ?_
    · rw [underCap_iff]
      decide +kernel
    · intro past before event after _ safe taken
      exact underCap_step safe taken
  refine ⟨fun none => (exact_.mpr none).mono ?_, exact_⟩
  intro _ w safe
  exact safe [] w .nil (by simp)

theorem memory_cap_one_request :
    ∃ (history : ChaosHistory) (w : World), Trace World.step {} history w ∧ w.heldBytes = 209715200 ∧
      Always (fun _ w => w.heldBytes ≤ memoryMaxBytes) {} history := by
  obtain ⟨history, w, run, held, fits⟩ := exists_trace_of_replay World.step {}
    [.memory { sizeMb := some 200 }, .start (.memory 209715200 10)]
    (fun history w => w.heldBytes = 209715200 ∧
      ∀ made ∈ history, ¬Overcommits made.before made.label) (by decide +kernel)
  exact ⟨history, w, run, held, (memory_cap_iff history w run).1 fits⟩

/-- Two requests of 200 MB are accepted before the task of the first has started. -/
theorem two_pending_requests_exceed_cap :
    ∃ (history : ChaosHistory) (w : World), Trace World.step {} history w ∧
      w.heldBytes = 419430400 ∧ memoryMaxBytes < w.heldBytes :=
  exists_trace_of_replay World.step {}
    [.memory { sizeMb := some 200 }, .memory { sizeMb := some 200 },
      .start (.memory 209715200 10), .start (.memory 209715200 10)]
    (fun _ w => w.heldBytes = 419430400 ∧ memoryMaxBytes < w.heldBytes) (by decide +kernel)

/-! ## The accounting -/

/-- `memory_bytes` is the size of the blocks in `_memory_blocks`. -/
def Accounted (w : World) : Prop := w.state.memoryBytes = (w.state.memoryBlocks.map List.length).sum

/-- A non-empty hold ends that is no longer listed, while other blocks are. -/
def ForgottenHold (w : World) : Event → Prop
  | .finish (.memory sizeBytes _) =>
    touchedBlock sizeBytes ∉ w.state.memoryBlocks ∧ 0 < sizeBytes ∧ 0 < w.state.memoryBytes
  | _ => False

instance (w : World) : DecidablePred (ForgottenHold w)
  | .finish (.memory sizeBytes _) =>
    inferInstanceAs (Decidable (touchedBlock sizeBytes ∉ w.state.memoryBlocks ∧ _))
  | .finish (.cpu _) | .memory _ | .latency _ | .errors _ | .cpu _ | .reset | .status | .start _
  | .arrive _ | .wake _ => inferInstanceAs (Decidable False)

theorem not_forgottenHold {w : World} {event : Event} (neutral : event.touchesMemory = false) :
    ¬ForgottenHold w event := by
  cases event <;> simp_all [ForgottenHold, Event.touchesMemory]

theorem accounted_retire {w : World} (accounted : Accounted w) (sizeBytes : ℕ) (hold : ℚ) :
    Accounted (w.retire (.memory sizeBytes hold)) ↔
      ¬ForgottenHold w (.finish (.memory sizeBytes hold)) := by
  change w.state.memoryBytes - sizeBytes =
    ((w.state.memoryBlocks.erase (touchedBlock sizeBytes)).map List.length).sum ↔ _
  unfold Accounted at accounted
  by_cases listed : touchedBlock sizeBytes ∈ w.state.memoryBlocks
  · -- the listed block and the counter go down by the same size
    have freed := ((List.perm_cons_erase listed).map List.length).sum_eq
    rw [List.map_cons, List.sum_cons, length_touchedBlock] at freed
    simp only [ForgottenHold, listed, not_true_eq_false, false_and, not_false_iff, iff_true]
    omega
  · -- nothing is removed, but the size is subtracted all the same
    rw [List.erase_of_not_mem listed, ← accounted]
    simp only [ForgottenHold, listed, not_false_iff, true_and]
    omega

theorem accounted_step {w after : World} {event : Event} (accounted : Accounted w)
    (taken : w.step event = some after) : Accounted after ↔ ¬ForgottenHold w event := by
  cases step_memoryEffect taken with
  | frame neutral same | burn _ neutral same =>
    simpa [not_forgottenHold neutral, Accounted, same.bytes, same.blocks] using accounted
  | refused body beyond => simp [ForgottenHold, accounted]
  | accepted body config validated within same =>
    simpa [ForgottenHold, Accounted, same.bytes, same.blocks] using accounted
  | forgotten => simp [ForgottenHold, Accounted, World.reset]
  | started task member =>
    cases task <;> simpa [ForgottenHold, Accounted, World.launch, World.startTask] using accounted
  | finished task member =>
    cases task with
    | cpu duration => simpa [ForgottenHold, Accounted, World.retire, World.finishTask] using accounted
    | memory sizeBytes hold => exact accounted_retire accounted sizeBytes hold

/-- In every run the accounting is exact at every moment exactly when no forgotten hold ends
    while blocks are listed. -/
theorem memory_accounting_iff (history : ChaosHistory) (w : World)
    (run : Trace World.step {} history w) :
    Always (fun _ w => Accounted w) {} history ↔
      ∀ made ∈ history, ¬ForgottenHold made.before made.label := by
  refine run.always_iff_forall (C := fun w event => ¬ForgottenHold w event) rfl ?_
  intro past before event after _ accounted taken
  exact accounted_step accounted taken

theorem memory_accounting_one_hold :
    ∃ (history : ChaosHistory) (w : World), Trace World.step {} history w ∧ history.length = 3 ∧
      Always (fun _ w => Accounted w) {} history := by
  obtain ⟨history, w, run, taken, kept⟩ := exists_trace_of_replay World.step {}
    [.memory { sizeMb := some (3 / 1048576) }, .start (.memory 3 10), .finish (.memory 3 10)]
    (fun history _ => history.length = 3 ∧
      ∀ made ∈ history, ¬ForgottenHold made.before made.label) (by decide +kernel)
  exact ⟨history, w, run, taken, (memory_accounting_iff history w run).mpr kept⟩

/-- A hold of one byte is forgotten by a reset; when it ends, its byte is taken off the two
    bytes of a hold that started since. -/
theorem forgotten_hold_breaks_accounting :
    ∃ (history : ChaosHistory) (w : World), Trace World.step {} history w ∧
      w.state.memoryBytes = 1 ∧ (w.state.memoryBlocks.map List.length).sum = 2 :=
  exists_trace_of_replay World.step {}
    [.memory { sizeMb := some (1 / 1048576) }, .start (.memory 1 10), .reset,
      .memory { sizeMb := some (2 / 1048576) }, .start (.memory 2 10), .finish (.memory 1 10)]
    (fun _ w => w.state.memoryBytes = 1 ∧ (w.state.memoryBlocks.map List.length).sum = 2)
    (by decide +kernel)

end AutoSre.Chaos
