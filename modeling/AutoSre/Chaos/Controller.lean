import AutoSre.Chaos.State
import AutoSre.Lib.Trace

/-! # The chaos controller

`ChaosController` of `chaos.py` together with what runs around it: the background
tasks its handlers create and the data-plane requests that sleep in it.  A handler
runs without an `await`, so it is one step; a task is created by one step, starts at
some later one and ends at a later one still, and any number of other steps may fall
in between.  `World.step` is that system.
-/

namespace AutoSre.Chaos

open AutoSre.Lib AutoSre.Lib.Python

/-- A background task by its arguments: `_run_cpu(duration)` or `_run_memory(size_bytes, hold)`. -/
inductive Task where
  | cpu (duration : ℚ)
  | memory (sizeBytes : ℕ) (hold : ℚ)
deriving DecidableEq

structure Gauges where
  latency : Bool := false
  errors : Bool := false
  cpu : Bool := false
  memory : Bool := false
deriving DecidableEq

inductive ControlEvent where
  | latency (enable : Bool)
  | errors (enable : Bool)
  | cpuTrigger
  | memoryTrigger
  | reset
deriving DecidableEq

/-- The events persisted under `Source.CHAOS`, with their details. -/
inductive ChaosEvent where
  | latency (enable : Bool) (seconds : ℚ)
  | errors (enable : Bool) (ratePercent : ℚ)
  | cpuTrigger (durationSeconds : ℚ)
  | memoryTrigger (sizeMb holdSeconds : ℚ)
  | reset
deriving DecidableEq

/-- The controller's process.  `scheduled` are the tasks created and not yet started,
    `running` those that started and have not ended; `sleeping` are the delays of the
    requests inside `asyncio.sleep`. -/
structure World where
  state : ChaosState := {}
  active : Gauges := {}
  eventsTotal : List ControlEvent := []
  events : List ChaosEvent := []
  errorInjectionsTotal : ℕ := 0
  latencyObserved : List ℚ := []
  scheduled : List Task := []
  running : List Task := []
  sleeping : List ℚ := []
deriving DecidableEq

/-- The answers to control requests; the first four are named by their `status` field. -/
inductive Reply where
  | ok (chaos : ChaosState.Snapshot)
  | startedCpu (durationSeconds : ℚ) (chaos : ChaosState.Snapshot)
  | startedMemory (sizeMb holdSeconds : ℚ) (chaos : ChaosState.Snapshot)
  | reset (chaos : ChaosState.Snapshot)
  | unprocessable
  | overCap (requestedMb capMb heldMb : ℚ)
deriving DecidableEq

def Reply.status : Reply → ℕ
  | .ok _ | .startedCpu _ _ | .startedMemory _ _ _ | .reset _ => 200
  | .unprocessable => 422
  | .overCap _ _ _ => 400

namespace World

/-! ## Control plane -/

def setLatency (w : World) (config : LatencyConfig) : Reply × World :=
  let seconds := if config.enable then config.delaySeconds else 0
  let w := { w with
    state := { w.state with latencyEnabled := config.enable, latencySeconds := seconds }
    active := { w.active with latency := config.enable }
    eventsTotal := .latency config.enable :: w.eventsTotal
    events := .latency config.enable seconds :: w.events }
  (.ok w.state.snapshot, w)

def setErrors (w : World) (config : ErrorConfig) : Reply × World :=
  let w := { w with
    state := { w.state with
      errorEnabled := config.enable
      errorRate := if config.enable then config.ratePercent / 100 else 0
      errorAccumulator := 0 }
    active := { w.active with errors := config.enable }
    eventsTotal := .errors config.enable :: w.eventsTotal
    events := .errors config.enable (if config.enable then config.ratePercent else 0) :: w.events }
  (.ok w.state.snapshot, w)

def triggerCpu (w : World) (config : CPUConfig) : Reply × World :=
  let w := { w with
    eventsTotal := .cpuTrigger :: w.eventsTotal
    events := .cpuTrigger config.durationSeconds :: w.events
    scheduled := .cpu config.durationSeconds :: w.scheduled }
  (.startedCpu config.durationSeconds w.state.snapshot, w)

def triggerMemory (w : World) (config : MemoryConfig) : Reply × World :=
  -- the counter is raised when the task starts, so requests not started yet are not seen here
  if memoryMaxBytes < w.state.memoryBytes + config.sizeBytes then
    (.overCap config.sizeMb memoryMaxMb (w.state.memoryBytes / 1024 / 1024), w)
  else
    let w := { w with
      eventsTotal := .memoryTrigger :: w.eventsTotal
      events := .memoryTrigger config.sizeMb config.holdSeconds :: w.events
      scheduled := .memory config.sizeBytes config.holdSeconds :: w.scheduled }
    (.startedMemory config.sizeMb config.holdSeconds w.state.snapshot, w)

def reset (w : World) : Reply × World :=
  -- `cpu_running` and the tasks created so far are left alone
  let w := { w with
    state := { w.state with
      latencyEnabled := false
      latencySeconds := 0
      errorEnabled := false
      errorRate := 0
      errorAccumulator := 0
      memoryBlocks := []
      memoryBytes := 0 }
    active := { w.active with latency := false, errors := false, memory := false }
    eventsTotal := .reset :: w.eventsTotal
    events := .reset :: w.events }
  (.reset w.state.snapshot, w)

def status (w : World) : ChaosState.Snapshot := w.state.snapshot

/-- A request body goes through its model first; a body that does not validate is
    answered 422 and no handler runs. -/
def handle {β : Type} (w : World) (config : Option β) (handler : World → β → Reply × World) :
    Reply × World :=
  match config with
  | some config => handler w config
  | none => (.unprocessable, w)

/-! ## Background tasks -/

/-! A task runs in two pieces: `startTask` is what comes before its `await`, `finishTask`
its `finally` clause. -/

def startTask (w : World) : Task → World
  | .cpu _ => { w with state.cpuRunning := true, active.cpu := true }
  | .memory sizeBytes _ =>
    { w with
      state := { w.state with
        memoryBlocks := w.state.memoryBlocks ++ [touchedBlock sizeBytes]
        memoryBytes := w.state.memoryBytes + sizeBytes }
      active := { w.active with memory := true } }

def finishTask (w : World) : Task → World
  | .cpu _ => { w with state.cpuRunning := false, active.cpu := false }
  | .memory sizeBytes _ =>
    -- `max(0, ...)`, also when the block below is no longer there
    let memoryBytes := w.state.memoryBytes - sizeBytes
    { w with
      state := { w.state with
        -- `list.remove` by value, the `ValueError` of a missing block is swallowed
        memoryBlocks := w.state.memoryBlocks.erase (touchedBlock sizeBytes)
        memoryBytes }
      active := { w.active with memory := if memoryBytes = 0 then false else w.active.memory } }

/-! ## Data plane -/

/-- `_CONTROL_PATHS` and `_CONTROL_PREFIXES` -/
def isControlPath (path : Str) : Bool :=
  ["/health", "/ready", "/metrics", "/docs", "/redoc", "/openapi.json"].any (·.toList = path) ||
    ["/chaos", "/breaker", "/rate-limit", "/failures"].any fun head => startswith head.toList path

/-- The second half of `apply_request_chaos`: `true` for an injected 500. -/
def injectError (w : World) : Bool × World :=
  let (inject, state) := w.state.shouldInjectError
  if inject then (true, { w with state, errorInjectionsTotal := w.errorInjectionsTotal + 1 })
  else (false, { w with state })

/-- A request reaches `apply_request_chaos` and runs up to its sleep, or to its end. -/
def arrive (w : World) (path : Str) : World :=
  if isControlPath path then w
  else if w.state.latencyEnabled ∧ 0 < w.state.latencySeconds then
    { w with sleeping := w.state.latencySeconds :: w.sleeping }
  else w.injectError.2

def wake (w : World) (delay : ℚ) : World :=
  { w with
    sleeping := w.sleeping.erase delay
    -- the histogram reads the delay from the state again, after the sleep
    latencyObserved := w.state.latencySeconds :: w.latencyObserved }.injectError.2

end World

/-! ## The system -/

inductive Event where
  | latency (body : LatencyBody)
  | errors (body : ErrorBody)
  | cpu (body : CPUBody)
  | memory (body : MemoryBody)
  | reset
  | status
  | start (task : Task)
  | finish (task : Task)
  | arrive (path : Str)
  | wake (delay : ℚ)

namespace World

def launch (w : World) (task : Task) : World :=
  { w.startTask task with
    scheduled := w.scheduled.erase task
    running := task :: w.running }

def retire (w : World) (task : Task) : World :=
  { w.finishTask task with running := w.running.erase task }

/-- A request can come at any time; a task starts once after it was scheduled and ends
    once after it started, and a request wakes up once. -/
def step (w : World) : Event → Option World
  | .latency body => some (w.handle body.validate setLatency).2
  | .errors body => some (w.handle body.validate setErrors).2
  | .cpu body => some (w.handle body.validate triggerCpu).2
  | .memory body => some (w.handle body.validate triggerMemory).2
  | .reset => some w.reset.2
  | .status => some w
  | .start task => if task ∈ w.scheduled then some (w.launch task) else none
  | .finish task => if task ∈ w.running then some (w.retire task) else none
  | .arrive path => some (w.arrive path)
  | .wake delay => if delay ∈ w.sleeping then some (w.wake delay) else none

theorem injectError_eq (w : World) : ∃ accumulator total,
    w.injectError.2 =
      { w with state := { w.state with errorAccumulator := accumulator }, errorInjectionsTotal := total } := by
  have moved := w.state.shouldInjectError_eq
  simp only [injectError]
  split <;> exact ⟨_, _, by rw [moved]⟩

theorem arrive_eq (w : World) (path : Str) : ∃ accumulator total sleeping,
    w.arrive path =
      { w with
        state := { w.state with errorAccumulator := accumulator }
        errorInjectionsTotal := total
        sleeping } := by
  simp only [arrive]
  split
  next isControl => exact ⟨w.state.errorAccumulator, w.errorInjectionsTotal, w.sleeping, rfl⟩
  next isData =>
    split
    next delayed => exact ⟨w.state.errorAccumulator, w.errorInjectionsTotal, _, rfl⟩
    next prompt =>
      obtain ⟨accumulator, total, moved⟩ := w.injectError_eq
      exact ⟨accumulator, total, w.sleeping, moved⟩

theorem wake_eq (w : World) (delay : ℚ) : ∃ accumulator total,
    w.wake delay =
      { w with
        state := { w.state with errorAccumulator := accumulator }
        errorInjectionsTotal := total
        sleeping := w.sleeping.erase delay
        latencyObserved := w.state.latencySeconds :: w.latencyObserved } :=
  injectError_eq _

theorem handle_triggerMemory_eq (w : World) (config : Option MemoryConfig) : ∃ eventsTotal events scheduled,
    (w.handle config triggerMemory).2 = { w with eventsTotal, events, scheduled } := by
  cases config with
  | none => exact ⟨w.eventsTotal, w.events, w.scheduled, rfl⟩
  | some config =>
    simp only [handle, triggerMemory]
    split
    next overCap => exact ⟨w.eventsTotal, w.events, w.scheduled, rfl⟩
    next fits => exact ⟨_, _, _, rfl⟩

theorem step_start {w : World} {task : Task} (member : task ∈ w.scheduled) :
    w.step (.start task) = some (w.launch task) :=
  if_pos member

/-- The steps again, as cases: what proofs about a step take apart. -/
inductive Moves (w : World) : Event → World → Prop where
  | latency (body : LatencyBody) : Moves w (.latency body) (w.handle body.validate setLatency).2
  | errors (body : ErrorBody) : Moves w (.errors body) (w.handle body.validate setErrors).2
  | cpu (body : CPUBody) : Moves w (.cpu body) (w.handle body.validate triggerCpu).2
  | memory (body : MemoryBody) : Moves w (.memory body) (w.handle body.validate triggerMemory).2
  | reset : Moves w .reset w.reset.2
  | status : Moves w .status w
  | start (task : Task) : task ∈ w.scheduled → Moves w (.start task) (w.launch task)
  | finish (task : Task) : task ∈ w.running → Moves w (.finish task) (w.retire task)
  | arrive (path : Str) : Moves w (.arrive path) (w.arrive path)
  | wake (delay : ℚ) : delay ∈ w.sleeping → Moves w (.wake delay) (w.wake delay)

theorem step_moves {w after : World} {event : Event} (taken : w.step event = some after) :
    w.Moves event after := by
  cases event with
  | latency body =>
    cases taken
    exact .latency body
  | errors body =>
    cases taken
    exact .errors body
  | cpu body =>
    cases taken
    exact .cpu body
  | memory body =>
    cases taken
    exact .memory body
  | reset =>
    cases taken
    exact .reset
  | status =>
    cases taken
    exact .status
  | arrive path =>
    cases taken
    exact .arrive path
  | start task =>
    obtain ⟨member, taken⟩ := Option.ite_none_right_eq_some.mp taken
    cases taken
    exact .start task member
  | finish task =>
    obtain ⟨member, taken⟩ := Option.ite_none_right_eq_some.mp taken
    cases taken
    exact .finish task member
  | wake delay =>
    obtain ⟨asleep, taken⟩ := Option.ite_none_right_eq_some.mp taken
    cases taken
    exact .wake delay asleep

end World

abbrev ChaosHistory := List (Transition World Event)

end AutoSre.Chaos
