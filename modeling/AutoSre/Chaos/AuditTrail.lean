import AutoSre.Chaos.Controller

/-! # The audit trail of the chaos controller

Each control request that is accepted is counted on `chaos_events_total` and hands one
event to `record_event`, with the values that it has set.  So the events alone say which
faults are injected, and which tasks were created: of these each is waiting to start,
running, or has ended.  A request that is refused leaves no trace at all.
-/

namespace AutoSre.Chaos

open AutoSre.Lib AutoSre.Lib.Python

/-- What the data plane is told to inject, the rate in percent as in the request. -/
structure Settings where
  latencyEnabled : Bool := false
  latencySeconds : ℚ := 0
  errorEnabled : Bool := false
  ratePercent : ℚ := 0
deriving DecidableEq

/-! ## Reading the events -/

/-- The labels of `chaos_events_total` under which the event is counted. -/
def ChaosEvent.counter : ChaosEvent → ControlEvent
  | .latency enable _ => .latency enable
  | .errors enable _ => .errors enable
  | .cpuTrigger _ => .cpuTrigger
  | .memoryTrigger _ _ => .memoryTrigger
  | .reset => .reset

def ChaosEvent.apply (settings : Settings) : ChaosEvent → Settings
  | .latency enable seconds => { settings with latencyEnabled := enable, latencySeconds := seconds }
  | .errors enable ratePercent => { settings with errorEnabled := enable, ratePercent }
  | .cpuTrigger _ | .memoryTrigger _ _ => settings
  | .reset => {}

def ChaosEvent.task : ChaosEvent → Option Task
  | .cpuTrigger durationSeconds => some (.cpu durationSeconds)
  | .memoryTrigger sizeMb holdSeconds => some (.memory (int (sizeMb * 1024 * 1024)).toNat holdSeconds)
  | .latency _ _ | .errors _ _ | .reset => none

/-- The settings that the events end with, latest first. -/
def settingsTold (events : List ChaosEvent) : Settings :=
  events.foldr (fun event settings => event.apply settings) {}

def World.settings (w : World) : Settings :=
  ⟨w.state.latencyEnabled, w.state.latencySeconds, w.state.errorEnabled, w.state.errorRate * 100⟩

/-! ## Requests -/

def World.reply (w : World) : Event → Option Reply
  | .latency body => some (w.handle body.validate setLatency).1
  | .errors body => some (w.handle body.validate setErrors).1
  | .cpu body => some (w.handle body.validate triggerCpu).1
  | .memory body => some (w.handle body.validate triggerMemory).1
  | .reset => some w.reset.1
  | .status | .start _ | .finish _ | .arrive _ | .wake _ => none

def World.accepts (w : World) (event : Event) : Bool := (w.reply event).any (·.status = 200)

def World.refuses (w : World) (event : Event) : Bool := (w.reply event).any (·.status ≠ 200)

def Event.ended : Event → Option Task
  | .finish task => some task
  | .latency _ | .errors _ | .cpu _ | .memory _ | .reset | .status | .start _ | .arrive _ | .wake _ => none

/-- The tasks that have ended, latest first. -/
def tasksEnded (history : ChaosHistory) : List Task := history.filterMap fun made => made.label.ended

/-- The events against the state, the counters and the requests so far. -/
structure AuditTrail (history : ChaosHistory) (w : World) : Prop where
  settings : w.settings = settingsTold w.events
  counted : w.eventsTotal = w.events.map ChaosEvent.counter
  accepted : w.events.length = history.countP fun made => made.before.accepts made.label
  refused : ∀ made ∈ history, made.before.refuses made.label = true → made.after = made.before
  tasks : (w.scheduled ++ w.running ++ tasksEnded history).Perm (w.events.filterMap ChaosEvent.task)

/-! ## What one step adds -/

/-- A step that hands over `told` does what it says and counts it, and is the step of a
    request that is accepted. -/
structure Audited (w : World) (event : Event) (after : World) (told : Option ChaosEvent) : Prop where
  events : after.events = told.toList ++ w.events
  counted : after.eventsTotal = (told.map ChaosEvent.counter).toList ++ w.eventsTotal
  settings : after.settings = told.elim w.settings (ChaosEvent.apply w.settings)
  accepted : w.accepts event = told.isSome
  refused : w.refuses event = true → after = w
  tasks : (after.scheduled ++ after.running ++ event.ended.toList).Perm
    ((told.bind ChaosEvent.task).toList ++ (w.scheduled ++ w.running))

theorem Audited.silent {w after : World} {event : Event} (noReply : w.reply event = none)
    (events : after.events = w.events) (counted : after.eventsTotal = w.eventsTotal)
    (settings : after.settings = w.settings)
    (tasks : (after.scheduled ++ after.running ++ event.ended.toList).Perm (w.scheduled ++ w.running)) :
    Audited w event after none := by
  refine ⟨events, counted, settings, ?_, ?_, tasks⟩
  · simp [World.accepts, noReply]
  · simp [World.refuses, noReply]

theorem Audited.refusal {w : World} {event : Event} {reply : Reply} (replied : w.reply event = some reply)
    (notOk : reply.status ≠ 200) (noTask : event.ended = none) : Audited w event w none := by
  refine ⟨rfl, rfl, rfl, ?_, fun _ => rfl, ?_⟩
  · simp [World.accepts, replied, notOk]
  · simp [noTask]

theorem Audited.acceptance {w after : World} {event : Event} {reply : Reply} {told : ChaosEvent}
    (replied : w.reply event = some reply) (ok : reply.status = 200) (noTask : event.ended = none)
    (events : after.events = told :: w.events) (counted : after.eventsTotal = told.counter :: w.eventsTotal)
    (settings : after.settings = told.apply w.settings)
    (tasks : after.scheduled ++ after.running = told.task.toList ++ (w.scheduled ++ w.running)) :
    Audited w event after (some told) := by
  refine ⟨events, counted, settings, ?_, ?_, ?_⟩
  · simp [World.accepts, replied, ok]
  · simp [World.refuses, replied, ok]
  · simp [noTask, tasks]

theorem Audited.unprocessable {w : World} {event : Event} (replied : w.reply event = some .unprocessable)
    (noTask : event.ended = none) : Audited w event w none :=
  .refusal replied (by decide) noTask

theorem audited_memory (w : World) {body : MemoryBody} {config : MemoryConfig} (valid : body.validate = some config) :
    ∃ told, Audited w (.memory body) (w.triggerMemory config).2 told := by
  have replied : w.reply (.memory body) = some (w.triggerMemory config).1 := by rw [World.reply, valid]; rfl
  rw [World.triggerMemory] at replied ⊢
  -- the cap is checked before anything is counted or handed over
  split at replied
  next overCap =>
    rw [if_pos overCap]
    exact ⟨none, .refusal replied (by simp [Reply.status]) rfl⟩
  next fits =>
    rw [if_neg fits]
    exact ⟨some (.memoryTrigger config.sizeMb config.holdSeconds), .acceptance replied rfl rfl rfl rfl rfl rfl⟩

theorem perm_launch {w : World} {task : Task} (member : task ∈ w.scheduled) :
    ((w.launch task).scheduled ++ (w.launch task).running).Perm (w.scheduled ++ w.running) := by
  have restored : (task :: w.scheduled.erase task).Perm w.scheduled := (List.perm_cons_erase member).symm
  exact List.perm_middle.trans (restored.append_right _)

theorem perm_retire {w : World} {task : Task} (member : task ∈ w.running) :
    (w.scheduled ++ w.running.erase task ++ [task]).Perm (w.scheduled ++ w.running) := by
  have restored : (w.running.erase task ++ [task]).Perm w.running :=
    (List.perm_append_singleton _ _).trans (List.perm_cons_erase member).symm
  rw [List.append_assoc]
  exact restored.append_left _

theorem step_audited {w after : World} {event : Event} (taken : w.step event = some after) :
    ∃ told, Audited w event after told := by
  cases World.step_moves taken with
  | latency body =>
    cases valid : body.validate with
    | none => exact ⟨none, .unprocessable (by rw [World.reply, valid]; rfl) rfl⟩
    | some config =>
      refine ⟨some (.latency config.enable (if config.enable then config.delaySeconds else 0)), ?_⟩
      exact .acceptance (by rw [World.reply, valid]) rfl rfl rfl rfl rfl rfl
  | errors body =>
    cases valid : body.validate with
    | none => exact ⟨none, .unprocessable (by rw [World.reply, valid]; rfl) rfl⟩
    | some config =>
      refine ⟨some (.errors config.enable (if config.enable then config.ratePercent else 0)), ?_⟩
      -- the event has the percentage of the request, the state that divided by a hundred
      refine .acceptance (by rw [World.reply, valid]) rfl rfl rfl rfl ?_ rfl
      cases enabled : config.enable with
      | false => simp [World.settings, World.handle, World.setErrors, ChaosEvent.apply, enabled]
      | true => simp [World.settings, World.handle, World.setErrors, ChaosEvent.apply, enabled]
  | cpu body =>
    cases valid : body.validate with
    | none => exact ⟨none, .unprocessable (by rw [World.reply, valid]; rfl) rfl⟩
    | some config =>
      refine ⟨some (.cpuTrigger config.durationSeconds), ?_⟩
      exact .acceptance (by rw [World.reply, valid]) rfl rfl rfl rfl rfl rfl
  | memory body =>
    cases valid : body.validate with
    | none => exact ⟨none, .unprocessable (by rw [World.reply, valid]; rfl) rfl⟩
    | some config => exact audited_memory w valid
  | reset =>
    refine ⟨some .reset, .acceptance rfl rfl rfl rfl rfl ?_ rfl⟩
    simp [World.settings, World.reset, ChaosEvent.apply]
  | status => exact ⟨none, .silent rfl rfl rfl rfl (by simp [Event.ended])⟩
  | start task member =>
    refine ⟨none, ?_⟩
    cases task with
    | cpu duration => exact .silent rfl rfl rfl rfl (by simpa [Event.ended] using perm_launch member)
    | memory sizeBytes hold => exact .silent rfl rfl rfl rfl (by simpa [Event.ended] using perm_launch member)
  | finish task member =>
    refine ⟨none, ?_⟩
    cases task with
    | cpu duration => exact .silent rfl rfl rfl rfl (perm_retire member)
    | memory sizeBytes hold => exact .silent rfl rfl rfl rfl (perm_retire member)
  | arrive path =>
    obtain ⟨accumulator, total, sleeping, arrived⟩ := w.arrive_eq path
    rw [arrived]
    exact ⟨none, .silent rfl rfl rfl rfl (by simp [Event.ended])⟩
  | wake delay asleep =>
    obtain ⟨accumulator, total, woken⟩ := w.wake_eq delay
    rw [woken]
    exact ⟨none, .silent rfl rfl rfl rfl (by simp [Event.ended])⟩

/-! ## The run -/

theorem AuditTrail.step {past : ChaosHistory} {w after : World} {event : Event} (trail : AuditTrail past w)
    (taken : w.step event = some after) : AuditTrail (⟨w, event, after⟩ :: past) after := by
  obtain ⟨told, audited⟩ := step_audited taken
  constructor
  · rw [audited.settings, audited.events, trail.settings]
    cases told <;> rfl
  · rw [audited.counted, audited.events, trail.counted]
    cases told <;> rfl
  · rw [audited.events, List.length_append, trail.accepted, List.countP_cons, audited.accepted]
    cases told <;> simp [Nat.add_comm]
  · exact List.forall_mem_cons.mpr ⟨audited.refused, trail.refused⟩
  · have ended : tasksEnded (⟨w, event, after⟩ :: past) = event.ended.toList ++ tasksEnded past := by
      cases isEnded : event.ended <;> simp [tasksEnded, isEnded]
    have created : after.events.filterMap ChaosEvent.task =
        (told.bind ChaosEvent.task).toList ++ w.events.filterMap ChaosEvent.task := by
      rw [audited.events, List.filterMap_append]
      cases told with
      | none => rfl
      | some told => cases isTask : told.task <;> simp [isTask]
    rw [ended, created, ← List.append_assoc]
    refine (audited.tasks.append_right _).trans ?_
    rw [List.append_assoc]
    exact trail.tasks.append_left _

/-- In every run of control requests, tasks and data requests, the chaos events handed to
    `record_event` reproduce the settings of the fault injection, are counted one by one on
    `chaos_events_total`, and are as many as the `POST`s answered 200; every task they
    tell of is waiting, running or ended, and there is no other task; and a refused request
    changes nothing. -/
theorem audit_trail (history : ChaosHistory) (w : World) (run : Trace World.step {} history w) :
    AuditTrail history w := by
  refine run.history_invariant ?_ ?_
  · exact ⟨by simp [World.settings, settingsTold], rfl, rfl, by simp, .nil⟩
  · intro past before event after _ trail taken
    exact trail.step taken

theorem audit_trail_of_three :
    ∃ (history : ChaosHistory) (w : World), Trace World.step {} history w ∧ AuditTrail history w ∧
      w.settings = ⟨true, 2, false, 0⟩ ∧ w.running = [.cpu 5] ∧
      w.eventsTotal = [.cpuTrigger, .latency true] := by
  obtain ⟨history, w, run, settings, running, counted⟩ := exists_trace_of_replay World.step {}
    [.latency ⟨some true, some 2, false⟩, .errors ⟨some true, some 101, false⟩, .cpu {}, .start (.cpu 5)]
    (fun _ w => w.settings = ⟨true, 2, false, 0⟩ ∧ w.running = [.cpu 5] ∧
      w.eventsTotal = [.cpuTrigger, .latency true])
    (by decide +kernel)
  exact ⟨history, w, run, audit_trail history w run, settings, running, counted⟩

end AutoSre.Chaos
