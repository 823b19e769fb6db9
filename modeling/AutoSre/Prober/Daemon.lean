import AutoSre.Lib.Trace
import AutoSre.Prober.Counters

/-! # The network daemon

`main` of `cmd/network-daemon` with its two goroutines: `Prober.Run`, which closes
`proberDone` when it returns, and the HTTP server, which calls `stop` if it dies.  Each
goroutine takes its steps by itself, and `Daemon.step` interleaves them with signals and
the ticks of the prober's ticker.

`Run` looks at the context only between two rounds, so a daemon that returns from `main`
has made whole rounds.  Else it ends because the configuration cannot be loaded, because
`time.NewTicker` panics on an interval that is not positive, or by a signal that nothing
catches: `signal.NotifyContext` comes after the configuration, and `stop` undoes it.

Where both a tick and the end of the context are there, `select` may take either.
-/

namespace AutoSre.Prober

open AutoSre.Lib AutoSre.GoServer

/-- `failed`: `ListenAndServe` has returned another error than `ErrServerClosed`, and the
    goroutine has not yet called `stop`, as it has in `stopped`. -/
inductive ServerStage where
  | listening
  | failed
  | stopped
  | closed
deriving DecidableEq

/-- `probing`: inside `probeAll`, with the outcomes of the round and the targets that are
    left with their positions; `returned`: `proberDone` is not closed yet. -/
inductive ProberStage where
  | unstarted
  | probing (round : ℕ → Outcomes) (left : List (Target × ℕ))
  | selecting
  | returned
  | finished

/-- How the process ends: by `os.Exit(1)`, by the panic of a goroutine, by a signal or with
    the return from `main`. -/
inductive Ending where
  | configError
  | panicked
  | killed
  | returned
deriving DecidableEq

/-- `starting`: before `signal.NotifyContext`; `leaving`: behind the deferred `stop`. -/
inductive MainStage where
  | starting
  | awaiting
  | shuttingDown
  | joining
  | leaving
  | ended (how : Ending)
deriving DecidableEq

/-- `done` is the root context, `ticked` the one tick that the ticker's channel holds. -/
structure Daemon where
  main : MainStage := .starting
  done : Bool := false
  ticked : Bool := false
  server : ServerStage := .listening
  prober : ProberStage := .unstarted
  metrics : Metrics := {}

inductive DaemonEvent where
  | load
  | signal
  | serverFails
  | serverStops
  | serverCloses
  | newTicker (first : ℕ → Outcomes)
  | tick
  | probe
  | endRound
  | beginRound (round : ℕ → Outcomes)
  | stopProber
  | closeDone
  | mainWakes
  | shutdownReturns (graceful : Bool)
  | mainJoins
  | mainExits

namespace Daemon

def start (loaded : Except LoadError (NetworkConfig ℤ)) (d : Daemon) : DaemonEvent → Option Daemon
  | .load =>
    match loaded with
    | .ok _ => some { d with main := .awaiting }
    | .error _ => some { d with main := .ended .configError }
  | .signal => some { d with main := .ended .killed }
  | _ => none

def catches (d : Daemon) : Bool :=
  match d.main with
  | .awaiting | .shuttingDown | .joining => d.server ≠ .stopped
  | .starting | .leaving | .ended _ => false

def proceed (cfg : NetworkConfig ℤ) (d : Daemon) : DaemonEvent → Option Daemon
  | .load => none
  | .signal => if d.catches then some { d with done := true } else some { d with main := .ended .killed }
  | .serverFails => if d.server = .listening then some { d with server := .failed } else none
  | .serverStops => if d.server = .failed then some { d with server := .stopped, done := true } else none
  | .serverCloses =>
    if d.server = .listening ∧ d.main ≠ .awaiting then some { d with server := .closed } else none
  | .newTicker first =>
    match d.prober with
    | .unstarted =>
      if 0 < cfg.pollInterval then some { d with prober := .probing first cfg.targets.zipIdx }
      else some { d with main := .ended .panicked }
    | .probing _ _ | .selecting | .returned | .finished => none
  | .tick =>
    match d.prober with
    | .probing _ _ | .selecting => some { d with ticked := true } -- dropped where the channel is full
    | .unstarted | .returned | .finished => none
  | .probe =>
    match d.prober with
    | .probing round (entry :: left) =>
      some { d with
        prober := .probing round left, metrics := d.metrics.probeTarget entry.1 (round entry.2) }
    | .probing _ [] | .unstarted | .selecting | .returned | .finished => none
  | .endRound =>
    match d.prober with
    | .probing _ [] => some { d with prober := .selecting }
    | .probing _ (_ :: _) | .unstarted | .selecting | .returned | .finished => none
  | .beginRound round =>
    match d.prober with
    | .selecting =>
      if d.ticked then some { d with prober := .probing round cfg.targets.zipIdx, ticked := false } else none
    | .unstarted | .probing _ _ | .returned | .finished => none
  | .stopProber =>
    match d.prober with
    | .selecting => if d.done then some { d with prober := .returned } else none
    | .unstarted | .probing _ _ | .returned | .finished => none
  | .closeDone =>
    match d.prober with
    | .returned => some { d with prober := .finished }
    | .unstarted | .probing _ _ | .selecting | .finished => none
  | .mainWakes => if d.main = .awaiting ∧ d.done then some { d with main := .shuttingDown } else none
  | .shutdownReturns _ => if d.main = .shuttingDown then some { d with main := .joining } else none
  | .mainJoins =>
    match d.main, d.prober with
    | .joining, .finished => some { d with main := .leaving }
    | _, _ => none
  | .mainExits => if d.main = .leaving then some { d with main := .ended .returned } else none

def step (loaded : Except LoadError (NetworkConfig ℤ)) (d : Daemon) (event : DaemonEvent) : Option Daemon :=
  match d.main, loaded with
  | .ended _, _ => none
  | .starting, _ => d.start loaded event
  | _, .ok cfg => d.proceed cfg event
  | _, .error _ => none

end Daemon

/-! ## What a step does -/

/-- The steps again, as cases, with what each needs. -/
inductive Daemon.Moves (loaded : Except LoadError (NetworkConfig ℤ)) (d : Daemon) : DaemonEvent → Daemon → Prop where
  | configFails {error : LoadError} : loaded = .error error →
      Moves loaded d .load { d with main := .ended .configError }
  | configLoads : d.main = .starting → Moves loaded d .load { d with main := .awaiting }
  | killed : d.catches = false → Moves loaded d .signal { d with main := .ended .killed }
  | signal : d.main ≠ .starting → Moves loaded d .signal { d with done := true }
  | serverFails : Moves loaded d .serverFails { d with server := .failed }
  | serverStops : d.main ≠ .starting → Moves loaded d .serverStops { d with server := .stopped, done := true }
  | serverCloses : Moves loaded d .serverCloses { d with server := .closed }
  | newTicker {cfg : NetworkConfig ℤ} {first : ℕ → Outcomes} : loaded = .ok cfg → d.prober = .unstarted →
      Moves loaded d (.newTicker first) { d with prober := .probing first cfg.targets.zipIdx }
  | panicked {cfg : NetworkConfig ℤ} {first : ℕ → Outcomes} : loaded = .ok cfg → cfg.pollInterval ≤ 0 →
      Moves loaded d (.newTicker first) { d with main := .ended .panicked }
  | tick : Moves loaded d .tick { d with ticked := true }
  | probe {round : ℕ → Outcomes} {entry : Target × ℕ} {left : List (Target × ℕ)} :
      d.prober = .probing round (entry :: left) →
      Moves loaded d .probe { d with
        prober := .probing round left, metrics := d.metrics.probeTarget entry.1 (round entry.2) }
  | endRound {round : ℕ → Outcomes} : d.prober = .probing round [] →
      Moves loaded d .endRound { d with prober := .selecting }
  | beginRound {cfg : NetworkConfig ℤ} {round : ℕ → Outcomes} : loaded = .ok cfg → d.prober = .selecting →
      Moves loaded d (.beginRound round) { d with prober := .probing round cfg.targets.zipIdx, ticked := false }
  | stopProber : d.prober = .selecting → d.done = true →
      Moves loaded d .stopProber { d with prober := .returned }
  | closeDone : d.prober = .returned → Moves loaded d .closeDone { d with prober := .finished }
  | mainWakes : d.done = true → Moves loaded d .mainWakes { d with main := .shuttingDown }
  | shutdownReturns {graceful : Bool} : d.main = .shuttingDown →
      Moves loaded d (.shutdownReturns graceful) { d with main := .joining }
  | mainJoins : d.main = .joining → d.prober = .finished →
      Moves loaded d .mainJoins { d with main := .leaving }
  | mainExits {cfg : NetworkConfig ℤ} : loaded = .ok cfg → d.main = .leaving →
      Moves loaded d .mainExits { d with main := .ended .returned }

theorem Daemon.start_moves {loaded : Except LoadError (NetworkConfig ℤ)} {d next : Daemon} {event : DaemonEvent}
    (starting : d.main = .starting) (taken : d.start loaded event = some next) : Moves loaded d event next := by
  cases event with
  | load =>
    cases loaded with
    | ok cfg =>
      cases taken
      exact .configLoads starting
    | error error =>
      cases taken
      exact .configFails rfl
  | signal =>
    cases taken
    exact .killed (by simp [catches, starting])
  | _ => cases taken

theorem Daemon.proceed_moves {loaded : Except LoadError (NetworkConfig ℤ)} {cfg : NetworkConfig ℤ}
    (isLoaded : loaded = .ok cfg) {d next : Daemon} {event : DaemonEvent} (started : d.main ≠ .starting)
    (taken : d.proceed cfg event = some next) : Moves loaded d event next := by
  cases event with
  | load => cases taken
  | signal =>
    simp only [proceed] at taken
    split at taken
    next caught =>
      cases taken
      exact .signal started
    next uncaught =>
      cases taken
      exact .killed (Bool.not_eq_true _ ▸ uncaught)
  | serverFails =>
    obtain ⟨isListening, taken⟩ := Option.ite_none_right_eq_some.mp taken
    cases taken
    exact .serverFails
  | serverStops =>
    obtain ⟨hasFailed, taken⟩ := Option.ite_none_right_eq_some.mp taken
    cases taken
    exact .serverStops started
  | serverCloses =>
    obtain ⟨isClosed, taken⟩ := Option.ite_none_right_eq_some.mp taken
    cases taken
    exact .serverCloses
  | newTicker first =>
    simp only [proceed] at taken
    split at taken
    next isUnstarted =>
      split at taken
      next positive =>
        cases taken
        exact .newTicker isLoaded isUnstarted
      next notPositive =>
        cases taken
        exact .panicked isLoaded (not_lt.mp notPositive)
    all_goals cases taken
  | tick =>
    simp only [proceed] at taken
    split at taken
    all_goals first | (cases taken; exact .tick) | cases taken
  | probe =>
    simp only [proceed] at taken
    split at taken
    next isProbing =>
      cases taken
      exact .probe isProbing
    all_goals cases taken
  | endRound =>
    simp only [proceed] at taken
    split at taken
    next isProbing =>
      cases taken
      exact .endRound isProbing
    all_goals cases taken
  | beginRound round =>
    simp only [proceed] at taken
    split at taken
    next isSelecting =>
      obtain ⟨_, taken⟩ := Option.ite_none_right_eq_some.mp taken
      cases taken
      exact .beginRound isLoaded isSelecting
    all_goals cases taken
  | stopProber =>
    simp only [proceed] at taken
    split at taken
    next isSelecting =>
      obtain ⟨isDone, taken⟩ := Option.ite_none_right_eq_some.mp taken
      cases taken
      exact .stopProber isSelecting isDone
    all_goals cases taken
  | closeDone =>
    simp only [proceed] at taken
    split at taken
    next isReturned =>
      cases taken
      exact .closeDone isReturned
    all_goals cases taken
  | mainWakes =>
    obtain ⟨⟨isAwaiting, isDone⟩, taken⟩ := Option.ite_none_right_eq_some.mp taken
    cases taken
    exact .mainWakes isDone
  | shutdownReturns graceful =>
    obtain ⟨isShuttingDown, taken⟩ := Option.ite_none_right_eq_some.mp taken
    cases taken
    exact .shutdownReturns isShuttingDown
  | mainJoins =>
    simp only [proceed] at taken
    split at taken
    next isJoining isFinished =>
      cases taken
      exact .mainJoins isJoining isFinished
    next => cases taken
  | mainExits =>
    obtain ⟨isLeaving, taken⟩ := Option.ite_none_right_eq_some.mp taken
    cases taken
    exact .mainExits isLoaded isLeaving

theorem Daemon.step_moves {loaded : Except LoadError (NetworkConfig ℤ)} {d next : Daemon} {event : DaemonEvent}
    (taken : d.step loaded event = some next) : (∀ how, d.main ≠ .ended how) ∧ Moves loaded d event next := by
  unfold Daemon.step at taken
  split at taken
  next => cases taken
  next starting => exact ⟨by simp [starting], start_moves starting taken⟩
  next cfg notEnded notStarting =>
    exact ⟨fun how ended => notEnded how ended, proceed_moves rfl (fun starting => notStarting starting) taken⟩
  next => cases taken

/-! ## Whole rounds -/

abbrev DaemonHistory := List (Transition Daemon DaemonEvent)

def endedRounds : DaemonHistory → List (ℕ → Outcomes)
  | [] => []
  | made :: past =>
    match made.label, made.before.prober with
    | .endRound, .probing round _ => endedRounds past ++ [round]
    | _, _ => endedRounds past

/-- The context is done because of a signal or because the server died. -/
def stopped (history : DaemonHistory) : Prop :=
  ∃ made ∈ history, made.label = .signal ∨ made.label = .serverStops

def Recorded (targets : List Target) (rounds : List (ℕ → Outcomes)) (metrics : Metrics) : ProberStage → Prop
  | .unstarted => rounds = [] ∧ metrics = {}
  | .probing round left => ∃ probed, targets.zipIdx = probed ++ left ∧
      metrics = probed.foldl (fun m entry => m.probeTarget entry.1 (round entry.2)) (run targets rounds)
  | .selecting | .returned | .finished => rounds ≠ [] ∧ metrics = run targets rounds

/-- What has come before each way to end. -/
def Ending.Explained (loaded : Except LoadError (NetworkConfig ℤ)) (history : DaemonHistory) (d : Daemon) :
    Ending → Prop
  | .configError => ∃ error, loaded = .error error
  | .panicked => ∃ cfg, loaded = .ok cfg ∧ cfg.pollInterval ≤ 0
  | .killed => ∃ made ∈ history, made.label = .signal ∧ made.before.catches = false
  | .returned => ∃ cfg, loaded = .ok cfg ∧ stopped history ∧ d.prober = .finished ∧ endedRounds history ≠ [] ∧
      d.metrics = run cfg.targets (endedRounds history)

structure Orderly (loaded : Except LoadError (NetworkConfig ℤ)) (history : DaemonHistory) (d : Daemon) : Prop where
  recorded : ∀ cfg, loaded = .ok cfg → Recorded cfg.targets (endedRounds history) d.metrics d.prober
  done : d.done = true → d.main ≠ .starting ∧ stopped history
  returned : d.prober = .returned ∨ d.prober = .finished → d.done = true
  leaving : d.main = .leaving → d.prober = .finished
  ended : ∀ how, d.main = .ended how → how.Explained loaded history d

theorem run_snoc (targets : List Target) (rounds : List (ℕ → Outcomes)) (round : ℕ → Outcomes) :
    run targets (rounds ++ [round]) = (run targets rounds).probeAll targets round := by
  simp [run]

theorem stopped_cons {history : DaemonHistory} (made : Transition Daemon DaemonEvent) (before : stopped history) :
    stopped (made :: history) := by
  obtain ⟨step, isMade, isStop⟩ := before
  exact ⟨step, List.mem_cons_of_mem _ isMade, isStop⟩

theorem Orderly.step {loaded : Except LoadError (NetworkConfig ℤ)} {past : DaemonHistory} {before after : Daemon}
    {event : DaemonEvent} (orderly : Orderly loaded past before) (taken : before.step loaded event = some after) :
    Orderly loaded (⟨before, event, after⟩ :: past) after := by
  obtain ⟨recorded, done, returned, leaving, -⟩ := orderly
  obtain ⟨running, moves⟩ := Daemon.step_moves taken
  have stillDone (isDone : before.done = true) :
      before.main ≠ .starting ∧ stopped (⟨before, event, after⟩ :: past) :=
    ⟨(done isDone).1, stopped_cons _ (done isDone).2⟩
  have notLeaving {stage : ProberStage} (atProber : before.prober = stage) (unfinished : stage ≠ .finished) :
      before.main ≠ .leaving := fun isLeaving => unfinished (atProber.symm.trans (leaving isLeaving))
  have notEnded (how : Ending) (ended : before.main = .ended how) {P : Prop} : P := absurd ended (running how)
  cases moves with
  | configFails failed =>
    exact ⟨recorded, fun isDone => ⟨by simp, (stillDone isDone).2⟩, returned, by simp, by
      rintro _ ⟨⟩
      exact ⟨_, failed⟩⟩
  | configLoads starting =>
    exact ⟨recorded, fun isDone => absurd starting (done isDone).1, returned, by simp, by simp⟩
  | killed uncaught =>
    refine ⟨recorded, fun isDone => ⟨by simp, (stillDone isDone).2⟩, returned, by simp, ?_⟩
    rintro _ ⟨⟩
    exact ⟨_, List.mem_cons_self, rfl, uncaught⟩
  | signal started =>
    exact ⟨recorded, fun _ => ⟨started, _, List.mem_cons_self, .inl rfl⟩, fun _ => rfl, leaving,
      fun how ended => notEnded how ended⟩
  | serverStops started =>
    exact ⟨recorded, fun _ => ⟨started, _, List.mem_cons_self, .inr rfl⟩, fun _ => rfl, leaving,
      fun how ended => notEnded how ended⟩
  | serverFails | serverCloses | tick =>
    exact ⟨recorded, stillDone, returned, leaving, fun how ended => notEnded how ended⟩
  | @newTicker cfg first isLoaded isUnstarted =>
    refine ⟨fun other isOther => ?_, stillDone, by simp, fun isLeaving => ?_, fun how ended => notEnded how ended⟩
    · have untouched := recorded other isOther
      rw [isUnstarted] at untouched
      obtain ⟨none, fresh⟩ := untouched
      cases Except.ok.inj (isLoaded.symm.trans isOther)
      exact ⟨[], rfl, by simp [endedRounds, none, fresh, run]⟩
    · exact absurd isLeaving (notLeaving isUnstarted (by simp))
  | panicked isLoaded notPositive =>
    refine ⟨recorded, fun isDone => ⟨by simp, (stillDone isDone).2⟩, returned, by simp, ?_⟩
    rintro _ ⟨⟩
    exact ⟨_, isLoaded, notPositive⟩
  | @probe round entry left isProbing =>
    refine ⟨fun cfg isLoaded => ?_, stillDone, by simp, fun isLeaving => ?_, fun how ended => notEnded how ended⟩
    · have probed := recorded cfg isLoaded
      rw [isProbing] at probed
      obtain ⟨probed, split, measured⟩ := probed
      have further : before.metrics.probeTarget entry.1 (round entry.2) =
          (probed ++ [entry]).foldl (fun m entry => m.probeTarget entry.1 (round entry.2))
            (run cfg.targets (endedRounds past)) := by
        rw [List.foldl_append, ← measured]
        rfl
      exact ⟨probed ++ [entry], by simp [split], further⟩
    · exact absurd isLeaving (notLeaving isProbing (by simp))
  | @endRound round isProbing =>
    refine ⟨fun cfg isLoaded => ?_, stillDone, by simp, fun isLeaving => ?_, fun how ended => notEnded how ended⟩
    · have probed := recorded cfg isLoaded
      rw [isProbing] at probed
      obtain ⟨probed, split, measured⟩ := probed
      rw [List.append_nil] at split
      simp only [endedRounds, isProbing]
      refine ⟨by simp, ?_⟩
      rw [run_snoc, Metrics.probeAll, split]
      exact measured
    · exact absurd isLeaving (notLeaving isProbing (by simp))
  | @beginRound cfg round isLoaded isSelecting =>
    refine ⟨fun other isOther => ?_, stillDone, by simp, fun isLeaving => ?_, fun how ended => notEnded how ended⟩
    · have whole := recorded other isOther
      rw [isSelecting] at whole
      cases Except.ok.inj (isLoaded.symm.trans isOther)
      exact ⟨[], rfl, whole.2⟩
    · exact absurd isLeaving (notLeaving isSelecting (by simp))
  | stopProber isSelecting isDone =>
    refine ⟨fun cfg isLoaded => ?_, stillDone, fun _ => isDone, fun isLeaving => ?_,
      fun how ended => notEnded how ended⟩
    · have whole := recorded cfg isLoaded
      rw [isSelecting] at whole
      exact whole
    · exact absurd isLeaving (notLeaving isSelecting (by simp))
  | closeDone isReturned =>
    refine ⟨fun cfg isLoaded => ?_, stillDone, fun _ => returned (.inl isReturned), fun _ => rfl,
      fun how ended => notEnded how ended⟩
    have whole := recorded cfg isLoaded
    rw [isReturned] at whole
    exact whole
  | mainWakes isDone =>
    exact ⟨recorded, fun isDone => ⟨by simp, (stillDone isDone).2⟩, returned, by simp, by simp⟩
  | shutdownReturns isShuttingDown =>
    exact ⟨recorded, fun isDone => ⟨by simp, (stillDone isDone).2⟩, returned, by simp, by simp⟩
  | mainJoins isJoining isFinished =>
    exact ⟨recorded, fun isDone => ⟨by simp, (stillDone isDone).2⟩, returned, fun _ => isFinished, by simp⟩
  | mainExits isLoaded isLeaving =>
    have isFinished := leaving isLeaving
    have whole := recorded _ isLoaded
    rw [isFinished] at whole
    have isStopped := (stillDone (returned (.inr isFinished))).2
    refine ⟨recorded, fun isDone => ⟨by simp, (stillDone isDone).2⟩, returned, by simp, ?_⟩
    rintro _ ⟨⟩
    exact ⟨_, isLoaded, isStopped, isFinished, whole.1, whole.2⟩

theorem orderly_run {loaded : Except LoadError (NetworkConfig ℤ)} {history : DaemonHistory} {d : Daemon}
    (trace : Trace (Daemon.step loaded) {} history d) : Orderly loaded history d := by
  refine trace.history_invariant (P := Orderly loaded) ?_ ?_
  · refine ⟨fun _ _ => ⟨rfl, rfl⟩, ?_, ?_, ?_, ?_⟩ <;> simp
  · intro past before event after _ orderly taken
    exact orderly.step taken

/-! ## The way out -/

/-- The steps that are left to the end of the process, if the prober takes no more ticks. -/
def ProberStage.rest (targets : ℕ) : ProberStage → ℕ
  | .unstarted => targets + 4
  | .probing _ left => left.length + 3
  | .selecting => 2
  | .returned => 1
  | .finished => 0

def MainStage.rest : MainStage → ℕ
  | .starting => 5
  | .awaiting => 4
  | .shuttingDown => 3
  | .joining => 2
  | .leaving => 1
  | .ended _ => 0

def Daemon.rest (targets : ℕ) (d : Daemon) : ℕ := d.prober.rest targets + d.main.rest

/-- A step that nothing from outside has to cause. -/
def DaemonEvent.isOwn : DaemonEvent → Bool
  | .newTicker _ | .probe | .endRound | .stopProber | .closeDone | .mainWakes | .shutdownReturns _ | .mainJoins
  | .mainExits => true
  | .load | .signal | .serverFails | .serverStops | .serverCloses | .tick | .beginRound _ => false

/-- The process is on its way out, and nothing has ended it otherwise. -/
structure Daemon.Going (d : Daemon) : Prop where
  done : d.done = true
  started : d.main ≠ .starting
  ended : ∀ how, d.main = .ended how → how = .returned

theorem Daemon.step_eq_proceed {cfg : NetworkConfig ℤ} {d : Daemon} (going : d.Going)
    (running : d.main ≠ .ended .returned) (event : DaemonEvent) : d.step (.ok cfg) event = d.proceed cfg event := by
  unfold step
  cases atMain : d.main with
  | starting => exact absurd atMain going.started
  | ended how => exact absurd (going.ended how atMain ▸ atMain) running
  | awaiting | shuttingDown | joining | leaving => rfl

theorem Daemon.advance {cfg : NetworkConfig ℤ} (positive : 0 < cfg.pollInterval) {d : Daemon} (going : d.Going)
    (running : d.main ≠ .ended .returned) :
    ∃ event next, event.isOwn = true ∧ d.step (.ok cfg) event = some next ∧ next.Going ∧
      next.rest cfg.targets.length + 1 = d.rest cfg.targets.length := by
  simp only [step_eq_proceed going running]
  obtain ⟨done, started, ended⟩ := going
  cases atProber : d.prober with
  | unstarted =>
    exact ⟨.newTicker default, { d with prober := .probing default cfg.targets.zipIdx }, rfl,
      by simp [proceed, atProber, positive], ⟨done, started, ended⟩,
      by simp [rest, ProberStage.rest, atProber]; omega⟩
  | probing round left =>
    cases left with
    | nil =>
      exact ⟨.endRound, { d with prober := .selecting }, rfl, by simp [proceed, atProber], ⟨done, started, ended⟩,
        by simp [rest, ProberStage.rest, atProber]; omega⟩
    | cons entry left =>
      exact ⟨.probe, { d with
          prober := .probing round left, metrics := d.metrics.probeTarget entry.1 (round entry.2) }, rfl,
        by simp [proceed, atProber], ⟨done, started, ended⟩, by simp [rest, ProberStage.rest, atProber]; omega⟩
  | selecting =>
    exact ⟨.stopProber, { d with prober := .returned }, rfl, by simp [proceed, atProber, done],
      ⟨done, started, ended⟩, by simp [rest, ProberStage.rest, atProber]; omega⟩
  | returned =>
    exact ⟨.closeDone, { d with prober := .finished }, rfl, by simp [proceed, atProber], ⟨done, started, ended⟩,
      by simp [rest, ProberStage.rest, atProber]; omega⟩
  | finished =>
    cases atMain : d.main with
    | starting => exact absurd atMain started
    | awaiting =>
      exact ⟨.mainWakes, { d with main := .shuttingDown }, rfl, by simp [proceed, atMain, done],
        ⟨done, by simp, by simp⟩, by simp [rest, MainStage.rest, atMain]⟩
    | shuttingDown =>
      exact ⟨.shutdownReturns true, { d with main := .joining }, rfl, by simp [proceed, atMain],
        ⟨done, by simp, by simp⟩, by simp [rest, MainStage.rest, atMain]⟩
    | joining =>
      exact ⟨.mainJoins, { d with main := .leaving }, rfl, by simp [proceed, atMain, atProber],
        ⟨done, by simp, by simp⟩, by simp [rest, MainStage.rest, atMain]⟩
    | leaving =>
      exact ⟨.mainExits, { d with main := .ended .returned }, rfl, by simp [proceed, atMain],
        ⟨done, by simp, by simp⟩, by simp [rest, MainStage.rest, atMain]⟩
    | ended how => exact absurd (ended how atMain ▸ atMain) running

/-- The process comes to its end in as many steps of its own as are left. -/
theorem Daemon.comes_to_end {cfg : NetworkConfig ℤ} (positive : 0 < cfg.pollInterval) {d : Daemon}
    (going : d.Going) :
    ∃ later final, Trace (Daemon.step (.ok cfg)) d later final ∧ final.main = .ended .returned ∧
      later.length ≤ d.rest cfg.targets.length ∧ ∀ made ∈ later, made.label.isOwn = true := by
  -- on the number of steps left; at none the process has ended
  generalize isRest : d.rest cfg.targets.length = rest
  induction rest generalizing d with
  | zero =>
    by_cases hasEnded : d.main = .ended .returned
    · exact ⟨[], d, .nil, hasEnded, le_refl _, by simp⟩
    · obtain ⟨_, _, _, _, _, less⟩ := Daemon.advance positive going hasEnded
      omega
  | succ rest ih =>
    by_cases hasEnded : d.main = .ended .returned
    · exact ⟨[], d, .nil, hasEnded, Nat.zero_le _, by simp⟩
    · obtain ⟨event, next, isOwn, taken, stillGoing, less⟩ := Daemon.advance positive going hasEnded
      obtain ⟨later, final, trace, ended, short, own⟩ := ih stillGoing (by omega)
      refine ⟨later ++ [⟨d, event, next⟩], final, trace.prepend taken, ended, ?_, ?_⟩
      · rw [List.length_append, List.length_singleton]
        omega
      · intro made isMade
        cases List.mem_append.mp isMade with
        | inl isLater => exact own made isLater
        | inr isFirst =>
          rw [List.mem_singleton.mp isFirst]
          exact isOwn

theorem rest_le {cfg : NetworkConfig ℤ} {history : DaemonHistory} {d : Daemon}
    (orderly : Orderly (.ok cfg) history d) (started : d.main ≠ .starting) :
    d.rest cfg.targets.length ≤ cfg.targets.length + 8 := by
  have mainRest : d.main.rest ≤ 4 := by
    cases atMain : d.main with
    | starting => exact absurd atMain started
    | awaiting | shuttingDown | joining | leaving | ended how => simp [MainStage.rest]
  have proberRest : d.prober.rest cfg.targets.length ≤ cfg.targets.length + 4 := by
    have recorded := orderly.recorded cfg rfl
    cases atProber : d.prober with
    | probing round left =>
      rw [atProber] at recorded
      obtain ⟨probed, split, _⟩ := recorded
      have lengths := congrArg List.length split
      rw [List.length_zipIdx, List.length_append] at lengths
      simp only [ProberStage.rest]
      omega
    | unstarted | selecting | returned | finished => simp [ProberStage.rest]
  unfold Daemon.rest
  omega

/-- Over every interleaving and for whatever `LoadNetwork` returns: the daemon ends because
    it returned an error, by the panic of a ticker whose interval is not positive, by a
    signal that comes when none is caught, or with the return from `main`; in this case a
    signal has come or the server has died, the prober has returned, and the metrics are
    those of whole rounds, one at least.  And with a positive interval, from every state
    with the context done in which the process runs, it can return by itself, within as
    many steps as it has targets and eight more. -/
theorem daemon_exits_with_whole_rounds (loaded : Except LoadError (NetworkConfig ℤ)) (history : DaemonHistory)
    (d : Daemon) (trace : Trace (Daemon.step loaded) {} history d) :
    (∀ how, d.main = .ended how → how.Explained loaded history d) ∧
      ∀ cfg, loaded = .ok cfg → 0 < cfg.pollInterval → d.done = true → (∀ how, d.main ≠ .ended how) →
        ∃ later final, Trace (Daemon.step loaded) d later final ∧ final.main = .ended .returned ∧
          later.length ≤ cfg.targets.length + 8 ∧ ∀ made ∈ later, made.label.isOwn = true := by
  have orderly := orderly_run trace
  refine ⟨orderly.ended, ?_⟩
  rintro cfg rfl positive isDone running
  have started := (orderly.done isDone).1
  obtain ⟨later, final, laterTrace, ended, short, own⟩ :=
    Daemon.comes_to_end positive ⟨isDone, started, fun how ended => absurd ended (running how)⟩
  exact ⟨later, final, laterTrace, ended, short.trans (rest_le orderly started), own⟩

/-- A signal in the middle of the first round: the run that the process takes then, and one
    that is known to exist. -/
theorem daemon_exits_after_first_round :
    let target : Target := { name := "api", host := "api" }
    let cfg : NetworkConfig ℤ := ⟨":2112", 15000000000, 5000000000, [target]⟩
    (∃ history d, Trace (Daemon.step (.ok cfg)) {} history d ∧ d.main = .ended .returned ∧
        d.metrics = run [target] (endedRounds history)) ∧
      ∃ history d later final, Trace (Daemon.step (.ok cfg)) {} history d ∧ d.main = .awaiting ∧
        Trace (Daemon.step (.ok cfg)) d later final ∧ final.main = .ended .returned ∧ later.length ≤ 9 := by
  intro target cfg
  let first : ℕ → Outcomes := fun _ => ⟨⟨1, none⟩, ⟨1, none⟩, ⟨1, .failed { message := "refused" }⟩⟩
  constructor
  · obtain ⟨history, d, trace, hasReturned⟩ :=
      exists_trace_of_replay (Daemon.step (.ok cfg)) {}
        [.load, .newTicker first, .signal, .mainWakes, .probe, .shutdownReturns false, .endRound, .stopProber,
          .closeDone, .mainJoins, .mainExits]
        (fun _ d => d.main = .ended .returned) (by decide +kernel)
    obtain ⟨loaded, isLoaded, _, _, _, measured⟩ :=
      (daemon_exits_with_whole_rounds (.ok cfg) history d trace).1 .returned hasReturned
    cases isLoaded
    exact ⟨history, d, trace, hasReturned, measured⟩
  · obtain ⟨history, d, trace, isAwaiting, isDone⟩ :=
      exists_trace_of_replay (Daemon.step (.ok cfg)) {} [.load, .newTicker first, .signal]
        (fun _ d => d.main = .awaiting ∧ d.done = true) (by decide +kernel)
    obtain ⟨later, final, continued, ended, short, _⟩ :=
      (daemon_exits_with_whole_rounds (.ok cfg) history d trace).2 cfg rfl (by decide) isDone (by simp [isAwaiting])
    exact ⟨history, d, later, final, trace, isAwaiting, continued, ended, short⟩

/-- An interval of zero ends the process before the first round. -/
example :
    (Daemon.step (.ok ⟨":2112", 0, 5000000000, []⟩) { main := .awaiting } (.newTicker default)).map (·.main) =
      some (.ended .panicked) := rfl

end AutoSre.Prober
