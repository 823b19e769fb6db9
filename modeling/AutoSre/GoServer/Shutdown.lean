import Mathlib.Data.List.Perm.Basic
import Mathlib.Data.Rat.Defs
import Mathlib.Algebra.Order.Ring.Rat
import AutoSre.GoServer.Config
import AutoSre.Lib.Trace

/-! # The way a Go service ends

`main` of `cmd/api` with `Server.Run` of `internal/server`, the goroutine that calls
`ListenAndServe`, and the connections of the HTTP server.  `Run` waits for the first of a
fatal error and the end of its context, and then for the requests in flight, but not
longer than `shutdownTimeout`; the process ends with `main`, and with it whatever is still
in flight.  Signals are caught from `signal.NotifyContext`, which comes after the
configuration, to the deferred `stop`.

`http.Server` is what its documentation says: `Shutdown` lets no connection in any more and
returns when none is new or active, with the error of closing the listeners if there was
one, or with an error when its context is over, and `ListenAndServe` returns
`ErrServerClosed` from then on.
-/

namespace AutoSre.GoServer

open AutoSre.Lib

variable {ι F : Type}

def shutdownTimeout : ℚ := 10

/-- `failed`: `ListenAndServe` has returned another error than `ErrServerClosed`, and the
    goroutine has not yet sent it. -/
inductive ServeStage where
  | starting
  | listening
  | failed
  | ended
deriving DecidableEq

/-- The errors that `Run` returns: that of `ListenAndServe`, and those of `Shutdown` whose
    context is over or that could not close a listener. -/
inductive RunError where
  | serve
  | deadlineExceeded
  | closeListener
deriving DecidableEq

inductive RunStage where
  | selecting
  | draining (deadline : ℚ)
  | returned (err : Option RunError)
deriving DecidableEq

/-- How the process ends: with an exit status, or by a signal. -/
inductive Exit where
  | status (code : ℕ)
  | killed
deriving DecidableEq

/-- `loading`: before `signal.NotifyContext`; `leaving`: behind the deferred `stop`. -/
inductive ServiceStage where
  | loading
  | running
  | leaving
  | ended (how : Exit)
deriving DecidableEq

/-- `done` is the context and `errCh` the one error that the channel holds; `connected` are
    the connections without a request so far, `inFlight` those whose request is being
    handled.  A connection that is kept alive counts as a new one for its next request. -/
structure Service (ι : Type) where
  main : ServiceStage := .loading
  now : ℚ := 0
  done : Bool := false
  serve : ServeStage := .starting
  errCh : Bool := false
  closing : Bool := false
  connected : List ι := []
  inFlight : List ι := []
  answered : List ι := []
  run : RunStage := .selecting
deriving DecidableEq

/-- `hangUp`: a connection ends without a request, as the server ends it itself where it
    waits too long. -/
inductive ServiceEvent (ι : Type) where
  | load
  | pass (time : ℚ)
  | signal
  | listen
  | serveFails
  | sendErr
  | serveCloses
  | connect (id : ι)
  | hangUp (id : ι)
  | request (id : ι)
  | answer (id : ι)
  | receiveErr
  | receiveDone
  | shutdownDrained (lnerr : Bool)
  | shutdownExpires
  | mainFails
  | mainLeaves
  | mainReturns
deriving DecidableEq

namespace Service

/-- Up to `signal.NotifyContext`. -/
def start (loaded : Except LoadError (ServiceConfig F)) (s : Service ι) : ServiceEvent ι → Option (Service ι)
  | .load =>
    match loaded with
    | .ok _ => some { s with main := .running }
    | .error _ => some { s with main := .ended (.status 1) }
  | .signal => some { s with main := .ended .killed }
  | _ => none

variable [DecidableEq ι]

/-- `ListenAndServe` fails when it cannot listen and when it cannot accept, but not once
    `Shutdown` was called. -/
def proceed (s : Service ι) : ServiceEvent ι → Option (Service ι)
  | .load => none
  | .pass time => if 0 ≤ time then some { s with now := s.now + time } else none
  | .signal =>
    if s.main = .running then some { s with done := true } else some { s with main := .ended .killed }
  | .listen =>
    if s.serve = .starting then some { s with serve := if s.closing then .ended else .listening } else none
  | .serveFails =>
    if (s.serve = .starting ∨ s.serve = .listening) ∧ s.closing = false then some { s with serve := .failed }
    else none
  | .sendErr => if s.serve = .failed then some { s with serve := .ended, errCh := true } else none
  | .serveCloses => if s.serve = .listening ∧ s.closing then some { s with serve := .ended } else none
  | .connect id =>
    if s.serve ≠ .starting ∧ s.closing = false then some { s with connected := id :: s.connected } else none
  | .hangUp id => if id ∈ s.connected then some { s with connected := s.connected.erase id } else none
  | .request id =>
    if id ∈ s.connected then
      some { s with connected := s.connected.erase id, inFlight := id :: s.inFlight }
    else none
  | .answer id =>
    if id ∈ s.inFlight then some { s with inFlight := s.inFlight.erase id, answered := id :: s.answered }
    else none
  -- with an error and the end of the context both there, `select` may take either
  | .receiveErr =>
    if s.run = .selecting ∧ s.errCh then some { s with errCh := false, run := .returned (some .serve) }
    else none
  | .receiveDone =>
    if s.run = .selecting ∧ s.done then
      some { s with closing := true, run := .draining (s.now + shutdownTimeout) }
    else none
  | .shutdownDrained lnerr =>
    match s.run with
    | .draining _ =>
      if s.connected = [] ∧ s.inFlight = [] then
        some { s with run := .returned (if lnerr then some .closeListener else none) }
      else none
    | .selecting | .returned _ => none
  | .shutdownExpires =>
    match s.run with
    | .draining deadline =>
      if deadline ≤ s.now then some { s with run := .returned (some .deadlineExceeded) } else none
    | .selecting | .returned _ => none
  | .mainFails =>
    match s.main, s.run with
    | .running, .returned (some _) => some { s with main := .ended (.status 1) }
    | _, _ => none
  | .mainLeaves =>
    match s.main, s.run with
    | .running, .returned none => some { s with main := .leaving }
    | _, _ => none
  | .mainReturns => if s.main = .leaving then some { s with main := .ended (.status 0) } else none

def step (loaded : Except LoadError (ServiceConfig F)) (s : Service ι) (event : ServiceEvent ι) :
    Option (Service ι) :=
  match s.main with
  | .ended _ => none
  | .loading => s.start loaded event
  | .running | .leaving => s.proceed event

theorem step_eq_proceed {s : Service ι} (running : s.main = .running)
    (loaded : Except LoadError (ServiceConfig F)) (event : ServiceEvent ι) :
    s.step loaded event = s.proceed event := by
  simp only [step, running]

end Service

/-! ## What a step does -/

inductive Service.Moves [DecidableEq ι] (loaded : Except LoadError (ServiceConfig F)) (s : Service ι) :
    ServiceEvent ι → Service ι → Prop where
  | configFails {error : LoadError} : loaded = .error error → s.main = .loading →
      Moves loaded s .load { s with main := .ended (.status 1) }
  | configLoads : Moves loaded s .load { s with main := .running }
  | killed : s.main ≠ .running → Moves loaded s .signal { s with main := .ended .killed }
  | pass {time : ℚ} : 0 ≤ time → Moves loaded s (.pass time) { s with now := s.now + time }
  | signal : s.main = .running → Moves loaded s .signal { s with done := true }
  | listen : Moves loaded s .listen { s with serve := if s.closing then .ended else .listening }
  | serveFails : Moves loaded s .serveFails { s with serve := .failed }
  | sendErr : s.serve = .failed → Moves loaded s .sendErr { s with serve := .ended, errCh := true }
  | serveCloses : Moves loaded s .serveCloses { s with serve := .ended }
  | connect {id : ι} : s.closing = false → Moves loaded s (.connect id) { s with connected := id :: s.connected }
  | hangUp {id : ι} : id ∈ s.connected → Moves loaded s (.hangUp id) { s with connected := s.connected.erase id }
  | request {id : ι} : id ∈ s.connected →
      Moves loaded s (.request id) { s with connected := s.connected.erase id, inFlight := id :: s.inFlight }
  | answer {id : ι} : id ∈ s.inFlight →
      Moves loaded s (.answer id) { s with inFlight := s.inFlight.erase id, answered := id :: s.answered }
  | receiveErr : s.run = .selecting → s.errCh = true →
      Moves loaded s .receiveErr { s with errCh := false, run := .returned (some .serve) }
  | receiveDone : s.run = .selecting → s.done = true →
      Moves loaded s .receiveDone { s with closing := true, run := .draining (s.now + shutdownTimeout) }
  | shutdownDrained {deadline : ℚ} {lnerr : Bool} : s.run = .draining deadline → s.connected = [] →
      s.inFlight = [] →
      Moves loaded s (.shutdownDrained lnerr) { s with run := .returned (if lnerr then some .closeListener else none) }
  | shutdownExpires {deadline : ℚ} : s.run = .draining deadline → deadline ≤ s.now →
      Moves loaded s .shutdownExpires { s with run := .returned (some .deadlineExceeded) }
  | mainFails {err : RunError} : s.main = .running → s.run = .returned (some err) →
      Moves loaded s .mainFails { s with main := .ended (.status 1) }
  | mainLeaves : s.main = .running → s.run = .returned none → Moves loaded s .mainLeaves { s with main := .leaving }
  | mainReturns : s.main = .leaving → Moves loaded s .mainReturns { s with main := .ended (.status 0) }

theorem Service.start_moves [DecidableEq ι] {loaded : Except LoadError (ServiceConfig F)} {s next : Service ι}
    {event : ServiceEvent ι} (isLoading : s.main = .loading) (taken : s.start loaded event = some next) :
    Moves loaded s event next := by
  cases event with
  | load =>
    cases loaded with
    | ok cfg =>
      cases taken
      exact .configLoads
    | error error =>
      cases taken
      exact .configFails rfl isLoading
  | signal =>
    cases taken
    exact .killed (by simp [isLoading])
  | _ => cases taken

theorem Service.proceed_moves [DecidableEq ι] {loaded : Except LoadError (ServiceConfig F)} {s next : Service ι}
    {event : ServiceEvent ι} (taken : s.proceed event = some next) : Moves loaded s event next := by
  cases event with
  | load => cases taken
  | signal =>
    simp only [proceed] at taken
    split at taken
    next isRunning =>
      cases taken
      exact .signal isRunning
    next notRunning =>
      cases taken
      exact .killed notRunning
  | pass time =>
    obtain ⟨forward, taken⟩ := Option.ite_none_right_eq_some.mp taken
    cases taken
    exact .pass forward
  | listen =>
    obtain ⟨-, taken⟩ := Option.ite_none_right_eq_some.mp taken
    cases taken
    exact .listen
  | serveFails =>
    obtain ⟨-, taken⟩ := Option.ite_none_right_eq_some.mp taken
    cases taken
    exact .serveFails
  | sendErr =>
    obtain ⟨hasFailed, taken⟩ := Option.ite_none_right_eq_some.mp taken
    cases taken
    exact .sendErr hasFailed
  | serveCloses =>
    obtain ⟨-, taken⟩ := Option.ite_none_right_eq_some.mp taken
    cases taken
    exact .serveCloses
  | connect id =>
    obtain ⟨⟨-, letIn⟩, taken⟩ := Option.ite_none_right_eq_some.mp taken
    cases taken
    exact .connect letIn
  | hangUp id =>
    obtain ⟨member, taken⟩ := Option.ite_none_right_eq_some.mp taken
    cases taken
    exact .hangUp member
  | request id =>
    obtain ⟨member, taken⟩ := Option.ite_none_right_eq_some.mp taken
    cases taken
    exact .request member
  | answer id =>
    obtain ⟨member, taken⟩ := Option.ite_none_right_eq_some.mp taken
    cases taken
    exact .answer member
  | receiveErr =>
    obtain ⟨⟨isSelecting, sent⟩, taken⟩ := Option.ite_none_right_eq_some.mp taken
    cases taken
    exact .receiveErr isSelecting sent
  | receiveDone =>
    obtain ⟨⟨isSelecting, isDone⟩, taken⟩ := Option.ite_none_right_eq_some.mp taken
    cases taken
    exact .receiveDone isSelecting isDone
  | shutdownDrained lnerr =>
    simp only [proceed] at taken
    split at taken
    next deadline isDraining =>
      obtain ⟨⟨noneNew, noneActive⟩, taken⟩ := Option.ite_none_right_eq_some.mp taken
      cases taken
      exact .shutdownDrained isDraining noneNew noneActive
    all_goals cases taken
  | shutdownExpires =>
    simp only [proceed] at taken
    split at taken
    next deadline isDraining =>
      obtain ⟨isOver, taken⟩ := Option.ite_none_right_eq_some.mp taken
      cases taken
      exact .shutdownExpires isDraining isOver
    all_goals cases taken
  | mainFails =>
    simp only [proceed] at taken
    split at taken
    next isRunning hasFailed =>
      cases taken
      exact .mainFails isRunning hasFailed
    next => cases taken
  | mainLeaves =>
    simp only [proceed] at taken
    split at taken
    next isRunning hasReturned =>
      cases taken
      exact .mainLeaves isRunning hasReturned
    next => cases taken
  | mainReturns =>
    obtain ⟨isLeaving, taken⟩ := Option.ite_none_right_eq_some.mp taken
    cases taken
    exact .mainReturns isLeaving

theorem Service.step_moves [DecidableEq ι] {loaded : Except LoadError (ServiceConfig F)} {s next : Service ι}
    {event : ServiceEvent ι} (taken : s.step loaded event = some next) :
    (∀ how, s.main ≠ .ended how) ∧ Moves loaded s event next := by
  unfold Service.step at taken
  split at taken
  next => cases taken
  next isLoading => exact ⟨by simp [isLoading], start_moves isLoading taken⟩
  next isRunning => exact ⟨by simp [isRunning], proceed_moves taken⟩
  next isLeaving => exact ⟨by simp [isLeaving], proceed_moves taken⟩

/-! ## What the exit status says -/

abbrev ServiceHistory (ι : Type) := List (Transition (Service ι) (ServiceEvent ι))

def ServiceEvent.requested : ServiceEvent ι → Option ι
  | .request id => some id
  | _ => none

def requested (history : ServiceHistory ι) : List ι := history.filterMap fun made => made.label.requested

def Happened (what : Transition (Service ι) (ServiceEvent ι) → Prop) (history : ServiceHistory ι) : Prop :=
  ∃ made ∈ history, what made

theorem Happened.cons {what : Transition (Service ι) (ServiceEvent ι) → Prop} {history : ServiceHistory ι}
    (made : Transition (Service ι) (ServiceEvent ι)) (before : Happened what history) :
    Happened what (made :: history) := by
  obtain ⟨step, isMade, isThat⟩ := before
  exact ⟨step, List.mem_cons_of_mem _ isMade, isThat⟩

def signalled (history : ServiceHistory ι) : Prop := Happened (fun made => made.label = .signal) history

def serveFailed (history : ServiceHistory ι) : Prop := Happened (fun made => made.label = .serveFails) history

def closeFailed (history : ServiceHistory ι) : Prop :=
  Happened (fun made => made.label = .shutdownDrained true) history

/-- `Shutdown` was called, with a context that is over at the given time. -/
def calledShutdown (history : ServiceHistory ι) (deadline : ℚ) : Prop :=
  Happened (fun made => made.label = .receiveDone ∧ made.before.now + shutdownTimeout = deadline) history

def Knows (history : ServiceHistory ι) (s : Service ι) : RunStage → Prop
  | .selecting => True
  | .draining deadline => s.closing = true ∧ signalled history ∧ calledShutdown history deadline
  | .returned none => s.closing = true ∧ signalled history ∧ s.connected = [] ∧ s.inFlight = []
  | .returned (some .serve) => serveFailed history
  | .returned (some .deadlineExceeded) => ∃ deadline, calledShutdown history deadline ∧ deadline ≤ s.now
  | .returned (some .closeListener) => closeFailed history

/-- What has come before each way to end. -/
def Exit.Explained (loaded : Except LoadError (ServiceConfig F)) (history : ServiceHistory ι) (s : Service ι) :
    Exit → Prop
  | .status 0 => s.run = .returned none
  | .status 1 => (∃ error, loaded = .error error) ∨ ∃ err, s.run = .returned (some err)
  | .status (_ + 2) => False
  | .killed => ∃ made ∈ history, made.label = .signal ∧ made.before.main ≠ .running

structure Graceful (loaded : Except LoadError (ServiceConfig F)) (history : ServiceHistory ι) (s : Service ι) :
    Prop where
  requests : (s.inFlight ++ s.answered).Perm (requested history)
  loading : s.main = .loading → s.done = false
  done : s.done = true → signalled history ∧ (s.main = .running ∨ ∃ err, s.run = .returned err)
  failed : s.serve = .failed ∨ s.errCh = true → serveFailed history
  knows : Knows history s s.run
  leaving : s.main = .leaving → s.run = .returned none
  ended : ∀ how, s.main = .ended how → how.Explained loaded history s

theorem Knows.cons {history : ServiceHistory ι} {s after : Service ι} {event : ServiceEvent ι} {stage : RunStage}
    (knows : Knows history s stage) (later : s.now ≤ after.now) (closing : after.closing = s.closing)
    (empty : s.closing = true → s.connected = [] → s.inFlight = [] →
      after.connected = [] ∧ after.inFlight = []) :
    Knows (⟨s, event, after⟩ :: history) after stage := by
  match stage with
  | .selecting => trivial
  | .draining deadline =>
    obtain ⟨isClosing, isSignalled, called⟩ := knows
    exact ⟨closing.trans isClosing, isSignalled.cons _, called.cons _⟩
  | .returned none =>
    obtain ⟨isClosing, isSignalled, noneNew, noneActive⟩ := knows
    exact ⟨closing.trans isClosing, isSignalled.cons _, empty isClosing noneNew noneActive⟩
  | .returned (some .serve) => exact Happened.cons _ knows
  | .returned (some .deadlineExceeded) =>
    obtain ⟨deadline, called, isOver⟩ := knows
    exact ⟨deadline, called.cons _, isOver.trans later⟩
  | .returned (some .closeListener) => exact Happened.cons _ knows

theorem Graceful.step [DecidableEq ι] {loaded : Except LoadError (ServiceConfig F)} {past : ServiceHistory ι}
    {before after : Service ι} {event : ServiceEvent ι} (graceful : Graceful loaded past before)
    (taken : before.step loaded event = some after) : Graceful loaded (⟨before, event, after⟩ :: past) after := by
  obtain ⟨requests, loading, done, failed, knows, leaving, -⟩ := graceful
  obtain ⟨notEnded, moves⟩ := Service.step_moves taken
  have stillDone (isDone : before.done = true) : signalled (⟨before, event, after⟩ :: past) ∧
      (before.main = .running ∨ ∃ err, before.run = .returned err) := ⟨(done isDone).1.cons _, (done isDone).2⟩
  have stillFailed (hasFailed : before.serve = .failed ∨ before.errCh = true) :
      serveFailed (⟨before, event, after⟩ :: past) := (failed hasFailed).cons _
  have notLeaving {stage : RunStage} (atRun : before.run = stage) (unfinished : stage ≠ .returned none) :
      before.main ≠ .leaving := fun isLeaving => unfinished (atRun.symm.trans (leaving isLeaving))
  have running (how : Exit) (ended : before.main = .ended how) {P : Prop} : P := absurd ended (notEnded how)
  have kept : ∀ other : Service ι, other.now = before.now → other.closing = before.closing →
      other.connected = before.connected → other.inFlight = before.inFlight →
      Knows (⟨before, event, other⟩ :: past) other before.run := by
    intro other now closing connected inFlight
    refine knows.cons now.ge closing fun _ noneNew noneActive => ?_
    rw [connected, inFlight]
    exact ⟨noneNew, noneActive⟩
  cases moves with
  | configFails hasFailed isLoading =>
    refine ⟨requests, by simp, fun isDone => ?_, stillFailed, kept _ rfl rfl rfl rfl, by simp, ?_⟩
    · rw [loading isLoading] at isDone
      cases isDone
    · rintro _ ⟨⟩
      exact .inl ⟨_, hasFailed⟩
  | configLoads =>
    exact ⟨requests, by simp, fun isDone => ⟨(stillDone isDone).1, .inl rfl⟩, stillFailed,
      kept _ rfl rfl rfl rfl, by simp, by simp⟩
  | killed notRunning =>
    refine ⟨requests, by simp, fun isDone => ?_, stillFailed, kept _ rfl rfl rfl rfl, by simp, ?_⟩
    · exact ⟨(stillDone isDone).1, .inr ((stillDone isDone).2.resolve_left notRunning)⟩
    · rintro _ ⟨⟩
      exact ⟨_, List.mem_cons_self, rfl, notRunning⟩
  | pass forward =>
    exact ⟨requests, loading, stillDone, stillFailed,
      knows.cons (le_add_of_nonneg_right forward) rfl fun _ noneNew noneActive => ⟨noneNew, noneActive⟩, leaving,
      fun how ended => running how ended⟩
  | signal isRunning =>
    exact ⟨requests, by simp [isRunning], fun _ => ⟨⟨_, List.mem_cons_self, rfl⟩, .inl isRunning⟩, stillFailed,
      kept _ rfl rfl rfl rfl, leaving, fun how ended => running how ended⟩
  | listen =>
    refine ⟨requests, loading, stillDone, ?_, kept _ rfl rfl rfl rfl, leaving, fun how ended => running how ended⟩
    intro hasFailed
    refine stillFailed (hasFailed.imp_left fun isFailed => ?_)
    dsimp only at isFailed
    split at isFailed <;> cases isFailed
  | serveFails =>
    exact ⟨requests, loading, stillDone, fun _ => ⟨_, List.mem_cons_self, rfl⟩, kept _ rfl rfl rfl rfl, leaving,
      fun how ended => running how ended⟩
  | sendErr hasFailed =>
    exact ⟨requests, loading, stillDone, fun _ => stillFailed (.inl hasFailed), kept _ rfl rfl rfl rfl, leaving,
      fun how ended => running how ended⟩
  | serveCloses =>
    refine ⟨requests, loading, stillDone, ?_, kept _ rfl rfl rfl rfl, leaving, fun how ended => running how ended⟩
    rintro (⟨⟨⟩⟩ | sent)
    exact stillFailed (.inr sent)
  | connect letIn =>
    refine ⟨requests, loading, stillDone, stillFailed, knows.cons le_rfl rfl fun isClosing _ _ => ?_, leaving,
      fun how ended => running how ended⟩
    rw [letIn] at isClosing
    cases isClosing
  | hangUp member =>
    refine ⟨requests, loading, stillDone, stillFailed, knows.cons le_rfl rfl fun _ noneNew noneActive => ?_,
      leaving, fun how ended => running how ended⟩
    exact ⟨by simp [noneNew], noneActive⟩
  -- after a clean return there is no connection left to send a request
  | request member =>
    refine ⟨requests.cons _, loading, stillDone, stillFailed, knows.cons le_rfl rfl fun _ noneNew _ => ?_,
      leaving, fun how ended => running how ended⟩
    rw [noneNew] at member
    cases member
  | @answer id member =>
    refine ⟨?_, loading, stillDone, stillFailed, knows.cons le_rfl rfl fun _ noneNew noneActive => ?_, leaving,
      fun how ended => running how ended⟩
    · have restored : (id :: before.inFlight.erase id).Perm before.inFlight := (List.perm_cons_erase member).symm
      exact List.perm_middle.trans ((restored.append_right _).trans requests)
    · rw [noneActive] at member
      cases member
  | receiveErr isSelecting sent =>
    refine ⟨requests, loading, fun isDone => ⟨(stillDone isDone).1, .inr ⟨_, rfl⟩⟩, ?_, stillFailed (.inr sent),
      fun isLeaving => ?_, fun how ended => running how ended⟩
    · rintro (isFailed | ⟨⟨⟩⟩)
      exact stillFailed (.inl isFailed)
    · exact absurd isLeaving (notLeaving isSelecting (by simp))
  | receiveDone isSelecting isDone =>
    obtain ⟨isSignalled, isRunning | ⟨err, hasReturned⟩⟩ := stillDone isDone
    · refine ⟨requests, loading, fun _ => ⟨isSignalled, .inl isRunning⟩, stillFailed, ?_, by simp [isRunning],
        fun how ended => running how ended⟩
      exact ⟨rfl, isSignalled, ⟨_, List.mem_cons_self, rfl, rfl⟩⟩
    · rw [hasReturned] at isSelecting
      cases isSelecting
  | @shutdownDrained deadline lnerr isDraining noneNew noneActive =>
    rw [isDraining] at knows
    obtain ⟨isClosing, isSignalled, -⟩ := knows
    refine ⟨requests, loading, fun isDone => ⟨(stillDone isDone).1, .inr ⟨_, rfl⟩⟩, stillFailed, ?_,
      fun isLeaving => ?_, fun how ended => running how ended⟩
    · cases lnerr with
      | false => exact ⟨isClosing, isSignalled.cons _, noneNew, noneActive⟩
      | true => exact ⟨_, List.mem_cons_self, rfl⟩
    · exact absurd isLeaving (notLeaving isDraining (by simp))
  | shutdownExpires isDraining isOver =>
    rw [isDraining] at knows
    obtain ⟨-, -, called⟩ := knows
    refine ⟨requests, loading, fun isDone => ⟨(stillDone isDone).1, .inr ⟨_, rfl⟩⟩, stillFailed,
      ⟨_, called.cons _, isOver⟩, fun isLeaving => ?_, fun how ended => running how ended⟩
    exact absurd isLeaving (notLeaving isDraining (by simp))
  | mainFails isRunning hasFailed =>
    refine ⟨requests, by simp, fun isDone => ⟨(stillDone isDone).1, .inr ⟨_, hasFailed⟩⟩, stillFailed,
      kept _ rfl rfl rfl rfl, by simp, ?_⟩
    rintro _ ⟨⟩
    exact .inr ⟨_, hasFailed⟩
  | mainLeaves isRunning hasReturned =>
    exact ⟨requests, by simp, fun isDone => ⟨(stillDone isDone).1, .inr ⟨_, hasReturned⟩⟩, stillFailed,
      kept _ rfl rfl rfl rfl, fun _ => hasReturned, by simp⟩
  | mainReturns isLeaving =>
    refine ⟨requests, by simp, fun isDone => ⟨(stillDone isDone).1, .inr ⟨_, leaving isLeaving⟩⟩, stillFailed,
      kept _ rfl rfl rfl rfl, by simp, ?_⟩
    rintro _ ⟨⟩
    exact leaving isLeaving

theorem graceful_run [DecidableEq ι] {loaded : Except LoadError (ServiceConfig F)} {history : ServiceHistory ι}
    {s : Service ι} (run : Trace (Service.step loaded) {} history s) : Graceful loaded history s := by
  refine run.history_invariant (P := Graceful loaded) ?_ ?_
  · exact ⟨.nil, fun _ => rfl, by simp, by simp, trivial, by simp, by simp⟩
  · intro past before event after _ graceful taken
    exact graceful.step taken

/-! ## The clean way out -/

theorem Service.exists_quiet [DecidableEq ι] (loaded : Except LoadError (ServiceConfig F)) {s : Service ι}
    (running : s.main = .running) :
    ∃ rest later, Trace (Service.step loaded) s rest later ∧ requested rest = [] ∧ later.main = .running ∧
      later.run = s.run ∧ later.done = s.done ∧ later.connected = [] ∧ later.inFlight = [] := by
  -- by induction on the connections that are left
  induction left : s.connected.length + s.inFlight.length generalizing s with
  | zero =>
    have noneNew : s.connected = [] := List.length_eq_zero_iff.mp (by omega)
    have noneActive : s.inFlight = [] := List.length_eq_zero_iff.mp (by omega)
    exact ⟨[], s, .nil, rfl, running, rfl, rfl, noneNew, noneActive⟩
  | succ n ih =>
    cases isNew : s.connected with
    | cons id connected =>
      have taken : s.step loaded (.hangUp id) = some { s with connected } := by
        simp [step_eq_proceed running, proceed, isNew]
      obtain ⟨rest, later, continued, noRequest, quiet⟩ := @ih { s with connected } running (by
        rw [isNew, List.length_cons] at left
        show connected.length + s.inFlight.length = n
        omega)
      refine ⟨_, later, continued.prepend taken, ?_, quiet⟩
      simpa [requested, ServiceEvent.requested] using noRequest
    | nil =>
      cases isActive : s.inFlight with
      | nil => simp [isNew, isActive] at left
      | cons id inFlight =>
        have taken : s.step loaded (.answer id) = some { s with inFlight, answered := id :: s.answered } := by
          simp [step_eq_proceed running, proceed, isActive]
        obtain ⟨rest, later, continued, noRequest, quiet⟩ :=
          @ih { s with inFlight, answered := id :: s.answered } running (by
            rw [isNew, isActive, List.length_cons] at left
            show s.connected.length + inFlight.length = n
            simpa [isNew] using left)
        refine ⟨_, later, continued.prepend taken, ?_, quiet⟩
        simpa [requested, ServiceEvent.requested] using noRequest

theorem Service.exists_return [DecidableEq ι] (loaded : Except LoadError (ServiceConfig F)) {s : Service ι}
    (running : s.main = .running) {deadline : ℚ} (isDraining : s.run = .draining deadline)
    (noneNew : s.connected = []) (noneActive : s.inFlight = []) :
    ∃ rest later, Trace (Service.step loaded) s rest later ∧ later.main = .ended (.status 0) ∧
      requested rest = [] := by
  let returned : Service ι := { s with run := .returned none }
  have drained : s.step loaded (.shutdownDrained false) = some returned := by
    simp [step_eq_proceed running, proceed, isDraining, noneNew, noneActive, returned]
  have leaves : returned.step loaded .mainLeaves = some { returned with main := .leaving } := by
    simp [step, proceed, returned, running]
  have exits : Service.step loaded { returned with main := .leaving } .mainReturns =
      some { returned with main := .ended (.status 0) } := rfl
  exact ⟨_, _, ((Trace.nil.snoc drained).snoc leaves).snoc exits, rfl, rfl⟩

theorem requested_append (later earlier : ServiceHistory ι) :
    requested (later ++ earlier) = requested later ++ requested earlier :=
  List.filterMap_append

/-- A service that was asked to end, and whose `Run` has not returned, can still end with
    status 0 without another request: all it takes is that those in flight are answered. -/
theorem Service.exists_clean_exit [DecidableEq ι] (loaded : Except LoadError (ServiceConfig F)) {s : Service ι}
    (isDone : s.done = true) (notReturned : ∀ err, s.run ≠ .returned err) (running : s.main = .running) :
    ∃ rest later, Trace (Service.step loaded) s rest later ∧ later.main = .ended (.status 0) ∧
      requested rest = [] := by
  obtain ⟨rest, quiet, continued, noRequest, stillRunning, run, done, noneNew, noneActive⟩ :=
    Service.exists_quiet loaded running
  rw [isDone] at done
  cases stage : quiet.run with
  | returned err => exact absurd (run.symm.trans stage) (notReturned err)
  | draining deadline =>
    obtain ⟨last, later, returns, ended, noneLater⟩ :=
      Service.exists_return loaded stillRunning stage noneNew noneActive
    exact ⟨_, later, continued.trans returns, ended, by simp [requested_append, noneLater, noRequest]⟩
  | selecting =>
    let draining : Service ι := { quiet with closing := true, run := .draining (quiet.now + shutdownTimeout) }
    have wakes : quiet.step loaded .receiveDone = some draining := by
      simp [step_eq_proceed stillRunning, proceed, stage, done, draining]
    obtain ⟨last, later, returns, ended, noneLater⟩ :=
      Service.exists_return loaded (s := draining) stillRunning rfl noneNew noneActive
    refine ⟨_, later, (continued.snoc wakes).trans returns, ended, ?_⟩
    rw [requested_append, noneLater]
    simpa [requested, ServiceEvent.requested] using noRequest

/-- In every run, for whatever `LoadService` returns: a service that ends with status 0 was
    asked to, and has answered every request that reached a handler; any other end has
    status 1, and `LoadService` has returned an error, `ListenAndServe` has failed or
    `Shutdown` has taken all of its time or could not close a listener; or it is by a signal
    outside the time in which `main` catches them.  And a service that was asked to end,
    whose `Run` has not returned, can still end with status 0. -/
theorem exit_status [DecidableEq ι] (loaded : Except LoadError (ServiceConfig F)) (history : ServiceHistory ι)
    (s : Service ι) (run : Trace (Service.step loaded) {} history s) :
    (s.main = .ended (.status 0) → signalled history ∧ s.inFlight = [] ∧ s.answered.Perm (requested history)) ∧
      (∀ how, s.main = .ended how → how ≠ .status 0 →
        how = .status 1 ∧
            ((∃ error, loaded = .error error) ∨ serveFailed history ∨ closeFailed history ∨
              ∃ deadline, calledShutdown history deadline ∧ deadline ≤ s.now) ∨
          how = .killed ∧ ∃ made ∈ history, made.label = .signal ∧ made.before.main ≠ .running) ∧
      (s.done = true → (∀ err, s.run ≠ .returned err) →
        ∃ rest later, Trace (Service.step loaded) s rest later ∧ later.main = .ended (.status 0) ∧
          requested rest = []) := by
  obtain ⟨requests, loading, done, failed, knows, leaving, ended⟩ := graceful_run run
  refine ⟨?_, ?_, ?_⟩
  · intro exited
    have hasReturned : s.run = .returned none := ended _ exited
    rw [hasReturned] at knows
    obtain ⟨-, isSignalled, -, noneActive⟩ := knows
    rw [noneActive] at requests
    exact ⟨isSignalled, noneActive, requests⟩
  · intro how exited notZero
    have explained := ended how exited
    match how with
    | .status 0 => exact absurd rfl notZero
    | .status (_ + 2) => cases explained
    | .killed => exact .inr ⟨rfl, explained⟩
    | .status 1 =>
      refine .inl ⟨rfl, ?_⟩
      obtain notLoaded | ⟨err, hasReturned⟩ := explained
      · exact .inl notLoaded
      · rw [hasReturned] at knows
        cases err with
        | serve => exact .inr (.inl knows)
        | closeListener => exact .inr (.inr (.inl knows))
        | deadlineExceeded => exact .inr (.inr (.inr knows))
  · intro isDone notReturned
    obtain isRunning | ⟨err, hasReturned⟩ := (done isDone).2
    · exact Service.exists_clean_exit loaded isDone notReturned isRunning
    · exact absurd hasReturned (notReturned err)

/-- A request that is still being handled when the signal comes is answered before the end,
    here and in a run that is known to exist. -/
theorem exit_status_in_flight :
    let loaded : Except LoadError (ServiceConfig ℚ) :=
      .ok ⟨"api", ":8000", "data/failures.jsonl", 10, 20, "http://auth:8001"⟩
    (∃ (history : ServiceHistory ℕ) (s : Service ℕ), Trace (Service.step loaded) {} history s ∧
        requested history = [1] ∧ s.main = .ended (.status 0) ∧ s.answered.Perm [1]) ∧
      ∃ (history : ServiceHistory ℕ) (s : Service ℕ) (rest : ServiceHistory ℕ) (later : Service ℕ),
        Trace (Service.step loaded) {} history s ∧ s.inFlight = [1] ∧
          Trace (Service.step loaded) s rest later ∧ later.main = .ended (.status 0) := by
  intro loaded
  constructor
  · obtain ⟨history, s, run, reached, exited⟩ := exists_trace_of_replay (Service.step loaded) {}
      [.load, .listen, .connect 1, .request 1, .signal, .receiveDone, .serveCloses, .pass 9, .answer 1,
        .shutdownDrained false, .mainLeaves, .mainReturns]
      (fun history (s : Service ℕ) => requested history = [1] ∧ s.main = .ended (.status 0))
      (by decide +kernel)
    obtain ⟨-, -, answered⟩ := (exit_status loaded history s run).1 exited
    exact ⟨history, s, run, reached, exited, reached ▸ answered⟩
  · obtain ⟨history, s, run, inFlight, isDone, isSelecting⟩ := exists_trace_of_replay (Service.step loaded) {}
      [.load, .listen, .connect 1, .request 1, .signal]
      (fun _ (s : Service ℕ) => s.inFlight = [1] ∧ s.done = true ∧ s.run = .selecting) (by decide +kernel)
    obtain ⟨rest, later, continued, ended, _⟩ :=
      (exit_status loaded history s run).2.2 isDone (by simp [isSelecting])
    exact ⟨history, s, rest, later, run, inFlight, continued, ended⟩

end AutoSre.GoServer
