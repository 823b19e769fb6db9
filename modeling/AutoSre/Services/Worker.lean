import AutoSre.Chaos.ErrorSpread
import AutoSre.Lib.Metrics

/-! # The worker and its job metrics

`_job_loop` of `worker/main.py` is one task among the requests that the worker's chaos
controller serves.  Between two of its `await`s the task runs alone, so one step takes it
from one `await` to the next, and at each of them it may be cancelled instead.

A job reports its status in a `finally` clause, and the status is preset to `success`.
The `except` clause does not cover `CancelledError`, so a job that is cancelled counts as
one that succeeded.
-/

namespace AutoSre.Services

open AutoSre.Lib AutoSre.Lib.Python AutoSre.Chaos

/-! ## The job loop -/

inductive JobStatus where
  | success
  | failed
deriving DecidableEq

/-- The event persisted under `Source.WORKER`, with its details. -/
inductive JobEvent where
  | jobFailed (service : Str)
deriving DecidableEq

/-- Where the task of `_job_loop` waits; `start` is when the job in progress began. -/
inductive JobLoop where
  | created
  | latency (start : ℚ)
  | executing (start : ℚ)
  | interval
  | ended
deriving DecidableEq

def JobLoop.inJob : JobLoop → Bool
  | .latency _ | .executing _ => true
  | .created | .interval | .ended => false

structure Worker where
  chaos : World := {}
  loop : JobLoop := .created
  jobsProcessed : Metrics.Counter JobStatus := .empty
  jobDurations : List ℚ := []
  events : List JobEvent := []

namespace Worker

/-- The `finally` clause of `_process_job`. -/
def report (w : Worker) (status : JobStatus) (start now : ℚ) : Worker :=
  { w with
    jobDurations := (now - start) :: w.jobDurations
    jobsProcessed := w.jobsProcessed.inc status }

/-- `_process_job` from its call of `should_inject_error` on: to the sleep that simulates
    the execution, or through the `except` clause to the sleep between two jobs. -/
def attempt (w : Worker) (start now : ℚ) : Worker :=
  let (inject, state) := w.chaos.state.shouldInjectError
  let w := { w with chaos := { w.chaos with state } }
  if inject then
    let w := { w with events := .jobFailed "worker".toList :: w.events }
    { w.report .failed start now with loop := .interval }
  else { w with loop := .executing start }

def processJob (w : Worker) (start now : ℚ) : Worker :=
  if w.chaos.state.latencyEnabled ∧ 0 < w.chaos.state.latencySeconds then { w with loop := .latency start }
  else w.attempt start now

/-- The task runs on to its next `await`.  `start` and `now` are what `perf_counter` reads
    at the beginning and at the end of a job. -/
def resume (w : Worker) (start now : ℚ) : Option Worker :=
  match w.loop with
  | .created | .interval => some (w.processJob start now)
  | .latency began => some (w.attempt began now)
  | .executing began => some { w.report .success began now with loop := .interval }
  | .ended => none

/-- `task.cancel()`, as `_shutdown` does: the `await` raises `CancelledError`. -/
def cancel (w : Worker) (now : ℚ) : Option Worker :=
  match w.loop with
  | .created | .interval => some { w with loop := .ended }
  -- `except Exception` lets it pass, so the preset status is the one reported
  | .latency began | .executing began => some { w.report .success began now with loop := .ended }
  | .ended => none

end Worker

inductive WorkerStep where
  | chaos (event : Chaos.Event)
  | resume (start now : ℚ)
  | cancel (now : ℚ)

def Worker.step (w : Worker) : WorkerStep → Option Worker
  | .chaos event => (w.chaos.step event).map fun chaos => { w with chaos }
  | .resume start now => w.resume start now
  | .cancel now => w.cancel now

abbrev JobHistory := List (Transition Worker WorkerStep)

/-! ## What happened -/

namespace Worker

def begins (w : Worker) : WorkerStep → Bool
  | .resume _ _ => w.loop = .created ∨ w.loop = .interval
  | .chaos _ | .cancel _ => false

def completes (w : Worker) : WorkerStep → Bool
  | .resume _ _ =>
    match w.loop with
    | .executing _ => true
    | .created | .latency _ | .interval | .ended => false
  | .chaos _ | .cancel _ => false

/-- A job is injected a failure: it asks for a decision, at its beginning or after the
    sleep of the latency, and the answer is `true`. -/
def failsJob (w : Worker) : WorkerStep → Bool
  | .resume _ _ =>
    match w.loop with
    | .created | .interval =>
      !(w.chaos.state.latencyEnabled ∧ 0 < w.chaos.state.latencySeconds) && w.chaos.state.shouldInjectError.1
    | .latency _ => w.chaos.state.shouldInjectError.1
    | .executing _ | .ended => false
  | .chaos _ | .cancel _ => false

/-- The loop is cancelled while a job is in one of its sleeps. -/
def cutsShort (w : Worker) : WorkerStep → Bool
  | .cancel _ => w.loop.inJob
  | .chaos _ | .resume _ _ => false

end Worker

/-- The jobs are numbered from one as they begin. -/
def jobsBegun (history : JobHistory) : ℕ := history.countP fun made => made.before.begins made.label

def jobsCompleted (history : JobHistory) : ℕ := history.countP fun made => made.before.completes made.label

def jobsFailed (history : JobHistory) : ℕ := history.countP fun made => made.before.failsJob made.label

/-- How often the counter went up, under either status, while the job was the latest to
    have begun. -/
def timesCounted (job : ℕ) : JobHistory → ℕ
  | [] => 0
  | made :: past =>
    timesCounted job past +
      if jobsBegun (made :: past) = job then
        made.after.jobsProcessed.total (fun _ => true) - made.before.jobsProcessed.total (fun _ => true)
      else 0

/-- The metrics and the persisted events of the jobs count what happened. -/
structure CountsJobs (past : JobHistory) (w : Worker) : Prop where
  success : w.jobsProcessed.value .success = jobsCompleted past
  failed : w.jobsProcessed.value .failed = jobsFailed past
  persisted : w.events.count (.jobFailed "worker".toList) = jobsFailed past
  once : ∀ job, timesCounted job past ≤ 1

section

variable (made : Transition Worker WorkerStep) (past : JobHistory)

theorem jobsBegun_cons :
    jobsBegun (made :: past) = jobsBegun past + if made.before.begins made.label then 1 else 0 :=
  List.countP_cons

theorem jobsCompleted_cons :
    jobsCompleted (made :: past) = jobsCompleted past + if made.before.completes made.label then 1 else 0 :=
  List.countP_cons

theorem jobsFailed_cons :
    jobsFailed (made :: past) = jobsFailed past + if made.before.failsJob made.label then 1 else 0 :=
  List.countP_cons

end

/-! ## One step -/

namespace Worker

/-- The status that a job reports in the step, if one does. -/
def reports (w : Worker) (label : WorkerStep) : Option JobStatus :=
  if w.failsJob label then some .failed
  else if w.completes label || w.cutsShort label then some .success
  else none

/-- What a step does to the metrics, to the persisted events and to the job in progress. -/
structure Effect (w : Worker) (label : WorkerStep) (after : Worker) : Prop where
  counted : after.jobsProcessed = (w.reports label).elim w.jobsProcessed w.jobsProcessed.inc
  persisted : after.events = if w.failsJob label then .jobFailed "worker".toList :: w.events else w.events
  inJob : after.loop.inJob = ((w.loop.inJob || w.begins label) && (w.reports label).isNone)

theorem attempt_of_injected {w : Worker} (injected : w.chaos.state.shouldInjectError.1 = true) (start now : ℚ) :
    (w.attempt start now).jobsProcessed = w.jobsProcessed.inc .failed ∧
      (w.attempt start now).events = .jobFailed "worker".toList :: w.events ∧
      (w.attempt start now).loop = .interval := by
  simp [attempt, injected, report]

theorem attempt_of_spared {w : Worker} (spared : w.chaos.state.shouldInjectError.1 = false) (start now : ℚ) :
    (w.attempt start now).jobsProcessed = w.jobsProcessed ∧ (w.attempt start now).events = w.events ∧
      (w.attempt start now).loop = .executing start := by
  simp [attempt, spared]

theorem Effect.attempt {w : Worker} {label : WorkerStep} (start now : ℚ)
    (failsJob : w.failsJob label = w.chaos.state.shouldInjectError.1) (completes : w.completes label = false)
    (cutsShort : w.cutsShort label = false) (inJob : (w.loop.inJob || w.begins label) = true) :
    w.Effect label (w.attempt start now) := by
  cases answer : w.chaos.state.shouldInjectError.1 with
  | true =>
    obtain ⟨counted, persisted, loop⟩ := attempt_of_injected answer start now
    have reports : w.reports label = some .failed := by simp [Worker.reports, failsJob, answer]
    exact ⟨by rw [counted, reports]; rfl, by simp [persisted, failsJob, answer], by rw [loop, reports, inJob]; rfl⟩
  | false =>
    obtain ⟨counted, persisted, loop⟩ := attempt_of_spared answer start now
    have reports : w.reports label = none := by simp [Worker.reports, failsJob, answer, completes, cutsShort]
    exact ⟨by rw [counted, reports]; rfl, by simp [persisted, failsJob, answer], by rw [loop, reports, inJob]; rfl⟩

theorem Effect.processJob {w : Worker} (idle : w.loop = .created ∨ w.loop = .interval) (start now : ℚ) :
    w.Effect (.resume start now) (w.processJob start now) := by
  have notInJob : w.loop.inJob = false := by cases idle with | _ idle => rw [idle]; rfl
  have completes : w.completes (.resume start now) = false := by
    cases idle with | _ idle => simp [Worker.completes, idle]
  have begins : w.begins (.resume start now) = true := by simpa [Worker.begins] using idle
  simp only [Worker.processJob]
  split
  next delayed =>
    have failsJob : w.failsJob (.resume start now) = false := by
      cases idle with | _ idle => simp [Worker.failsJob, idle, delayed]
    have reports : w.reports (.resume start now) = none := by simp [Worker.reports, failsJob, completes, cutsShort]
    exact ⟨by rw [reports]; rfl, by simp [failsJob], by simp [reports, begins, JobLoop.inJob]⟩
  next prompt =>
    refine Effect.attempt start now ?_ completes rfl (by simp [begins])
    cases idle with | _ idle => simp [Worker.failsJob, idle, prompt]

theorem step_effect {w after : Worker} {label : WorkerStep} (taken : w.step label = some after) :
    w.Effect label after := by
  cases label with
  | chaos event =>
    obtain ⟨chaos, _, rfl⟩ := Option.map_eq_some_iff.mp taken
    exact ⟨rfl, rfl, by simp [reports, begins, failsJob, completes, cutsShort]⟩
  | resume start now =>
    cases waits : w.loop with
    | created =>
      simp only [step, resume, waits, Option.some.injEq] at taken
      exact taken ▸ Effect.processJob (.inl waits) start now
    | interval =>
      simp only [step, resume, waits, Option.some.injEq] at taken
      exact taken ▸ Effect.processJob (.inr waits) start now
    | latency began =>
      simp only [step, resume, waits, Option.some.injEq] at taken
      refine taken ▸ Effect.attempt began now ?_ ?_ rfl ?_
      all_goals simp [failsJob, completes, waits, JobLoop.inJob]
    | executing began =>
      simp only [step, resume, waits, Option.some.injEq] at taken
      subst taken
      have spared : w.failsJob (.resume start now) = false := by simp [failsJob, waits]
      have done : w.reports (.resume start now) = some .success := by simp [reports, spared, completes, waits]
      exact ⟨by rw [done]; rfl, by simp [spared, report], by simp [done, JobLoop.inJob]⟩
    | ended => simp [step, resume, waits] at taken
  | cancel now =>
    cases waits : w.loop with
    | created | interval =>
      simp only [step, cancel, waits, Option.some.injEq] at taken
      subst taken
      have silent : w.reports (.cancel now) = none := by
        simp [reports, failsJob, completes, cutsShort, waits, JobLoop.inJob]
      exact ⟨by rw [silent]; rfl, rfl, by simp [waits, begins, JobLoop.inJob]⟩
    | latency began | executing began =>
      simp only [step, cancel, waits, Option.some.injEq] at taken
      subst taken
      have preset : w.reports (.cancel now) = some .success := by
        simp [reports, failsJob, cutsShort, waits, JobLoop.inJob]
      exact ⟨by rw [preset]; rfl, rfl, by simp [preset, JobLoop.inJob]⟩
    | ended => simp [step, cancel, waits] at taken

theorem inJob_or_begins_of_reports {w : Worker} {label : WorkerStep} {status : JobStatus}
    (reported : w.reports label = some status) : w.loop.inJob = true ∨ w.begins label = true := by
  cases label with
  | chaos event => simp [reports, failsJob, completes, cutsShort] at reported
  | resume start now =>
    cases waits : w.loop with
    | latency began | executing began => exact .inl rfl
    | created | interval => exact .inr (by simp [begins, waits])
    | ended => simp [reports, failsJob, completes, cutsShort, waits] at reported
  | cancel now =>
    cases waits : w.loop with
    | latency began | executing began => exact .inl rfl
    | created | interval | ended => simp [reports, failsJob, completes, cutsShort, waits, JobLoop.inJob] at reported

end Worker

/-! ## No job is counted twice -/

/-- What is known about the numbers of the jobs: none was counted twice, those to come
    were not counted yet, nor was the one in progress. -/
structure CountedOnce (past : JobHistory) (w : Worker) : Prop where
  le_one : ∀ job, timesCounted job past ≤ 1
  to_come : ∀ job, jobsBegun past < job → timesCounted job past = 0
  in_progress : w.loop.inJob = true → timesCounted (jobsBegun past) past = 0

theorem Worker.Effect.timesCounted {w after : Worker} {label : WorkerStep} (effect : w.Effect label after)
    (past : JobHistory) (job : ℕ) :
    timesCounted job (⟨w, label, after⟩ :: past) =
      timesCounted job past +
        if jobsBegun (⟨w, label, after⟩ :: past) = job ∧ (w.reports label).isSome then 1 else 0 := by
  rw [Services.timesCounted, effect.counted]
  cases w.reports label with
  | none => simp
  | some status => simp [Metrics.Counter.inc, Metrics.Series.total_add]

theorem CountedOnce.step {past : JobHistory} {w after : Worker} {label : WorkerStep} (counted : CountedOnce past w)
    (taken : w.step label = some after) : CountedOnce (⟨w, label, after⟩ :: past) after := by
  have effect := Worker.step_effect taken
  obtain ⟨le_one, to_come, in_progress⟩ := counted
  have fresh : w.loop.inJob = true ∨ w.begins label = true →
      timesCounted (jobsBegun (⟨w, label, after⟩ :: past)) past = 0 := by
    intro busy
    rw [jobsBegun_cons]
    cases begun : w.begins label with
    | true => exact to_come _ (by simp)
    | false => exact in_progress (by simpa [begun] using busy)
  refine ⟨fun job => ?_, fun job later => ?_, fun busy => ?_⟩
  · rw [effect.timesCounted]
    split
    next reported =>
      obtain ⟨rfl, reported⟩ := reported
      obtain ⟨status, reported⟩ := Option.isSome_iff_exists.mp reported
      rw [fresh (Worker.inJob_or_begins_of_reports reported)]
    next silent => exact le_one job
  · have before : jobsBegun past < job := by
      rw [jobsBegun_cons] at later
      omega
    rw [effect.timesCounted, to_come job before, if_neg (fun reported => by omega)]
  · rw [effect.inJob] at busy
    obtain ⟨belongs, silent⟩ := Bool.and_eq_true_iff.mp busy
    rw [effect.timesCounted, fresh (Bool.or_eq_true_iff.mp belongs), if_neg]
    simp [Option.isNone_iff_eq_none.mp silent]

theorem countedOnce_run {history : JobHistory} {w : Worker} (run : Trace Worker.step {} history w) :
    CountedOnce history w := by
  refine run.history_invariant ⟨fun _ => Nat.zero_le _, fun _ _ => rfl, fun _ => rfl⟩ ?_
  intro past before label after _ counted taken
  exact counted.step taken

/-! ## The metrics -/

namespace Worker

theorem ends_exclusive (w : Worker) (label : WorkerStep) :
    (w.failsJob label = true → w.completes label = false ∧ w.cutsShort label = false) ∧
      (w.completes label = true → w.cutsShort label = false) := by
  cases label with
  | chaos event => simp [failsJob, completes]
  | resume start now => cases waits : w.loop <;> simp [failsJob, completes, cutsShort, waits]
  | cancel now => simp [failsJob, completes]

variable {w after : Worker} {label : WorkerStep}

/-- A job that is cut short counts as a success. -/
theorem Effect.success (effect : w.Effect label after) :
    after.jobsProcessed.value .success =
      w.jobsProcessed.value .success + if w.completes label || w.cutsShort label then 1 else 0 := by
  rw [effect.counted, reports]
  cases failed : w.failsJob label with
  | true =>
    obtain ⟨notCompleted, notCut⟩ := (ends_exclusive w label).1 failed
    simp [notCompleted, notCut, Metrics.Counter.inc, Metrics.Series.value_add]
  | false =>
    cases w.completes label || w.cutsShort label with
    | true => simp [Metrics.Counter.inc, Metrics.Series.value_add]
    | false => simp

theorem Effect.failed (effect : w.Effect label after) :
    after.jobsProcessed.value .failed = w.jobsProcessed.value .failed + if w.failsJob label then 1 else 0 := by
  rw [effect.counted, reports]
  cases w.failsJob label with
  | true => simp [Metrics.Counter.inc, Metrics.Series.value_add]
  | false =>
    cases w.completes label || w.cutsShort label with
    | true => simp [Metrics.Counter.inc, Metrics.Series.value_add]
    | false => simp

theorem Effect.count_persisted (effect : w.Effect label after) :
    after.events.count (.jobFailed "worker".toList) =
      w.events.count (.jobFailed "worker".toList) + if w.failsJob label then 1 else 0 := by
  rw [effect.persisted]
  cases w.failsJob label with
  | true => exact List.count_cons_self
  | false => rfl

end Worker

/-- A step keeps the metrics truthful exactly when it does not cancel a job in progress. -/
theorem CountsJobs.step {past : JobHistory} {w after : Worker} {label : WorkerStep} (counts : CountsJobs past w)
    (run : Trace Worker.step {} past w) (taken : w.step label = some after) :
    CountsJobs (⟨w, label, after⟩ :: past) after ↔ w.cutsShort label = false := by
  have effect := Worker.step_effect taken
  have success := effect.success
  constructor
  · intro truthful
    have now := truthful.success
    rw [jobsCompleted_cons, success, counts.success] at now
    cases cut : w.cutsShort label with
    | false => rfl
    | true =>
      cases finished : w.completes label with
      | true => exact absurd ((Worker.ends_exclusive w label).2 finished) (by simp [cut])
      | false => simp [cut, finished] at now
  · intro uncut
    rw [uncut, Bool.or_false] at success
    exact {
      success := by rw [success, jobsCompleted_cons, counts.success]
      failed := by rw [effect.failed, jobsFailed_cons, counts.failed]
      persisted := by rw [effect.count_persisted, jobsFailed_cons, counts.persisted]
      once := ((countedOnce_run run).step taken).le_one }

/-- The metrics of the jobs count what happened, at every moment of a run, exactly when
    no job of the run is cancelled in one of its sleeps. -/
theorem job_metrics_count_iff {history : JobHistory} {w : Worker} (run : Trace Worker.step {} history w) :
    Always CountsJobs {} history ↔ ∀ made ∈ history, made.before.cutsShort made.label = false :=
  run.always_iff_forall (C := fun w label => w.cutsShort label = false)
    ⟨rfl, rfl, rfl, fun _ => Nat.zero_le _⟩
    fun _ _ _ _ earlier counts taken => counts.step earlier taken

/-- Two jobs, the second one failed by an error rate of 100%, and a cancellation between
    jobs. -/
theorem job_metrics_count_two_jobs :
    ∃ history w, Trace Worker.step {} history w ∧ w.jobsProcessed.value .success = 1 ∧
      w.jobsProcessed.value .failed = 1 ∧ w.loop = .ended ∧ Always CountsJobs {} history := by
  obtain ⟨history, w, run, uncut, success, failed, ended⟩ := exists_trace_of_replay Worker.step {}
    [.resume 0 0, .resume 1 1, .chaos (.errors { enable := some true, ratePercent := some 100 }), .resume 6 6,
      .cancel 7]
    (fun history w => (∀ made ∈ history, made.before.cutsShort made.label = false) ∧
      w.jobsProcessed.value .success = 1 ∧ w.jobsProcessed.value .failed = 1 ∧ w.loop = .ended)
    (by decide +kernel)
  exact ⟨history, w, run, success, failed, ended, (job_metrics_count_iff run).mpr uncut⟩

/-- The first job is cancelled while it executes, and counts as a success. -/
theorem job_metrics_count_cut_short :
    ∃ history w, Trace Worker.step {} history w ∧ w.jobsProcessed.value .success = 1 ∧
      jobsCompleted history = 0 ∧ ¬ CountsJobs history w := by
  obtain ⟨history, w, run, success, completed⟩ := exists_trace_of_replay Worker.step {}
    [.resume 0 0, .cancel (1 / 10)]
    (fun history w => w.jobsProcessed.value .success = 1 ∧ jobsCompleted history = 0)
    (by decide +kernel)
  refine ⟨history, w, run, success, completed, fun counts => ?_⟩
  rw [counts.success, completed] at success
  cases success

end AutoSre.Services
