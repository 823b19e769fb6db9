import Mathlib.Data.List.Induction
import AutoSre.Services.Worker

/-! # One accumulator for jobs and requests

A worker's jobs and the requests it serves ask the same chaos state for their errors.  What
is spread evenly (over exact rationals) is their common sequence: `worker_failures_spread`
reads it off the two counters.  For the jobs alone nothing is promised: `job_outcomes_arbitrary` steers them with
requests in between.
-/

namespace AutoSre.Services

open AutoSre.Lib AutoSre.Lib.Python AutoSre.Chaos

/-! ## Decisions -/

namespace Worker

/-- The answer of `should_inject_error` to the job or the request of the step, if it asks. -/
def decision (w : Worker) : WorkerStep → Option Bool
  | .chaos event => w.chaos.decision (.chaos event)
  | .resume _ _ =>
    match w.loop with
    | .created | .interval =>
      if w.chaos.state.latencyEnabled ∧ 0 < w.chaos.state.latencySeconds then none
      else some w.chaos.state.shouldInjectError.1
    | .latency _ => some w.chaos.state.shouldInjectError.1
    | .executing _ | .ended => none
  | .cancel _ => none

/-- The failed jobs and the injected 500s, as the two counters show them. -/
def failures (w : Worker) : ℕ := w.jobsProcessed.value .failed + w.chaos.errorInjectionsTotal

end Worker

def decided : JobHistory → List Bool
  | [] => []
  | made :: past => decided past ++ (made.before.decision made.label).toList

/-- Neither an errors request nor a reset. -/
def WorkerStep.KeepsErrors : WorkerStep → Prop
  | .chaos event => Chaos.KeepsErrors (.chaos event)
  | .resume _ _ | .cancel _ => True

instance : DecidablePred WorkerStep.KeepsErrors
  | .chaos event => inferInstanceAs (Decidable (Chaos.KeepsErrors (.chaos event)))
  | .resume _ _ | .cancel _ => .isTrue trivial

theorem Worker.attempt_chaos (w : Worker) (start now : ℚ) :
    w.chaos.happen .job = some (w.attempt start now).chaos := by
  simp only [World.happen, Worker.attempt]
  split <;> rfl

/-- The controller sees a step of the worker as nothing, or as something that asks for the
    same decision. -/
theorem Worker.step_decides {w after : Worker} {label : WorkerStep} (taken : w.step label = some after) :
    (after.chaos = w.chaos ∧ w.decision label = none) ∨
      ∃ happening, w.chaos.happen happening = some after.chaos ∧ w.chaos.decision happening = w.decision label ∧
        (label.KeepsErrors → Chaos.KeepsErrors happening) := by
  cases label with
  | chaos event =>
    obtain ⟨chaos, moved, rfl⟩ := Option.map_eq_some_iff.mp taken
    exact .inr ⟨.chaos event, moved, rfl, id⟩
  | resume start now =>
    cases waits : w.loop with
    | created | interval =>
      simp only [step, resume, waits, Option.some.injEq, processJob] at taken
      subst taken
      split
      next delayed => exact .inl ⟨rfl, by simp [decision, waits, delayed]⟩
      next prompt =>
        exact .inr ⟨.job, w.attempt_chaos start now, by simp [decision, World.decision, waits, prompt],
          fun _ => trivial⟩
    | latency began =>
      simp only [step, resume, waits, Option.some.injEq] at taken
      subst taken
      exact .inr ⟨.job, w.attempt_chaos began now, by simp [decision, World.decision, waits], fun _ => trivial⟩
    | executing began =>
      simp only [step, resume, waits, Option.some.injEq] at taken
      subst taken
      exact .inl ⟨rfl, by simp [decision, waits]⟩
    | ended => simp [step, resume, waits] at taken
  | cancel now =>
    cases waits : w.loop with
    | created | interval | latency began | executing began =>
      simp only [step, cancel, waits, Option.some.injEq] at taken
      subst taken
      exact .inl ⟨rfl, rfl⟩
    | ended => simp [step, cancel, waits] at taken

/-! ## The counters -/

namespace Worker

theorem attempt_injections (w : Worker) (start now : ℚ) :
    (w.attempt start now).chaos.errorInjectionsTotal = w.chaos.errorInjectionsTotal := by
  simp only [attempt]
  split <;> rfl

theorem loop_injections {w after : Worker} {label : WorkerStep} (taken : w.step label = some after)
    (isLoop : ∀ event, label ≠ .chaos event) :
    after.chaos.errorInjectionsTotal = w.chaos.errorInjectionsTotal := by
  cases label with
  | chaos event => exact absurd rfl (isLoop event)
  | resume start now =>
    cases waits : w.loop with
    | created | interval =>
      simp only [step, resume, waits, Option.some.injEq, processJob] at taken
      subst taken
      split
      · rfl
      · exact w.attempt_injections start now
    | latency began =>
      simp only [step, resume, waits, Option.some.injEq] at taken
      exact taken ▸ w.attempt_injections began now
    | executing began =>
      simp only [step, resume, waits, Option.some.injEq] at taken
      exact taken ▸ rfl
    | ended => simp [step, resume, waits] at taken
  | cancel now =>
    cases waits : w.loop with
    | created | interval | latency began | executing began =>
      simp only [step, cancel, waits, Option.some.injEq] at taken
      exact taken ▸ rfl
    | ended => simp [step, cancel, waits] at taken

theorem failsJob_iff_decision (w : Worker) {label : WorkerStep} (isLoop : ∀ event, label ≠ .chaos event) :
    w.failsJob label = true ↔ w.decision label = some true := by
  cases label with
  | chaos event => exact absurd rfl (isLoop event)
  | resume start now =>
    cases waits : w.loop with
    | created | interval =>
      by_cases delayed : w.chaos.state.latencyEnabled ∧ 0 < w.chaos.state.latencySeconds
      · simp [failsJob, decision, waits, delayed]
      · simp [failsJob, decision, waits, delayed]
    | latency began | executing began | ended => simp [failsJob, decision, waits]
  | cancel now => simp [failsJob, decision]

theorem failures_step {w after : Worker} {label : WorkerStep} (taken : w.step label = some after) :
    after.failures = w.failures + if w.decision label = some true then 1 else 0 := by
  have failed := (step_effect taken).failed
  cases label with
  | chaos event =>
    obtain ⟨chaos, moved, rfl⟩ := Option.map_eq_some_iff.mp taken
    rw [failures, failures, World.step_counts moved, ← add_assoc]
    rfl
  | resume start now =>
    have isLoop : ∀ event, WorkerStep.resume start now ≠ .chaos event := by simp
    rw [failures, failures, failed, loop_injections taken isLoop]
    simp only [failsJob_iff_decision w isLoop]
    omega
  | cancel now =>
    rw [failures, failures, failed, loop_injections taken (by simp)]
    exact (add_right_comm _ _ _).trans rfl

end Worker

theorem failures_run {start w : Worker} {history : JobHistory} (run : Trace Worker.step start history w) :
    w.failures = start.failures + (decided history).count true := by
  induction run with
  | nil => rfl
  | @snoc past before label after _ taken ih =>
    rw [Worker.failures_step taken, ih, decided, List.count_append]
    cases before.decision label with
    | none => simp
    | some answer => cases answer <;> simp [add_assoc]

/-- The decisions of a run take the accumulator on from wherever it stands. -/
theorem decided_run {rate : ℚ} {n : ℕ} {start w : Worker} {history : JobHistory}
    (injecting : Injecting rate (EvenSpread.level rate n) start.chaos.state) (rateNonneg : 0 ≤ rate)
    (rateLe : rate ≤ 1) (run : Trace Worker.step start history w)
    (keeps : ∀ made ∈ history, made.label.KeepsErrors) :
    Injecting rate (EvenSpread.level rate (n + (decided history).length)) w.chaos.state ∧
      EvenSpread.fired rate n + (decided history).count true =
        EvenSpread.fired rate (n + (decided history).length) := by
  induction run with
  | nil => exact ⟨injecting, rfl⟩
  | @snoc past before label after _ taken ih =>
    obtain ⟨keepsLast, keeps⟩ := List.forall_mem_cons.mp keeps
    obtain ⟨reached, fired⟩ := ih keeps
    -- for the accumulator it makes no difference who asks
    obtain ⟨unmoved, undecided⟩ | ⟨happening, moved, same, kept⟩ := Worker.step_decides taken
    · rw [decided, undecided, unmoved]
      simpa using ⟨reached, fired⟩
    · rw [decided, ← same]
      obtain ⟨undecided, reached⟩ | ⟨answer, reached⟩ := reached.happen rateNonneg rateLe (kept keepsLast) moved
      · rw [undecided]
        simpa using ⟨reached, fired⟩
      · rw [answer, Option.toList_some, List.length_append, List.length_singleton, List.count_append, ← add_assoc,
          ← add_assoc, EvenSpread.fired_succ, fired]
        refine ⟨reached, ?_⟩
        cases EvenSpread.fires rate (n + (decided past).length) <;> rfl

/-- After an errors request that enables injection, and until the next one or a reset: the
    failed jobs and the injected 500s add up to the rate's part of the decisions that jobs
    and requests have asked for, rounded down, and between two scrapes rounded down or up. -/
theorem worker_failures_spread (w : Worker) (errors : ErrorConfig) (enabled : errors.enable = true)
    (past recent : JobHistory) (scraped after : Worker)
    (run : Trace Worker.step { w with chaos := (w.chaos.setErrors errors).2 } past scraped)
    (continued : Trace Worker.step scraped recent after)
    (keeps : ∀ made ∈ recent ++ past, made.label.KeepsErrors) :
    (scraped.failures - w.failures : ℤ) = ⌊(decided past).length * (errors.ratePercent / 100)⌋ ∧
      ((after.failures - scraped.failures : ℤ) = ⌊(decided recent).length * (errors.ratePercent / 100)⌋ ∨
        (after.failures - scraped.failures : ℤ) = ⌈(decided recent).length * (errors.ratePercent / 100)⌉) := by
  obtain ⟨percentNonneg, percentLe⟩ := errors.rate_bounds
  have rateNonneg : 0 ≤ errors.ratePercent / 100 := by linarith
  have rateLe : errors.ratePercent / 100 ≤ 1 := by linarith
  obtain ⟨keepsRecent, keepsPast⟩ := List.forall_mem_append.mp keeps
  have injecting := setErrors_injecting w.chaos enabled
  obtain ⟨reached, first⟩ := decided_run (n := 0) injecting rateNonneg rateLe run keepsPast
  obtain ⟨-, later⟩ := decided_run reached rateNonneg rateLe continued keepsRecent
  have counted := failures_run run
  change scraped.failures = w.failures + (decided past).count true at counted
  rw [zero_add] at first later
  have first : (decided past).count true = EvenSpread.fired (errors.ratePercent / 100) (decided past).length :=
    (Nat.zero_add _).symm.trans first
  constructor
  · rw [counted, first, ← EvenSpread.fired_eq_floor rateNonneg rateLe]
    push_cast
    ring
  · have window : (after.failures - scraped.failures : ℤ) =
        EvenSpread.fired (errors.ratePercent / 100) ((decided past).length + (decided recent).length) -
          EvenSpread.fired (errors.ratePercent / 100) (decided past).length := by
      rw [failures_run continued, ← later]
      push_cast
      ring
    rw [window]
    exact EvenSpread.fired_window rateNonneg rateLe _ _

/-- At a rate of 40%, with jobs and requests in turn: two failures in the first five
    decisions, both of them jobs. -/
theorem worker_failures_spread_two_of_five :
    ∃ (past : JobHistory) (scraped : Worker),
      Trace Worker.step { ({} : Worker) with chaos := (({} : World).setErrors ⟨true, 40, by decide⟩).2 } past scraped ∧
        (decided past).length = 5 ∧ scraped.failures = 2 := by
  obtain ⟨past, scraped, run, keeps, five⟩ :=
    exists_trace_of_replay Worker.step
      { ({} : Worker) with chaos := (({} : World).setErrors ⟨true, 40, by decide⟩).2 }
      [.resume 0 0, .resume 0 1, .chaos (.arrive "/".toList), .resume 6 6, .chaos (.arrive "/".toList), .resume 11 11]
      (fun history _ => (∀ made ∈ history, made.label.KeepsErrors) ∧ (decided history).length = 5)
      (by decide +kernel)
  obtain ⟨spread, -⟩ := worker_failures_spread {} ⟨true, 40, by decide⟩ rfl past [] scraped scraped run .nil keeps
  have two : ⌊((5 : ℕ) : ℚ) * (40 / 100)⌋ = 2 := by norm_num
  have noneBefore : ({} : Worker).failures = 0 := rfl
  rw [five, noneBefore, two] at spread
  exact ⟨past, scraped, run, five, by omega⟩

/-! ## The jobs by themselves -/

def outcomes : JobHistory → List JobStatus
  | [] => []
  | made :: past => outcomes past ++ (made.before.reports made.label).toList

/-- The loop goes on, or a request comes. -/
def WorkerStep.OnlyRequests : WorkerStep → Prop
  | .resume _ _ | .chaos (.arrive _) => True
  | .chaos (.latency _) | .chaos (.errors _) | .chaos (.cpu _) | .chaos (.memory _) | .chaos .reset => False
  | .chaos .status | .chaos (.start _) | .chaos (.finish _) | .chaos (.wake _) | .cancel _ => False

/-- Between two jobs, after `n` decisions. -/
structure Between (rate : ℚ) (n : ℕ) (w : Worker) : Prop where
  idle : w.loop = .created ∨ w.loop = .interval
  prompt : w.chaos.state.latencyEnabled = false
  injecting : Injecting rate (EvenSpread.level rate n) w.chaos.state

/-- A run that has had these outcomes and is between two jobs. -/
structure Steered (rate : ℚ) (start : Worker) (wanted : List JobStatus) (n : ℕ) (history : JobHistory) (w : Worker) :
    Prop where
  run : Trace Worker.step start history w
  requests : ∀ made ∈ history, made.label.OnlyRequests
  outcomes : outcomes history = wanted
  between : Between rate n w

namespace Steered

variable {rate : ℚ} {start w : Worker} {wanted : List JobStatus} {n : ℕ} {history : JobHistory}

theorem request (steered : Steered rate start wanted n history w) (rateNonneg : 0 ≤ rate) (rateLe : rate ≤ 1) :
    ∃ history w, Steered rate start wanted (n + 1) history w := by
  obtain ⟨run, requests, outcomes, idle, prompt, injecting⟩ := steered
  obtain ⟨-, moved⟩ := injecting.decide rateNonneg rateLe
  have arrived : w.chaos.arrive "/".toList = w.chaos.injectError.2 := by
    rw [World.arrive, if_neg (by decide), if_neg (by simp [prompt])]
  have taken : w.step (.chaos (.arrive "/".toList)) = some { w with chaos := w.chaos.injectError.2 } := by
    simp only [Worker.step, World.step, arrived, Option.map_some]
  obtain ⟨accumulator, total, moves⟩ := w.chaos.injectError_eq
  refine ⟨_, _, run.snoc taken, List.forall_mem_cons.mpr ⟨trivial, requests⟩, ?_, idle, ?_, ?_⟩
  · simpa [Services.outcomes, Worker.reports, Worker.failsJob, Worker.completes, Worker.cutsShort] using outcomes
  · rw [moves]
    exact prompt
  · rw [World.injectError_state]
    exact moved

theorem requests_run (steered : Steered rate start wanted n history w) (rateNonneg : 0 ≤ rate) (rateLe : rate ≤ 1)
    (k : ℕ) : ∃ history w, Steered rate start wanted (n + k) history w := by
  induction k with
  | zero => exact ⟨history, w, steered⟩
  | succ k ih =>
    obtain ⟨history, w, steered⟩ := ih
    exact steered.request rateNonneg rateLe

theorem job (steered : Steered rate start wanted n history w) (rateNonneg : 0 ≤ rate) (rateLe : rate ≤ 1) :
    ∃ history w,
      Steered rate start (wanted ++ [if EvenSpread.fires rate n then .failed else .success]) (n + 1) history w := by
  obtain ⟨run, requests, outcomes, idle, prompt, injecting⟩ := steered
  obtain ⟨decided, moved⟩ := injecting.decide rateNonneg rateLe
  have begins : w.step (.resume 0 0) = some (w.attempt 0 0) := by
    cases idle with | _ idle => simp [Worker.step, Worker.resume, Worker.processJob, idle, prompt]
  have chaos : (w.attempt 0 0).chaos = { w.chaos with state := w.chaos.state.shouldInjectError.2 } :=
    (Option.some.inj (w.attempt_chaos 0 0)).symm
  have stillPrompt : (w.attempt 0 0).chaos.state.latencyEnabled = false := by
    rw [chaos, w.chaos.state.shouldInjectError_eq]
    exact prompt
  have stillInjecting : Injecting rate (EvenSpread.level rate (n + 1)) (w.attempt 0 0).chaos.state := by
    rw [chaos]
    exact moved
  have asks : w.failsJob (.resume 0 0) = w.chaos.state.shouldInjectError.1 := by
    cases idle with | _ idle => simp [Worker.failsJob, idle, prompt]
  have notOver : w.completes (.resume 0 0) = false := by
    cases idle with | _ idle => simp [Worker.completes, idle]
  cases fires : EvenSpread.fires rate n with
  | true =>
    rw [fires] at decided
    obtain ⟨-, -, loop⟩ := Worker.attempt_of_injected decided 0 0
    refine ⟨_, _, run.snoc begins, List.forall_mem_cons.mpr ⟨trivial, requests⟩, ?_, .inr loop, stillPrompt,
      stillInjecting⟩
    simp [Services.outcomes, Worker.reports, asks, decided, outcomes]
  | false =>
    rw [fires] at decided
    obtain ⟨-, -, loop⟩ := Worker.attempt_of_spared decided 0 0
    have completes : (w.attempt 0 0).step (.resume 0 0) =
        some { (w.attempt 0 0).report .success 0 0 with loop := .interval } := by
      simp [Worker.step, Worker.resume, loop]
    refine ⟨_, _, (run.snoc begins).snoc completes,
      List.forall_mem_cons.mpr ⟨trivial, List.forall_mem_cons.mpr ⟨trivial, requests⟩⟩, ?_, .inr rfl, stillPrompt,
      stillInjecting⟩
    have silent : w.reports (.resume 0 0) = none := by
      simp [Worker.reports, asks, decided, notOver, Worker.cutsShort]
    have ended : (w.attempt 0 0).reports (.resume 0 0) = some .success := by
      simp [Worker.reports, Worker.failsJob, Worker.completes, loop]
    simp [Services.outcomes, silent, ended, outcomes]

end Steered

/-- From a worker between two jobs, with no latency injected: for every rate strictly between
    0% and 100% and every sequence of outcomes there are requests, between the jobs and to
    no control path, that give the jobs these outcomes. -/
theorem job_outcomes_arbitrary (w : Worker) (idle : w.loop = .created ∨ w.loop = .interval)
    (prompt : w.chaos.state.latencyEnabled = false) (errors : ErrorConfig) (enabled : errors.enable = true)
    (positive : 0 < errors.ratePercent) (less : errors.ratePercent < 100) (wanted : List JobStatus) :
    ∃ (history : JobHistory) (after : Worker),
      Trace Worker.step { w with chaos := (w.chaos.setErrors errors).2 } history after ∧
        (∀ made ∈ history, made.label.OnlyRequests) ∧ outcomes history = wanted := by
  have ratePositive : 0 < errors.ratePercent / 100 := by linarith
  have rateLess : errors.ratePercent / 100 < 1 := by linarith
  suffices steered : ∃ n history after, Steered (errors.ratePercent / 100)
      { w with chaos := (w.chaos.setErrors errors).2 } wanted n history after by
    obtain ⟨n, history, after, run, requests, outcomes, -⟩ := steered
    exact ⟨history, after, run, requests, outcomes⟩
  induction wanted using List.reverseRecOn with
  | nil => exact ⟨0, [], _, .nil, by simp, rfl, idle, prompt, setErrors_injecting w.chaos enabled⟩
  | append_singleton wanted status ih =>
    obtain ⟨n, history, reached, steered⟩ := ih
    -- requests take the decisions up to the next one that the job wants
    obtain ⟨k, fires⟩ := EvenSpread.exists_fires ratePositive rateLess n (decide (status = .failed))
    obtain ⟨history, reached, steered⟩ := steered.requests_run ratePositive.le rateLess.le k
    obtain ⟨history, after, steered⟩ := steered.job ratePositive.le rateLess.le
    rw [fires] at steered
    have asWanted : (if decide (status = .failed) then JobStatus.failed else .success) = status := by
      cases status <;> rfl
    exact ⟨n + k + 1, history, after, asWanted ▸ steered⟩

theorem job_outcomes_arbitrary_half :
    ∃ (history : JobHistory) (after : Worker),
      Trace Worker.step { ({} : Worker) with chaos := (({} : World).setErrors ⟨true, 50, by decide⟩).2 } history after ∧
        (∀ made ∈ history, made.label.OnlyRequests) ∧ outcomes history = List.replicate 100 .success :=
  job_outcomes_arbitrary {} (.inl rfl) rfl ⟨true, 50, by decide⟩ rfl (by norm_num) (by norm_num)
    (List.replicate 100 .success)

end AutoSre.Services
