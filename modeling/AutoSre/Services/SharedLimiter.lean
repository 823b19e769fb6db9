import AutoSre.Lib.OnceCell
import AutoSre.Services.EnvCheck

/-! # The limiter of a process

`get_limiter` builds the limiter of the process on first use, under a lock and with two
checks; the middleware keeps what it got, and `/rate-limit/status` asks again at every
request.  `set_limiter` replaces the limiter without taking the lock.

Threads call the two in any order.  A limiter is known by its number in the order of
construction, and the variables are read anew at every attempt to build one.
-/

namespace AutoSre.Services.SharedLimiter

open AutoSre.Lib AutoSre.Lib.OnceCell

variable {τ : Type} [DecidableEq τ]

/-- The branch of `get_limiter` that builds one; `none` is the `ValueError` of `float`. -/
def makeLimiter (env : Environ) : Option LimiterRates := getLimiter none env

/-- The threads of a process, its `_default` and the limiters built so far. -/
abbrev Process (τ : Type) := Cell τ LimiterRates

def Process.step : Process τ → Act τ Environ LimiterRates → Option (Process τ) := Cell.step makeLimiter

abbrev ProcessHistory (τ : Type) := History τ Environ LimiterRates

/-- The run holds an attempt to build a limiter that read these rates. -/
def Built (history : ProcessHistory τ) (rates : LimiterRates) : Prop :=
  ∃ step ∈ history, ∃ thread env, step.label = .make thread env ∧ makeLimiter env = some rates

/-- Whatever the interleaving, a process that never calls `set_limiter` builds at most one
    limiter.  Every call of `get_limiter` that returns has returned that one, with the rates
    of one environment.  No call takes more than seven steps of its thread, and while one
    is under way some thread can take a step. -/
theorem get_limiter_shared (history : ProcessHistory τ) (process : Process τ)
    (run : Trace Process.step {} history process) (notSet : given history = []) :
    process.objects.length ≤ 1 ∧
      (∀ thread result, process.stage thread = .returned result →
        result = some 0 ∧ ∃ rates, process.objects = [rates] ∧ Built history rates) ∧
      (∀ thread, history.countP (fun step => step.label.advances thread) ≤
        7 * history.countP (fun step => step.label.calls thread)) ∧
      ∀ thread env, (process.stage thread).inCall = true →
        ∃ runner act, (act = .run runner ∨ act = .make runner env) ∧ (process.step act).isSome := by
  have filling := filling_run run
  refine ⟨?_, ?_, ?_, ?_⟩
  · have counted := length_objects run
    have once := filling.once
    rw [notSet, List.length_nil] at counted
    omega
  · intro thread result isReturned
    have accounted := filling.threads thread
    rw [isReturned] at accounted
    obtain ⟨number, isResult, known⟩ := accounted
    obtain ⟨first, rates, only, built⟩ := shared_of_not_given run notSet known
    exact ⟨by rw [isResult, first], rates, only, built⟩
  · intro thread
    have bounded := rank_run run thread
    omega
  · intro thread env inCall
    exact filling.locked.progress inCall env

theorem get_limiter_shared_race :
    ∃ (history : ProcessHistory Bool) (process : Process Bool) (rates : LimiterRates),
      Trace Process.step {} history process ∧ process.stage true = .returned (some 0) ∧
        process.stage false = .returned (some 0) ∧ process.objects = [rates] ∧ Built history rates := by
  obtain ⟨history, process, run, notSet, first, second⟩ :=
    exists_trace_of_replay Process.step {}
      [.call true, .call false, .run true, .run false, .run true, .run true, .make true fun _ => none, .run true,
        .run true, .run false, .run false, .run false, .run false, .run true]
      (fun history process => given history = [] ∧ process.stage true = .returned (some 0) ∧
        process.stage false = .returned (some 0)) (by decide +kernel)
  obtain ⟨_, returned, _⟩ := get_limiter_shared history process run notSet
  obtain ⟨_, rates, only, built⟩ := returned true (some 0) first
  exact ⟨history, process, rates, run, first, second, only, built⟩

theorem makeLimiter_unset : (makeLimiter fun _ => none).isSome := by decide +kernel

/-- The limiter with this number is the one of the process, and who returns from
    `get_limiter` after this moment returns it. -/
def InUse (number : ℕ) (since process : Process τ) : Prop :=
  process.value = some number ∧
    ∀ thread result, process.stage thread = .returned result →
      since.stage thread = .returned result ∨ result = some number

/-- At any moment of any run, a limiter that is set stays in use, until another one is set,
    exactly when no thread is between its second check and its assignment in `get_limiter`
    at that moment. -/
theorem set_limiter_lasts_iff (history : ProcessHistory τ) (process next : Process τ) (rates : LimiterRates)
    (run : Trace Process.step {} history process) (taken : process.step (.set rates) = some next) :
    (∀ later final, Trace Process.step next later final → given later = [] →
        InUse process.objects.length next final) ↔
      ∀ thread, (process.stage thread).fills = false := by
  have lasts := lasts_iff run ⟨_, makeLimiter_unset⟩ taken
  constructor
  · intro inUse
    exact lasts.mp fun later final laterRun notSet => (inUse later final laterRun notSet).1
  · intro still later final laterRun notSet
    refine ⟨lasts.mpr still later final laterRun notSet, ?_⟩
    cases taken
    have settled : Settled { process with
        value := some process.objects.length, objects := process.objects ++ [rates] } := ⟨by simp, still⟩
    obtain ⟨_, _, _, results⟩ := settled.run laterRun
    simpa [notSet] using results

theorem set_limiter_lasts_fresh :
    let rates : LimiterRates := ⟨.finite 1, .finite 2⟩
    let chosen : Process Bool := { value := some 0, objects := [rates] }
    ∀ later final, Trace Process.step chosen later final → given later = [] → InUse 0 chosen final := by
  intro rates chosen
  exact (set_limiter_lasts_iff [] {} chosen rates .nil rfl).mpr fun _ => rfl

end AutoSre.Services.SharedLimiter
