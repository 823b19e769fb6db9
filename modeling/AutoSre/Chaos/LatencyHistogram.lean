import AutoSre.Chaos.Controller
import Mathlib.Data.Multiset.ZeroCons

/-! # What the latency histogram records

`apply_request_chaos` reads the delay twice, once for its sleep and once more for the
histogram, and any number of control requests may fall in between.  The histogram is
that of the delays slept exactly as long as every request finds the delay it slept when
it wakes up.
-/

namespace AutoSre.Chaos

open AutoSre.Lib AutoSre.Lib.Python

/-! ## Requests that come and go -/

/-- What happens to the requests of a controller: an event of its own, or the end of a
    request whose sleep of `delay` is cancelled. -/
inductive Occurrence where
  | chaos (event : Event)
  | cancel (delay : ℚ)

/-- The sleep of a cancelled request raises, so neither the histogram nor the decision
    on an error is reached. -/
def World.abandon (w : World) (delay : ℚ) : World := { w with sleeping := w.sleeping.erase delay }

def World.occur (w : World) : Occurrence → Option World
  | .chaos event => w.step event
  | .cancel delay => if delay ∈ w.sleeping then some (w.abandon delay) else none

abbrev RequestHistory := List (Transition World Occurrence)

def Occurrence.slept : Occurrence → Option ℚ
  | .chaos (.wake delay) => some delay
  | .chaos (.latency _) | .chaos (.errors _) | .chaos (.cpu _) | .chaos (.memory _) | .chaos .reset => none
  | .chaos .status | .chaos (.start _) | .chaos (.finish _) | .chaos (.arrive _) | .cancel _ => none

def delaysSlept (history : RequestHistory) : List ℚ := history.filterMap fun made => made.label.slept

/-- The values observed are the delays slept, in whatever order. -/
def RecordsSlept (past : RequestHistory) (w : World) : Prop :=
  (w.latencyObserved : Multiset ℚ) = (delaysSlept past : Multiset ℚ)

instance (past : RequestHistory) (w : World) : Decidable (RecordsSlept past w) :=
  inferInstanceAs (Decidable ((w.latencyObserved : Multiset ℚ) = (delaysSlept past : Multiset ℚ)))

def FindsItsDelay (w : World) (occurrence : Occurrence) : Prop :=
  ∀ delay ∈ occurrence.slept, w.state.latencySeconds = delay

instance (w : World) (occurrence : Occurrence) : Decidable (FindsItsDelay w occurrence) :=
  inferInstanceAs (Decidable (∀ delay ∈ occurrence.slept, w.state.latencySeconds = delay))

/-! ## One step -/

theorem delaysSlept_cons (made : Transition World Occurrence) (past : RequestHistory) :
    delaysSlept (made :: past) = made.label.slept.toList ++ delaysSlept past := by
  rw [delaysSlept, List.filterMap_cons]
  cases made.label.slept <;> rfl

theorem World.occur_latencyObserved {w after : World} {occurrence : Occurrence}
    (taken : w.occur occurrence = some after) :
    after.latencyObserved =
      (occurrence.slept.map fun _ => w.state.latencySeconds).toList ++ w.latencyObserved := by
  cases occurrence with
  | cancel delay =>
    obtain ⟨asleep, taken⟩ := Option.ite_none_right_eq_some.mp taken
    cases taken
    rfl
  | chaos event =>
    cases World.step_moves taken with
    | latency body => cases body.validate <;> rfl
    | errors body => cases body.validate <;> rfl
    | cpu body => cases body.validate <;> rfl
    | memory body =>
      obtain ⟨eventsTotal, events, scheduled, handled⟩ := w.handle_triggerMemory_eq body.validate
      rw [handled]
      rfl
    | reset => rfl
    | status => rfl
    | start task member => cases task <;> rfl
    | finish task member => cases task <;> rfl
    | arrive path =>
      obtain ⟨accumulator, total, sleeping, arrived⟩ := w.arrive_eq path
      rw [arrived]
      rfl
    | wake delay asleep =>
      obtain ⟨accumulator, total, woken⟩ := w.wake_eq delay
      rw [woken]
      rfl

/-- A step keeps the histogram truthful exactly when a request that wakes up in it finds
    its delay. -/
theorem RecordsSlept.occur {past : RequestHistory} {w after : World} {occurrence : Occurrence}
    (records : RecordsSlept past w) (taken : w.occur occurrence = some after) :
    RecordsSlept (⟨w, occurrence, after⟩ :: past) after ↔ FindsItsDelay w occurrence := by
  unfold RecordsSlept at records ⊢
  rw [World.occur_latencyObserved taken, delaysSlept_cons]
  unfold FindsItsDelay
  cases occurrence.slept with
  | none => exact iff_of_true records (by simp)
  | some delay =>
    simp only [Option.map_some, Option.toList_some, List.singleton_append, Option.mem_some_iff, forall_eq',
      ← Multiset.cons_coe, records]
    exact Multiset.cons_inj_left _

/-! ## Control requests while requests sleep -/

/-- The delay that a control request leaves in the state. -/
def Event.setsDelay : Event → Option ℚ
  | .latency body => body.validate.map fun config => if config.enable then config.delaySeconds else 0
  | .reset => some 0
  | .errors _ | .cpu _ | .memory _ | .status | .start _ | .finish _ | .arrive _ | .wake _ => none

def LeavesSleepersAlone (w : World) : Occurrence → Prop
  | .chaos event => ∀ seconds ∈ event.setsDelay, w.sleeping = [] ∨ seconds = w.state.latencySeconds
  | .cancel _ => True

def SleepersAgree (w : World) : Prop := ∀ delay ∈ w.sleeping, w.state.latencySeconds = delay

theorem SleepersAgree.congr {w after : World} (agree : SleepersAgree w) (sleeping : after.sleeping ⊆ w.sleeping)
    (sameDelay : after.state.latencySeconds = w.state.latencySeconds) : SleepersAgree after := by
  intro delay asleep
  rw [sameDelay]
  exact agree delay (sleeping asleep)

theorem SleepersAgree.arrive {w : World} (agree : SleepersAgree w) (path : Str) : SleepersAgree (w.arrive path) := by
  simp only [World.arrive]
  split
  next isControl => exact agree
  next isData =>
    split
    next delayed => exact List.forall_mem_cons.mpr ⟨rfl, agree⟩
    next prompt =>
      obtain ⟨accumulator, total, moved⟩ := w.injectError_eq
      rw [moved]
      exact agree.congr (List.Subset.refl _) rfl

theorem SleepersAgree.setsDelay {w after : World} {seconds : ℚ} (agree : SleepersAgree w)
    (alone : w.sleeping = [] ∨ seconds = w.state.latencySeconds) (sleeping : after.sleeping = w.sleeping)
    (set : after.state.latencySeconds = seconds) : SleepersAgree after := by
  cases alone with
  | inl nobody => simp [SleepersAgree, sleeping, nobody]
  | inr same => exact agree.congr (by simp [sleeping]) (set.trans same)

theorem SleepersAgree.step {w after : World} {event : Event} (agree : SleepersAgree w)
    (alone : LeavesSleepersAlone w (.chaos event)) (taken : w.step event = some after) : SleepersAgree after := by
  have sameSleepers : w.sleeping ⊆ w.sleeping := List.Subset.refl _
  cases World.step_moves taken with
  | latency body =>
    cases validated : body.validate with
    | none => exact agree
    | some config =>
      have alone := alone _ (by rw [Event.setsDelay, validated]; rfl)
      exact agree.setsDelay alone rfl rfl
  | reset => exact agree.setsDelay (alone 0 rfl) rfl rfl
  | errors body => cases body.validate <;> exact agree.congr sameSleepers rfl
  | cpu body => cases body.validate <;> exact agree.congr sameSleepers rfl
  | memory body =>
    obtain ⟨eventsTotal, events, scheduled, handled⟩ := w.handle_triggerMemory_eq body.validate
    rw [handled]
    exact agree.congr sameSleepers rfl
  | status => exact agree
  | start task member => cases task <;> exact agree.congr sameSleepers rfl
  | finish task member => cases task <;> exact agree.congr sameSleepers rfl
  | arrive path => exact agree.arrive path
  | wake delay asleep =>
    obtain ⟨accumulator, total, woken⟩ := w.wake_eq delay
    rw [woken]
    exact agree.congr List.erase_subset rfl

theorem SleepersAgree.occur {w after : World} {occurrence : Occurrence} (agree : SleepersAgree w)
    (alone : LeavesSleepersAlone w occurrence) (taken : w.occur occurrence = some after) : SleepersAgree after := by
  cases occurrence with
  | chaos event => exact agree.step alone taken
  | cancel delay =>
    obtain ⟨asleep, taken⟩ := Option.ite_none_right_eq_some.mp taken
    cases taken
    exact agree.congr List.erase_subset rfl

theorem SleepersAgree.findsItsDelay {w after : World} {occurrence : Occurrence} (agree : SleepersAgree w)
    (taken : w.occur occurrence = some after) : FindsItsDelay w occurrence := by
  intro delay finished
  cases occurrence with
  | cancel other => cases finished
  | chaos event =>
    cases event with
    | wake slept =>
      cases finished
      obtain ⟨asleep, _⟩ := Option.ite_none_right_eq_some.mp taken
      exact agree delay asleep
    | latency body | errors body | cpu body | memory body | reset | status => cases finished
    | start task | finish task | arrive path => cases finished

theorem findsItsDelay_of_leavesSleepersAlone {history : RequestHistory} {w : World}
    (run : Trace World.occur {} history w) (alone : ∀ made ∈ history, LeavesSleepersAlone made.before made.label) :
    ∀ made ∈ history, FindsItsDelay made.before made.label := by
  have strong : SleepersAgree w ∧ ∀ made ∈ history, FindsItsDelay made.before made.label := by
    induction run with
    | nil => exact ⟨by simp [SleepersAgree], by simp⟩
    | snoc earlier taken ih =>
      obtain ⟨now, before⟩ := List.forall_mem_cons.mp alone
      obtain ⟨agree, finds⟩ := ih before
      exact ⟨agree.occur now taken, List.forall_mem_cons.mpr ⟨agree.findsItsDelay taken, finds⟩⟩
  exact strong.2

/-! ## Whole runs -/

/-- The histogram holds the delays slept, at every moment of a run, exactly when every
    request of the run that wakes up finds the delay it slept. -/
theorem latency_histogram_records_slept_iff {history : RequestHistory} {w : World}
    (run : Trace World.occur {} history w) :
    Always RecordsSlept {} history ↔ ∀ made ∈ history, FindsItsDelay made.before made.label :=
  run.always_iff_forall rfl fun _ _ _ _ _ records taken => records.occur taken

theorem latency_histogram_records_slept_undisturbed :
    ∃ history w, Trace World.occur {} history w ∧ w.latencyObserved = [5 / 2] ∧
      Always RecordsSlept {} history := by
  obtain ⟨history, w, run, finds, observed⟩ := exists_trace_of_replay World.occur {}
    [.chaos (.latency { enable := true, delaySeconds := some (5 / 2) }), .chaos (.arrive "/orders".toList),
      .chaos (.wake (5 / 2))]
    (fun history w => (∀ made ∈ history, FindsItsDelay made.before made.label) ∧ w.latencyObserved = [5 / 2])
    (by decide +kernel)
  exact ⟨history, w, run, observed, (latency_histogram_records_slept_iff run).mpr finds⟩

/-- A reset while the request sleeps: it slept a second, and the histogram says zero. -/
theorem latency_histogram_records_slept_reset_asleep :
    ∃ history w, Trace World.occur {} history w ∧ delaysSlept history = [1] ∧ w.latencyObserved = [0] ∧
      ¬ RecordsSlept history w :=
  exists_trace_of_replay World.occur {}
    [.chaos (.latency { enable := true, delaySeconds := some 1 }), .chaos (.arrive "/orders".toList), .chaos .reset,
      .chaos (.wake 1)]
    (fun history w => delaysSlept history = [1] ∧ w.latencyObserved = [0] ∧ ¬ RecordsSlept history w)
    (by decide +kernel)

end AutoSre.Chaos
