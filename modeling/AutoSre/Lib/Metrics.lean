import AutoSre.Lib.Python
import Mathlib.Algebra.BigOperators.Group.List.Basic

/-! # Labelled metrics

A metric is a family of values, one for each combination of labels that was used so
far.  What is read off it is the value under some labels, or the sum over all labels with
a property.  `Counts` relates a counter to the list of events it has counted; the list
is what a specification speaks about.
-/

namespace AutoSre.Lib.Metrics

open AutoSre.Lib.Python

variable {κ ν : Type*} [DecidableEq κ]

/-! ## Series -/

abbrev Series (κ ν : Type*) := Dict κ ν

namespace Series

variable [AddCommMonoid ν]

/-- The value under the labels; one that was never touched is zero. -/
def value (series : Series κ ν) (labels : κ) : ν := (series.get labels).getD 0

def add (series : Series κ ν) (labels : κ) (amount : ν) : Series κ ν :=
  series.set labels (series.value labels + amount)

/-- The sum over the labels that satisfy `p`. -/
def total (series : Series κ ν) (p : κ → Bool) : ν :=
  (series.items.map fun item => if p item.1 then item.2 else 0).sum

theorem value_add (series : Series κ ν) (labels other : κ) (amount : ν) :
    (series.add labels amount).value other = series.value other + if labels = other then amount else 0 := by
  by_cases same : labels = other
  · subst same
    simp [add, value]
  · simp [add, value, Dict.get_set_of_ne _ _ (Ne.symm same), same]

theorem sum_setItems (items : List (κ × ν)) (labels : κ) (amount : ν) (p : κ → Bool) :
    ((Dict.setItems labels ((items.lookup labels).getD 0 + amount) items).map
        fun item => if p item.1 then item.2 else 0).sum =
      (items.map fun item => if p item.1 then item.2 else 0).sum + if p labels then amount else 0 := by
  induction items with
  | nil => simp [Dict.setItems]
  | cons item items ih =>
    obtain ⟨head, old⟩ := item
    by_cases found : head = labels
    · subst found
      cases counted : p head with
      | true => simp [Dict.setItems, counted, add_right_comm]
      | false => simp [Dict.setItems, counted]
    · have skipped : (labels == head) = false := beq_false_of_ne (Ne.symm found)
      simp only [Dict.setItems, found, if_false, List.lookup_cons, skipped, List.map_cons, List.sum_cons, ih,
        add_assoc]

theorem total_add (series : Series κ ν) (labels : κ) (amount : ν) (p : κ → Bool) :
    (series.add labels amount).total p = series.total p + if p labels then amount else 0 :=
  sum_setItems series.items labels amount p

end Series

/-! ## Counters -/

abbrev Counter (κ : Type*) := Series κ ℕ

def Counter.inc (counter : Counter κ) (labels : κ) : Counter κ := counter.add labels 1

/-- The counter was incremented once for each event, under the labels of the event. -/
structure Counts (counter : Counter κ) (events : List κ) : Prop where
  value : ∀ labels, counter.value labels = events.count labels
  total : ∀ p, counter.total p = events.countP p

theorem Counts.empty : Counts (Dict.empty : Counter κ) [] := ⟨fun _ => rfl, fun _ => rfl⟩

theorem Counts.inc {counter : Counter κ} {events : List κ} (counts : Counts counter events) (labels : κ) :
    Counts (counter.inc labels) (labels :: events) where
  value other := by
    rw [Counter.inc, Series.value_add, counts.value, List.count_cons]
    simp
  total p := by rw [Counter.inc, Series.total_add, counts.total, List.countP_cons]

theorem Counts.perm {counter : Counter κ} {events reordered : List κ} (counts : Counts counter events)
    (same : events.Perm reordered) : Counts counter reordered where
  value labels := (counts.value labels).trans (same.count_eq labels)
  total p := (counts.total p).trans (same.countP_eq p)

theorem Counts.snoc {counter : Counter κ} {events : List κ} (counts : Counts counter events) (labels : κ) :
    Counts (counter.inc labels) (events ++ [labels]) :=
  (counts.inc labels).perm (List.perm_append_singleton labels events).symm

theorem Counts.snoc_filter {α : Type*} {counter : Counter κ} {events : List α} {p : α → Bool} {labels : α → κ}
    (counts : Counts counter ((events.filter p).map labels)) (event : α) :
    Counts (if p event then counter.inc (labels event) else counter)
      (((events ++ [event]).filter p).map labels) := by
  cases counted : p event with
  | true => simpa [counted] using counts.snoc (labels event)
  | false => simpa [counted] using counts

/-! ## Gauges -/

abbrev Gauge (κ : Type*) := Series κ ℤ

def Gauge.inc (gauge : Gauge κ) (labels : κ) : Gauge κ := gauge.add labels 1

def Gauge.dec (gauge : Gauge κ) (labels : κ) : Gauge κ := gauge.add labels (-1)

@[simp] theorem Gauge.value_inc (gauge : Gauge κ) (labels other : κ) :
    (gauge.inc labels).value other = gauge.value other + if labels = other then 1 else 0 :=
  Series.value_add gauge labels other 1

@[simp] theorem Gauge.value_dec (gauge : Gauge κ) (labels other : κ) :
    (gauge.dec labels).value other = gauge.value other + if labels = other then -1 else 0 :=
  Series.value_add gauge labels other (-1)

/-! ## Histograms -/

/-- The number and the sum of the observations. -/
structure Histogram (κ : Type*) where
  count : Counter κ := .empty
  sum : Series κ ℚ := .empty

def Histogram.observe (histogram : Histogram κ) (labels : κ) (amount : ℚ) : Histogram κ where
  count := histogram.count.inc labels
  sum := histogram.sum.add labels amount

end AutoSre.Lib.Metrics
