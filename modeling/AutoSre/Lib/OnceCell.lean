import AutoSre.Lib.Trace
import Mathlib.Logic.Function.Basic

/-! # Double-checked initialisation

A global cell that is filled on first use.  `get` reads the cell without the lock; if it
is empty it takes the lock, reads again, makes a value if the cell is still empty,
publishes it, gives the lock back and returns what it then reads from the cell.  Making
may fail, which gives the lock back and leaves the cell as it was.  `set` writes the cell
without the lock.

Any number of threads run `get` at once, each read, write and lock operation being one
step.  A value that is made is a new object, known by the number of objects made before
it; `objects` keeps what each was made from.
-/

namespace AutoSre.Lib.OnceCell

variable {τ ε α : Type*}

/-- What a thread does next.  From `second` to `releasing` it holds the lock. -/
inductive Stage where
  | idle
  | first
  | waiting
  | second
  | making
  | publishing (made : ℕ)
  | releasing
  | returning
  | returned (result : Option ℕ)
  | raised
deriving DecidableEq

namespace Stage

def holds : Stage → Bool
  | .second | .making | .publishing _ | .releasing => true
  | .idle | .first | .waiting | .returning | .returned _ | .raised => false

/-- The thread has seen the cell empty under the lock and has not published yet. -/
def fills : Stage → Bool
  | .making | .publishing _ => true
  | .idle | .first | .waiting | .second | .releasing | .returning | .returned _ | .raised => false

/-- The thread has seen the cell filled, or has filled it. -/
def filled : Stage → Bool
  | .releasing | .returning => true
  | .idle | .first | .waiting | .second | .making | .publishing _ | .returned _ | .raised => false

def inCall : Stage → Bool
  | .idle | .returned _ | .raised => false
  | .first | .waiting | .second | .making | .publishing _ | .releasing | .returning => true

end Stage

structure Cell (τ α : Type*) where
  value : Option ℕ := none
  holder : Option τ := none
  stage : τ → Stage := fun _ => .idle
  objects : List α := []

/-- `make` is the step of a thread that constructs a value, in the circumstances given. -/
inductive Act (τ ε α : Type*) where
  | call (thread : τ)
  | run (thread : τ)
  | make (thread : τ) (circumstances : ε)
  | set (object : α)

variable [DecidableEq τ]

def Cell.move (cell : Cell τ α) (thread : τ) (stage : Stage) : Cell τ α :=
  { cell with stage := Function.update cell.stage thread stage }

/-- `construct` is what `get` makes a value with; `none` stands for its exception. -/
def Cell.step (construct : ε → Option α) (cell : Cell τ α) : Act τ ε α → Option (Cell τ α)
  | .call thread => if (cell.stage thread).inCall then none else some (cell.move thread .first)
  | .run thread =>
    match cell.stage thread with
    -- the read without the lock
    | .first => some (cell.move thread (if cell.value.isNone then .waiting else .returning))
    | .waiting =>
      if cell.holder.isNone then some { cell.move thread .second with holder := some thread } else none
    -- the read under the lock
    | .second => some (cell.move thread (if cell.value.isNone then .making else .releasing))
    | .publishing made => some { cell.move thread .releasing with value := some made }
    | .releasing => some { cell.move thread .returning with holder := none }
    -- what is returned is read once more, so it may be what another thread has set since
    | .returning => some (cell.move thread (.returned cell.value))
    | .idle | .making | .returned _ | .raised => none
  | .make thread circumstances =>
    if cell.stage thread = .making then
      match construct circumstances with
      | some object =>
        some { cell.move thread (.publishing cell.objects.length) with objects := cell.objects ++ [object] }
      | none => some { cell.move thread .raised with holder := none }
    else none
  | .set object => some { cell with value := some cell.objects.length, objects := cell.objects ++ [object] }

/-! ## What a step does -/

/-- The steps by what they do.  Each moves one thread, but for `set`. -/
inductive Moves (construct : ε → Option α) (cell : Cell τ α) : Act τ ε α → Cell τ α → Prop where
  | call {thread : τ} : (cell.stage thread).inCall = false →
      Moves construct cell (.call thread) (cell.move thread .first)
  | seesEmpty {thread : τ} : cell.stage thread = .first → cell.value = none →
      Moves construct cell (.run thread) (cell.move thread .waiting)
  | seesFilled {thread : τ} {value : ℕ} : cell.stage thread = .first → cell.value = some value →
      Moves construct cell (.run thread) (cell.move thread .returning)
  | acquire {thread : τ} : cell.stage thread = .waiting → cell.holder = none →
      Moves construct cell (.run thread) { cell.move thread .second with holder := some thread }
  | findsEmpty {thread : τ} : cell.stage thread = .second → cell.value = none →
      Moves construct cell (.run thread) (cell.move thread .making)
  | findsFilled {thread : τ} {value : ℕ} : cell.stage thread = .second → cell.value = some value →
      Moves construct cell (.run thread) (cell.move thread .releasing)
  | publish {thread : τ} {made : ℕ} : cell.stage thread = .publishing made →
      Moves construct cell (.run thread) { cell.move thread .releasing with value := some made }
  | release {thread : τ} : cell.stage thread = .releasing →
      Moves construct cell (.run thread) { cell.move thread .returning with holder := none }
  | returns {thread : τ} : cell.stage thread = .returning →
      Moves construct cell (.run thread) (cell.move thread (.returned cell.value))
  | made {thread : τ} {circumstances : ε} {object : α} : cell.stage thread = .making →
      construct circumstances = some object →
      Moves construct cell (.make thread circumstances)
        { cell.move thread (.publishing cell.objects.length) with objects := cell.objects ++ [object] }
  | failed {thread : τ} {circumstances : ε} : cell.stage thread = .making → construct circumstances = none →
      Moves construct cell (.make thread circumstances) { cell.move thread .raised with holder := none }
  | set {object : α} :
      Moves construct cell (.set object)
        { cell with value := some cell.objects.length, objects := cell.objects ++ [object] }

theorem step_moves {construct : ε → Option α} {cell next : Cell τ α} {act : Act τ ε α}
    (taken : cell.step construct act = some next) : Moves construct cell act next := by
  cases act with
  | call thread =>
    simp only [Cell.step] at taken
    cases isInCall : (cell.stage thread).inCall with
    | true => simp [isInCall] at taken
    | false =>
      simp only [isInCall, Bool.false_eq_true, if_false] at taken
      cases taken
      exact .call isInCall
  | run thread =>
    simp only [Cell.step] at taken
    split at taken
    next isFirst =>
      cases taken
      cases read : cell.value with
      | none => exact .seesEmpty isFirst read
      | some value => exact .seesFilled isFirst read
    next isWaiting =>
      cases free : cell.holder with
      | none =>
        simp only [free, Option.isNone_none, if_true] at taken
        cases taken
        exact .acquire isWaiting free
      | some holder => simp [free] at taken
    next isSecond =>
      cases taken
      cases read : cell.value with
      | none => exact .findsEmpty isSecond read
      | some value => exact .findsFilled isSecond read
    next made isPublishing =>
      cases taken
      exact .publish isPublishing
    next isReleasing =>
      cases taken
      exact .release isReleasing
    next isReturning =>
      cases taken
      exact .returns isReturning
    all_goals cases taken
  | make thread circumstances =>
    simp only [Cell.step] at taken
    by_cases isMaking : cell.stage thread = .making
    · rw [if_pos isMaking] at taken
      cases built : construct circumstances with
      | none =>
        simp only [built] at taken
        cases taken
        exact .failed isMaking built
      | some object =>
        simp only [built] at taken
        cases taken
        exact .made isMaking built
    · rw [if_neg isMaking] at taken
      cases taken
  | set object =>
    cases taken
    exact .set

/-! ## The lock -/

section

omit [DecidableEq τ]

/-- The lock is held by the thread that stands between taking and releasing it, and by no
    other; and the cell is filled for whoever has seen it so. -/
structure Locked (cell : Cell τ α) : Prop where
  holder : ∀ thread, (cell.stage thread).holds = true ↔ cell.holder = some thread
  filled : ∀ thread, (cell.stage thread).filled = true → cell.value ≠ none

theorem Locked.start : Locked ({} : Cell τ α) := by
  constructor <;> simp [Stage.holds, Stage.filled]

theorem Locked.exclusive {cell : Cell τ α} (locked : Locked cell) {thread other : τ}
    (holds : (cell.stage thread).holds = true) (otherHolds : (cell.stage other).holds = true) :
    thread = other := by
  have held := (locked.holder thread).mp holds
  have otherHeld := (locked.holder other).mp otherHolds
  exact Option.some.inj (held.symm.trans otherHeld)

theorem Stage.holds_of_fills {stage : Stage} (fills : stage.fills = true) : stage.holds = true := by
  cases stage <;> simp_all [Stage.fills, Stage.holds]

theorem Stage.idle_of_not_inCall {stage : Stage} (outside : stage.inCall = false) :
    stage.holds = false ∧ stage.fills = false := by
  cases stage <;> simp_all [Stage.inCall, Stage.holds, Stage.fills]

end

@[simp] theorem Cell.stage_move (cell : Cell τ α) (thread other : τ) (stage : Stage) :
    (cell.move thread stage).stage other = if other = thread then stage else cell.stage other :=
  Function.update_apply _ _ _ _

@[simp] theorem Cell.value_move (cell : Cell τ α) (thread : τ) (stage : Stage) :
    (cell.move thread stage).value = cell.value := rfl

@[simp] theorem Cell.holder_move (cell : Cell τ α) (thread : τ) (stage : Stage) :
    (cell.move thread stage).holder = cell.holder := rfl

theorem Locked.move {cell : Cell τ α} (locked : Locked cell) {thread : τ} {stage : Stage}
    (same : stage.holds = (cell.stage thread).holds) (seen : stage.filled = true → cell.value ≠ none) :
    Locked (cell.move thread stage) := by
  constructor
  · intro other
    by_cases moved : other = thread
    · subst moved
      simpa [same] using locked.holder other
    · simpa [moved] using locked.holder other
  · intro other
    by_cases moved : other = thread
    · subst moved
      simpa using seen
    · simpa [moved] using locked.filled other

theorem Locked.acquire {cell : Cell τ α} (locked : Locked cell) (free : cell.holder = none) (thread : τ) :
    Locked { cell.move thread .second with holder := some thread } := by
  have nobody : ∀ other, (cell.stage other).holds = false := by
    intro other
    rw [← Bool.not_eq_true, locked.holder other, free]
    simp
  constructor
  · intro other
    by_cases moved : other = thread
    · simp [moved, Stage.holds]
    · simp [moved, nobody, Ne.symm moved]
  · intro other
    by_cases moved : other = thread
    · simp [moved, Stage.filled]
    · simpa [moved] using locked.filled other

theorem Locked.release {cell : Cell τ α} (locked : Locked cell) {thread : τ} {stage : Stage}
    (held : (cell.stage thread).holds = true) (outside : stage.holds = false)
    (seen : stage.filled = true → cell.value ≠ none) :
    Locked { cell.move thread stage with holder := none } := by
  constructor
  · intro other
    by_cases moved : other = thread
    · simp [moved, outside]
    · have idle : (cell.stage other).holds ≠ true := fun holds => moved (locked.exclusive holds held)
      simpa [moved] using idle
  · intro other
    by_cases moved : other = thread
    · simpa [moved] using seen
    · simpa [moved] using locked.filled other

omit [DecidableEq τ] in
theorem Locked.fill {cell : Cell τ α} (locked : Locked cell) (value : ℕ) (objects : List α) :
    Locked { cell with value := some value, objects } :=
  ⟨locked.holder, by simp⟩

theorem Locked.step {construct : ε → Option α} {cell next : Cell τ α} {act : Act τ ε α} (locked : Locked cell)
    (taken : cell.step construct act = some next) : Locked next := by
  cases step_moves taken with
  | call outside =>
    exact locked.move (Stage.idle_of_not_inCall outside).1.symm (by simp [Stage.filled])
  | seesEmpty isFirst read => exact locked.move (by simp [isFirst, Stage.holds]) (by simp [Stage.filled])
  | seesFilled isFirst read => exact locked.move (by simp [isFirst, Stage.holds]) (by simp [read])
  | acquire isWaiting free => exact locked.acquire free _
  | findsEmpty isSecond read => exact locked.move (by simp [isSecond, Stage.holds]) (by simp [Stage.filled])
  | findsFilled isSecond read => exact locked.move (by simp [isSecond, Stage.holds]) (by simp [read])
  | @publish thread made isPublishing =>
    have filled := locked.fill made cell.objects
    exact filled.move (by simp [isPublishing, Stage.holds]) (by simp)
  | release isReleasing =>
    have seen := locked.filled _ (by rw [isReleasing]; rfl)
    exact locked.release (by rw [isReleasing]; rfl) rfl fun _ => seen
  | returns isReturning => exact locked.move (by simp [isReturning, Stage.holds]) (by simp [Stage.filled])
  | @made thread _ _ isMaking built =>
    have moved : Locked (cell.move thread (.publishing cell.objects.length)) :=
      locked.move (by simp [isMaking, Stage.holds]) (by simp [Stage.filled])
    exact ⟨moved.holder, moved.filled⟩
  | failed isMaking failed =>
    exact locked.release (by rw [isMaking]; rfl) rfl (by simp [Stage.filled])
  | set => exact locked.fill _ _

/-! ## Runs -/

abbrev History (τ ε α : Type*) := List (Transition (Cell τ α) (Act τ ε α))

/-- The objects that `get` made, latest first. -/
def made (construct : ε → Option α) : History τ ε α → List ℕ
  | [] => []
  | step :: past =>
    match step.label with
    | .make _ circumstances =>
      if (construct circumstances).isSome then step.before.objects.length :: made construct past
      else made construct past
    | .call _ | .run _ | .set _ => made construct past

def given : History τ ε α → List ℕ
  | [] => []
  | step :: past =>
    match step.label with
    | .set _ => step.before.objects.length :: given past
    | .call _ | .run _ | .make _ _ => given past

/-- What the objects made and given so far say about a thread. -/
def Stage.Accounted (made given : List ℕ) : Stage → Prop
  | .making => made = []
  | .publishing object => made = [object]
  | .returned result => ∃ object, result = some object ∧ (object ∈ made ∨ object ∈ given)
  | .idle | .first | .waiting | .second | .releasing | .returning | .raised => True

theorem Stage.Accounted.given {made given : List ℕ} {stage : Stage} (accounted : stage.Accounted made given)
    (object : ℕ) : stage.Accounted made (object :: given) := by
  cases stage with
  | returned result =>
    obtain ⟨value, isResult, known⟩ := accounted
    exact ⟨value, isResult, known.imp id (List.mem_cons_of_mem object)⟩
  | _ => exact accounted

theorem Stage.Accounted.made {made given : List ℕ} {stage : Stage} (accounted : stage.Accounted made given)
    (fillsNot : stage.fills = false) (object : ℕ) : stage.Accounted (object :: made) given := by
  cases stage with
  | making => cases fillsNot
  | publishing _ => cases fillsNot
  | returned result =>
    obtain ⟨value, isResult, known⟩ := accounted
    exact ⟨value, isResult, known.imp (List.mem_cons_of_mem object) id⟩
  | _ => trivial

structure Filling (made given : List ℕ) (cell : Cell τ α) : Prop where
  locked : Locked cell
  threads : ∀ thread, (cell.stage thread).Accounted made given
  -- an object that was made and not published is in the hands of a thread with the lock
  empty : cell.value = none → made ≠ [] → ∃ thread, (cell.stage thread).fills = true
  value : ∀ object, cell.value = some object → object ∈ made ∨ object ∈ given
  once : made.length ≤ 1

section

variable {cell : Cell τ α} {made given : List ℕ} {thread : τ}

omit [DecidableEq τ] in
theorem Filling.nothing_made (filling : Filling made given cell) (isSecond : cell.stage thread = .second)
    (isEmpty : cell.value = none) : made = [] := by
  by_contra someMade
  obtain ⟨other, fills⟩ := filling.empty isEmpty someMade
  have same := filling.locked.exclusive (Stage.holds_of_fills fills) (by rw [isSecond]; rfl)
  rw [same, isSecond] at fills
  cases fills

omit [DecidableEq τ] in
theorem Filling.alone (filling : Filling made given cell) (fills : (cell.stage thread).fills = true)
    {other : τ} (differ : other ≠ thread) : (cell.stage other).fills = false := by
  by_contra otherFills
  rw [Bool.not_eq_false] at otherFills
  exact differ (filling.locked.exclusive (Stage.holds_of_fills otherFills) (Stage.holds_of_fills fills))

theorem Filling.threads_move (filling : Filling made given cell) {stage : Stage}
    (accounted : stage.Accounted made given) (other : τ) :
    ((cell.move thread stage).stage other).Accounted made given := by
  rw [Cell.stage_move]
  split
  · exact accounted
  · exact filling.threads other

theorem Filling.move (filling : Filling made given cell) {stage : Stage} {holder : Option τ}
    (locked : Locked { cell.move thread stage with holder }) (accounted : stage.Accounted made given)
    (fills : made ≠ [] → (cell.stage thread).fills = false) :
    Filling made given { cell.move thread stage with holder } where
  locked := locked
  threads := filling.threads_move accounted
  empty isEmpty someMade := by
    obtain ⟨other, otherFills⟩ := filling.empty isEmpty someMade
    have differ : other ≠ thread := by
      rintro rfl
      simp [fills someMade] at otherFills
    exact ⟨other, by simpa [differ] using otherFills⟩
  value := filling.value
  once := filling.once

theorem Filling.publish (filling : Filling made given cell) {object : ℕ}
    (isPublishing : cell.stage thread = .publishing object)
    (locked : Locked { cell.move thread .releasing with value := some object }) :
    Filling made given { cell.move thread .releasing with value := some object } where
  locked := locked
  threads := filling.threads_move trivial
  empty isEmpty := by cases isEmpty
  value published isValue := by
    cases isValue
    have onlyMade := filling.threads thread
    rw [isPublishing] at onlyMade
    exact .inl (by rw [onlyMade]; exact List.mem_singleton_self object)
  once := filling.once

theorem Filling.make (filling : Filling made given cell) (isMaking : cell.stage thread = .making) (object : α)
    (locked : Locked { cell.move thread (.publishing cell.objects.length) with
      objects := cell.objects ++ [object] }) :
    Filling (cell.objects.length :: made) given
      { cell.move thread (.publishing cell.objects.length) with objects := cell.objects ++ [object] } := by
  have fills : (cell.stage thread).fills = true := by rw [isMaking]; rfl
  have nothing : made = [] := by simpa [isMaking, Stage.Accounted] using filling.threads thread
  refine ⟨locked, fun other => ?_, fun _ _ => ⟨thread, by simp [Stage.fills]⟩, ?_, by simp [nothing]⟩
  · show ((cell.move thread _).stage other).Accounted _ _
    rw [Cell.stage_move]
    split
    next => exact congrArg _ nothing
    next differ => exact (filling.threads other).made (filling.alone fills differ) _
  · intro value isValue
    exact (filling.value value isValue).imp (List.mem_cons_of_mem _) id

omit [DecidableEq τ] in
theorem Filling.set (filling : Filling made given cell) (object : α) :
    Filling made (cell.objects.length :: given)
      { cell with value := some cell.objects.length, objects := cell.objects ++ [object] } where
  locked := filling.locked.fill _ _
  threads thread := (filling.threads thread).given _
  empty isEmpty := by cases isEmpty
  value value isValue := by
    cases isValue
    exact .inr List.mem_cons_self
  once := filling.once

end

/-- In every run `get` makes at most one object, and returns one that was made or given. -/
theorem filling_run {construct : ε → Option α} {history : History τ ε α} {cell : Cell τ α}
    (run : Trace (Cell.step construct) {} history cell) :
    Filling (made construct history) (given history) cell := by
  induction run with
  | nil => exact ⟨.start, fun _ => trivial, by simp [made], by simp, by simp [made]⟩
  | @snoc past before act after _ taken filling =>
    have locked := filling.locked.step taken
    cases step_moves taken with
    | call outside => exact filling.move locked trivial fun _ => (Stage.idle_of_not_inCall outside).2
    | seesEmpty isFirst read => exact filling.move locked trivial fun _ => by rw [isFirst]; rfl
    | seesFilled isFirst read => exact filling.move locked trivial fun _ => by rw [isFirst]; rfl
    | acquire isWaiting free => exact filling.move locked trivial fun _ => by rw [isWaiting]; rfl
    | findsEmpty isSecond read =>
      -- whoever made an object would still have the lock, so this thread is the first to make one
      exact filling.move locked (filling.nothing_made isSecond read) fun _ => by rw [isSecond]; rfl
    | findsFilled isSecond read => exact filling.move locked trivial fun _ => by rw [isSecond]; rfl
    | publish isPublishing => exact filling.publish isPublishing locked
    | release isReleasing => exact filling.move locked trivial fun _ => by rw [isReleasing]; rfl
    | @returns thread isReturning =>
      have seen := filling.locked.filled thread (by rw [isReturning]; rfl)
      obtain ⟨object, filled⟩ := Option.ne_none_iff_exists'.mp seen
      have accounted := filling.value object filled
      exact filling.move locked ⟨object, filled, accounted⟩ fun _ => by rw [isReturning]; rfl
    | @made thread circumstances object isMaking built =>
      simp only [made, built, Option.isSome_some, if_true]
      exact filling.make isMaking object locked
    | @failed thread circumstances isMaking failed =>
      simp only [made, failed, Option.isSome_none, Bool.false_eq_true, if_false]
      have nothing := filling.threads thread
      rw [isMaking] at nothing
      exact filling.move locked trivial fun someMade => absurd nothing someMade
    | set => exact filling.set _

theorem length_objects {construct : ε → Option α} {history : History τ ε α} {cell : Cell τ α}
    (run : Trace (Cell.step construct) {} history cell) :
    cell.objects.length = (made construct history).length + (given history).length := by
  induction run with
  | nil => rfl
  | @snoc past before act after _ taken ih =>
    cases step_moves taken with
    | @made thread circumstances object isMaking built =>
      simp only [made, given, built, Option.isSome_some, if_true, List.length_append, List.length_cons,
        List.length_nil]
      omega
    | failed isMaking failed =>
      simp only [made, given, failed, Option.isSome_none, Bool.false_eq_true, if_false]
      exact ih
    | set =>
      simp only [made, given, List.length_append, List.length_cons, List.length_nil]
      omega
    | call | seesEmpty | seesFilled | acquire | findsEmpty | findsFilled | publish | release | returns => exact ih

def Constructed (construct : ε → Option α) (history : History τ ε α) (object : α) : Prop :=
  ∃ step ∈ history, ∃ thread circumstances, step.label = .make thread circumstances ∧
    construct circumstances = some object

theorem objects_grow {construct : ε → Option α} {cell next : Cell τ α} {act : Act τ ε α}
    (taken : cell.step construct act = some next) : cell.objects <+: next.objects := by
  cases step_moves taken with
  | made | set => exact List.prefix_append _ _
  | call | seesEmpty | seesFilled | acquire | findsEmpty | findsFilled | publish | release | returns | failed =>
    exact List.prefix_refl _

theorem made_constructed {construct : ε → Option α} {history : History τ ε α} {cell : Cell τ α}
    (run : Trace (Cell.step construct) {} history cell) :
    ∀ number ∈ made construct history, ∃ object, cell.objects[number]? = some object ∧
      Constructed construct history object := by
  induction run with
  | nil => simp [made]
  | @snoc past before act after _ taken ih =>
    have earlier : ∀ number ∈ made construct past, ∃ object, after.objects[number]? = some object ∧
        Constructed construct (⟨before, act, after⟩ :: past) object := by
      intro number isMade
      obtain ⟨object, found, step, isStep, constructed⟩ := ih number isMade
      obtain ⟨rest, grown⟩ := objects_grow taken
      obtain ⟨inside, _⟩ := List.getElem?_eq_some_iff.mp found
      exact ⟨object, by rw [← grown, List.getElem?_append_left inside, found],
        step, List.mem_cons_of_mem _ isStep, constructed⟩
    cases step_moves taken with
    | @made thread circumstances object isMaking built =>
      simp only [made, built, Option.isSome_some, if_true]
      refine List.forall_mem_cons.mpr ⟨⟨object, by simp, ?_⟩, earlier⟩
      exact ⟨_, List.mem_cons_self, thread, circumstances, rfl, built⟩
    | failed isMaking failed =>
      simp only [made, failed, Option.isSome_none, Bool.false_eq_true, if_false]
      exact earlier
    | call | seesEmpty | seesFilled | acquire | findsEmpty | findsFilled | publish | release | returns | set =>
      exact earlier

theorem shared_of_not_given {construct : ε → Option α} {history : History τ ε α} {cell : Cell τ α}
    (run : Trace (Cell.step construct) {} history cell) (notGiven : given history = []) {number : ℕ}
    (known : number ∈ made construct history ∨ number ∈ given history) :
    number = 0 ∧ ∃ object, cell.objects = [object] ∧ Constructed construct history object := by
  have isMade : number ∈ made construct history := by simpa [notGiven] using known
  obtain ⟨object, found, constructed⟩ := made_constructed run number isMade
  have counted : cell.objects.length = (made construct history).length := by
    simpa [notGiven] using length_objects run
  obtain ⟨inside, isObject⟩ := List.getElem?_eq_some_iff.mp found
  have once := (filling_run run).once
  have first : number = 0 := by omega
  obtain ⟨only, isOnly⟩ := List.length_eq_one_iff.mp (show cell.objects.length = 1 by omega)
  refine ⟨first, only, isOnly, ?_⟩
  simp only [isOnly, first, List.getElem?_cons_zero, Option.some.injEq] at found
  rw [found]
  exact constructed

/-! ## A cell that nobody is filling -/

/-- The cell is filled and no thread is about to fill it again. -/
structure Settled (cell : Cell τ α) : Prop where
  filled : cell.value ≠ none
  still : ∀ thread, (cell.stage thread).fills = false

section

variable {construct : ε → Option α} {cell next : Cell τ α}

theorem Settled.move (settled : Settled cell) {thread : τ} {stage : Stage} (fillsNot : stage.fills = false)
    (holder : Option τ) : Settled { cell.move thread stage with holder } := by
  refine ⟨settled.filled, fun other => ?_⟩
  show ((cell.move thread stage).stage other).fills = false
  rw [Cell.stage_move]
  split
  · exact fillsNot
  · exact settled.still other

theorem Settled.step (settled : Settled cell) {act : Act τ ε α} (taken : cell.step construct act = some next) :
    Settled next ∧ (next.value = cell.value ∨ ∃ object, act = .set object) := by
  cases step_moves taken with
  | call | seesEmpty | seesFilled | acquire | findsFilled | release | returns =>
    exact ⟨settled.move rfl _, .inl rfl⟩
  | findsEmpty _ isEmpty => exact absurd isEmpty settled.filled
  | @publish thread _ isPublishing | @made thread _ _ isPublishing _ | @failed thread _ isPublishing _ =>
    have still := settled.still thread
    rw [isPublishing] at still
    cases still
  | @set object => exact ⟨⟨by simp, settled.still⟩, .inr ⟨object, rfl⟩⟩

/-- From a settled cell on, the cell holds what was given last, nothing is made, and who
    returns returns what the cell held or what was given. -/
theorem Settled.run {history : History τ ε α} (settled : Settled cell)
    (run : Trace (Cell.step construct) cell history next) :
    Settled next ∧ next.value = (given history).head?.or cell.value ∧ made construct history = [] ∧
      ∀ thread result, next.stage thread = .returned result →
        cell.stage thread = .returned result ∨ result = cell.value ∨
          ∃ object ∈ given history, result = some object := by
  induction run with
  | nil => exact ⟨settled, rfl, rfl, fun _ _ isReturned => .inl isReturned⟩
  | @snoc past before act after _ taken ih =>
    obtain ⟨settledBefore, held, nothing, results⟩ := ih
    obtain ⟨settledAfter, _⟩ := settledBefore.step taken
    have passed : ∀ {thread : τ} {stage : Stage}, (∀ result, stage ≠ .returned result) →
        ∀ other result, (before.move thread stage).stage other = .returned result →
          cell.stage other = .returned result ∨ result = cell.value ∨ ∃ object ∈ given past, result = some object := by
      intro thread stage isNoReturn other result isReturned
      rw [Cell.stage_move] at isReturned
      split at isReturned
      · exact absurd isReturned (isNoReturn result)
      · exact results other result isReturned
    refine ⟨settledAfter, ?_⟩
    cases step_moves taken with
    | call | seesEmpty | seesFilled | acquire | findsFilled | release =>
      exact ⟨held, nothing, passed (by simp)⟩
    | findsEmpty _ isEmpty => exact absurd isEmpty settledBefore.filled
    | @publish thread _ isPublishing | @made thread _ _ isPublishing _ | @failed thread _ isPublishing _ =>
      have still := settledBefore.still thread
      rw [isPublishing] at still
      cases still
    | @returns thread isReturning =>
      refine ⟨held, nothing, fun other result isReturned => ?_⟩
      rw [Cell.stage_move] at isReturned
      split at isReturned
      · obtain rfl : before.value = result := by simpa using isReturned
        rw [held]
        cases last : (given past).head? with
        | none => exact .inr (.inl rfl)
        | some object => exact .inr (.inr ⟨object, List.mem_of_mem_head? last, rfl⟩)
      · exact results other result isReturned
    | set =>
      refine ⟨rfl, nothing, fun other result isReturned => ?_⟩
      obtain already | isHeld | ⟨object, isGiven, isObject⟩ := results other result isReturned
      · exact .inl already
      · exact .inr (.inl isHeld)
      · exact .inr (.inr ⟨object, List.mem_cons_of_mem _ isGiven, isObject⟩)

/-- What is given to the cell stays in it, until something else is given, exactly when no
    thread is filling the cell at that moment. -/
theorem lasts_iff {history : History τ ε α} (run : Trace (Cell.step construct) {} history cell)
    (feasible : ∃ circumstances, (construct circumstances).isSome) {object : α}
    (taken : cell.step construct (.set object) = some next) :
    (∀ later final, Trace (Cell.step construct) next later final → given later = [] →
        final.value = some cell.objects.length) ↔
      ∀ thread, (cell.stage thread).fills = false := by
  cases taken
  constructor
  · intro lasts thread
    cases here : cell.stage thread with
    | making =>
      obtain ⟨circumstances, isSome⟩ := feasible
      obtain ⟨built, constructs⟩ := Option.isSome_iff_exists.mp isSome
      let given := { cell with value := some cell.objects.length, objects := cell.objects ++ [object] }
      let publishing :=
        { given.move thread (.publishing given.objects.length) with objects := given.objects ++ [built] }
      have makes : given.step construct (.make thread circumstances) = some publishing := by
        simp [Cell.step, given, publishing, here, constructs]
      have publishes : publishing.step construct (.run thread) =
          some { publishing.move thread .releasing with value := some given.objects.length } := by
        simp [Cell.step, publishing]
      have overwritten := lasts _ _ (.snoc (.snoc .nil makes) publishes) rfl
      simp [given] at overwritten
    | publishing number =>
      have onlyMade := (filling_run run).threads thread
      rw [here] at onlyMade
      obtain ⟨made, found, _⟩ := made_constructed run number (by rw [onlyMade]; exact List.mem_singleton_self _)
      obtain ⟨inside, _⟩ := List.getElem?_eq_some_iff.mp found
      let given := { cell with value := some cell.objects.length, objects := cell.objects ++ [object] }
      have publishes : given.step construct (.run thread) =
          some { given.move thread .releasing with value := some number } := by
        simp [Cell.step, given, here]
      have overwritten := lasts _ _ (.snoc .nil publishes) rfl
      have same : number = cell.objects.length := Option.some.inj overwritten
      omega
    | idle | first | waiting | second | releasing | returning | returned _ | raised => rfl
  · intro still later final laterRun notGiven
    have settled : Settled { cell with value := some cell.objects.length, objects := cell.objects ++ [object] } :=
      ⟨by simp, still⟩
    have held := (settled.run laterRun).2.1
    simpa [notGiven] using held

end

/-! ## Calls end -/

/-- How many more steps the thread's call takes at most. -/
def Stage.rank : Stage → ℕ
  | .first => 7
  | .waiting => 6
  | .second => 5
  | .making => 4
  | .publishing _ => 3
  | .releasing => 2
  | .returning => 1
  | .idle | .returned _ | .raised => 0

def Act.calls (thread : τ) : Act τ ε α → Bool
  | .call caller => caller = thread
  | .run _ | .make _ _ | .set _ => false

def Act.advances (thread : τ) : Act τ ε α → Bool
  | .run runner | .make runner _ => runner = thread
  | .call _ | .set _ => false

section

variable {construct : ε → Option α} {cell next : Cell τ α}

theorem rank_move {act : Act τ ε α} {runner thread : τ} {stage : Stage}
    (stages : next.stage = (cell.move runner stage).stage) (runs : act.advances thread = decide (runner = thread))
    (lower : stage.rank + 1 ≤ (cell.stage runner).rank) :
    (next.stage thread).rank + (if act.advances thread then 1 else 0) ≤
      (cell.stage thread).rank + 7 * (if act.calls thread then 1 else 0) := by
  rw [stages, runs, Cell.stage_move]
  by_cases isRunner : thread = runner
  · subst isRunner
    simp only [if_true, decide_true]
    omega
  · simp [isRunner, Ne.symm isRunner]

/-- Each step of a thread brings its call nearer to its end, and no other step delays it. -/
theorem rank_step {act : Act τ ε α} (taken : cell.step construct act = some next) (thread : τ) :
    (next.stage thread).rank + (if act.advances thread then 1 else 0) ≤
      (cell.stage thread).rank + 7 * (if act.calls thread then 1 else 0) := by
  cases step_moves taken with
  | @call caller outside =>
    by_cases isCaller : thread = caller
    · simp [Act.advances, Act.calls, isCaller, Stage.rank]
    · simp [Act.advances, Act.calls, isCaller]
  | seesEmpty here | seesFilled here | acquire here | findsEmpty here | findsFilled here | publish here
  | release here | returns here | made here | failed here =>
    exact rank_move rfl rfl (by simp [here, Stage.rank])
  | set => simp [Act.advances, Act.calls]

theorem rank_run {history : History τ ε α} (run : Trace (Cell.step construct) {} history cell) (thread : τ) :
    (cell.stage thread).rank + history.countP (fun step => step.label.advances thread) ≤
      7 * history.countP (fun step => step.label.calls thread) := by
  induction run with
  | nil => simp [Stage.rank]
  | @snoc past before act after _ taken ih =>
    have advance := rank_step taken thread
    simp only [List.countP_cons]
    omega

/-- A thread in a call goes on unless it waits for the lock. -/
theorem goes_on {thread : τ} (inCall : (cell.stage thread).inCall = true)
    (free : cell.stage thread = .waiting → cell.holder = none) (circumstances : ε) :
    ∃ act, (act = .run thread ∨ act = .make thread circumstances) ∧ (cell.step construct act).isSome := by
  cases here : cell.stage thread with
  | idle | returned _ | raised =>
    rw [here] at inCall
    cases inCall
  | first | second | publishing _ | releasing | returning =>
    exact ⟨.run thread, .inl rfl, by simp [Cell.step, here]⟩
  | waiting => exact ⟨.run thread, .inl rfl, by simp [Cell.step, here, free here]⟩
  | making =>
    cases built : construct circumstances with
    | none => exact ⟨.make thread circumstances, .inr rfl, by simp [Cell.step, here, built]⟩
    | some object => exact ⟨.make thread circumstances, .inr rfl, by simp [Cell.step, here, built]⟩

/-- While a call is under way, some thread can go on: the one itself or the one that holds
    the lock. -/
theorem Locked.progress (locked : Locked cell) {thread : τ} (inCall : (cell.stage thread).inCall = true)
    (circumstances : ε) :
    ∃ runner act, (act = .run runner ∨ act = .make runner circumstances) ∧ (cell.step construct act).isSome := by
  cases held : cell.holder with
  | none => exact ⟨thread, goes_on inCall (fun _ => held) circumstances⟩
  | some holder =>
    have holds := (locked.holder holder).mpr held
    have holderInCall : (cell.stage holder).inCall = true := by
      cases here : cell.stage holder <;> simp_all [Stage.holds, Stage.inCall]
    refine ⟨holder, goes_on holderInCall (fun isWaiting => ?_) circumstances⟩
    rw [isWaiting] at holds
    cases holds

end

end AutoSre.Lib.OnceCell
