import AutoSre.Resilience.BreakerHistory

/-! # The registry of breakers

`get_or_create` hands out one breaker for each name, with the configuration of the first
call that named it; `reset_registry` forgets them all.  Whoever holds a breaker can go on
using it after that, beside the breaker that a later call creates under the same name, and
the two share the series `circuit_breaker_state` of that name.

A breaker is known by its number in the order of construction.
-/

namespace AutoSre.Resilience

open AutoSre.Lib AutoSre.Lib.Python

/-- A breaker with what it was constructed with. -/
structure Member where
  config : BreakerConfig
  breaker : CircuitBreaker InMemoryStore
deriving DecidableEq

namespace Member

def operate (member : Member) (call : Call) : Member :=
  { member with breaker := member.breaker.operate member.config call }

/-- The value that the operation sets the gauge to: each branch that calls `_set_state`
    persists an event, and no other branch does. -/
def gaugeSet (member : Member) (call : Call) : Option ℕ :=
  let after := (member.operate call).breaker
  if after.events.length = member.breaker.events.length then none else some after.stateGauge

def snapshot (now : ℚ) (member : Member) : CircuitBreaker.Snapshot := member.breaker.snapshot member.config now

end Member

/-- The breakers constructed so far, `_registry`, and the gauge by the name of a breaker. -/
structure Registry where
  members : List Member := []
  registered : Dict Str ℕ := .empty
  gauge : Str → Option ℕ := fun _ => none

namespace Registry

def find (registry : Registry) (name : Str) : Option Member :=
  (registry.registered.get name).bind fun number => registry.members[number]?

/-- `get_or_create(name, **kwargs)`, with the number of the breaker it returns. -/
def getOrCreate (registry : Registry) (config : BreakerConfig) : ℕ × Registry :=
  match registry.registered.get config.name with
  | some number => (number, registry)
  | none =>
    (registry.members.length,
      { members := registry.members ++ [⟨config, .fresh⟩]
        registered := registry.registered.set config.name registry.members.length
        gauge := Function.update registry.gauge config.name
          (some (CircuitBreaker.fresh).stateGauge) })

def operate (registry : Registry) (number : ℕ) (call : Call) : Option Registry :=
  registry.members[number]?.map fun member =>
    { registry with
      members := registry.members.set number (member.operate call)
      gauge :=
        match member.gaugeSet call with
        | some value => Function.update registry.gauge member.config.name (some value)
        | none => registry.gauge }

/-- `reset_registry` -/
def reset (registry : Registry) : Registry := { registry with registered := .empty }

def allBreakers (registry : Registry) : List Member :=
  registry.registered.items.filterMap fun item => registry.members[item.2]?

/-- `GET /breaker/status` -/
def status (registry : Registry) (now : ℚ) : List CircuitBreaker.Snapshot :=
  registry.allBreakers.map (Member.snapshot now)

end Registry

inductive RegistryCall where
  | getOrCreate (config : BreakerConfig)
  | operate (number : ℕ) (call : Call)
  | reset
deriving DecidableEq

def Registry.step (registry : Registry) : RegistryCall → Option Registry
  | .getOrCreate config => some (registry.getOrCreate config).2
  | .operate number call => registry.operate number call
  | .reset => some registry.reset

abbrev RegistryHistory := List (Transition Registry RegistryCall)

/-! ## What the history says -/

/-- The names asked for since the last reset, in the order in which they were first asked for. -/
def askedFor : RegistryHistory → List Str
  | [] => []
  | made :: past =>
    match made.label with
    | .getOrCreate config => Dict.withKey (askedFor past) config.name
    | .operate _ _ => askedFor past
    | .reset => []

/-- The first configuration given with the name since the last reset. -/
def firstConfig (name : Str) : RegistryHistory → Option BreakerConfig
  | [] => none
  | made :: past =>
    match made.label with
    | .getOrCreate config => (firstConfig name past).or (if config.name = name then some config else none)
    | .operate _ _ => firstConfig name past
    | .reset => none

/-- The calls since the last reset on the breaker that was registered under the name. -/
def callsOn (name : Str) : RegistryHistory → List Call
  | [] => []
  | made :: past =>
    match made.label with
    | .getOrCreate _ => callsOn name past
    | .operate number call =>
      if made.before.registered.get name = some number then callsOn name past ++ [call] else callsOn name past
    | .reset => []

/-- A breaker of its own for these calls. -/
def Member.replay (config : BreakerConfig) (calls : List Call) : Member :=
  ⟨config, calls.foldl (CircuitBreaker.operate config) .fresh⟩

theorem Member.replay_append (config : BreakerConfig) (calls : List Call) (call : Call) :
    Member.replay config (calls ++ [call]) = (Member.replay config calls).operate call := by
  simp [Member.replay, Member.operate]

/-! ## Each name has one breaker -/

/-- The registry holds what the history says it should. -/
structure Faithful (history : RegistryHistory) (registry : Registry) : Prop where
  listed : registry.registered.keys = askedFor history
  nodup : (askedFor history).Nodup
  absent : ∀ name, registry.registered.get name = none → firstConfig name history = none ∧ callsOn name history = []
  present : ∀ name number, registry.registered.get name = some number →
    ∃ config, firstConfig name history = some config ∧ config.name = name ∧
      registry.members[number]? = some (Member.replay config (callsOn name history))

namespace Faithful

variable {history : RegistryHistory} {registry next : Registry}

theorem find_eq (faithful : Faithful history registry) (name : Str) :
    registry.find name =
      (firstConfig name history).map fun config => Member.replay config (callsOn name history) := by
  unfold Registry.find
  cases registered : registry.registered.get name with
  | none => rw [(faithful.absent name registered).1]; rfl
  | some number =>
    obtain ⟨config, isFirst, _, isMember⟩ := faithful.present name number registered
    rw [isFirst, Option.bind_some, isMember, Option.map_some]

theorem mem_askedFor_iff (faithful : Faithful history registry) (name : Str) :
    name ∈ askedFor history ↔ registry.registered.get name ≠ none := by
  rw [← faithful.listed, Ne, Dict.get_eq_none_iff, not_not]

theorem exists_config (faithful : Faithful history registry) {name : Str} (asked : name ∈ askedFor history) :
    ∃ config, firstConfig name history = some config ∧ config.name = name := by
  obtain ⟨number, registered⟩ := Option.ne_none_iff_exists'.mp ((faithful.mem_askedFor_iff name).mp asked)
  obtain ⟨config, isFirst, named, _⟩ := faithful.present name number registered
  exact ⟨config, isFirst, named⟩

theorem again (faithful : Faithful history registry) {config : BreakerConfig} {number : ℕ}
    (registered : registry.registered.get config.name = some number) :
    Faithful (⟨registry, .getOrCreate config, registry⟩ :: history) registry := by
  have asked : config.name ∈ askedFor history := by
    rw [faithful.mem_askedFor_iff, registered]
    simp
  constructor
  case listed => simpa only [askedFor, Dict.withKey_of_mem asked] using faithful.listed
  case nodup => simpa only [askedFor, Dict.withKey_of_mem asked] using faithful.nodup
  case absent =>
    intro name absent
    have differ : config.name ≠ name := by
      rintro rfl
      rw [registered] at absent
      cases absent
    simpa [firstConfig, callsOn, differ] using faithful.absent name absent
  case present =>
    intro name other isRegistered
    -- the configuration given now comes after the first one, so `or` passes it over
    obtain ⟨first, isFirst, named, isMember⟩ := faithful.present name other isRegistered
    exact ⟨first, by simp [firstConfig, isFirst], named, isMember⟩

theorem create (faithful : Faithful history registry) {config : BreakerConfig}
    (unregistered : registry.registered.get config.name = none) :
    Faithful (⟨registry, .getOrCreate config, (registry.getOrCreate config).2⟩ :: history)
      (registry.getOrCreate config).2 := by
  have created : (registry.getOrCreate config).2 =
      { members := registry.members ++ [⟨config, .fresh⟩]
        registered := registry.registered.set config.name registry.members.length
        gauge := Function.update registry.gauge config.name (some (CircuitBreaker.fresh).stateGauge) } := by
    simp [Registry.getOrCreate, unregistered]
  rw [created]
  constructor
  case listed =>
    simp only [askedFor, Dict.keys_set, faithful.listed]
  case nodup => exact Dict.nodup_withKey faithful.nodup config.name
  case absent =>
    intro name absent
    have differ : name ≠ config.name := by
      rintro rfl
      simp at absent
    rw [Dict.get_set_of_ne _ _ differ] at absent
    simpa [firstConfig, callsOn, Ne.symm differ] using faithful.absent name absent
  case present =>
    intro name number registered
    by_cases isNew : name = config.name
    · subst isNew
      obtain ⟨noConfig, noCalls⟩ := faithful.absent _ unregistered
      obtain rfl : registry.members.length = number := by simpa using registered
      exact ⟨config, by simp [firstConfig, noConfig], rfl, by simp [callsOn, noCalls, Member.replay]⟩
    · rw [Dict.get_set_of_ne _ _ isNew] at registered
      obtain ⟨first, isFirst, named, isMember⟩ := faithful.present name number registered
      obtain ⟨inside, _⟩ := List.getElem?_eq_some_iff.mp isMember
      refine ⟨first, by simp [firstConfig, isFirst], named, ?_⟩
      rw [List.getElem?_append_left inside]
      exact isMember

theorem operate (faithful : Faithful history registry) {number : ℕ} {call : Call}
    (taken : registry.operate number call = some next) :
    Faithful (⟨registry, .operate number call, next⟩ :: history) next := by
  obtain ⟨member, found, rfl⟩ := Option.map_eq_some_iff.mp taken
  constructor
  case listed => exact faithful.listed
  case nodup => exact faithful.nodup
  case absent =>
    intro name absent
    have absent : registry.registered.get name = none := absent
    simpa [firstConfig, callsOn, absent] using faithful.absent name absent
  case present =>
    intro name other registered
    have registered : registry.registered.get name = some other := registered
    obtain ⟨config, isFirst, named, isMember⟩ := faithful.present name other registered
    refine ⟨config, isFirst, named, ?_⟩
    by_cases isOther : number = other
    · subst isOther
      obtain ⟨inside, _⟩ := List.getElem?_eq_some_iff.mp found
      obtain rfl : Member.replay config (callsOn name history) = member := by
        simpa [isMember] using found
      simp only [callsOn, registered, if_true, Member.replay_append, List.getElem?_set_self inside]
    · have isNoCall : ∀ after, callsOn name (⟨registry, .operate number call, after⟩ :: history) =
          callsOn name history := by
        simp [callsOn, registered, Ne.symm isOther]
      rw [isNoCall, List.getElem?_set_ne isOther]
      exact isMember

theorem reset (registry : Registry) (history : RegistryHistory) :
    Faithful (⟨registry, .reset, registry.reset⟩ :: history) registry.reset where
  listed := rfl
  nodup := List.nodup_nil
  absent _ _ := ⟨rfl, rfl⟩
  present _ _ registered := by cases registered

end Faithful

theorem faithful_run {history : RegistryHistory} {registry : Registry}
    (run : Trace Registry.step {} history registry) : Faithful history registry := by
  induction run with
  | nil => exact ⟨rfl, List.nodup_nil, fun _ _ => ⟨rfl, rfl⟩, fun _ _ registered => by cases registered⟩
  | @snoc past before call after _ taken faithful =>
    cases call with
    | getOrCreate config =>
      cases taken
      cases registered : before.registered.get config.name with
      | none => exact faithful.create registered
      | some number =>
        have unchanged : (before.getOrCreate config).2 = before := by simp [Registry.getOrCreate, registered]
        rw [unchanged]
        exact faithful.again registered
    | operate number call => exact faithful.operate taken
    | reset =>
      cases taken
      exact .reset before past

/-- After any calls, resets among them: `/breaker/status` lists one breaker for each name
    asked for since the last reset, in the order of asking.  The breaker of a name is a
    breaker of its own, with the first configuration given with that name, that has seen
    the calls made on it and no others. -/
theorem registry_one_per_name (history : RegistryHistory) (registry : Registry)
    (run : Trace Registry.step {} history registry) :
    (askedFor history).Nodup ∧
      (∀ name ∈ askedFor history, ∃ config, firstConfig name history = some config ∧ config.name = name) ∧
      (∀ name, registry.find name =
        (firstConfig name history).map fun config => Member.replay config (callsOn name history)) ∧
      ∀ now, registry.status now =
        (askedFor history).filterMap fun name =>
          (firstConfig name history).map fun config => (Member.replay config (callsOn name history)).snapshot now := by
  have faithful := faithful_run run
  refine ⟨faithful.nodup, fun _ => faithful.exists_config, faithful.find_eq, ?_⟩
  intro now
  have nodup : registry.registered.keys.Nodup := faithful.listed ▸ faithful.nodup
  have found : registry.allBreakers = (askedFor history).filterMap registry.find := by
    rw [← faithful.listed, Dict.keys, List.filterMap_map]
    apply List.filterMap_congr
    intro item isItem
    have registered := Dict.get_of_mem_items nodup isItem
    simp [Registry.find, registered]
  rw [Registry.status, found, List.map_filterMap]
  apply List.filterMap_congr
  intro name _
  rw [faithful.find_eq name]
  cases firstConfig name history <;> rfl

theorem registry_one_per_name_asked_twice :
    let first : BreakerConfig := { name := "auth".toList, failureThreshold := 1 }
    let second : BreakerConfig := { name := "auth".toList, failureThreshold := 9 }
    ∃ history registry, Trace Registry.step {} history registry ∧
      history.map (·.label) = [.getOrCreate second, .operate 0 ⟨3, .recordFailure⟩, .getOrCreate first] ∧
      registry.find "auth".toList = some (Member.replay first [⟨3, .recordFailure⟩]) := by
  intro first second
  obtain ⟨history, registry, run, labels, isFirst, calls⟩ :=
    exists_trace_of_replay Registry.step {}
      [.getOrCreate first, .operate 0 ⟨3, .recordFailure⟩, .getOrCreate second]
      (fun history _ =>
        history.map (·.label) = [.getOrCreate second, .operate 0 ⟨3, .recordFailure⟩, .getOrCreate first] ∧
        firstConfig "auth".toList history = some first ∧ callsOn "auth".toList history = [⟨3, .recordFailure⟩])
      (by decide +kernel)
  obtain ⟨_, _, found, _⟩ := registry_one_per_name history registry run
  refine ⟨history, registry, run, labels, ?_⟩
  rw [found, isFirst, calls, Option.map_some]

/-! ## The gauge -/

theorem Change.state_of_quiet {config : BreakerConfig} {record next : BreakerRecord} {call : Call}
    (change : Change config record call next none) : next.state = record.state := by
  cases change <;> rfl

namespace Member

def Gauged (member : Member) : Prop := member.breaker.stateGauge = member.breaker.state.value

theorem Gauged.operate {member : Member} (gauged : member.Gauged) (call : Call) :
    (member.operate call).Gauged ∧
      match member.gaugeSet call with
      | some value => value = (member.operate call).breaker.state.value
      | none => (member.operate call).breaker.state = member.breaker.state := by
  obtain ⟨record, event, change, applied⟩ := operate_change member.config member.breaker call
  have after : (member.operate call).breaker = member.breaker.apply record event := applied
  cases event with
  | none =>
    have same : record.state = member.breaker.store.record.state := change.state_of_quiet
    -- no event was persisted, so `_set_state` was not called
    have quiet : member.gaugeSet call = none := by
      simp [gaugeSet, after, CircuitBreaker.apply]
    rw [quiet]
    refine ⟨?_, ?_⟩
    · rw [Gauged, after]
      simpa [CircuitBreaker.apply, same, Gauged] using gauged
    · rw [after]
      simpa [CircuitBreaker.apply] using same
  | some emitted =>
    have set : member.gaugeSet call = some record.state.value := by
      simp [gaugeSet, after, CircuitBreaker.apply]
    rw [set]
    refine ⟨?_, ?_⟩
    · rw [Gauged, after]
      simp [CircuitBreaker.apply]
    · rw [after]
      simp [CircuitBreaker.apply]

end Member

theorem gauged_run {history : RegistryHistory} {registry : Registry}
    (run : Trace Registry.step {} history registry) : ∀ member ∈ registry.members, member.Gauged := by
  induction run with
  | nil => simp
  | @snoc past before call after _ taken ih =>
    cases call with
    | getOrCreate config =>
      cases taken
      cases registered : before.registered.get config.name with
      | some number => simpa [Registry.getOrCreate, registered] using ih
      | none =>
        simp only [Registry.getOrCreate, registered, List.mem_append, List.mem_singleton]
        rintro member (earlier | rfl)
        · exact ih member earlier
        · rfl
    | operate number call =>
      obtain ⟨member, found, rfl⟩ := Option.map_eq_some_iff.mp taken
      intro other isMember
      cases List.mem_or_eq_of_mem_set isMember with
      | inl earlier => exact ih other earlier
      | inr isOperated =>
        rw [isOperated]
        exact ((ih member (List.mem_of_getElem? found)).operate call).1
    | reset =>
      cases taken
      exact ih

/-- The gauge of every registered name shows the state of its breaker. -/
def GaugeTruthful (registry : Registry) : Prop :=
  ∀ name member, registry.find name = some member → registry.gauge name = some member.breaker.state.value

/-- A call on a breaker that is no longer registered does not set the gauge to another
    state than that of the breaker that has its name now. -/
def LeavesGauge (registry : Registry) : RegistryCall → Prop
  | .getOrCreate _ | .reset => True
  | .operate number call =>
    ∀ member namesake value, registry.members[number]? = some member →
      registry.find member.config.name = some namesake →
      registry.registered.get member.config.name ≠ some number →
      member.gaugeSet call = some value → value = namesake.breaker.state.value

section

variable {history : RegistryHistory} {registry next : Registry} {number : ℕ} {call : Call} {member : Member}

theorem find_create (faithful : Faithful history registry) {config : BreakerConfig}
    (unregistered : registry.registered.get config.name = none) (name : Str) :
    (registry.getOrCreate config).2.find name =
      if name = config.name then some ⟨config, .fresh⟩ else registry.find name := by
  simp only [Registry.getOrCreate, unregistered, Registry.find]
  split
  next isNew =>
    subst isNew
    simp
  next isOld =>
    rw [Dict.get_set_of_ne _ _ isOld]
    cases registered : registry.registered.get name with
    | none => rfl
    | some number =>
      obtain ⟨_, _, _, isMember⟩ := faithful.present name number registered
      obtain ⟨inside, _⟩ := List.getElem?_eq_some_iff.mp isMember
      rw [Option.bind_some, Option.bind_some, List.getElem?_append_left inside]

theorem find_operate (found : registry.members[number]? = some member)
    (taken : registry.operate number call = some next) (name : Str) :
    next.find name =
      if registry.registered.get name = some number then some (member.operate call) else registry.find name := by
  obtain ⟨inside, _⟩ := List.getElem?_eq_some_iff.mp found
  simp only [Registry.operate, found, Option.map_some] at taken
  cases taken
  simp only [Registry.find]
  cases registered : registry.registered.get name with
  | none => simp
  | some other =>
    by_cases isOther : other = number
    · subst isOther
      simp [inside]
    · simp [isOther, List.getElem?_set_ne (Ne.symm isOther)]

theorem gauge_operate (found : registry.members[number]? = some member)
    (taken : registry.operate number call = some next) (name : Str) :
    next.gauge name = if name = member.config.name then (member.gaugeSet call).or (registry.gauge name)
      else registry.gauge name := by
  simp only [Registry.operate, found, Option.map_some] at taken
  cases taken
  cases member.gaugeSet call with
  | none => simp
  | some value => simp [Function.update_apply]

theorem gaugeTruthful_getOrCreate (faithful : Faithful history registry) (truthful : GaugeTruthful registry)
    (config : BreakerConfig) : GaugeTruthful (registry.getOrCreate config).2 := by
  cases registered : registry.registered.get config.name with
  | some number =>
    have unchanged : (registry.getOrCreate config).2 = registry := by simp [Registry.getOrCreate, registered]
    rw [unchanged]
    exact truthful
  | none =>
    intro name member found
    rw [find_create faithful registered] at found
    by_cases isNew : name = config.name
    · rw [if_pos isNew] at found
      cases found
      simp only [Registry.getOrCreate, registered, isNew, Function.update_self]
      rfl
    · rw [if_neg isNew] at found
      simp only [Registry.getOrCreate, registered, Function.update_of_ne isNew]
      exact truthful name member found

theorem gaugeTruthful_operate_iff (faithful : Faithful history registry)
    (gauged : ∀ member ∈ registry.members, member.Gauged) (truthful : GaugeTruthful registry)
    (taken : registry.operate number call = some next) :
    GaugeTruthful next ↔ LeavesGauge registry (.operate number call) := by
  obtain ⟨member, found, _⟩ := Option.map_eq_some_iff.mp taken
  obtain ⟨_, sets⟩ := (gauged member (List.mem_of_getElem? found)).operate call
  constructor
  · intro after other namesake value isOther isNamesake detached isSet
    obtain rfl : member = other := by simpa [found] using isOther
    -- the name now belongs to another breaker, whose state the gauge must go on showing
    have shown := after member.config.name namesake (by rw [find_operate found taken, if_neg detached, isNamesake])
    rw [gauge_operate found taken, if_pos rfl, isSet] at shown
    exact Option.some.inj shown
  · intro leaves name shown isShown
    rw [find_operate found taken] at isShown
    rw [gauge_operate found taken]
    by_cases isRegistered : registry.registered.get name = some number
    · rw [if_pos isRegistered] at isShown
      obtain ⟨config, _, named, isMember⟩ := faithful.present name number isRegistered
      have sameName : name = member.config.name := by
        rw [found] at isMember
        cases isMember
        exact named.symm
      have before := truthful name member (by simp [Registry.find, isRegistered, found])
      cases isShown
      rw [if_pos sameName]
      cases isSet : member.gaugeSet call with
      | some value =>
        simp only [isSet] at sets
        rw [Option.some_or, sets]
      | none =>
        simp only [isSet] at sets
        rw [Option.none_or, before, sets]
    · rw [if_neg isRegistered] at isShown
      have before := truthful name shown isShown
      by_cases sameName : name = member.config.name
      · subst sameName
        rw [if_pos rfl]
        cases isSet : member.gaugeSet call with
        | some value => rw [leaves member shown value found isShown isRegistered isSet, Option.some_or]
        | none => rw [Option.none_or, before]
      · rw [if_neg sameName, before]

end

/-- At every moment of a run the gauge of each registered name shows the state of its
    breaker, exactly when no call on a breaker from before a reset sets the gauge to another
    state than that of its successor. -/
theorem registry_gauge_truthful_iff (history : RegistryHistory) (registry : Registry)
    (run : Trace Registry.step {} history registry) :
    Always (fun _ registry => GaugeTruthful registry) {} history ↔
      ∀ taken ∈ history, LeavesGauge taken.before taken.label := by
  refine run.always_iff_forall (P := fun _ registry => GaugeTruthful registry) (C := LeavesGauge) ?_ ?_
  · intro name member found
    cases found
  · intro past before call after earlier truthful taken
    cases call with
    | getOrCreate config =>
      cases taken
      exact iff_of_true (gaugeTruthful_getOrCreate (faithful_run earlier) truthful config) trivial
    | operate number call =>
      exact gaugeTruthful_operate_iff (faithful_run earlier) (gauged_run earlier) truthful taken
    | reset =>
      cases taken
      refine iff_of_true ?_ trivial
      intro name member found
      cases found

/-- A breaker that fails after its name was given to another one: the gauge shows OPEN for
    a breaker that is CLOSED. -/
theorem registry_gauge_detached_failure :
    let config : BreakerConfig := { name := "auth".toList, failureThreshold := 1 }
    ∃ history registry, Trace Registry.step {} history registry ∧
      history.map (·.label) =
        [.operate 0 ⟨0, .recordFailure⟩, .getOrCreate config, .reset, .getOrCreate config] ∧
      ¬∀ taken ∈ history, LeavesGauge taken.before taken.label := by
  intro config
  obtain ⟨history, registry, run, labels, found, shown⟩ :=
    exists_trace_of_replay Registry.step {}
      [.getOrCreate config, .reset, .getOrCreate config, .operate 0 ⟨0, .recordFailure⟩]
      (fun history registry => history.map (·.label) =
          [.operate 0 ⟨0, .recordFailure⟩, .getOrCreate config, .reset, .getOrCreate config] ∧
        registry.find config.name = some ⟨config, .fresh⟩ ∧ registry.gauge config.name = some 1)
      (by decide +kernel)
  refine ⟨history, registry, run, labels, fun leaves => ?_⟩
  have throughout := (registry_gauge_truthful_iff history registry run).mpr leaves
  have truthful := throughout.last run config.name _ found
  rw [shown] at truthful
  cases truthful

end AutoSre.Resilience
