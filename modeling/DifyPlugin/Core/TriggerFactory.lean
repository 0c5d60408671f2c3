import DifyPlugin.Core.Utils.ClassLoader

/-!
# The trigger factory

`TriggerFactory` keeps an entry for every trigger provider, and hands out a registration through
which events are added to the entry, at any later time. An entry is known by its position among
all entries, in the order in which they were made. Names are registered once: whatever is
registered under a name of a provider first stays there.
-/

namespace DifyPlugin.TriggerFactory

open ClassLoader Registering

/-- `EventConfiguration`, as far as the registration reads it. -/
structure EventConfiguration where
  /-- `identity.name`. -/
  name : Text
  /-- `extra.python.source`. -/
  source : Text
  deriving DecidableEq

/-- `TriggerSubscriptionConstructorConfiguration`, as far as the registration reads it. -/
structure ConstructorConfiguration where
  /-- Whether there is an `oauth_schema`. -/
  oauthSchema : Bool
  /-- `extra.python.source`, if there is an `extra`. -/
  source : Option Text
  deriving DecidableEq

/-- `TriggerProviderConfiguration`, as far as the registration reads it. -/
structure TriggerProviderConfiguration where
  /-- `identity.name`. -/
  name : Text
  /-- `extra.python.source`. -/
  source : Text
  /-- `subscription_constructor`. -/
  subscriptionConstructor : Option ConstructorConfiguration
  /-- `events`. -/
  events : List EventConfiguration
  deriving DecidableEq

/-- `_TriggerProviderEntry`. -/
structure Entry (κ : Type) where
  /-- `configuration`. -/
  configuration : TriggerProviderConfiguration
  /-- `provider_cls`. -/
  providerCls : κ
  /-- `subscription_constructor_cls`. -/
  subscriptionConstructorCls : Option κ
  /-- `events`. -/
  events : Dict Text (EventConfiguration × κ)

/-- `TriggerFactory`. -/
structure Factory (κ : Type) where
  /-- The entries that were made. -/
  entries : List (Entry κ)
  /-- `_providers`, with the positions of the entries. -/
  providers : Dict Text Nat

variable {κ : Type}

/-- `TriggerFactory()`. -/
def Factory.new : Factory κ := ⟨[], Dict.empty⟩

/-- `register_trigger` of the registration for an entry. -/
def Entry.registerTrigger (entry : Entry κ) (name : Text) (configuration : EventConfiguration)
    (triggerCls : κ) : Except Failure (Entry κ) :=
  match refuse entry.events name (configuration, triggerCls) with
  | none => .error ⟨.valueError, "Event `".toList ++ name ++
      "` is already registered for provider `".toList ++ entry.configuration.name ++ "`".toList⟩
  | some events => .ok { entry with events }

namespace Factory

/-- `_providers.get(provider_name)`. -/
def find (factory : Factory κ) (providerName : Text) : Option (Entry κ) :=
  (factory.providers.get providerName).bind fun position => factory.entries[position]?

/-- `_get_entry`. -/
def getEntry (factory : Factory κ) (providerName : Text) : Except Failure (Entry κ) :=
  match factory.find providerName with
  | some entry => .ok entry
  | none => .error
    ⟨.valueError, "Trigger provider `".toList ++ providerName ++ "` not found".toList⟩

/-- `register_trigger_provider`: the factory, and the position of the entry that the registration
it returns is for. The events are those of a dictionary, so that none of them is refused. -/
def registerTriggerProvider (factory : Factory κ) (configuration : TriggerProviderConfiguration)
    (providerCls : κ) (subscriptionConstructorCls : Option κ)
    (events : Dict Text (EventConfiguration × κ)) : Except Failure (Factory κ × Nat) :=
  match refuse factory.providers configuration.name factory.entries.length with
  | none => .error ⟨.valueError, "Trigger provider `".toList ++ configuration.name ++
      "` is already registered".toList⟩
  | some providers => do
    let entry ← events.entries.foldlM
      (fun entry event => entry.registerTrigger event.1 event.2.1 event.2.2)
      ⟨configuration, providerCls, subscriptionConstructorCls, Dict.empty⟩
    return (⟨factory.entries ++ [entry], providers⟩, factory.entries.length)

/-- What a registration does to the entry that it is for. -/
def update (factory : Factory κ) (position : Nat) (change : Entry κ → Except Failure (Entry κ)) :
    Except Failure (Factory κ) :=
  match factory.entries[position]? with
  | none => .ok factory
  | some entry => do
    let entry ← change entry
    return { factory with entries := factory.entries.set position entry }

/-- `get_provider_cls`, which `get_trigger_provider` makes an instance of. -/
def getProviderCls (factory : Factory κ) (providerName : Text) : Except Failure κ := do
  return (← factory.getEntry providerName).providerCls

/-- `get_subscription_constructor_cls`. -/
def getSubscriptionConstructorCls (factory : Factory κ) (providerName : Text) :
    Except Failure (Option κ) := do
  return (← factory.getEntry providerName).subscriptionConstructorCls

/-- `get_subscription_constructor`, up to the instance. -/
def getSubscriptionConstructor (factory : Factory κ) (providerName : Text) :
    Except Failure κ := do
  match (← factory.getEntry providerName).subscriptionConstructorCls with
  | some cls => return cls
  | none => throw ⟨.valueError, "Trigger provider `".toList ++ providerName ++
      "` does not define a subscription constructor".toList⟩

/-- `get_trigger_event_handler_safely`, up to the instance. -/
def getTriggerEventHandlerSafely (factory : Factory κ) (providerName event : Text) : Option κ :=
  match factory.find providerName with
  | none => none
  | some entry =>
    match entry.events.get event with
    | none => none
    | some (_, cls) => some cls

/-- `get_trigger_event_handler`, up to the instance. -/
def getTriggerEventHandler (factory : Factory κ) (providerName event : Text) :
    Except Failure κ := do
  match (← factory.getEntry providerName).events.get event with
  | some (_, cls) => return cls
  | none => throw ⟨.valueError, "Event `".toList ++ event ++
      "` not found in provider `".toList ++ providerName ++ "`".toList⟩

/-- `get_configuration`. -/
def getConfiguration (factory : Factory κ) (providerName : Text) :
    Except Failure TriggerProviderConfiguration := do
  return (← factory.getEntry providerName).configuration

end Factory

/-! ## Runs -/

/-- A trigger provider as it is given to `register_trigger_provider`. -/
structure Declaration (κ : Type) where
  /-- `configuration`. -/
  configuration : TriggerProviderConfiguration
  /-- `provider_cls`. -/
  providerCls : κ
  /-- `subscription_constructor_cls`. -/
  subscriptionConstructorCls : Option κ
  /-- `events`. -/
  events : Dict Text (EventConfiguration × κ)

/-- The name under which the provider is registered. -/
def Declaration.name (declared : Declaration κ) : Text := declared.configuration.name

/-- A call that registers. -/
inductive Operation (κ : Type) where
  /-- `register_trigger_provider`. -/
  | provider (declared : Declaration κ)
  /-- `register_trigger` of the registration for the entry at a position. -/
  | event (position : Nat) (name : Text) (configuration : EventConfiguration) (triggerCls : κ)

/-- The factory after some calls, and what they raised. -/
structure Performed (κ : Type) where
  /-- The factory. -/
  factory : Factory κ
  /-- What each call raised. -/
  raised : List (Option Failure)

/-- One more call, for which the registration has to exist. -/
def Performed.perform (performed : Performed κ) : Operation κ → Option (Performed κ)
  | .provider declared =>
    match performed.factory.registerTriggerProvider declared.configuration declared.providerCls
      declared.subscriptionConstructorCls declared.events with
    | .ok (factory, _) => some ⟨factory, performed.raised ++ [none]⟩
    | .error failure => some ⟨performed.factory, performed.raised ++ [some failure]⟩
  | .event position name configuration triggerCls =>
    match performed.factory.entries[position]? with
    | none => none
    | some entry =>
      match entry.registerTrigger name configuration triggerCls with
      | .ok entry => some ⟨{ performed.factory with
          entries := performed.factory.entries.set position entry }, performed.raised ++ [none]⟩
      | .error failure => some ⟨performed.factory, performed.raised ++ [some failure]⟩

/-- Calls one after another on a new factory. -/
def run (operations : List (Operation κ)) : Option (Performed κ) :=
  operations.foldlM Performed.perform ⟨Factory.new, []⟩

/-- The providers that were to be registered. -/
def providersOf (operations : List (Operation κ)) : List (Declaration κ) :=
  operations.filterMap fun
    | .provider declared => some declared
    | .event _ _ _ _ => none

/-- The events that were to be registered for the entry at a position. -/
def eventsOf (operations : List (Operation κ)) (position : Nat) :
    List (Text × EventConfiguration × κ) :=
  operations.filterMap fun
    | .provider _ => none
    | .event other name configuration triggerCls =>
      if other = position then some (name, configuration, triggerCls) else none

/-- The entry that a declaration and the events after it make. -/
def Declaration.entry (declared : Declaration κ)
    (events : List (Text × EventConfiguration × κ)) : Entry κ :=
  ⟨declared.configuration, declared.providerCls, declared.subscriptionConstructorCls,
    keepFirst (declared.events.entries ++ events)⟩

/-- The entries when whatever is registered first under a name stays. -/
def firstEntries (operations : List (Operation κ)) : List (Entry κ) :=
  (firsts Declaration.name (providersOf operations)).mapIdx fun position declared =>
    declared.entry (eventsOf operations position)

/-- The names that are taken: of the providers, or of the events of one entry. -/
def taken (operations : List (Operation κ)) : Operation κ → List Text
  | .provider _ => (providersOf operations).map Declaration.name
  | .event position _ _ _ =>
    ((firstEntries operations)[position]?.toList.flatMap fun entry => entry.events.entries).map
      Prod.fst

/-- The name under which a call registers. -/
def Operation.name : Operation κ → Text
  | .provider declared => declared.name
  | .event _ name _ _ => name

section Entries

variable {operations : List (Operation κ)}

/-- The entry at a position is that of the provider there. -/
theorem getElem?_firstEntries (operations : List (Operation κ)) (position : Nat) :
    (firstEntries operations)[position]? =
      ((firsts Declaration.name (providersOf operations))[position]?).map fun declared =>
        declared.entry (eventsOf operations position) :=
  List.getElem?_mapIdx

/-- There is one entry for each name of a provider. -/
theorem length_firstEntries (operations : List (Operation κ)) :
    (firstEntries operations).length =
      (firsts Declaration.name (providersOf operations)).length :=
  List.length_mapIdx

/-- The entries have the names of the providers. -/
theorem map_name_firstEntries (operations : List (Operation κ)) :
    (firstEntries operations).map (fun entry => entry.configuration.name) =
      (firsts Declaration.name (providersOf operations)).map Declaration.name := by
  apply List.ext_getElem?
  intro position
  rw [List.getElem?_map, List.getElem?_map, getElem?_firstEntries, Option.map_map]
  rfl

/-- Registering the events of a dictionary refuses none of them. -/
theorem foldlM_registerTrigger (entry : Entry κ)
    {items more : List (Text × EventConfiguration × κ)} (starts : entry.events = keepFirst items)
    (distinct : ((items ++ more).map Prod.fst).Nodup) :
    more.foldlM (fun entry event => entry.registerTrigger event.1 event.2.1 event.2.2) entry =
      Except.ok { entry with events := keepFirst (items ++ more) } := by
  induction more generalizing entry items with
  | nil =>
    rw [List.append_nil, ← starts]
    rfl
  | cons event rest ih =>
    obtain ⟨name, configuration, triggerCls⟩ := event
    have fresh : name ∉ items.map Prod.fst := by
      rw [List.map_append, List.map_cons] at distinct
      intro known
      exact (List.nodup_append.mp distinct).2.2 name known name List.mem_cons_self rfl
    have registered : entry.registerTrigger name configuration triggerCls =
        .ok { entry with events := keepFirst (items ++ [(name, configuration, triggerCls)]) } := by
      rw [Entry.registerTrigger, starts, refuse_keepFirst, if_neg fresh]
    have later := ih
      { entry with events := keepFirst (items ++ [(name, configuration, triggerCls)]) }
      rfl (by simpa using distinct)
    rw [List.append_assoc, List.singleton_append] at later
    rw [List.foldlM_cons, registered]
    exact later

/-- Events that are all registered are listed behind the others. -/
theorem entries_of_registered {entry final : Entry κ}
    {events : List (Text × EventConfiguration × κ)}
    (registered : events.foldlM
      (fun entry event => entry.registerTrigger event.1 event.2.1 event.2.2) entry = .ok final) :
    ∃ dict : Dict Text (EventConfiguration × κ), final = { entry with events := dict } ∧
      dict.entries = entry.events.entries ++ events := by
  induction events generalizing entry with
  | nil =>
    obtain rfl := Except.ok.inj registered
    exact ⟨entry.events, rfl, (List.append_nil _).symm⟩
  | cons event rest ih =>
    rw [List.foldlM_cons] at registered
    obtain ⟨middle, first, later⟩ := Fallible.bind_eq_ok.mp registered
    rw [Entry.registerTrigger] at first
    split at first
    · exact absurd first (by simp)
    · rename_i events accepted
      obtain rfl := Except.ok.inj first
      obtain ⟨dict, same, listed⟩ := ih later
      refine ⟨dict, same, ?_⟩
      rw [listed, entries_refuse accepted, List.append_assoc, List.singleton_append]

/-- A provider is registered with its events, if its name is free. -/
theorem registerTriggerProvider_eq (factory : Factory κ) (declared : Declaration κ) :
    factory.registerTriggerProvider declared.configuration declared.providerCls
        declared.subscriptionConstructorCls declared.events =
      match refuse factory.providers declared.name factory.entries.length with
      | none => .error ⟨.valueError, "Trigger provider `".toList ++ declared.name ++
          "` is already registered".toList⟩
      | some providers =>
        .ok (⟨factory.entries ++ [declared.entry []], providers⟩, factory.entries.length) := by
  have made := @foldlM_registerTrigger _
    ⟨declared.configuration, declared.providerCls, declared.subscriptionConstructorCls, Dict.empty⟩
    [] declared.events.entries rfl declared.events.nodup
  have entry : declared.entry [] = ⟨declared.configuration, declared.providerCls,
      declared.subscriptionConstructorCls, keepFirst declared.events.entries⟩ := by
    rw [Declaration.entry, List.append_nil]
  rw [Factory.registerTriggerProvider, made, entry]
  rfl

/-- A provider that is registered has the last entry. -/
theorem of_registerTriggerProvider {factory middle : Factory κ} {declared : Declaration κ}
    {position : Nat}
    (registered : factory.registerTriggerProvider declared.configuration declared.providerCls
      declared.subscriptionConstructorCls declared.events = .ok (middle, position)) :
    position = factory.entries.length ∧
      middle.entries = factory.entries ++ [declared.entry []] ∧
        middle.providers.entries =
          factory.providers.entries ++ [(declared.name, factory.entries.length)] := by
  rw [registerTriggerProvider_eq] at registered
  split at registered
  · exact absurd registered (by simp)
  · rename_i providers accepted
    have same := Except.ok.inj registered
    obtain rfl := congrArg Prod.fst same
    exact ⟨(congrArg Prod.snd same).symm, rfl, entries_refuse accepted⟩

/-- What is done to the last entry replaces it. -/
theorem of_update {factory final : Factory κ} {before : List (Entry κ)} {entry : Entry κ}
    (last : factory.entries = before ++ [entry])
    {change : Entry κ → Except Failure (Entry κ)}
    (updated : factory.update before.length change = .ok final) :
    ∃ changed, change entry = .ok changed ∧ final.entries = before ++ [changed] ∧
      final.providers = factory.providers := by
  have there : factory.entries[before.length]? = some entry := by
    rw [last, List.getElem?_concat_length]
  rw [Factory.update, there] at updated
  obtain ⟨changed, made, same⟩ := Fallible.bind_eq_ok.mp updated
  obtain rfl := Except.ok.inj same
  exact ⟨changed, made, by simp [last], rfl⟩

end Entries

/-- The factory is what was registered first under every name, and the calls that came later
raised. -/
structure FirstOnly (operations : List (Operation κ)) (performed : Performed κ) : Prop where
  /-- The entries are those of the first registrations. -/
  entries : performed.factory.entries = firstEntries operations
  /-- The providers have the positions of their entries. -/
  providers : performed.factory.providers.entries =
    ((firstEntries operations).map fun entry => entry.configuration.name).zipIdx
  /-- Events are registered for entries that exist. -/
  within : ∀ position, (firstEntries operations).length ≤ position →
    eventsOf operations position = []
  /-- There is an outcome for every call. -/
  length : performed.raised.length = operations.length
  /-- A call raises exactly if its name was taken before. -/
  raised : ∀ before operation after, operations = before ++ operation :: after →
    (performed.raised[before.length]? = some none ↔ operation.name ∉ taken before operation)

section Steps

variable {operations : List (Operation κ)} {performed next : Performed κ}

/-- One more outcome is that of the last call. -/
theorem raised_snoc {last : Operation κ} {raised : List (Option Failure)}
    {outcome : Option Failure} (length : raised.length = operations.length)
    (earlier : ∀ before operation after, operations = before ++ operation :: after →
      (raised[before.length]? = some none ↔ operation.name ∉ taken before operation))
    (now : outcome = none ↔ last.name ∉ taken operations last) :
    ∀ before operation after, operations ++ [last] = before ++ operation :: after →
      ((raised ++ [outcome])[before.length]? = some none ↔
        operation.name ∉ taken before operation) := by
  intro before operation after shape
  rcases List.eq_nil_or_concat after with rfl | ⟨rest, final, rfl⟩
  · obtain ⟨rfl, same⟩ := List.append_inj' shape rfl
    obtain rfl := (List.cons.inj same).1
    rw [← length, List.getElem?_concat_length, Option.some.injEq]
    exact now
  · have shaped : operations ++ [last] = (before ++ operation :: rest) ++ [final] := by
      rw [shape]
      simp
    have split := List.append_inj' shaped rfl
    have inside : before.length < raised.length := by
      rw [length, split.1, List.length_append, List.length_cons]
      omega
    rw [List.getElem?_append_left inside]
    exact earlier before operation rest split.1

section Calls

variable (declared : Declaration κ) (position : Nat) (name : Text)
  (configuration : EventConfiguration) (triggerCls : κ)

/-- A provider brings no event. -/
theorem eventsOf_provider :
    eventsOf (operations ++ [.provider declared]) position = eventsOf operations position := by
  simp [eventsOf, List.filterMap_append]

/-- A provider is the last one. -/
theorem providersOf_provider :
    providersOf (operations ++ [.provider declared]) = providersOf operations ++ [declared] := by
  simp [providersOf, List.filterMap_append]

/-- An event is the last one of its entry. -/
theorem eventsOf_event (other : Nat) :
    eventsOf (operations ++ [.event position name configuration triggerCls]) other =
      eventsOf operations other ++
        if position = other then [(name, configuration, triggerCls)] else [] := by
  by_cases same : position = other <;> simp [eventsOf, List.filterMap_append, same]

/-- An event brings no provider. -/
theorem providersOf_event :
    providersOf (operations ++ [.event position name configuration triggerCls]) =
      providersOf operations := by
  simp [providersOf, List.filterMap_append]

end Calls

/-- A provider whose name is taken leaves the entries alone. -/
theorem firstEntries_provider_known {declared : Declaration κ}
    (known : declared.name ∈ (providersOf operations).map Declaration.name) :
    firstEntries (operations ++ [.provider declared]) = firstEntries operations := by
  apply List.ext_getElem?
  intro position
  rw [getElem?_firstEntries, getElem?_firstEntries, eventsOf_provider, providersOf_provider,
    firsts_append_singleton, if_pos known]

/-- A provider with a new name has the last entry. -/
theorem firstEntries_provider_new {declared : Declaration κ}
    (fresh : declared.name ∉ (providersOf operations).map Declaration.name)
    (none : eventsOf operations (firstEntries operations).length = []) :
    firstEntries (operations ++ [.provider declared]) =
      firstEntries operations ++ [declared.entry []] := by
  have all : firsts Declaration.name (providersOf (operations ++ [.provider declared])) =
      firsts Declaration.name (providersOf operations) ++ [declared] := by
    rw [providersOf_provider, firsts_append_singleton, if_neg fresh]
  rw [length_firstEntries] at none
  rw [firstEntries, all, List.mapIdx_append]
  simp only [eventsOf_provider, List.mapIdx_cons, List.mapIdx_nil, Nat.zero_add, none]
  rfl

section Event

variable {position : Nat} {name : Text} {configuration : EventConfiguration} {triggerCls : κ}
  {declared : Declaration κ}
  (found : (firsts Declaration.name (providersOf operations))[position]? = some declared)

include found

/-- An event changes the entry that it is for. -/
theorem firstEntries_event :
    firstEntries (operations ++ [.event position name configuration triggerCls]) =
      (firstEntries operations).set position
        (declared.entry (eventsOf operations position ++ [(name, configuration, triggerCls)])) := by
  have inside : position < (firstEntries operations).length := by
    rw [length_firstEntries]
    exact (List.getElem?_eq_some_iff.mp found).1
  apply List.ext_getElem?
  intro other
  rw [getElem?_firstEntries, providersOf_event]
  by_cases same : other = position
  · subst same
    rw [List.getElem?_set_self inside, found, eventsOf_event, if_pos rfl]
    rfl
  · rw [List.getElem?_set_ne (Ne.symm same), getElem?_firstEntries, eventsOf_event,
      if_neg (Ne.symm same), List.append_nil]

/-- An event whose name is taken leaves the entries alone. -/
theorem firstEntries_event_known
    (known : name ∈ (declared.events.entries ++ eventsOf operations position).map Prod.fst) :
    firstEntries (operations ++ [.event position name configuration triggerCls]) =
      firstEntries operations := by
  have kept : declared.entry (eventsOf operations position ++ [(name, configuration, triggerCls)]) =
      declared.entry (eventsOf operations position) := by
    rw [Declaration.entry, ← List.append_assoc, keepFirst_append_singleton known,
      Declaration.entry]
  have there : (firstEntries operations)[position]? =
      some (declared.entry (eventsOf operations position)) := by
    rw [getElem?_firstEntries, found]
    rfl
  rw [firstEntries_event found, kept]
  apply List.ext_getElem?
  intro other
  rw [List.getElem?_set]
  split
  · rename_i here
    subst here
    rw [there, if_pos (List.getElem?_eq_some_iff.mp there).1]
  · rfl

/-- The names that were taken before an event are those of its entry. -/
theorem taken_event :
    taken operations (.event position name configuration triggerCls) =
      (firsts Prod.fst (declared.events.entries ++ eventsOf operations position)).map
        Prod.fst := by
  simp only [taken, getElem?_firstEntries, found]
  simp [Declaration.entry, keepFirst]

end Event

/-- A name is free exactly if no provider has it. -/
theorem FirstOnly.free (follows : FirstOnly operations performed) (name : Text) :
    performed.factory.providers.get name = none ↔
      name ∉ (providersOf operations).map Declaration.name := by
  rw [get_eq_none, follows.providers, List.zipIdx_map_fst, map_name_firstEntries, mem_map_firsts]

/-- A provider whose name is taken changes nothing. -/
theorem FirstOnly.provider_known (follows : FirstOnly operations performed)
    {declared : Declaration κ}
    (known : declared.name ∈ (providersOf operations).map Declaration.name) (failure : Failure) :
    FirstOnly (operations ++ [.provider declared])
      ⟨performed.factory, performed.raised ++ [some failure]⟩ := by
  have same := firstEntries_provider_known known
  exact {
    entries := same ▸ follows.entries
    providers := same ▸ follows.providers
    within := by
      rw [same]
      intro position beyond
      rw [eventsOf_provider, follows.within position beyond]
    length := by simp [follows.length]
    raised := raised_snoc follows.length follows.raised (by
      simpa [taken, Operation.name] using known) }

/-- A provider with a new name has the last entry. -/
theorem FirstOnly.provider_new (follows : FirstOnly operations performed)
    {declared : Declaration κ}
    (fresh : declared.name ∉ (providersOf operations).map Declaration.name) :
    FirstOnly (operations ++ [.provider declared])
      ⟨⟨performed.factory.entries ++ [declared.entry []],
        performed.factory.providers.set declared.name performed.factory.entries.length⟩,
        performed.raised ++ [none]⟩ := by
  have grown := firstEntries_provider_new fresh (follows.within _ (Nat.le_refl _))
  exact {
    entries := by rw [grown, ← follows.entries]
    providers := by
      have listed := Dict.setEntry_new (get_eq_none.mp ((follows.free _).mpr fresh))
        performed.factory.entries.length
      refine Eq.trans listed ?_
      rw [grown, follows.providers, follows.entries, List.map_append, List.zipIdx_append,
        List.length_map]
      simp [Declaration.entry, Declaration.name]
    within := by
      rw [grown]
      intro position beyond
      rw [List.length_append] at beyond
      rw [eventsOf_provider, follows.within position (by omega)]
    length := by simp [follows.length]
    raised := raised_snoc follows.length follows.raised (by
      simpa [taken, Operation.name] using fresh) }

section Event

variable {position : Nat} {name : Text} {configuration : EventConfiguration} {triggerCls : κ}
  {declared : Declaration κ}
  (found : (firsts Declaration.name (providersOf operations))[position]? = some declared)

include found

/-- Behind an event there are still events for entries that exist only. -/
theorem FirstOnly.event_within (follows : FirstOnly operations performed) (other : Nat)
    (beyond : (firstEntries (operations ++
      [.event position name configuration triggerCls])).length ≤ other) :
    eventsOf (operations ++ [.event position name configuration triggerCls]) other = [] := by
  have before := (List.getElem?_eq_some_iff.mp found).1
  rw [firstEntries_event found, List.length_set] at beyond
  have differs : position ≠ other := by
    rw [length_firstEntries] at beyond
    omega
  rw [eventsOf_event, if_neg differs, List.append_nil]
  exact follows.within other beyond

/-- An event whose name is taken changes nothing. -/
theorem FirstOnly.event_known (follows : FirstOnly operations performed)
    (known : name ∈ (declared.events.entries ++ eventsOf operations position).map Prod.fst)
    (failure : Failure) :
    FirstOnly (operations ++ [.event position name configuration triggerCls])
      ⟨performed.factory, performed.raised ++ [some failure]⟩ := by
  have same : firstEntries (operations ++ [.event position name configuration triggerCls]) =
      firstEntries operations := firstEntries_event_known found known
  exact {
    entries := same ▸ follows.entries
    providers := same ▸ follows.providers
    within := follows.event_within found
    length := by simp [follows.length]
    raised := by
      apply raised_snoc follows.length follows.raised
      rw [taken_event found, mem_map_firsts]
      exact ⟨fun raises => absurd raises (by simp), fun fresh => absurd known fresh⟩ }

/-- An event with a new name is the last one of its entry. -/
theorem FirstOnly.event_new (follows : FirstOnly operations performed)
    (fresh : name ∉ (declared.events.entries ++ eventsOf operations position).map Prod.fst) :
    FirstOnly (operations ++ [.event position name configuration triggerCls])
      ⟨{ performed.factory with
          entries := performed.factory.entries.set position (declared.entry
            (eventsOf operations position ++ [(name, configuration, triggerCls)])) },
        performed.raised ++ [none]⟩ := by
  have names : (firstEntries (operations ++
      [.event position name configuration triggerCls])).map
        (fun entry => entry.configuration.name) =
      (firstEntries operations).map fun entry => entry.configuration.name := by
    rw [map_name_firstEntries, map_name_firstEntries, providersOf_event]
  exact {
    entries := by rw [firstEntries_event found, follows.entries]
    providers := by rw [names, follows.providers]
    within := follows.event_within found
    length := by simp [follows.length]
    raised := by
      apply raised_snoc follows.length follows.raised
      rw [taken_event found, mem_map_firsts]
      simpa [Operation.name] using fresh }

end Event

/-- A call keeps what was registered first. -/
theorem FirstOnly.perform (follows : FirstOnly operations performed) (operation : Operation κ)
    (ran : performed.perform operation = some next) :
    FirstOnly (operations ++ [operation]) next := by
  cases operation with
  | provider declared =>
    simp only [Performed.perform, registerTriggerProvider_eq, refuse] at ran
    by_cases known : declared.name ∈ (providersOf operations).map Declaration.name
    · cases has : performed.factory.providers.get declared.name with
      | none => exact absurd known ((follows.free declared.name).mp has)
      | some position =>
        rw [has] at ran
        obtain rfl := Option.some.inj ran
        exact follows.provider_known known _
    · rw [(follows.free declared.name).mpr known] at ran
      obtain rfl := Option.some.inj ran
      exact follows.provider_new known
  | event position name configuration triggerCls =>
    simp only [Performed.perform] at ran
    cases found : performed.factory.entries[position]? with
    | none => simp [found] at ran
    | some entry =>
      have listed := found
      rw [follows.entries, getElem?_firstEntries, Option.map_eq_some_iff] at listed
      obtain ⟨declared, first, rfl⟩ := listed
      rw [found] at ran
      simp only [Entry.registerTrigger, Declaration.entry, refuse_keepFirst] at ran
      by_cases known :
          name ∈ (declared.events.entries ++ eventsOf operations position).map Prod.fst
      · rw [if_pos known] at ran
        obtain rfl := Option.some.inj ran
        exact follows.event_known first known _
      · rw [if_neg known] at ran
        obtain rfl := Option.some.inj ran
        rw [List.append_assoc]
        exact follows.event_new first known

/-- A run keeps what was registered first. -/
theorem run_firstOnly (ran : run operations = some performed) : FirstOnly operations performed := by
  induction operations using List.reverseRecOn generalizing performed with
  | nil =>
    obtain rfl := Option.some.inj ran
    exact {
      entries := rfl
      providers := rfl
      within := fun _ _ => rfl
      length := rfl
      raised := by simp }
  | append_singleton before last ih =>
    rw [run, List.foldlM_append] at ran
    obtain ⟨middle, ranBefore, ranLast⟩ := Option.bind_eq_some_iff.mp ran
    rw [List.foldlM_cons] at ranLast
    obtain ⟨final, performedLast, same⟩ := Option.bind_eq_some_iff.mp ranLast
    obtain rfl := Option.some.inj same
    exact (ih ranBefore).perform last performedLast

/-- A provider is found by its name, with the entry of its place. -/
theorem FirstOnly.find_eq_some (follows : FirstOnly operations performed) {providerName : Text}
    {entry : Entry κ} :
    performed.factory.find providerName = some entry ↔
      ∃ (position : Nat) (declared : Declaration κ),
        (firsts Declaration.name (providersOf operations))[position]? = some declared ∧
          declared.name = providerName ∧
            declared.entry (eventsOf operations position) = entry := by
  have place (position : Nat) : performed.factory.providers.get providerName = some position ↔
      ((firsts Declaration.name (providersOf operations))[position]?).map Declaration.name =
        some providerName := by
    rw [Dict.get_eq_some, follows.providers, List.mem_zipIdx_iff_getElem?, map_name_firstEntries,
      List.getElem?_map]
  rw [Factory.find, Option.bind_eq_some_iff]
  constructor
  · rintro ⟨position, found, there⟩
    rw [follows.entries, getElem?_firstEntries] at there
    obtain ⟨declared, listed, same⟩ := Option.map_eq_some_iff.mp there
    have named := (place position).mp found
    rw [listed] at named
    exact ⟨position, declared, listed, Option.some.inj named, same⟩
  · rintro ⟨position, declared, listed, named, same⟩
    refine ⟨position, (place position).mpr ?_, ?_⟩
    · rw [listed, Option.map_some, named]
    · rw [follows.entries, getElem?_firstEntries, listed, Option.map_some, same]

/-- Both ways to look up an event find the same class. -/
theorem getTriggerEventHandler_eq_ok (factory : Factory κ) (providerName event : Text) (cls : κ) :
    factory.getTriggerEventHandler providerName event = .ok cls ↔
      factory.getTriggerEventHandlerSafely providerName event = some cls := by
  rw [Factory.getTriggerEventHandler, Factory.getTriggerEventHandlerSafely, Factory.getEntry]
  cases factory.find providerName with
  | none => simp [bind, Except.bind]
  | some entry =>
    cases found : entry.events.get event with
    | none => simp [bind, Except.bind, throw, throwThe, MonadExceptOf.throw, found]
    | some registered => simp [bind, Except.bind, pure, Except.pure, found]

end Steps

/-- After any calls the factory is what was registered first under every name: a call raises
exactly if its name was taken, what is found under a name is the entry of its first registration
with the first of its events, in their order, and it stays so whatever is registered later. -/
theorem run_first {operations : List (Operation κ)} {performed : Performed κ}
    (ran : run operations = some performed) :
    performed.factory.entries = firstEntries operations ∧
      (∀ providerName entry, performed.factory.find providerName = some entry ↔
        entry ∈ firstEntries operations ∧ entry.configuration.name = providerName) ∧
      (∀ before operation after, operations = before ++ operation :: after →
        (performed.raised[before.length]? = some none ↔
          operation.name ∉ taken before operation)) ∧
      ∀ more later, run (operations ++ more) = some later →
        ∀ providerName entry, performed.factory.find providerName = some entry →
          (∃ grown, later.factory.find providerName = some grown ∧
            grown.configuration = entry.configuration ∧ grown.providerCls = entry.providerCls ∧
            grown.subscriptionConstructorCls = entry.subscriptionConstructorCls ∧
            entry.events.entries <+: grown.events.entries) ∧
          ∀ event configuration cls, entry.events.get event = some (configuration, cls) →
            later.factory.getTriggerEventHandler providerName event = .ok cls ∧
              later.factory.getTriggerEventHandlerSafely providerName event = some cls := by
  have follows := run_firstOnly ran
  refine ⟨follows.entries, ?_, follows.raised, ?_⟩
  · intro providerName entry
    rw [follows.find_eq_some, List.mem_iff_getElem?]
    constructor
    · rintro ⟨position, declared, listed, named, rfl⟩
      exact ⟨⟨position, by rw [getElem?_firstEntries, listed, Option.map_some]⟩, named⟩
    · rintro ⟨⟨position, there⟩, named⟩
      rw [getElem?_firstEntries] at there
      obtain ⟨declared, listed, rfl⟩ := Option.map_eq_some_iff.mp there
      exact ⟨position, declared, listed, named, rfl⟩
  · intro more later ranLater providerName entry found
    have followsLater := run_firstOnly ranLater
    obtain ⟨position, declared, listed, named, rfl⟩ := follows.find_eq_some.mp found
    have offered : providersOf (operations ++ more) =
        providersOf operations ++ providersOf more := List.filterMap_append
    have through : eventsOf (operations ++ more) position =
        eventsOf operations position ++ eventsOf more position := List.filterMap_append
    have stays : (firsts Declaration.name (providersOf (operations ++ more)))[position]? =
        some declared := by
      have before := firsts_prefix Declaration.name (providersOf operations) (providersOf more)
      obtain ⟨rest, whole⟩ := before
      rw [offered, ← whole]
      rw [List.getElem?_append_left (List.getElem?_eq_some_iff.mp listed).1, listed]
    have foundLater := followsLater.find_eq_some.mpr ⟨position, declared, stays, named, rfl⟩
    have longer : (declared.entry (eventsOf operations position)).events.entries <+:
        (declared.entry (eventsOf (operations ++ more) position)).events.entries := by
      rw [through]
      show firsts Prod.fst (declared.events.entries ++ eventsOf operations position) <+:
        firsts Prod.fst (declared.events.entries ++
          (eventsOf operations position ++ eventsOf more position))
      rw [← List.append_assoc]
      exact firsts_prefix _ _ _
    refine ⟨⟨_, foundLater, rfl, rfl, rfl, longer⟩, ?_⟩
    intro event configuration cls has
    have hasLater : (declared.entry (eventsOf (operations ++ more) position)).events.get event =
        some (configuration, cls) :=
      Dict.get_eq_some.mpr (longer.subset (Dict.get_eq_some.mp has))
    have safely : later.factory.getTriggerEventHandlerSafely providerName event = some cls := by
      rw [Factory.getTriggerEventHandlerSafely, foundLater]
      simp only [hasLater]
    exact ⟨(getTriggerEventHandler_eq_ok _ _ _ _).mpr safely, safely⟩

/-- A provider and an event that are registered twice, and one more event. -/
def repeatedRegistrations : List (Operation Nat) :=
  let event := fun name => (⟨name, ['s']⟩ : EventConfiguration)
  let provider := fun cls => (⟨⟨['p'], ['s'], none, []⟩, cls, none, Dict.empty⟩ : Declaration Nat)
  [.provider (provider 1), .event 0 ['x'] (event ['x']) 2, .provider (provider 3),
    .event 0 ['x'] (event ['x']) 4, .event 0 ['y'] (event ['y']) 5]

/-- The second registrations raise and change nothing. -/
theorem run_first_repeated :
    ∃ performed, run repeatedRegistrations = some performed ∧
      performed.factory.entries = firstEntries repeatedRegistrations ∧
      performed.factory.getTriggerEventHandler ['p'] ['x'] = .ok 2 ∧
      performed.raised.map Option.isSome = [false, false, true, true, false] :=
  ⟨_, rfl, (run_first rfl).1, rfl, rfl⟩

end DifyPlugin.TriggerFactory
