import Mathlib.Data.List.Nodup
import RabbitMediator.Configuration
import RabbitMediator.SentObject

namespace RabbitMediator

/-- `ServiceLifetime` of the dependency injection. -/
inductive ServiceLifetime
  | singleton
  | scoped
  | transient
deriving DecidableEq, Repr

/-- A configuration with the settings of the registration, which `Validate` reads as well. -/
structure RabbitMediatorSettings extends RabbitMediatorConfiguration where
  serviceLifetime : ServiceLifetime
  consumerDispatchConcurrency : UInt16
  prefetchCount : Option UInt16

/-- A method of an interface, and whether its body is the default one of the interface. -/
structure InterfaceMethod where
  name : String
  isDefault : Bool

/-- `GetInterfaceMap`: where a class has the bodies of one of its request interfaces. -/
abbrev InterfaceMap := ConsumerType → RequestInterface → List InterfaceMethod

def implementsAnyConsumeOverload (interfaceMap : InterfaceMap) (consumerType : ConsumerType)
    (consumerInterface : RequestInterface) : Bool :=
  (interfaceMap consumerType consumerInterface).any fun m => m.name = "Consume" && !m.isDefault

/-- `registeredSentObjectTypes.Add`, or the exception when it returns false. -/
def addSentObjectType (registered : List SentType) (type : SentType) : Except Exception (List SentType) :=
  if registered.contains type then
    .error (.new .argument "Only one consumer per sentobject type is allowed!")
  else .ok (type :: registered)

def validateRequestInterface (interfaceMap : InterfaceMap) (consumerType : ConsumerType)
    (registered : List SentType) (i : RequestInterface) : Except Exception (List SentType) := do
  let registered ← addSentObjectType registered i.requestType
  if implementsAnyConsumeOverload interfaceMap consumerType i then pure registered
  else .error (.new .argument (consumerType.fullName ++ " consumes " ++ i.requestType.fullName ++
    " but implements neither Consume overload. Both have default implementations so that either one " ++
    "may be chosen, which means choosing none compiles and would only fail once a request arrives. " ++
    "(Parameter 'ConsumerTypes')"))

def validateConsumerType (interfaceMap : InterfaceMap) (registered : List SentType)
    (consumerType : ConsumerType) : Except Exception (List SentType) := do
  let registered ← consumerType.messageInterfaces.foldlM
    (fun registered i => addSentObjectType registered i.messageType) registered
  consumerType.requestInterfaces.foldlM (validateRequestInterface interfaceMap consumerType) registered

namespace RabbitMediatorSettings

def validate (interfaceMap : InterfaceMap) (c : RabbitMediatorSettings) : Except Exception Unit :=
  if c.serviceLifetime ≠ .singleton ∧ c.serviceLifetime ≠ .scoped then
    .error (.new .argument "ServiceLifetime is not valid (Parameter 'ServiceLifetime')")
  else if c.consumerDispatchConcurrency = 0 then
    .error (.new .argument
      "ConsumerDispatchConcurrency must be at least 1 (Parameter 'ConsumerDispatchConcurrency')")
  else if c.prefetchCount.any fun p => 0 < p && p < c.consumerDispatchConcurrency then
    .error (.new .argument ("PrefetchCount must be 0 (unlimited) or at least as large as " ++
      "ConsumerDispatchConcurrency, otherwise the dispatchers starve (Parameter 'PrefetchCount')"))
  else do
    let consumerTypes ← c.getAllConsumerTypes
    let _ ← consumerTypes.foldlM (validateConsumerType interfaceMap) []
    pure ()

end RabbitMediatorSettings

theorem SentType.implements_iMessage_of_response (t : SentType) (h : t.isAssignableTo .response = true) :
    t.implements .iMessage = true := by
  induction t with
  | derived info base ih =>
    rw [implements_derived]
    exact ih (by simpa [isAssignableTo, selfAndBases] using h)
  | _ => simp_all [isAssignableTo, selfAndBases, implements, declares]

/-- The types were added to the registered ones, each of them once. -/
structure Adds (registered : List SentType) (types : List SentType) (after : List SentType) : Prop where
  members : ∀ s, s ∈ after ↔ s ∈ types ∨ s ∈ registered
  nodup : types.Nodup
  new : ∀ s ∈ types, s ∉ registered

theorem addSentObjectType_ok {registered after : List SentType} {type : SentType}
    (h : addSentObjectType registered type = .ok after) : Adds registered [type] after := by
  unfold addSentObjectType at h
  split at h
  next => cases h
  next hn =>
    cases h
    refine ⟨fun s => by simp, List.nodup_singleton type, fun s hs => ?_⟩
    rw [List.mem_singleton.mp hs]
    simpa using hn

theorem Adds.append {registered middle after xs ys : List SentType} (h : Adds registered xs middle)
    (h' : Adds middle ys after) : Adds registered (xs ++ ys) after := by
  refine ⟨fun s => ?_, List.nodup_append'.mpr ⟨h.nodup, h'.nodup, fun s hx hy => ?_⟩, fun s hs => ?_⟩
  · rw [h'.members, h.members, List.mem_append]
    tauto
  · exact h'.new s hy ((h.members s).mpr (Or.inl hx))
  · rcases List.mem_append.mp hs with hx | hy
    · exact h.new s hx
    · exact fun hr => h'.new s hy ((h.members s).mpr (Or.inr hr))

/-- A loop whose every turn adds types adds them all. -/
theorem Adds.of_foldlM {α : Type} {f : List SentType → α → Except Exception (List SentType)}
    {types : α → List SentType}
    (step : ∀ {registered a after}, f registered a = .ok after → Adds registered (types a) after)
    {xs : List α} {registered after : List SentType} (h : xs.foldlM f registered = .ok after) :
    Adds registered (xs.flatMap types) after := by
  induction xs generalizing registered with
  | nil =>
    cases h
    exact ⟨fun s => by simp, List.nodup_nil, by simp⟩
  | cons x xs ih =>
    rw [List.foldlM_cons] at h
    obtain ⟨middle, first, rest⟩ := except_bind_eq_ok.mp h
    exact (step first).append (ih rest)

theorem validateRequestInterface_ok {interfaceMap : InterfaceMap} {t : ConsumerType}
    {registered after : List SentType} {i : RequestInterface}
    (h : validateRequestInterface interfaceMap t registered i = .ok after) :
    Adds registered [i.requestType] after := by
  obtain ⟨middle, added, h⟩ := except_bind_eq_ok.mp h
  split at h
  next =>
    cases h
    exact addSentObjectType_ok added
  next => cases h

theorem validateConsumerType_ok {interfaceMap : InterfaceMap} {t : ConsumerType}
    {registered after : List SentType} (h : validateConsumerType interfaceMap registered t = .ok after) :
    Adds registered t.sentTypes after := by
  obtain ⟨middle, messages, requests⟩ := except_bind_eq_ok.mp h
  have first : Adds registered (t.messageInterfaces.flatMap fun i => [i.messageType]) middle :=
    Adds.of_foldlM (fun h => addSentObjectType_ok h) messages
  have second : Adds middle (t.requestInterfaces.flatMap fun i => [i.requestType]) after :=
    Adds.of_foldlM (fun h => validateRequestInterface_ok h) requests
  simpa only [ConsumerType.sentTypes, List.map_eq_flatMap] using first.append second

theorem loop_of_validate {interfaceMap : InterfaceMap} {c : RabbitMediatorSettings}
    (h : c.validate interfaceMap = .ok ()) : ∃ types after, c.getAllConsumerTypes = .ok types ∧
      types.foldlM (validateConsumerType interfaceMap) [] = .ok after := by
  unfold RabbitMediatorSettings.validate at h
  split at h
  next => cases h
  next =>
    split at h
    next => cases h
    next =>
      split at h
      next => cases h
      next =>
        obtain ⟨types, listed, h⟩ := except_bind_eq_ok.mp h
        obtain ⟨after, loop, _⟩ := except_bind_eq_ok.mp h
        exact ⟨types, after, listed, loop⟩

/-- An accepted configuration lists its consumers, and no sent-object type has two of them. -/
theorem sentTypes_nodup_of_validate {interfaceMap : InterfaceMap} {c : RabbitMediatorSettings}
    (h : c.validate interfaceMap = .ok ()) :
    ∃ types, c.getAllConsumerTypes = .ok types ∧ (types.flatMap (·.sentTypes)).Nodup := by
  obtain ⟨types, after, listed, loop⟩ := loop_of_validate h
  exact ⟨types, listed, (Adds.of_foldlM (fun h => validateConsumerType_ok h) loop).nodup⟩

/-- Every request consumer of an accepted configuration brings one of the two overloads. -/
theorem implementsAnyConsumeOverload_of_validate {interfaceMap : InterfaceMap} {c : RabbitMediatorSettings}
    (h : c.validate interfaceMap = .ok ()) {types : List ConsumerType}
    (listed : c.getAllConsumerTypes = .ok types) {t : ConsumerType} (ht : t ∈ types) {i : RequestInterface}
    (hi : i ∈ t.requestInterfaces) : implementsAnyConsumeOverload interfaceMap t i = true := by
  obtain ⟨_, _, listed', loop⟩ := loop_of_validate h
  cases listed.symm.trans listed'
  obtain ⟨_, _, turn⟩ := turn_of_foldlM loop ht
  obtain ⟨_, _, requests⟩ := except_bind_eq_ok.mp turn
  obtain ⟨_, _, turn⟩ := turn_of_foldlM requests hi
  obtain ⟨_, _, brings⟩ := except_bind_eq_ok.mp turn
  split at brings
  next own => exact own
  next => cases brings

theorem lookup_foldl_tryAdd_isSome {types : List SentType} {t : ConsumerType} {s : SentType}
    {d : ConcurrentDictionary SentType ConsumerType} (h : s ∈ types ∨ (d.lookup s).isSome = true) :
    ((types.foldl (fun d s => ConcurrentDictionary.tryAdd d s t) d).lookup s).isSome = true := by
  induction types generalizing d with
  | nil => simpa using h
  | cons x xs ih =>
    refine ih ?_
    by_cases hx : s = x
    · subst hx
      right
      cases hd : d.lookup s with
      | none => simp [ConcurrentDictionary.lookup_tryAdd_self hd]
      | some u => simp [ConcurrentDictionary.tryAdd, hd]
    · simpa [hx, ConcurrentDictionary.lookup_tryAdd_ne hx] using h

theorem lookup_foldl_addConsumerType_isSome {types : List ConsumerType} {s : SentType}
    {d : ConcurrentDictionary SentType ConsumerType}
    (h : (∃ t ∈ types, s ∈ t.sentTypes) ∨ (d.lookup s).isSome = true) :
    ((types.foldl addConsumerType d).lookup s).isSome = true := by
  induction types generalizing d with
  | nil => simpa using h
  | cons t ts ih =>
    refine ih ?_
    rcases h with ⟨u, hu, hs⟩ | h
    · rcases List.mem_cons.mp hu with rfl | hu
      · exact Or.inr (lookup_foldl_tryAdd_isSome (Or.inl hs))
      · exact Or.inl ⟨u, hu, hs⟩
    · exact Or.inr (lookup_foldl_tryAdd_isSome (Or.inr h))

/-- A mediator whose configuration was accepted maps each type to the one consumer that has an interface
for it. -/
theorem lookup_configureAllReceivers_iff {types : List ConsumerType}
    (distinct : (types.flatMap (·.sentTypes)).Nodup) {s : SentType} {t : ConsumerType} :
    (configureAllReceivers types).lookup s = some t ↔ t ∈ types ∧ s ∈ t.sentTypes := by
  refine ⟨lookup_configureAllReceivers, fun ⟨ht, hs⟩ => ?_⟩
  obtain ⟨u, hu⟩ := Option.isSome_iff_exists.mp
    (lookup_foldl_addConsumerType_isSome (d := ∅) (Or.inl ⟨t, ht, hs⟩))
  obtain ⟨hm, hsu⟩ := lookup_configureAllReceivers hu
  have apart := (List.nodup_flatMap.mp distinct).2
  have symmetric : Std.Symm (Function.onFun List.Disjoint ConsumerType.sentTypes) := ⟨fun _ _ h s hu ht => h ht hu⟩
  have same : u = t := by
    by_contra hne
    exact apart.forall hm ht hne hsu hs
  exact same ▸ hu

/-- A response class is mapped just when a consumer has taken it for a message. -/
theorem lookup_response_none_iff {types : List ConsumerType}
    (distinct : (types.flatMap (·.sentTypes)).Nodup) (r : Response) :
    (configureAllReceivers types).lookup r.type = none ↔
      ∀ t ∈ types, ∀ i ∈ t.messageInterfaces, i.messageType ≠ r.type := by
  constructor
  · intro hn t ht i hi he
    have listed : r.type ∈ t.sentTypes := List.mem_append_left _ (List.mem_map.mpr ⟨i, hi, he⟩)
    rw [(lookup_configureAllReceivers_iff distinct).mpr ⟨ht, listed⟩] at hn
    cases hn
  · intro free
    refine Option.eq_none_iff_forall_ne_some.mpr fun t h => ?_
    obtain ⟨ht, hs⟩ := lookup_configureAllReceivers h
    rcases List.mem_append.mp hs with hs | hs
    · obtain ⟨i, hi, he⟩ := List.mem_map.mp hs
      exact free t ht i hi he
    · -- a request class is no message, and a response class is one
      obtain ⟨i, _, he⟩ := List.mem_map.mp hs
      have request := (SentType.request_of_getResponseTypeOfRequest i.isRequest).2
      rw [he, r.type.implements_iMessage_of_response r.isResponse] at request
      cases request

def testSettings : RabbitMediatorSettings := ⟨testConfiguration, .singleton, 10, none⟩

/-- Every class of the tests brings the cancellable overload. -/
def testInterfaceMap : InterfaceMap := fun _ _ => [⟨"Consume", true⟩, ⟨"Consume", false⟩]

end RabbitMediator
