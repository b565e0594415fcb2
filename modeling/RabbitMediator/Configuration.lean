import RabbitMediator.ConcurrentDictionary
import RabbitMediator.SentObject

namespace RabbitMediator

/-- `IMessageConsumer<messageType>`. -/
structure MessageInterface where
  messageType : SentType
  isMessage : messageType.isAssignableTo .message = true
deriving DecidableEq

/-- `IRequestConsumer<requestType, responseType>`. -/
@[ext]
structure RequestInterface where
  requestType : SentType
  responseType : SentType
  isRequest : requestType.getResponseTypeOfRequest = some responseType
  isResponse : responseType.isAssignableTo .response = true

instance : DecidableEq RequestInterface := fun a b =>
  decidable_of_iff (a.requestType = b.requestType ∧ a.responseType = b.responseType)
    RequestInterface.ext_iff.symm

/-- A class that may be registered as a consumer, told from others of its name by the assembly. `GetInterfaces`
names no interface twice. `consumeParameters` are the parameter types of its public methods named `Consume`
that take one parameter. -/
structure ConsumerType where
  fullName : String
  assembly : String
  isAbstract : Bool
  implementsIConsumer : Bool
  messageInterfaces : List MessageInterface
  requestInterfaces : List RequestInterface
  messageInterfaces_nodup : messageInterfaces.Nodup
  requestInterfaces_nodup : requestInterfaces.Nodup
  consumeParameters : List SentType
deriving DecidableEq

namespace ConsumerType

def isConsumer (t : ConsumerType) : Bool :=
  t.implementsIConsumer || !t.messageInterfaces.isEmpty || !t.requestInterfaces.isEmpty

/-- The sent-object types the class has a generic consumer interface for. -/
def sentTypes (t : ConsumerType) : List SentType :=
  t.messageInterfaces.map (·.messageType) ++ t.requestInterfaces.map (·.requestType)

end ConsumerType

structure RabbitMediatorConfiguration where
  consumerTypes : List ConsumerType
  consumerAssemblies : List (List ConsumerType)
  defaultConfirmTimeOut : TimeSpan
  defaultResponseTimeOut : TimeSpan
deriving DecidableEq

def RabbitMediatorConfiguration.getAllConsumerTypes (c : RabbitMediatorConfiguration) :
    Except Exception (List ConsumerType) :=
  let consumerTypesFromAssemblies :=
    (c.consumerAssemblies.flatten.filter fun t => t.isConsumer && !t.isAbstract).eraseDups
  let consumerTypes := c.consumerTypes ++
    consumerTypesFromAssemblies.filter fun t => !c.consumerTypes.contains t
  let allConsumerTypes := consumerTypes.filter fun t => t.isConsumer && !t.isAbstract
  let missingTypes := (consumerTypes.filter fun t => !allConsumerTypes.contains t).eraseDups
  if missingTypes.isEmpty then .ok allConsumerTypes
  else .error (.new .argument ("These types are no consumers: " ++
    ",".intercalate (missingTypes.map (·.fullName)) ++ " (Parameter 'ConsumerTypes')"))

theorem getAllConsumerTypes_isConsumer {c : RabbitMediatorConfiguration} {types : List ConsumerType}
    (h : c.getAllConsumerTypes = .ok types) {t : ConsumerType} (ht : t ∈ types) :
    t.isConsumer = true := by
  unfold RabbitMediatorConfiguration.getAllConsumerTypes at h
  simp only at h
  split at h
  next =>
    cases h
    have := (List.mem_filter.mp ht).2
    simp_all
  next => cases h

/-- The first consumer of a type keeps it. -/
def addConsumerType (mapping : ConcurrentDictionary SentType ConsumerType) (t : ConsumerType) :
    ConcurrentDictionary SentType ConsumerType :=
  t.sentTypes.foldl (fun d s => ConcurrentDictionary.tryAdd d s t) mapping

/-- What `ConfigureAllReceivers` has remembered after these consumer types. -/
def configureAllReceivers (types : List ConsumerType) : ConcurrentDictionary SentType ConsumerType :=
  types.foldl addConsumerType ∅

theorem lookup_foldl_tryAdd {types : List SentType} {t u : ConsumerType} {s : SentType}
    {d : ConcurrentDictionary SentType ConsumerType}
    (h : (types.foldl (fun d s => ConcurrentDictionary.tryAdd d s t) d).lookup s = some u) :
    d.lookup s = some u ∨ u = t ∧ s ∈ types := by
  induction types generalizing d with
  | nil => exact Or.inl h
  | cons x xs ih =>
    rcases ih h with h | ⟨rfl, hs⟩
    · rcases ConcurrentDictionary.lookup_tryAdd_cases h with h | ⟨rfl, rfl, _⟩
      · exact Or.inl h
      · exact Or.inr ⟨rfl, by simp⟩
    · exact Or.inr ⟨rfl, by simp [hs]⟩

/-- A mapped type has a consumer out of the list, with an interface for just this type. -/
theorem lookup_foldl_addConsumerType {types : List ConsumerType} {u : ConsumerType} {s : SentType}
    {d : ConcurrentDictionary SentType ConsumerType}
    (h : (types.foldl addConsumerType d).lookup s = some u) :
    d.lookup s = some u ∨ u ∈ types ∧ s ∈ u.sentTypes := by
  induction types generalizing d with
  | nil => exact Or.inl h
  | cons t ts ih =>
    rcases ih h with h | ⟨hu, hs⟩
    · rcases lookup_foldl_tryAdd h with h | ⟨rfl, hs⟩
      · exact Or.inl h
      · exact Or.inr ⟨by simp, hs⟩
    · exact Or.inr ⟨by simp [hu], hs⟩

theorem lookup_configureAllReceivers {types : List ConsumerType} {u : ConsumerType} {s : SentType}
    (h : (configureAllReceivers types).lookup s = some u) : u ∈ types ∧ s ∈ u.sentTypes := by
  rcases lookup_foldl_addConsumerType h with h | h
  · simp at h
  · exact h

/-- One mediator's entry on its multiplexer. A validated configuration lists its consumers, and the
mapping holds only what `ConfigureAllReceivers` put into it. -/
structure RabbitMultiplexerMediatorConfiguration where
  configuration : RabbitMediatorConfiguration
  allConsumerTypes : List ConsumerType
  validated : configuration.getAllConsumerTypes = .ok allConsumerTypes
  sentTypeToConsumerMapping : ConcurrentDictionary SentType ConsumerType
  mapped : ∀ {s : SentType} {t : ConsumerType}, sentTypeToConsumerMapping.lookup s = some t →
    t ∈ allConsumerTypes ∧ s ∈ t.sentTypes

namespace RabbitMultiplexerMediatorConfiguration

/-- The entry of a mediator that has been configured. -/
def configured (configuration : RabbitMediatorConfiguration) (types : List ConsumerType)
    (validated : configuration.getAllConsumerTypes = .ok types) :
    RabbitMultiplexerMediatorConfiguration :=
  ⟨configuration, types, validated, configureAllReceivers types, lookup_configureAllReceivers⟩

/-- `CreateRabbitMediator` validates a configuration before anything else. -/
def created (configuration : RabbitMediatorConfiguration) : Option RabbitMultiplexerMediatorConfiguration :=
  match h : configuration.getAllConsumerTypes with
  | .ok types => some ⟨configuration, types, h, ∅, by simp⟩
  | .error _ => none

/-- The sent-object types `ConfigureAllReceivers` goes through, each with its consumer. -/
def receivers (c : RabbitMultiplexerMediatorConfiguration) : List (ConsumerType × SentType) :=
  c.allConsumerTypes.flatMap fun t => t.sentTypes.map fun s => (t, s)

def tryAdd (c : RabbitMultiplexerMediatorConfiguration) (t : ConsumerType) (s : SentType) :
    RabbitMultiplexerMediatorConfiguration :=
  if h : t ∈ c.allConsumerTypes ∧ s ∈ t.sentTypes then
    { c with
      sentTypeToConsumerMapping := ConcurrentDictionary.tryAdd c.sentTypeToConsumerMapping s t
      mapped := fun hl => by
        rcases ConcurrentDictionary.lookup_tryAdd_cases hl with hl | ⟨rfl, rfl, _⟩
        · exact c.mapped hl
        · exact h }
  else c

theorem allConsumerTypes_tryAdd (c : RabbitMultiplexerMediatorConfiguration) (t : ConsumerType)
    (s : SentType) : (c.tryAdd t s).allConsumerTypes = c.allConsumerTypes := by
  unfold tryAdd
  split <;> rfl

theorem mapping_tryAdd {c : RabbitMultiplexerMediatorConfiguration} {t : ConsumerType} {s : SentType}
    (h : t ∈ c.allConsumerTypes ∧ s ∈ t.sentTypes) :
    (c.tryAdd t s).sentTypeToConsumerMapping =
      ConcurrentDictionary.tryAdd c.sentTypeToConsumerMapping s t := by
  unfold tryAdd
  rw [dif_pos h]

theorem receivers_tryAdd (c : RabbitMultiplexerMediatorConfiguration) (t : ConsumerType) (s : SentType) :
    (c.tryAdd t s).receivers = c.receivers := by
  simp only [receivers, allConsumerTypes_tryAdd]

theorem mem_receivers {c : RabbitMultiplexerMediatorConfiguration} {t : ConsumerType} {s : SentType} :
    (t, s) ∈ c.receivers ↔ t ∈ c.allConsumerTypes ∧ s ∈ t.sentTypes := by
  simp [receivers]

theorem isSome_tryAdd_self {c : RabbitMultiplexerMediatorConfiguration} {t : ConsumerType} {s : SentType}
    (h : (t, s) ∈ c.receivers) : ((c.tryAdd t s).sentTypeToConsumerMapping.lookup s).isSome = true := by
  rw [mapping_tryAdd (mem_receivers.mp h)]
  exact ConcurrentDictionary.isSome_tryAdd (Or.inl rfl)

theorem isSome_tryAdd_of_isSome {c : RabbitMultiplexerMediatorConfiguration} {t : ConsumerType} {s r : SentType}
    (h : (c.sentTypeToConsumerMapping.lookup r).isSome = true) :
    ((c.tryAdd t s).sentTypeToConsumerMapping.lookup r).isSome = true := by
  unfold tryAdd
  split
  · exact ConcurrentDictionary.isSome_tryAdd (Or.inr h)
  · exact h

theorem mapping_foldl_tryAdd {pairs : List (ConsumerType × SentType)}
    {c : RabbitMultiplexerMediatorConfiguration}
    (h : ∀ p ∈ pairs, p.1 ∈ c.allConsumerTypes ∧ p.2 ∈ p.1.sentTypes) :
    (pairs.foldl (fun c p => c.tryAdd p.1 p.2) c).sentTypeToConsumerMapping =
      pairs.foldl (fun d p => ConcurrentDictionary.tryAdd d p.2 p.1) c.sentTypeToConsumerMapping := by
  induction pairs generalizing c with
  | nil => rfl
  | cons p pairs ih =>
    have rest : ∀ q ∈ pairs, q.1 ∈ (c.tryAdd p.1 p.2).allConsumerTypes ∧ q.2 ∈ q.1.sentTypes := by
      intro q hq
      rw [allConsumerTypes_tryAdd]
      exact h q (List.mem_cons_of_mem p hq)
    rw [List.foldl_cons, List.foldl_cons, ih rest, mapping_tryAdd (h p List.mem_cons_self)]

/-- Going through the receivers one by one remembers what `ConfigureAllReceivers` does. -/
theorem mapping_receivers {configuration : RabbitMediatorConfiguration}
    {c : RabbitMultiplexerMediatorConfiguration} (h : created configuration = some c) :
    (c.receivers.foldl (fun c p => c.tryAdd p.1 p.2) c).sentTypeToConsumerMapping =
      configureAllReceivers c.allConsumerTypes := by
  have empty : c.sentTypeToConsumerMapping = ∅ := by
    unfold created at h
    split at h <;> cases h
    rfl
  have listed : ∀ p ∈ c.receivers, p.1 ∈ c.allConsumerTypes ∧ p.2 ∈ p.1.sentTypes := by
    rintro ⟨t, s⟩ hp
    exact mem_receivers.mp hp
  rw [mapping_foldl_tryAdd listed, empty, receivers, List.foldl_flatMap, configureAllReceivers]
  simp only [List.foldl_map]
  rfl

/-- A mapped request type is one of the request interfaces of its consumer. -/
theorem requestInterface_of_mapped (c : RabbitMultiplexerMediatorConfiguration) {q : Request}
    {t : ConsumerType} (h : c.sentTypeToConsumerMapping.lookup q.type = some t) :
    ∃ i ∈ t.requestInterfaces, i.requestType = q.type := by
  rcases List.mem_append.mp (c.mapped h).2 with hm | hr
  · obtain ⟨i, _, hi⟩ := List.mem_map.mp hm
    have hmsg := SentType.implements_of_isAssignableTo i.isMessage (i := .iMessage) rfl
    have hno := (SentType.request_of_getResponseTypeOfRequest q.isRequest).2
    rw [hi, hno] at hmsg
    cases hmsg
  · obtain ⟨i, hi, he⟩ := List.mem_map.mp hr
    exact ⟨i, hi, he⟩

end RabbitMultiplexerMediatorConfiguration

def testAnyTargetedRequestConsumer : ConsumerType where
  fullName := "Weltmeyer.RabbitMediator.TestTool.Consumers.TestAnyTargetedRequestConsumer"
  assembly := "Weltmeyer.RabbitMediator.Test.Shared"
  isAbstract := false
  implementsIConsumer := true
  messageInterfaces := []
  requestInterfaces := [⟨testAnyTargetedRequest, testAnyTargetedResponse, testAnyTargetedRequest_isRequest,
    testAnyTargetedResponse_isResponse⟩]
  messageInterfaces_nodup := List.nodup_nil
  requestInterfaces_nodup := List.pairwise_singleton _ _
  consumeParameters := [testAnyTargetedRequest]

def testAnyTargetedMessageConsumer : ConsumerType where
  fullName := "Weltmeyer.RabbitMediator.TestTool.Consumers.TestAnyTargetedMessageConsumer"
  assembly := "Weltmeyer.RabbitMediator.Test.Shared"
  isAbstract := false
  implementsIConsumer := true
  messageInterfaces := [⟨testAnyTargetedMessage, by decide⟩]
  requestInterfaces := []
  messageInterfaces_nodup := List.pairwise_singleton _ _
  requestInterfaces_nodup := List.nodup_nil
  consumeParameters := [testAnyTargetedMessage]

def testConfiguration : RabbitMediatorConfiguration where
  consumerTypes := [testAnyTargetedRequestConsumer, testAnyTargetedMessageConsumer]
  consumerAssemblies := []
  defaultConfirmTimeOut := tenSeconds
  defaultResponseTimeOut := tenSeconds

def testMediatorConfiguration : RabbitMultiplexerMediatorConfiguration :=
  .configured testConfiguration [testAnyTargetedRequestConsumer, testAnyTargetedMessageConsumer]
    (by decide)

end RabbitMediator
