import RabbitMediator.Json
import RabbitMediator.SentObject
import RabbitMediator.Serializer
import RabbitMediator.Validation

namespace RabbitMediator

/-- A converter of the serializer's for a type that it writes as a string. -/
structure JsonConverter (α : Type) where
  write : α → String
  read : String → Except Exception α
  readsBack : ∀ a, read (write a) = .ok a

/-- What the serializer has besides the contracts: its converters of `Guid` and `TimeSpan`, and what it finds out
about the classes that users declare. `write` gives the properties that a class adds to those of the contracts, and
`read` makes the object of a class, and what it adds, from the properties of a document. -/
structure SentClasses where
  guid : JsonConverter Guid
  timeSpan : JsonConverter TimeSpan
  isAbstract : SentType → Bool
  write : SentType → String → Except Exception (List (String × Json))
  read : SentType → List (String × Json) → Except Exception String

def jsonException (message : String) : Exception := .new (.other "System.Text.Json.JsonException") message

def couldNotBeConverted : Exception := jsonException "The JSON value could not be converted."

def notSupported (message : String) : Exception := .new (.other "System.NotSupportedException") message

/-- The properties of the contracts that travel. -/
inductive ContractProperty
  | senderInstance
  | requireAck
  | correlationId
  | targetInstance
  | success
  | exceptionData
  | timedOut
  | sendFailure
  | timeOut
deriving DecidableEq

def ContractProperty.name : ContractProperty → String
  | .senderInstance => "SenderInstance"
  | .requireAck => "RequireAck"
  | .correlationId => "CorrelationId"
  | .targetInstance => "TargetInstance"
  | .success => "Success"
  | .exceptionData => "ExceptionData"
  | .timedOut => "TimedOut"
  | .sendFailure => "SendFailure"
  | .timeOut => "TimeOut"

namespace SentType

/-- The properties that the class itself declares. -/
def ownContractProperties : SentType → List ContractProperty
  | .message => [.senderInstance, .requireAck, .correlationId]
  | .targetedMessage => [.targetInstance]
  | .response => [.targetInstance, .success, .exceptionData, .timedOut, .sendFailure]
  | .request _ => [.senderInstance, .correlationId, .timeOut]
  | .targetedRequest _ => [.targetInstance]
  | _ => []

/-- All of them, in the order in which they are written. -/
def contractProperties (t : SentType) : List ContractProperty := t.selfAndBases.flatMap ownContractProperties

/-- The class itself declares its `TargetInstance` as `required`. -/
def requiresTargetItself : SentType → Bool
  | .targetedMessage | .targetedRequest _ => true
  | _ => false

def requiresTarget (t : SentType) : Bool := t.selfAndBases.any requiresTargetItself

end SentType

/-- The values of these properties. -/
structure Contract where
  senderInstance : Option InstanceInformation
  requireAck : Bool
  correlationId : Guid
  targetInstance : Option InstanceInformation
  success : Bool
  exceptionData : Option ExceptionData
  timedOut : Bool
  sendFailure : Bool
  timeOut : Option TimeSpan

/-- What a constructor leaves. -/
def Contract.default : Contract := ⟨none, false, .empty, none, false, none, false, false, none⟩

namespace SentObject

def contract : SentObject → Contract
  | .message (.message m) => { Contract.default with
      senderInstance := m.senderInstance
      requireAck := m.requireAck
      correlationId := m.correlationId
      targetInstance := m.targetInstance }
  | .message (.response r) => { Contract.default with
      senderInstance := r.senderInstance
      requireAck := r.requireAck
      correlationId := r.correlationId
      targetInstance := r.targetInstance
      success := r.success
      exceptionData := r.exceptionData
      timedOut := r.timedOut
      sendFailure := r.sendFailure }
  | .request q => { Contract.default with
      senderInstance := q.senderInstance
      correlationId := q.correlationId
      targetInstance := q.targetInstance
      timeOut := q.timeOut }

def content : SentObject → String
  | .message (.message m) => m.content
  | .message (.response r) => r.content
  | .request q => q.content

/-- An object of the class with these values. -/
def make (t : SentType) (c : Contract) (content : String) : Except Exception SentObject :=
  if isResponse : t.isAssignableTo .response = true then
    .ok (.message (.response ⟨t, isResponse, c.senderInstance, c.correlationId, c.requireAck, c.targetInstance,
      c.success, c.exceptionData, c.timedOut, c.sendFailure, content⟩))
  else if isMessage : t.implements .iMessage = true then
    .ok (.message (.message ⟨t, isMessage, Bool.eq_false_iff.mpr isResponse, c.senderInstance, c.correlationId,
      c.requireAck, c.targetInstance, content⟩))
  else match isRequest : t.getResponseTypeOfRequest with
    | some tResponse =>
      if isResponse : tResponse.isAssignableTo .response = true then
        .ok (.request ⟨t, tResponse, isRequest, isResponse, c.senderInstance, c.correlationId, c.targetInstance,
          c.timeOut, content⟩)
      -- the constraints of `Request<TResponse>` leave no such class
      else .error (notSupported t.fullName)
    | none => .error (notSupported t.fullName)

/-- What a receiver gets. -/
def overTheWire : SentObject → SentObject
  | .message (.response r) => .message (.response r.overTheWire)
  | o => o

/-- Only a class with a `TargetInstance` has a target. -/
def Carries (o : SentObject) : Prop := o.targetInstance ≠ none → .targetInstance ∈ o.type.contractProperties

end SentObject

/-- A string, or null. -/
def readString : Json → Except Exception (Option String)
  | .null => .ok none
  | .string text => .ok (some text)
  | _ => .error couldNotBeConverted

namespace InstanceInformation

def write : Option InstanceInformation → Json
  | none => .null
  | some i => .object [("InstanceId", .string i.instanceId), ("InstanceScope", .string i.instanceScope)]

/-- A string that is null or missing is empty here. -/
def readProperties (i : InstanceInformation) : List (String × Json) → Except Exception InstanceInformation
  | [] => .ok i
  | (name, json) :: rest => do
    let i ← if name = "InstanceId" then
        (readString json).map fun text => { i with instanceId := text.getD "" }
      else if name = "InstanceScope" then
        (readString json).map fun text => { i with instanceScope := text.getD "" }
      else .ok i
    readProperties i rest

def read : Json → Except Exception (Option InstanceInformation)
  | .null => .ok none
  | .object properties => (readProperties .empty properties).map some
  | _ => .error couldNotBeConverted

end InstanceInformation

/-- What has been read of an `ExceptionData`. -/
structure ExceptionData.Fields where
  head : ExceptionDataHead
  innerException : Option ExceptionData

def ExceptionData.Fields.toData : ExceptionData.Fields → ExceptionData
  | ⟨head, none⟩ => .plain head
  | ⟨head, some innerException⟩ => .wrapping head innerException

namespace ExceptionData

def properties (head : ExceptionDataHead) (innerException : Json) : List (String × Json) :=
  [("ErrorMessage", .string head.errorMessage), ("Stacktrace", .ofString head.stacktrace),
    ("InnerException", innerException), ("TypeFullName", .ofString head.typeFullName),
    ("Source", .ofString head.source)]

def write : ExceptionData → Json
  | .plain head => .object (properties head .null)
  | .wrapping head innerException => .object (properties head innerException.write)

def writeOption : Option ExceptionData → Json
  | none => .null
  | some d => d.write

mutual

def read : Json → Except Exception (Option ExceptionData)
  | .null => .ok none
  | .object properties => (readProperties ⟨⟨"", none, none, none⟩, none⟩ properties).map fun f => some f.toData
  | _ => .error couldNotBeConverted

/-- An `ErrorMessage` that is null or missing is empty here. -/
def readProperties (f : Fields) : List (String × Json) → Except Exception Fields
  | [] => .ok f
  | (name, json) :: rest => do
    let f ← if name = "ErrorMessage" then
        (readString json).map fun text => { f with head.errorMessage := text.getD "" }
      else if name = "Stacktrace" then (readString json).map fun text => { f with head.stacktrace := text }
      else if name = "InnerException" then (read json).map fun innerException => { f with innerException }
      else if name = "TypeFullName" then (readString json).map fun text => { f with head.typeFullName := text }
      else if name = "Source" then (readString json).map fun text => { f with head.source := text }
      else .ok f
    readProperties f rest

end

/-- The exceptions inside each other. -/
def count : ExceptionData → Nat
  | .plain _ => 1
  | .wrapping _ innerException => innerException.count + 1

end ExceptionData

namespace Contract

variable (classes : SentClasses)

def write (c : Contract) : ContractProperty → Json
  | .senderInstance => InstanceInformation.write c.senderInstance
  | .requireAck => .bool c.requireAck
  | .correlationId => .string (classes.guid.write c.correlationId)
  | .targetInstance => InstanceInformation.write c.targetInstance
  | .success => .bool c.success
  | .exceptionData => ExceptionData.writeOption c.exceptionData
  | .timedOut => .bool c.timedOut
  | .sendFailure => .bool c.sendFailure
  | .timeOut => .ofString (c.timeOut.map classes.timeSpan.write)

def readBool : Json → Except Exception Bool
  | .bool b => .ok b
  | _ => .error couldNotBeConverted

def readGuid : Json → Except Exception Guid
  | .string text => classes.guid.read text
  | _ => .error couldNotBeConverted

def readTimeSpan : Json → Except Exception (Option TimeSpan)
  | .null => .ok none
  | .string text => (classes.timeSpan.read text).map some
  | _ => .error couldNotBeConverted

/-- The value of a property is read. A property without `JsonInclude` and without a public setter is skipped. -/
def read (c : Contract) (json : Json) : ContractProperty → Except Exception Contract
  | .senderInstance => (InstanceInformation.read json).map fun i => { c with senderInstance := i }
  | .requireAck => (readBool json).map fun b => { c with requireAck := b }
  | .correlationId => (readGuid classes json).map fun g => { c with correlationId := g }
  | .targetInstance => (InstanceInformation.read json).map fun i => { c with targetInstance := i }
  | .success => (readBool json).map fun b => { c with success := b }
  | .exceptionData => (ExceptionData.read json).map fun d => { c with exceptionData := d }
  | .timedOut | .sendFailure => .ok c
  | .timeOut => (readTimeSpan classes json).map fun t => { c with timeOut := t }

/-- The properties of a document for an object of the class. What the contracts of the class do not have is left
to the class, or skipped. -/
def readProperties (t : SentType) (c : Contract) : List (String × Json) → Except Exception Contract
  | [] => .ok c
  | (name, json) :: rest => do
    let c ← match t.contractProperties.find? fun p => p.name = name with
      | some p => c.read classes json p
      | none => .ok c
    readProperties t c rest

end Contract

namespace SentObjectAck

variable (classes : SentClasses)

def write (ack : SentObjectAck) : Json :=
  .object [("CorrelationId", .string (classes.guid.write ack.correlationId)), ("Success", .bool ack.success),
    ("ExceptionData", ExceptionData.writeOption ack.exceptionData), ("Target", .string ack.target)]

/-- A `Target` that is null is empty here. -/
def readProperties (ack : SentObjectAck) : List (String × Json) → Except Exception SentObjectAck
  | [] => .ok ack
  | (name, json) :: rest => do
    let ack ← if name = "CorrelationId" then
        (Contract.readGuid classes json).map fun g => { ack with correlationId := g }
      else if name = "Success" then (Contract.readBool json).map fun b => { ack with success := b }
      else if name = "ExceptionData" then (ExceptionData.read json).map fun d => { ack with exceptionData := d }
      else if name = "Target" then (readString json).map fun text => { ack with target := text.getD "" }
      else .ok ack
    readProperties ack rest

def read : Json → Except Exception (Option SentObjectAck)
  | .null => .ok none
  | .object properties => (readProperties classes ⟨.empty, false, none, ""⟩ properties).map some
  | _ => .error couldNotBeConverted

end SentObjectAck

/-- The setting for an interface without a resolver of its own, by its `JsonPolymorphic`. -/
def JsonPolymorphismOptions.iSentObject : JsonPolymorphismOptions := ⟨"$type", false, .failSerialization, []⟩

/-- What the serializer makes sure of before it uses the setting. -/
def JsonPolymorphismOptions.check (classes : SentClasses) (p : JsonPolymorphismOptions) : Except Exception Unit :=
  if p.derivedTypes = [] then
    .error (.new .invalidOperation "The polymorphic type does not specify any derived types.")
  else if p.unknownDerivedTypeHandling ≠ .fallBackToNearestAncestor ∧
      ∃ dt ∈ p.derivedTypes, classes.isAbstract dt.derivedType = true then
    .error (.new .invalidOperation "A specified type is not a supported derived type for the polymorphic type.")
  else if ¬(p.derivedTypes.map (·.derivedType)).Nodup then
    .error (.new .invalidOperation "A derived type has already been specified.")
  else if ¬(p.derivedTypes.map (·.typeDiscriminator)).Nodup then
    .error (.new .invalidOperation "A type discriminator has already been specified.")
  else .ok ()

namespace JsonSerializer

/-- `MaxDepth`, which the options leave at its default. -/
def maxDepth : Nat := 64

def polymorphism (options : Option JsonSerializerOptions) : JsonPolymorphismOptions :=
  (options.bind (·.typeInfoResolver.getTypeInfo .iSentObject)).getD .iSentObject

variable (classes : SentClasses) (options : Option JsonSerializerOptions)

/-- The document of a sent object, with the discriminator of its class. -/
def document (typeDiscriminator : String) (own : List (String × Json)) (o : SentObject) : Json :=
  .object (((polymorphism options).typeDiscriminatorPropertyName, .string typeDiscriminator) :: own ++
    o.type.contractProperties.map fun p => (p.name, o.contract.write classes p))

/-- `SerializeAsync` of an `ISentObject`. -/
def serialize (o : SentObject) : Except Exception Json := do
  (polymorphism options).check classes
  match (polymorphism options).derivedTypes.find? fun dt => dt.derivedType = o.type with
  | some dt =>
    let own ← classes.write o.type o.content
    let json := document classes options dt.typeDiscriminator own o
    if json.height ≤ maxDepth then .ok json
    else .error (jsonException "A possible object cycle was detected.")
  -- by `FailSerialization`
  | none => .error (notSupported "Runtime type is not supported by the polymorphic type.")

/-- An object of the class from the properties of a document. -/
def readObject (t : SentType) (properties : List (String × Json)) : Except Exception SentObject := do
  let c ← Contract.readProperties classes t .default properties
  let content ← classes.read t properties
  if t.requiresTarget && !properties.any (fun p => p.1 = ContractProperty.targetInstance.name) then
    .error (jsonException "JSON deserialization was missing required properties.")
  else SentObject.make t c content

/-- `SerializeAsync` of an acknowledgement, for which the known types do not matter. -/
def serializeAck (ack : SentObjectAck) : Except Exception Json :=
  if (ack.write classes).height ≤ maxDepth then .ok (ack.write classes)
  else .error (jsonException "A possible object cycle was detected.")

def deserializeAck (json : Json) : Except Exception (Option SentObjectAck) :=
  if maxDepth < json.nesting then .error (jsonException "The maximum configured depth has been exceeded.")
  else SentObjectAck.read classes json

/-- `Deserialize` of an `ISentObject`, which the interface itself cannot be made for. -/
def deserialize (json : Json) : Except Exception (Option SentObject) := do
  (polymorphism options).check classes
  if maxDepth < json.nesting then .error (jsonException "The maximum configured depth has been exceeded.")
  else match json with
    | .null => .ok none
    | .object ((name, value) :: properties) =>
      if name = (polymorphism options).typeDiscriminatorPropertyName then
        match value with
        | .string typeDiscriminator =>
          match (polymorphism options).derivedTypes.find? fun dt => dt.typeDiscriminator = typeDiscriminator with
          | some dt => (readObject classes dt.derivedType properties).map some
          | none =>
            if (polymorphism options).ignoreUnrecognizedTypeDiscriminators then
              .error (notSupported "Deserialization of interface or abstract types is not supported.")
            else .error (jsonException "Read unrecognized type discriminator id.")
        | _ => .error couldNotBeConverted
      else .error (notSupported "The JSON payload must specify a type discriminator.")
    | .object [] => .error (notSupported "The JSON payload must specify a type discriminator.")
    | _ => .error couldNotBeConverted

end JsonSerializer

/-- The empty id as it is written, and longer texts for the others. -/
def testGuidConverter : JsonConverter Guid where
  write g := String.ofList ("00000000-0000-0000-0000-000000000000".toList ++ List.replicate g.value '0')
  read text := .ok ⟨text.toList.length - 36⟩
  readsBack g := by simp

/-- The ticks in unary. -/
def testTimeSpanConverter : JsonConverter TimeSpan where
  write t := String.ofList ((if t.ticks < 0 then '-' else '+') :: List.replicate t.ticks.natAbs '1')
  read text := match text.toList with
    | '-' :: ticks => TimeSpan.ofTicks (-ticks.length)
    | _ :: ticks => TimeSpan.ofTicks ticks.length
    | [] => .error couldNotBeConverted
  readsBack t := by
    obtain ⟨ticks, lower, upper⟩ := t
    have inRange : TimeSpan.ofTicks ticks = .ok ⟨ticks, lower, upper⟩ := dif_pos ⟨lower, upper⟩
    rw [String.toList_ofList]
    by_cases negative : ticks < 0
    · rw [if_pos negative]
      show TimeSpan.ofTicks (-(List.replicate ticks.natAbs '1').length) = _
      rw [List.length_replicate, show -(ticks.natAbs : Int) = ticks by omega, inRange]
    · rw [if_neg negative]
      show TimeSpan.ofTicks (List.replicate ticks.natAbs '1').length = _
      rw [List.length_replicate, show (ticks.natAbs : Int) = ticks by omega, inRange]

/-- Classes that add a `TestRequiredString` to the contracts. -/
def testClasses : SentClasses where
  guid := testGuidConverter
  timeSpan := testTimeSpanConverter
  isAbstract t := !t.constructible
  write _ content := .ok [("TestRequiredString", .string content)]
  read _ properties := match properties.find? fun p => p.1 = "TestRequiredString" with
    | some (_, .string content) => .ok content
    | some _ => .error couldNotBeConverted
    | none => .error (jsonException "JSON deserialization was missing required properties.")

end RabbitMediator
