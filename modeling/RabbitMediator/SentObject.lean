import RabbitMediator.RabbitNaming
import RabbitMediator.TimeSpan

namespace RabbitMediator

structure Guid where
  value : Nat
deriving DecidableEq, Repr

def Guid.empty : Guid := ⟨0⟩

structure InstanceInformation where
  instanceId : String
  instanceScope : String
deriving DecidableEq, Repr

def InstanceInformation.empty : InstanceInformation := ⟨"", ""⟩

/-- A mediator as its names show it: one scope of one multiplexer. -/
structure Mediator where
  instanceId : GeneratedId
  scopeId : GeneratedId
deriving DecidableEq

def Mediator.getInstanceInformation (m : Mediator) : InstanceInformation :=
  ⟨m.instanceId.value, m.scopeId.value⟩

/-- A message that is no response. `content` is what its class adds to the contracts. -/
structure Message where
  type : SentType
  isMessage : type.implements .iMessage = true
  noResponse : type.isAssignableTo .response = false
  senderInstance : Option InstanceInformation
  correlationId : Guid
  requireAck : Bool
  targetInstance : Option InstanceInformation
  content : String
deriving DecidableEq

structure Response where
  type : SentType
  isResponse : type.isAssignableTo .response = true
  senderInstance : Option InstanceInformation
  correlationId : Guid
  requireAck : Bool
  targetInstance : Option InstanceInformation
  success : Bool
  exceptionData : Option ExceptionData
  timedOut : Bool
  sendFailure : Bool
  content : String
deriving DecidableEq

structure Request where
  type : SentType
  tResponse : SentType
  isRequest : type.getResponseTypeOfRequest = some tResponse
  isResponse : tResponse.isAssignableTo .response = true
  senderInstance : Option InstanceInformation
  correlationId : Guid
  targetInstance : Option InstanceInformation
  timeOut : Option TimeSpan
  content : String
deriving DecidableEq

/-- What `Request` writes into a request before it publishes it. -/
def Request.issued (q : Request) (sender : InstanceInformation) (correlationId : Guid)
    (timeOut : TimeSpan) : Request :=
  { q with
    senderInstance := some sender
    correlationId := correlationId
    timeOut := some timeOut }

/-- What a call of `Request` has written into a request object. -/
structure Reissue where
  mediator : Mediator
  correlationId : Guid
  timeOut : TimeSpan
deriving DecidableEq

/-- The object after the last call of `Request` that was given it, if one was. -/
def Request.reissued (q : Request) : Option Reissue → Request
  | none => q
  | some s => q.issued s.mediator.getInstanceInformation s.correlationId s.timeOut

/-- What `SendResponse` or `Send` has written into a response object. -/
structure Restamp where
  senderInstance : Option InstanceInformation
  correlationId : Guid
  requireAck : Bool
  targetInstance : Option InstanceInformation
deriving DecidableEq

/-- The object after the last call that was given it, if one was. -/
def Response.restamped (r : Response) : Option Restamp → Response
  | none => r
  | some s => { r with
      senderInstance := s.senderInstance
      correlationId := s.correlationId
      requireAck := s.requireAck
      targetInstance := s.targetInstance }

@[simp] theorem Response.type_restamped (r : Response) (s : Option Restamp) : (r.restamped s).type = r.type := by
  cases s <;> rfl

@[simp] theorem Response.content_restamped (r : Response) (s : Option Restamp) :
    (r.restamped s).content = r.content := by
  cases s <;> rfl

@[simp] theorem Response.success_restamped (r : Response) (s : Option Restamp) :
    (r.restamped s).success = r.success := by
  cases s <;> rfl

@[simp] theorem Response.exceptionData_restamped (r : Response) (s : Option Restamp) :
    (r.restamped s).exceptionData = r.exceptionData := by
  cases s <;> rfl

inductive IMessage
  | message (m : Message)
  | response (r : Response)
deriving DecidableEq

/-- Every sent object is a message or a request. -/
inductive SentObject
  | message (m : IMessage)
  | request (q : Request)
deriving DecidableEq

namespace IMessage

def type : IMessage → SentType
  | .message m => m.type
  | .response r => r.type

def senderInstance : IMessage → Option InstanceInformation
  | .message m => m.senderInstance
  | .response r => r.senderInstance

def correlationId : IMessage → Guid
  | .message m => m.correlationId
  | .response r => r.correlationId

def requireAck : IMessage → Bool
  | .message m => m.requireAck
  | .response r => r.requireAck

def targetInstance : IMessage → Option InstanceInformation
  | .message m => m.targetInstance
  | .response r => r.targetInstance

/-- What `Send` writes into a message before it publishes it. -/
def issued (m : IMessage) (sender : InstanceInformation) (id : Guid) (confirmPublish : Bool) : IMessage :=
  match m with
  | .message m => .message { m with
      senderInstance := some sender
      correlationId := id
      requireAck := confirmPublish }
  | .response r => .response { r with
      senderInstance := some sender
      correlationId := id
      requireAck := confirmPublish }

end IMessage

/-- What a call of `Send` has written into a message object. -/
structure Resend where
  mediator : Mediator
  correlationId : Guid
  confirmPublish : Bool
deriving DecidableEq

/-- The object after the last call of `Send` that was given it, if one was. -/
def IMessage.resent (m : IMessage) : Option Resend → IMessage
  | none => m
  | some s => m.issued s.mediator.getInstanceInformation s.correlationId s.confirmPublish

namespace SentObject

def type : SentObject → SentType
  | .message m => m.type
  | .request q => q.type

def targetInstance : SentObject → Option InstanceInformation
  | .message m => m.targetInstance
  | .request q => q.targetInstance

end SentObject

/-- `Activator.CreateInstance` on a response class. -/
def createInstance (type : SentType) (isResponse : type.isAssignableTo .response = true) :
    Except Exception Response :=
  if type.constructible then
    .ok ⟨type, isResponse, none, .empty, false, none, false, none, false, false, ""⟩
  else .error (.new .missingMethod "Cannot dynamically create an instance of this type.")

theorem createInstance_ok {type : SentType} {h : type.isAssignableTo .response = true}
    {r : Response} (hr : createInstance type h = .ok r) : r.type = type ∧ r.content = "" := by
  unfold createInstance at hr
  split at hr
  next => cases hr; exact ⟨rfl, rfl⟩
  next => cases hr

theorem createInstance_ok_iff {type : SentType} {h : type.isAssignableTo .response = true} :
    (∃ r, createInstance type h = .ok r) ↔ type.constructible = true := by
  unfold createInstance
  split <;> simp_all

/-- What arrives of a response: the two flags without a public setter are not read back. -/
def Response.overTheWire (r : Response) : Response := { r with timedOut := false, sendFailure := false }

structure SentObjectAck where
  correlationId : Guid
  success : Bool
  exceptionData : Option ExceptionData
  target : String
deriving DecidableEq

structure SendResult where
  success : Bool
  sendFailure : Bool
  exceptionData : Option ExceptionData
  timedOut : Bool
deriving DecidableEq

def testMediator : Mediator := ⟨⟨"Multiplex1", by decide, by decide⟩, ⟨"Mediator01", by decide, by decide⟩⟩

/-- Another mediator of the same multiplexer. -/
def testSecondMediator : Mediator := ⟨testMediator.instanceId, ⟨"Mediator02", by decide, by decide⟩⟩

theorem testAnyTargetedRequest_isRequest :
    testAnyTargetedRequest.getResponseTypeOfRequest = some testAnyTargetedResponse := by
  decide

theorem testAnyTargetedResponse_isResponse : testAnyTargetedResponse.isAssignableTo .response = true := by
  decide

def testRequest : Request where
  type := testAnyTargetedRequest
  tResponse := testAnyTargetedResponse
  isRequest := testAnyTargetedRequest_isRequest
  isResponse := testAnyTargetedResponse_isResponse
  senderInstance := some testMediator.getInstanceInformation
  correlationId := ⟨1⟩
  targetInstance := none
  timeOut := some tenSeconds
  content := ""

def testMessage : Message where
  type := testAnyTargetedMessage
  isMessage := by decide
  noResponse := by decide
  senderInstance := none
  correlationId := .empty
  requireAck := false
  targetInstance := none
  content := ""

end RabbitMediator
