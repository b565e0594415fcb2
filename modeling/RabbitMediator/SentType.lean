import Mathlib.Data.List.Basic

namespace RabbitMediator

/-- What the runtime knows about a class the user declares. `constructible` says that
`Activator.CreateInstance` succeeds on it: not abstract, with a public parameterless constructor. -/
structure ClassInfo where
  name : String
  fullName : String
  nameSpace : Option String
  assembly : String
  constructible : Bool
deriving DecidableEq, Repr

/-- The classes of sent objects: those of the contracts, and what a user derives from them. -/
inductive SentType
  | message
  | broadcastMessage
  | anyTargetedMessage
  | targetedMessage
  | response
  | request (tResponse : SentType)
  | anyTargetedRequest (tResponse : SentType)
  | targetedRequest (tResponse : SentType)
  | derived (info : ClassInfo) (base : SentType)
deriving DecidableEq, Repr

/-- The interfaces of the contracts. -/
inductive SentInterface
  | iMessage
  | iRequest
  | iBroadCastSentObject
  | iAnyTargetedSentObject
  | iTargetedSentObject
deriving DecidableEq, Repr

namespace SentType

def messageBases : String := "Weltmeyer.RabbitMediator.Contracts.MessageBases"

def assembly : SentType → String
  | .derived info _ => info.assembly
  | _ => "Weltmeyer.RabbitMediator.Contracts, Version=0.0.8.0, Culture=neutral, PublicKeyToken=null"

def nameSpace : SentType → Option String
  | .derived info _ => info.nameSpace
  | _ => some messageBases

def fullName : SentType → String
  | .message => messageBases ++ ".Message"
  | .broadcastMessage => messageBases ++ ".BroadcastMessage"
  | .anyTargetedMessage => messageBases ++ ".AnyTargetedMessage"
  | .targetedMessage => messageBases ++ ".TargetedMessage"
  | .response => messageBases ++ ".Response"
  | .request r => messageBases ++ ".Request`1[[" ++ r.fullName ++ ", " ++ r.assembly ++ "]]"
  | .anyTargetedRequest r =>
    messageBases ++ ".AnyTargetedRequest`1[[" ++ r.fullName ++ ", " ++ r.assembly ++ "]]"
  | .targetedRequest r =>
    messageBases ++ ".TargetedRequest`1[[" ++ r.fullName ++ ", " ++ r.assembly ++ "]]"
  | .derived info _ => info.fullName

def name : SentType → String
  | .message => "Message"
  | .broadcastMessage => "BroadcastMessage"
  | .anyTargetedMessage => "AnyTargetedMessage"
  | .targetedMessage => "TargetedMessage"
  | .response => "Response"
  | .request _ => "Request`1"
  | .anyTargetedRequest _ => "AnyTargetedRequest`1"
  | .targetedRequest _ => "TargetedRequest`1"
  | .derived info _ => info.name

/-- The base classes of the contracts are all abstract. -/
def constructible : SentType → Bool
  | .derived info _ => info.constructible
  | _ => false

/-- The class itself and its bases, following `BaseType`. -/
def selfAndBases : SentType → List SentType
  | .message => [.message]
  | .broadcastMessage => [.broadcastMessage, .message]
  | .anyTargetedMessage => [.anyTargetedMessage, .message]
  | .targetedMessage => [.targetedMessage, .message]
  | .response => [.response, .message]
  | .request r => [.request r]
  | .anyTargetedRequest r => [.anyTargetedRequest r, .request r]
  | .targetedRequest r => [.targetedRequest r, .request r]
  | .derived info base => .derived info base :: base.selfAndBases

def isAssignableTo (t u : SentType) : Bool := t.selfAndBases.contains u

/-- The interfaces named in the declaration of the class itself. -/
def declares : SentType → SentInterface → Bool
  | .message, .iMessage => true
  | .broadcastMessage, .iBroadCastSentObject => true
  | .anyTargetedMessage, .iAnyTargetedSentObject => true
  | .targetedMessage, .iTargetedSentObject => true
  | .response, .iTargetedSentObject => true
  | .request _, .iRequest => true
  | .anyTargetedRequest _, .iAnyTargetedSentObject => true
  | .targetedRequest _, .iTargetedSentObject => true
  | _, _ => false

/-- The interfaces are internal: a user's class has those of its bases and no others. -/
def implements (t : SentType) (i : SentInterface) : Bool := t.selfAndBases.any (·.declares i)

/-- The `TResponse` of the `Request<TResponse>` the request type derives from. -/
def getResponseTypeOfRequest (requestType : SentType) : Option SentType :=
  requestType.selfAndBases.findSome? fun
    | .request tResponse => some tResponse
    | _ => none

theorem self_mem_selfAndBases (t : SentType) : t ∈ t.selfAndBases := by
  cases t <;> simp [selfAndBases]

theorem isAssignableTo_self (t : SentType) : t.isAssignableTo t = true := by
  simpa [isAssignableTo] using self_mem_selfAndBases t

@[simp] theorem implements_derived (info : ClassInfo) (base : SentType) (i : SentInterface) :
    (derived info base).implements i = base.implements i := by
  simp [implements, selfAndBases, declares]

@[simp] theorem getResponseTypeOfRequest_derived (info : ClassInfo) (base : SentType) :
    (derived info base).getResponseTypeOfRequest = base.getResponseTypeOfRequest := by
  simp [getResponseTypeOfRequest, selfAndBases]

theorem implements_of_isAssignableTo {t u : SentType} (h : t.isAssignableTo u = true)
    {i : SentInterface} (hu : u.declares i = true) : t.implements i = true := by
  simp only [isAssignableTo, List.contains_iff_mem] at h
  exact List.any_eq_true.mpr ⟨u, h, hu⟩

/-- A class with a `TResponse` is a request and no message. -/
theorem request_of_getResponseTypeOfRequest {t r : SentType}
    (h : t.getResponseTypeOfRequest = some r) :
    t.implements .iRequest = true ∧ t.implements .iMessage = false := by
  induction t with
  | derived info base ih => simpa using ih (by simpa using h)
  | _ => simp_all [getResponseTypeOfRequest, selfAndBases, implements, declares]

/-- No class has two addressing styles. -/
theorem implements_addressing_unique (t : SentType) :
    (t.implements .iTargetedSentObject && t.implements .iBroadCastSentObject) = false ∧
    (t.implements .iTargetedSentObject && t.implements .iAnyTargetedSentObject) = false ∧
    (t.implements .iBroadCastSentObject && t.implements .iAnyTargetedSentObject) = false := by
  induction t with
  | derived info base ih => simpa using ih
  | _ => simp [implements, selfAndBases, declares]

end SentType

/-- A class of the repository's test messages. -/
def testClass (name : String) : ClassInfo :=
  ⟨name, "Weltmeyer.RabbitMediator.TestTool.Messages." ++ name,
    some "Weltmeyer.RabbitMediator.TestTool.Messages", "Weltmeyer.RabbitMediator.Test.Shared", true⟩

def testAnyTargetedResponse : SentType := .derived (testClass "TestAnyTargetedResponse") .response

def testAnyTargetedRequest : SentType :=
  .derived (testClass "TestAnyTargetedRequest") (.anyTargetedRequest testAnyTargetedResponse)

def testAnyTargetedMessage : SentType :=
  .derived (testClass "TestAnyTargetedMessage") .anyTargetedMessage

def testTargetedMessage : SentType := .derived (testClass "TestTargetedMessage") .targetedMessage

def testBroadcastMessage : SentType := .derived (testClass "TestBroadcastMessage") .broadcastMessage

end RabbitMediator
