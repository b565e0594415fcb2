import RabbitMediator.Broker
import RabbitMediator.SentObject

namespace RabbitMediator

open RabbitNaming

inductive ReceiveChannel
  | response
  | request
  | message
deriving DecidableEq

/-- Responses, requests and messages each get their own receive channel. -/
def receiveChannelFor (sentObjectType : SentType) : ReceiveChannel × String :=
  if sentObjectType.isAssignableTo .response then (.response, inputQueuePrefixResponse)
  else if sentObjectType.implements .iRequest then (.request, inputQueuePrefixRequest)
  else (.message, inputQueuePrefixMessage)

/-- Exchange, queue and binding of one receiver. An owned queue goes with its mediator. -/
structure ReceiveTopology where
  exchangeName : String
  exchange : Broker.ExchangeArguments
  queueName : String
  queue : Broker.QueueArguments
  routingKey : String
  owned : Bool
deriving DecidableEq

namespace ReceiveTopology

def binding (p : ReceiveTopology) : Broker.Binding := ⟨p.exchangeName, p.queueName, p.routingKey⟩

/-- The calls to the broker, in order. -/
def commands (p : ReceiveTopology) : List Broker.Command :=
  [.exchangeDeclare p.exchangeName p.exchange, .queueDeclare p.queueName p.queue,
    .queueBind p.binding]

end ReceiveTopology

def declareReceiveTopology (mediator : Mediator) (sentObjectType : SentType)
    (typeName inputQueuePrefix : String) : Except Exception ReceiveTopology :=
  let instanceId := mediator.instanceId.value
  let scopeId := mediator.scopeId.value
  if sentObjectType.implements .iTargetedSentObject then
    .ok {
      exchangeName := targetedExchange typeName
      exchange := ⟨.direct, false, false⟩
      queueName := inputQueue inputQueuePrefix typeName instanceId scopeId
      queue := ⟨false, true, true⟩
      routingKey := instanceRoutingKey instanceId scopeId
      owned := true }
  else if sentObjectType.implements .iBroadCastSentObject then
    .ok {
      exchangeName := broadcastExchange typeName
      exchange := ⟨.fanout, false, false⟩
      queueName := inputQueue inputQueuePrefix typeName instanceId scopeId
      queue := ⟨false, true, false⟩
      routingKey := broadcastRoutingKey
      owned := true }
  else if sentObjectType.implements .iAnyTargetedSentObject then
    .ok {
      exchangeName := anyTargetedExchange typeName
      exchange := ⟨.direct, false, false⟩
      queueName := sharedQueue typeName
      queue := ⟨true, false, false⟩
      routingKey := anyTargetedRoutingKey
      owned := false }
  else .error (.new .invalidOperation ("Unknown sendObjectType: " ++ sentObjectType.fullName))

/-- What `EnsureReceiver` declares and then consumes for one mediator and type. -/
def receiverOf (mediator : Mediator) (sentObjectType : SentType) : Except Exception ReceiveTopology := do
  let typeName ← RabbitNaming.typeName sentObjectType
  declareReceiveTopology mediator sentObjectType typeName (receiveChannelFor sentObjectType).2

def guardTargetIsSet (sentObject : SentObject) : Except Exception Unit :=
  if sentObject.type.implements .iTargetedSentObject then
    match sentObject.targetInstance with
    | none => .error nullReference
    | some target =>
      if target.instanceId = "" ∨ target.instanceScope = "" then
        .error (.new .invalidOperation "TargetId not set!")
      else .ok ()
  else .ok ()

def routingKeyFor (sentObject : SentObject) : Except Exception String :=
  if sentObject.type.implements .iBroadCastSentObject then .ok broadcastRoutingKey
  else if sentObject.type.implements .iAnyTargetedSentObject then .ok anyTargetedRoutingKey
  else if sentObject.type.implements .iTargetedSentObject then
    match sentObject.targetInstance with
    | none => .error nullReference
    | some target => .ok (instanceRoutingKey target.instanceId target.instanceScope)
  else .error (.new .argument "Invalid message type")

def exchangeTypeFor (sentObject : SentObject) : Broker.ExchangeKind :=
  if sentObject.type.implements .iBroadCastSentObject then .fanout else .direct

def exchangeNameFor (sentObject : SentObject) (typeName : String) : Except Exception String :=
  if sentObject.type.implements .iBroadCastSentObject then .ok (broadcastExchange typeName)
  else if sentObject.type.implements .iAnyTargetedSentObject then .ok (anyTargetedExchange typeName)
  else if sentObject.type.implements .iTargetedSentObject then .ok (targetedExchange typeName)
  else .error (.new .argument "Invalid message type")

/-- Where a sent object is published. -/
structure Address where
  exchangeName : String
  exchangeType : Broker.ExchangeKind
  routingKey : String
deriving DecidableEq

/-- The address `Send` and `Request` publish an object to that came through a variable of
`_staticType`. -/
def addressOf (_staticType : SentType) (sentObject : SentObject) : Except Exception Address := do
  let typeName ← RabbitNaming.typeName sentObject.type
  let routingKey ← routingKeyFor sentObject
  let exchangeName ← exchangeNameFor sentObject typeName
  pure ⟨exchangeName, exchangeTypeFor sentObject, routingKey⟩

/-- The declare of `EnsureSendExchange`. -/
def Address.ensureSendExchange (a : Address) : Broker.Command :=
  .exchangeDeclare a.exchangeName ⟨a.exchangeType, false, false⟩

/-- How objects of a type find their receivers. -/
inductive Addressing
  | targeted
  | broadcast
  | anyTargeted
deriving DecidableEq

namespace Addressing

def exchangeName : Addressing → String → String
  | .targeted => targetedExchange
  | .broadcast => broadcastExchange
  | .anyTargeted => anyTargetedExchange

def exchangeType : Addressing → Broker.ExchangeKind
  | .broadcast => .fanout
  | _ => .direct

def queueName (a : Addressing) (m : Mediator) (t : SentType) (typeName : String) : String :=
  match a with
  | .anyTargeted => sharedQueue typeName
  | _ => inputQueue (receiveChannelFor t).2 typeName m.instanceId.value m.scopeId.value

def queue : Addressing → Broker.QueueArguments
  | .targeted => ⟨false, true, true⟩
  | .broadcast => ⟨false, true, false⟩
  | .anyTargeted => ⟨true, false, false⟩

def routingKey : Addressing → InstanceInformation → String
  | .targeted, i => instanceRoutingKey i.instanceId i.instanceScope
  | .broadcast, _ => broadcastRoutingKey
  | .anyTargeted, _ => anyTargetedRoutingKey

def receiver (a : Addressing) (m : Mediator) (t : SentType) (typeName : String) : ReceiveTopology where
  exchangeName := a.exchangeName typeName
  exchange := ⟨a.exchangeType, false, false⟩
  queueName := a.queueName m t typeName
  queue := a.queue
  routingKey := a.routingKey m.getInstanceInformation
  owned := a ≠ .anyTargeted

def implementedBy (a : Addressing) (t : SentType) : Bool :=
  match a with
  | .targeted => t.implements .iTargetedSentObject
  | .broadcast => t.implements .iBroadCastSentObject
  | .anyTargeted => t.implements .iAnyTargetedSentObject

/-- Exchanges of different addressing or of different types have different names. -/
theorem exchangeName_inj {a b : Addressing} {t u : String}
    (h : a.exchangeName t = b.exchangeName u) : a = b ∧ t = u := by
  cases a <;> cases b <;> simp only [exchangeName] at h
  · exact ⟨rfl, targetedExchange_inj h⟩
  · exact absurd h (targetedExchange_ne_broadcastExchange t u)
  · exact absurd h (targetedExchange_ne_anyTargetedExchange t u)
  · exact absurd h.symm (targetedExchange_ne_broadcastExchange u t)
  · exact ⟨rfl, broadcastExchange_inj h⟩
  · exact absurd h (broadcastExchange_ne_anyTargetedExchange t u)
  · exact absurd h.symm (targetedExchange_ne_anyTargetedExchange u t)
  · exact absurd h.symm (broadcastExchange_ne_anyTargetedExchange u t)
  · exact ⟨rfl, anyTargetedExchange_inj h⟩

theorem implementedBy_unique {a b : Addressing} {t : SentType} (ha : a.implementedBy t = true)
    (hb : b.implementedBy t = true) : a = b := by
  have h := t.implements_addressing_unique
  cases a <;> cases b <;> simp_all [implementedBy]

end Addressing

/-- `DeclareReceiveTopology` declares what the addressing of the type asks for. -/
theorem receiverOf_addressing {m : Mediator} {t : SentType} {p : ReceiveTopology}
    (h : receiverOf m t = .ok p) : ∃ name, ∃ a : Addressing, RabbitNaming.typeName t = .ok name ∧
      a.implementedBy t = true ∧ p = a.receiver m t name := by
  obtain ⟨name, hn, h⟩ := except_bind_eq_ok.mp h
  refine ⟨name, ?_⟩
  simp only [declareReceiveTopology] at h
  split at h
  next ht => cases h; exact ⟨.targeted, hn, ht, rfl⟩
  next =>
    split at h
    next hb => cases h; exact ⟨.broadcast, hn, hb, rfl⟩
    next =>
      split at h
      next ha => cases h; exact ⟨.anyTargeted, hn, ha, rfl⟩
      next => cases h

/-- The switches of the publish side, which ask in another order, come to the same addressing. -/
theorem addressOf_addressing {s : SentType} {o : SentObject} {d : Address}
    (h : addressOf s o = .ok d) : ∃ name, ∃ a : Addressing, ∃ i,
      RabbitNaming.typeName o.type = .ok name ∧ a.implementedBy o.type = true ∧
      (a = .targeted → o.targetInstance = some i) ∧
      d = ⟨a.exchangeName name, a.exchangeType, a.routingKey i⟩ := by
  obtain ⟨name, hn, h⟩ := except_bind_eq_ok.mp h
  obtain ⟨key, hk, h⟩ := except_bind_eq_ok.mp h
  obtain ⟨ex, he, h⟩ := except_bind_eq_ok.mp h
  cases h
  refine ⟨name, ?_⟩
  unfold routingKeyFor at hk
  unfold exchangeNameFor at he
  simp only [exchangeTypeFor]
  split at hk
  next hb =>
    rw [if_pos hb] at he ⊢
    cases hk
    cases he
    exact ⟨.broadcast, .empty, hn, hb, by simp, rfl⟩
  next hb =>
    rw [if_neg hb] at he ⊢
    split at hk
    next ha =>
      rw [if_pos ha] at he
      cases hk
      cases he
      exact ⟨.anyTargeted, .empty, hn, ha, by simp, rfl⟩
    next ha =>
      rw [if_neg ha] at he
      split at hk
      next ht =>
        rw [if_pos ht] at he
        split at hk
        next => cases hk
        next i hi =>
          cases hk
          cases he
          exact ⟨.targeted, i, hn, ht, fun _ => hi, rfl⟩
      next => cases hk

end RabbitMediator
