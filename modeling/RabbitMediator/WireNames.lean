import Mathlib.Logic.Function.Basic
import RabbitMediator.RabbitNaming

namespace RabbitMediator

open RabbitNaming

/-- The prefixes an input queue is named with. -/
inductive InputQueuePrefix
  | message
  | request
  | response
deriving DecidableEq

/-- A call of one of the functions that name queues. -/
inductive QueueNaming
  | inputQueue (queuePrefix : InputQueuePrefix) (typeName : String) (instanceId scopeId : GeneratedId)
  | sharedQueue (typeName : String)
  | ackQueue (instanceId : GeneratedId)
deriving DecidableEq

/-- A call of one of the functions that name exchanges. -/
inductive ExchangeNaming
  | targetedExchange (typeName : String)
  | broadcastExchange (typeName : String)
  | anyTargetedExchange (typeName : String)
deriving DecidableEq

def InputQueuePrefix.text : InputQueuePrefix → String
  | .message => inputQueuePrefixMessage
  | .request => inputQueuePrefixRequest
  | .response => inputQueuePrefixResponse

def QueueNaming.queueName : QueueNaming → String
  | .inputQueue queuePrefix typeName instanceId scopeId =>
    RabbitNaming.inputQueue queuePrefix.text typeName instanceId.value scopeId.value
  | .sharedQueue typeName => RabbitNaming.sharedQueue typeName
  | .ackQueue instanceId => RabbitNaming.ackQueue instanceId.value

def ExchangeNaming.exchangeName : ExchangeNaming → String
  | .targetedExchange typeName => RabbitNaming.targetedExchange typeName
  | .broadcastExchange typeName => RabbitNaming.broadcastExchange typeName
  | .anyTargetedExchange typeName => RabbitNaming.anyTargetedExchange typeName

theorem GeneratedId.value_inj {i j : GeneratedId} (h : i.value = j.value) : i = j := by
  obtain ⟨value, _, _⟩ := i
  obtain ⟨value', _, _⟩ := j
  cases h
  rfl

theorem InputQueuePrefix.text_mem (p : InputQueuePrefix) :
    p.text ∈ [inputQueuePrefixMessage, inputQueuePrefixRequest, inputQueuePrefixResponse] := by
  cases p <;> simp [text]

theorem InputQueuePrefix.text_inj {p q : InputQueuePrefix} (h : p.text = q.text) : p = q := by
  cases p <;> cases q <;> first | rfl | exact absurd h (by decide)

theorem ackQueue_inj {i j : String} (h : RabbitNaming.ackQueue i = RabbitNaming.ackQueue j) : i = j :=
  String.append_right_inj _ |>.mp h

theorem sharedQueue_ne_ackQueue (t i : String) : RabbitNaming.sharedQueue t ≠ RabbitNaming.ackQueue i :=
  Words.append_ne_of_head (by decide) (by decide) (by decide) t i

theorem inputQueue_ne_ackQueue {p : String}
    (hp : p ∈ [inputQueuePrefixMessage, inputQueuePrefixRequest, inputQueuePrefixResponse])
    (t i s j : String) : RabbitNaming.inputQueue p t i s ≠ RabbitNaming.ackQueue j := by
  have text : RabbitNaming.inputQueue p t i s = p ++ (keySeparator ++ t ++ keySeparator ++ i ++ keySeparator ++ s) := by
    simp only [RabbitNaming.inputQueue, String.append_assoc]
  have ack : RabbitNaming.ackQueue j = ackQueuePrefix ++ (keySeparator ++ j) := by
    simp only [RabbitNaming.ackQueue, String.append_assoc]
  rw [text, ack]
  simp only [List.mem_cons, List.not_mem_nil, or_false] at hp
  rcases hp with rfl | rfl | rfl
  · exact Words.append_ne_of_head (by decide) (by decide) (by decide) _ _
  · exact Words.append_ne_of_head (by decide) (by decide) (by decide) _ _
  · exact Words.append_ne_of_head (by decide) (by decide) (by decide) _ _

/-- No two calls name one queue: the first letter tells the functions apart, and the ids at the end of an
input queue have one length, so that the separators of a type name are told from the others. -/
theorem queueName_injective : Function.Injective QueueNaming.queueName := by
  intro a b h
  cases a with
  | inputQueue p t i s =>
    cases b with
    | inputQueue q u j r =>
      obtain ⟨hp, rfl, hi, hs⟩ := inputQueue_inj p.text_mem q.text_mem h
      rw [InputQueuePrefix.text_inj hp, GeneratedId.value_inj hi, GeneratedId.value_inj hs]
    | sharedQueue u => exact absurd h (inputQueue_ne_sharedQueue p.text_mem t i.value s.value u)
    | ackQueue j => exact absurd h (inputQueue_ne_ackQueue p.text_mem t i.value s.value j.value)
  | sharedQueue t =>
    cases b with
    | inputQueue q u j r => exact absurd h.symm (inputQueue_ne_sharedQueue q.text_mem u j.value r.value t)
    | sharedQueue u => rw [sharedQueue_inj h]
    | ackQueue j => exact absurd h (sharedQueue_ne_ackQueue t j.value)
  | ackQueue i =>
    cases b with
    | inputQueue q u j r => exact absurd h.symm (inputQueue_ne_ackQueue q.text_mem u j.value r.value i.value)
    | sharedQueue u => exact absurd h.symm (sharedQueue_ne_ackQueue u i.value)
    | ackQueue j => rw [GeneratedId.value_inj (ackQueue_inj h)]

theorem exchangeName_injective : Function.Injective ExchangeNaming.exchangeName := by
  intro a b h
  cases a with
  | targetedExchange t =>
    cases b with
    | targetedExchange u => rw [targetedExchange_inj h]
    | broadcastExchange u => exact absurd h (targetedExchange_ne_broadcastExchange t u)
    | anyTargetedExchange u => exact absurd h (targetedExchange_ne_anyTargetedExchange t u)
  | broadcastExchange t =>
    cases b with
    | targetedExchange u => exact absurd h.symm (targetedExchange_ne_broadcastExchange u t)
    | broadcastExchange u => rw [broadcastExchange_inj h]
    | anyTargetedExchange u => exact absurd h (broadcastExchange_ne_anyTargetedExchange t u)
  | anyTargetedExchange t =>
    cases b with
    | targetedExchange u => exact absurd h.symm (targetedExchange_ne_anyTargetedExchange u t)
    | broadcastExchange u => exact absurd h.symm (broadcastExchange_ne_anyTargetedExchange u t)
    | anyTargetedExchange u => rw [anyTargetedExchange_inj h]

theorem instanceRoutingKey_injective :
    Function.Injective fun p : GeneratedId × GeneratedId => instanceRoutingKey p.1.value p.2.value := by
  rintro ⟨i, s⟩ ⟨j, r⟩ h
  obtain ⟨hi, hs⟩ := instanceRoutingKey_inj h
  exact Prod.ext (GeneratedId.value_inj hi) (GeneratedId.value_inj hs)

/-- The ids at the end of a consumer tag have one length, whatever the exchange name in front of them is. -/
theorem consumerTag_injective :
    Function.Injective fun p : ExchangeNaming × GeneratedId × GeneratedId =>
      consumerTag p.1.exchangeName p.2.1.value p.2.2.value := by
  rintro ⟨e, i, s⟩ ⟨f, j, r⟩ h
  obtain ⟨h, hs⟩ := Words.append_inj_right h (by rw [s.length, r.length])
  obtain ⟨h, hi⟩ := Words.append_inj_right ((String.append_left_inj _).mp h) (by rw [i.length, j.length])
  have he := exchangeName_injective ((String.append_left_inj _).mp h)
  exact Prod.ext he (Prod.ext (GeneratedId.value_inj hi) (GeneratedId.value_inj hs))

/-- Names on the wire come from one call only. -/
theorem wireNames_distinct :
    Function.Injective QueueNaming.queueName ∧
    (Function.Injective fun p : GeneratedId × GeneratedId => instanceRoutingKey p.1.value p.2.value) ∧
    Function.Injective ExchangeNaming.exchangeName ∧
    Function.Injective fun p : ExchangeNaming × GeneratedId × GeneratedId =>
      consumerTag p.1.exchangeName p.2.1.value p.2.2.value :=
  ⟨queueName_injective, instanceRoutingKey_injective, exchangeName_injective, consumerTag_injective⟩

end RabbitMediator
