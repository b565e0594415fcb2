import RabbitMediator.HandleRequest

namespace RabbitMediator

/-- `NotReadyRequeueDelay`: 100 milliseconds. -/
def notReadyRequeueDelay : TimeSpan := ⟨1000000, by decide, by decide⟩

def consumeMessage (env : Environment) (mediator : Mediator) (message : IMessage)
    (consumerType : ConsumerType) : Run Unit := do
  let consumer ← getConsumer env mediator consumerType
  let _ ← getConsumeMethod consumerType message.type
  invoke consumer (.message message) none (env.consumeMessage message)

/-- The message object when the handler comes back to it: a consumer that was called may have sent it on. -/
def messageAfter (env : Environment) (mediator : Mediator) (message : IMessage) (consumerType : ConsumerType) :
    IMessage :=
  match getConsumer env mediator consumerType, getConsumeMethod consumerType message.type with
  | .ok (some _), .ok _ => message.resent env.resent
  | _, _ => message

/-- The ack goes to the sender that the object names by now, if it asks for one by now. -/
def acknowledge (env : Environment) (message : IMessage) (sentObjectAck : SentObjectAck) : Run Unit := do
  if message.requireAck then
    let sender ← dereference message.senderInstance
    publishAck env (RabbitNaming.ackQueue sender.instanceId) sentObjectAck

def handleMessage (env : Environment) (mediator : Mediator) (message : IMessage) : Run Bool := do
  let configuration ← getConfiguration mediator env.configuration
  match configuration.sentTypeToConsumerMapping.lookup message.type with
  | some consumerType =>
    let sender ← dereference message.senderInstance
    let sentObjectAck ← tryCatch (do
        consumeMessage env mediator message consumerType
        pure ⟨message.correlationId, true, none, sender.instanceId⟩)
      (fun ex => pure ⟨message.correlationId, false,
        some (.fromException ex.unwrapInvocation), sender.instanceId⟩)
    acknowledge env (messageAfter env mediator message consumerType) sentObjectAck
    pure true
  | none =>
    match message with
    | .response response =>
      match env.removedWaiter with
      | some waiter => do
        Traced.emit (.wroteResult waiter response)
        env.setResult
        pure true
      | none => pure false
    | .message _ => pure false

/-- A response without a consumer goes to its awaiter, or is discarded because it came too late. -/
theorem handleMessage_response {env : Environment} {mediator : Mediator} {r : Response}
    {c : RabbitMultiplexerMediatorConfiguration} (hc : env.configuration = some c)
    (hm : c.sentTypeToConsumerMapping.lookup r.type = none) :
    (handleMessage env mediator (.response r)).result =
      match env.removedWaiter with
      | some _ => env.setResult.map fun _ => true
      | none => .ok false := by
  have unmapped : c.sentTypeToConsumerMapping.lookup (IMessage.response r).type = none := hm
  unfold handleMessage
  rw [hc]
  simp only [getConfiguration, Traced.lift_ok_bind, unmapped]
  cases env.removedWaiter with
  | none => rfl
  | some w => cases env.setResult <;> rfl

def handleSentObject (env : Environment) (mediator : Mediator) : Option SentObject → Run Bool
  | none => throw nullReference
  | some (.message message) => handleMessage env mediator message
  | some (.request request) => handleRequest env mediator request

def tryHandleSentObjectReceived (env : Environment) (mediator : Mediator) : Run Bool :=
  if env.disposed then pure false
  else tryCatch (do
      let sentObject ← env.deserialized
      handleSentObject env mediator sentObject)
    (fun _ => pure false)

/-- Handling one delivery, which came by `channel` under `deliveryTag`. -/
def handleSentObjectReceived (env : Environment) (mediator : Mediator) (channel deliveryTag : Nat) :
    Run Unit :=
  if !env.configureDone || !env.mediatorConfigureDone then do
    Traced.emit (.delayed notReadyRequeueDelay)
    Traced.emit (.settled channel deliveryTag (.reject true))
  else do
    let success ← tryHandleSentObjectReceived env mediator
    if success then Traced.emit (.settled channel deliveryTag .ack)
    else Traced.emit (.settled channel deliveryTag (.reject false))

end RabbitMediator
