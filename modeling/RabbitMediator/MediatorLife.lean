import RabbitMediator.BrokerConsumers
import RabbitMediator.EnsureReceiver

namespace RabbitMediator

/-- What a multiplexer has besides its awaiters: whether it is configured, its mediators by their scope ids,
and which of its receive channels the broker has closed. -/
structure MultiplexerLife where
  configureDone : Bool
  rabbitMediatorInstances : ConcurrentDictionary String MediatorRef
  closed : ReceiveChannel → Bool

/-- A mediator with its `RabbitMultiplexerMediatorConfiguration`, which outlives its entry on the
multiplexer, and with what the broker has of it. -/
structure MediatorLife extends MediatorState where
  configureDone : Bool
  configureLocked : Bool
  configureEvent : Bool
  configuration : RabbitMultiplexerMediatorConfiguration
  ownedQueues : ConcurrentDictionary String ReceiveChannel
  queueToExchangeBindings : ConcurrentDictionary String (String × Broker.ExchangeKind)
  consumerTags : ConcurrentDictionary String ReceiveChannel
  topology : ConsumingBroker ReceiveChannel

/-- A mediator as `CreateRabbitMediator` leaves it. -/
def MediatorLife.created (configuration : RabbitMultiplexerMediatorConfiguration) : MediatorLife where
  disposed := false
  registered := true
  registeredConsumerTypes := []
  semaphoreTaken := false
  configureDone := false
  configureLocked := false
  configureEvent := false
  configuration := configuration
  ownedQueues := ∅
  queueToExchangeBindings := ∅
  consumerTags := ∅
  topology := .empty

/-- What the outside decides at a step. -/
inductive Event
  /-- The step depends on the state alone. -/
  | go
  /-- The broker carries out the command that is awaited. -/
  | took
  /-- An awaited operation came to its end. -/
  | ended (result : Except Exception Unit)
  /-- The broker answers a command with closing its channel. -/
  | refused (e : Exception)
  /-- The next entry of an enumeration, or its end. -/
  | visited (entry : Option String)
  | handled (environment : Environment)

/-- The consumer `EnsureReceiver` registers for a type, whose topology is `p`. -/
def consumerOf (mediator : Mediator) (sentObjectType : SentType) (p : ReceiveTopology) :
    Broker.Consumer ReceiveChannel where
  channel := (receiveChannelFor sentObjectType).1
  consumerTag := RabbitNaming.consumerTag p.exchangeName mediator.instanceId.value mediator.scopeId.value
  queue := p.queueName

theorem consumerTag_inj {a b i s : String}
    (h : RabbitNaming.consumerTag a i s = RabbitNaming.consumerTag b i s) : a = b := by
  simp only [RabbitNaming.consumerTag] at h
  have h := congrArg String.toList h
  simp only [String.toList_append] at h
  exact String.toList_inj.mp (List.append_cancel_right (List.append_cancel_right
    (List.append_cancel_right (List.append_cancel_right h))))

end RabbitMediator
