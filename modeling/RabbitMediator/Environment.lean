import RabbitMediator.Configuration
import RabbitMediator.Traced
import RabbitMediator.WireFormat

namespace RabbitMediator

/-- How a call of `Consume` ends. -/
inductive Consumption (α : Type)
  | threwSynchronously (e : Exception)
  | nullTask
  | faulted (e : Exception)
  | cancelled
  | completed (result : α)

/-- The exception of its own that a call of `Consume` ends with. -/
def Consumption.thrown {α : Type} : Consumption α → Option Exception
  | .threwSynchronously e => some e
  | .faulted e => some e.unwrapInvocation
  | _ => none

/-- A response as the signature `Task<TResponse>` of a consumer for `q` allows it. -/
abbrev AnswerTo (q : Request) := { r : Response // r.type.isAssignableTo q.tResponse = true }

inductive Settlement
  | ack
  | reject (requeue : Bool)
deriving DecidableEq

/-- The token source of a consumer. It is linked to the token of the delivery, and its own timer, if it has one,
cancels it after so many milliseconds. -/
structure ConsumeCancellation where
  cancelAfter : Option Int
deriving DecidableEq

/-- What the handling of one delivery does to the outside. -/
inductive Effect
  | delayed (delay : TimeSpan)
  /-- `Consume` was called. Only the one for a request is given a token. -/
  | consumed (consumer : ConsumerType) (sentObject : SentObject) (token : Option ConsumeCancellation)
  | publishedResponse (queue : String) (response : Response)
  | publishedAck (queue : String) (ack : SentObjectAck)
  | wroteResult (waiter : Nat) (response : Response)
  | settled (channel deliveryTag : Nat) (how : Settlement)
deriving DecidableEq

abbrev Run := Traced Effect Exception

/-- Whether the broker took a published message, and how the call ended. -/
structure Publication where
  taken : Bool
  outcome : Except Exception Unit

/-- What the handling of one delivery meets: the state it reads at each point, and the outcome of
every call it makes into other code. -/
structure Environment where
  configureDone : Bool
  mediatorConfigureDone : Bool
  disposed : Bool
  deserialized : Except Exception (Option SentObject)
  /-- The mediator's entry when the handler looks it up. -/
  configuration : Option RabbitMultiplexerMediatorConfiguration
  /-- The mediator's entry when `GetConsumer` looks it up again. -/
  configurationOfConsumer : Option RabbitMultiplexerMediatorConfiguration
  instantiate : ConsumerType → Except Exception Unit
  consumeMessage : IMessage → Consumption Unit
  consumeRequest : (q : Request) → Consumption (Option (AnswerTo q))
  /-- What was written into the message object while `Consume` had it: the consumer may send it on. -/
  resent : Option Resend
  /-- The same for a request object, which the consumer may pass to `Request`. -/
  reissued : Option Reissue
  /-- The same for a response object between `SendResponse` and the serializer: a consumer may return one object to
  several requests, or send it. -/
  restamped : Option Restamp
  elapsed : TimeSpan
  elapsed_nonneg : 0 ≤ elapsed.ticks
  timeOutElapsed : Bool
  deliveryCancelled : Bool
  classes : SentClasses
  /-- The options that `Serialize` reads. -/
  options : Option JsonSerializerOptions
  sendChannel : Except Exception Unit
  publish : Publication
  /-- What `Remove` found under the correlation id of a response. -/
  removedWaiter : Option Nat
  setResult : Except Exception Unit

def notRegistered (mediator : Mediator) : Exception :=
  .new .invalidOperation ("The mediator " ++ mediator.scopeId.value ++
    " is not (or no longer) registered on this multiplexer.")

def getConfiguration (mediator : Mediator) :
    Option RabbitMultiplexerMediatorConfiguration →
    Except Exception RabbitMultiplexerMediatorConfiguration
  | some configuration => .ok configuration
  | none => .error (notRegistered mediator)

/-- The consumer itself, or null when the configuration no longer lists its type. -/
def getConsumer (env : Environment) (mediator : Mediator) (consumerType : ConsumerType) :
    Except Exception (Option ConsumerType) :=
  if consumerType.isConsumer then do
    let configuration ← getConfiguration mediator env.configurationOfConsumer
    let allConsumerTypes ← configuration.configuration.getAllConsumerTypes
    if allConsumerTypes.contains consumerType then do
      env.instantiate consumerType
      pure (some consumerType)
    else pure none
  else .error (.new .argument ("The type " ++ consumerType.fullName ++ " does not implement IConsumer"))

def getConsumeMethod (consumerType : ConsumerType) (sentObjectType : SentType) :
    Except Exception SentType :=
  match consumerType.consumeParameters.find? (· = sentObjectType) with
  | some parameter => .ok parameter
  | none => .error (.new .invalidOperation "Sequence contains no matching element")

/-- The method of a request interface is told by the interface alone. -/
def getRequestConsumeMethod (consumerType : ConsumerType) (requestType : SentType) :
    Except Exception RequestInterface :=
  match consumerType.requestInterfaces.find? (·.requestType = requestType) with
  | some consumeMethod => .ok consumeMethod
  | none => .error (.new .invalidOperation "Sequence contains no matching element")

abbrev getResponseType (consumeMethod : RequestInterface) : SentType := consumeMethod.responseType

/-- `Invoke`, the await of its task, and the result read off the task. -/
def invoke {α : Type} (consumer : Option ConsumerType) (sentObject : SentObject)
    (token : Option ConsumeCancellation) (consumption : Consumption α) : Run α :=
  match consumer with
  | none => throw (.new .target "Non-static method requires a target.")
  | some consumerType => do
    Traced.emit (.consumed consumerType sentObject token)
    match consumption with
    | .threwSynchronously e => throw (.invocation e)
    | .nullTask => throw nullReference
    | .faulted e => throw e
    | .cancelled => throw (.new .taskCanceled "A task was canceled.")
    | .completed result => pure result

/-- A response published at a queue by its name, through the default exchange. -/
def publishResponse (env : Environment) (queue : String) (response : Response) : Run Unit := do
  let _ ← JsonSerializer.serialize env.classes env.options (.message (.response response))
  env.sendChannel
  if env.publish.taken then Traced.emit (.publishedResponse queue response)
  env.publish.outcome

def publishAck (env : Environment) (queue : String) (ack : SentObjectAck) : Run Unit := do
  let _ ← JsonSerializer.serializeAck env.classes ack
  env.sendChannel
  if env.publish.taken then Traced.emit (.publishedAck queue ack)
  env.publish.outcome

/-- An environment where nothing goes wrong: the consumer answers at once with a response of the
declared class. -/
def testEnvironment (o : SentObject) : Environment where
  configureDone := true
  mediatorConfigureDone := true
  disposed := false
  deserialized := .ok (some o)
  configuration := some testMediatorConfiguration
  configurationOfConsumer := some testMediatorConfiguration
  instantiate _ := .ok ()
  consumeMessage _ := .completed ()
  consumeRequest q := .completed (some ⟨⟨q.tResponse, q.isResponse, none, .empty, false, none, false,
    none, false, false, "TestRequiredString"⟩, SentType.isAssignableTo_self _⟩)
  resent := none
  reissued := none
  restamped := none
  elapsed := .zero
  elapsed_nonneg := by decide
  timeOutElapsed := false
  deliveryCancelled := false
  classes := testClasses
  options := some (JsonSerializerHelper.rebuildOptions [testAnyTargetedResponse])
  sendChannel := .ok ()
  publish := ⟨true, .ok ()⟩
  removedWaiter := none
  setResult := .ok ()

theorem getConsumeMethod_ok_iff {t : ConsumerType} {s : SentType} :
    (∃ p, getConsumeMethod t s = .ok p) ↔ s ∈ t.consumeParameters := by
  unfold getConsumeMethod
  cases hf : t.consumeParameters.find? (· = s) with
  | some p =>
    have hp : p = s := by simpa using List.find?_some hf
    exact iff_of_true ⟨p, rfl⟩ (hp ▸ List.mem_of_find?_eq_some hf)
  | none =>
    refine iff_of_false (by simp) fun hs => ?_
    have := List.find?_eq_none.mp hf s hs
    simp at this

theorem getRequestConsumeMethod_ok {consumerType : ConsumerType} {requestType : SentType}
    {consumeMethod : RequestInterface}
    (h : getRequestConsumeMethod consumerType requestType = .ok consumeMethod) :
    consumeMethod ∈ consumerType.requestInterfaces ∧ consumeMethod.requestType = requestType := by
  unfold getRequestConsumeMethod at h
  split at h
  next hf =>
    cases h
    exact ⟨List.mem_of_find?_eq_some hf, by simpa using List.find?_some hf⟩
  next => cases h

/-- A consumer found through the mapping has its method. -/
theorem getRequestConsumeMethod_of_mapped (c : RabbitMultiplexerMediatorConfiguration) {q : Request}
    {t : ConsumerType} (h : c.sentTypeToConsumerMapping.lookup q.type = some t) :
    ∃ consumeMethod, getRequestConsumeMethod t q.type = .ok consumeMethod := by
  obtain ⟨i, hi, he⟩ := c.requestInterface_of_mapped h
  unfold getRequestConsumeMethod
  cases hf : t.requestInterfaces.find? (·.requestType = q.type) with
  | some m => exact ⟨m, rfl⟩
  | none =>
    have := List.find?_eq_none.mp hf i hi
    simp [he] at this

/-- The consume method answers with the response type of the request itself. -/
theorem getResponseType_eq {q : Request} {consumerType : ConsumerType}
    {consumeMethod : RequestInterface}
    (h : getRequestConsumeMethod consumerType q.type = .ok consumeMethod) :
    getResponseType consumeMethod = q.tResponse := by
  have hm := (getRequestConsumeMethod_ok h).2
  have hr := consumeMethod.isRequest
  rw [hm, q.isRequest] at hr
  exact (Option.some.inj hr).symm

theorem getConsumer_some {env : Environment} {mediator : Mediator} {t u : ConsumerType}
    (h : getConsumer env mediator t = .ok (some u)) : u = t := by
  unfold getConsumer at h
  split at h
  next =>
    obtain ⟨c, _, h⟩ := except_bind_eq_ok.mp h
    obtain ⟨types, _, h⟩ := except_bind_eq_ok.mp h
    split at h
    next =>
      obtain ⟨_, _, h⟩ := except_bind_eq_ok.mp h
      cases h
      rfl
    next => cases h
  next => cases h

theorem getConsumer_of_mapped {env : Environment} {mediator : Mediator}
    {c : RabbitMultiplexerMediatorConfiguration} (hc : env.configurationOfConsumer = some c)
    {s : SentType} {t : ConsumerType} (h : c.sentTypeToConsumerMapping.lookup s = some t) :
    getConsumer env mediator t = (env.instantiate t).map fun _ => some t := by
  have hm := (c.mapped h).1
  unfold getConsumer
  rw [if_pos (getAllConsumerTypes_isConsumer c.validated hm), hc]
  simp only [getConfiguration, c.validated, bind, Except.bind, List.contains_iff_mem, hm, if_true]
  cases env.instantiate t <;> rfl

end RabbitMediator
