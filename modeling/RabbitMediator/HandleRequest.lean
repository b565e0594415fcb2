import RabbitMediator.Environment

namespace RabbitMediator

/-- Reading a member of an instance that is null throws. -/
def dereference : Option InstanceInformation → Except Exception InstanceInformation
  | some i => .ok i
  | none => .error nullReference

/-- A response as it leaves: addressed from this mediator at the sender of the request. -/
def Response.addressed (response : Response) (mediator : Mediator) (request : Request) : Response :=
  { response with
    correlationId := request.correlationId
    senderInstance := some mediator.getInstanceInformation
    targetInstance := request.senderInstance }

def responseQueue (typeName : String) (target : InstanceInformation) : String :=
  RabbitNaming.inputQueue RabbitNaming.inputQueuePrefixResponse typeName target.instanceId
    target.instanceScope

/-- While the serializer learns its type, others may write into the response object. -/
def sendResponse (env : Environment) (mediator : Mediator) (response : Response)
    (request : Request) (meanwhile : Option Restamp) : Run Unit := do
  let response := response.addressed mediator request
  let typeName ← RabbitNaming.typeName response.type
  let target ← dereference response.targetInstance
  publishResponse env (responseQueue typeName target) (response.restamped meanwhile)

def Response.failed (response : Response) (reason : Exception) : Response :=
  { response with success := false, exceptionData := some (.fromException reason) }

def respondWithFailure (env : Environment) (mediator : Mediator) (request : Request)
    (responseType : SentType) (isResponse : responseType.isAssignableTo .response = true)
    (reason : Exception) : Run Bool := do
  let response ← createInstance responseType isResponse
  sendResponse env mediator (response.failed reason) request none
  pure true

def noConsumer (request : Request) : Exception :=
  .new .invalidOperation ("No consumer for requests of type " ++ request.type.fullName ++
    " is registered on the target instance.")

theorem isResponse_of_getResponseTypeOfRequest {request : Request} {t : SentType}
    (h : request.type.getResponseTypeOfRequest = some t) : t.isAssignableTo .response = true := by
  have := request.isRequest
  rw [h] at this
  exact Option.some.inj this ▸ request.isResponse

def respondWithoutConsumer (env : Environment) (mediator : Mediator) (request : Request) :
    Run Bool :=
  match h : request.type.getResponseTypeOfRequest with
  | none => pure false
  | some responseType =>
    respondWithFailure env mediator request responseType
      (isResponse_of_getResponseTypeOfRequest h) (noConsumer request)

/-- What is left of the sender's timeout. -/
def remainingTime (env : Environment) (request : Request) : Except Exception TimeSpan :=
  match request.timeOut with
  | some timeOut => timeOut.sub env.elapsed
  | none => .ok .infinite

def timeOutText (request : Request) : String :=
  (request.timeOut.map TimeSpan.formatMilliseconds).getD ""

def expired (request : Request) : Exception :=
  .new .timeout ("The request timed out after " ++ timeOutText request ++
    "ms before a consumer could start on it.")

/-- The token source of a consumer, whose timer is started if there is a limit. -/
def consumeCancellation (remainingTime : TimeSpan) : Except Exception ConsumeCancellation :=
  if remainingTime = .infinite then .ok ⟨none⟩
  else do
    remainingTime.timer
    pure ⟨some remainingTime.milliseconds⟩

def consumeRequest (env : Environment) (request : Request) (consumer : Option ConsumerType)
    (cancellation : ConsumeCancellation) : Run Response := do
  match ← invoke consumer (.request request) (some cancellation) (env.consumeRequest request) with
  | some response => pure { response.1 with success := true }
  | none => throw nullReference

/-- The request object when the handler comes back to it: a consumer that was called may have passed it on. -/
def requestAfter (env : Environment) (request : Request) : Option ConsumerType → Request
  | some _ => request.reissued env.reissued
  | none => request

/-- Others only have a response object that the consumer has returned. -/
def writtenMeanwhile (env : Environment) (request : Request) : Option ConsumerType → Option Restamp
  | some _ => match env.consumeRequest request with
    | .completed (some _) => env.restamped
    | _ => none
  | none => none

/-- The exception as it is reported: the one inside an invocation, and a timeout for a consumer the
timeout stopped. -/
def failureReason (env : Environment) (request : Request) (ex : Exception) : Exception :=
  let ex := ex.unwrapInvocation
  if ex.isOperationCanceledException && (env.timeOutElapsed || env.deliveryCancelled) &&
      !env.deliveryCancelled then
    .new .timeout ("The consumer was cancelled after the request timeout of " ++
      timeOutText request ++ "ms elapsed.")
  else ex

def failureResponse (env : Environment) (request : Request) (responseType : SentType)
    (isResponse : responseType.isAssignableTo .response = true) (ex : Exception) : Run Response := do
  let response ← createInstance responseType isResponse
  pure (response.failed (failureReason env request ex))

def handleRequest (env : Environment) (mediator : Mediator) (request : Request) : Run Bool := do
  let configuration ← getConfiguration mediator env.configuration
  match configuration.sentTypeToConsumerMapping.lookup request.type with
  | none => respondWithoutConsumer env mediator request
  | some consumerType =>
    let consumer ← getConsumer env mediator consumerType
    let consumeMethod ← getRequestConsumeMethod consumerType request.type
    let remaining ← remainingTime env request
    if remaining.ticks ≤ 0 then
      respondWithFailure env mediator request (getResponseType consumeMethod)
        consumeMethod.isResponse (expired request)
    else do
      let cancellation ← consumeCancellation remaining
      let response ← tryCatch (consumeRequest env request consumer cancellation)
        (failureResponse env (requestAfter env request consumer) (getResponseType consumeMethod)
          consumeMethod.isResponse)
      -- the sender and the id are read off the object only now
      sendResponse env mediator response (requestAfter env request consumer) (writtenMeanwhile env request consumer)
      pure true

section Equations

variable {env : Environment} {mediator : Mediator} {q : Request}

theorem respondWithoutConsumer_eq :
    respondWithoutConsumer env mediator q =
      respondWithFailure env mediator q q.tResponse q.isResponse (noConsumer q) := by
  unfold respondWithoutConsumer
  split
  next h => simp [q.isRequest] at h
  next t h =>
    have ht : t = q.tResponse := Option.some.inj (h.symm.trans q.isRequest)
    subst ht
    rfl

variable {c : RabbitMultiplexerMediatorConfiguration} {t : ConsumerType}

theorem handleRequest_unregistered (mediator : Mediator) (q : Request) (hc : env.configuration = none) :
    ∃ e, handleRequest env mediator q = throw e := by
  unfold handleRequest
  rw [hc]
  exact ⟨_, rfl⟩

theorem handleRequest_unmapped (hc : env.configuration = some c)
    (hm : c.sentTypeToConsumerMapping.lookup q.type = none) :
    handleRequest env mediator q =
      respondWithFailure env mediator q q.tResponse q.isResponse (noConsumer q) := by
  unfold handleRequest
  rw [hc]
  simp only [getConfiguration, Traced.lift_ok_bind, hm, respondWithoutConsumer_eq]

/-- A mapped request either is stopped by an exception before its consumer is asked, or is answered
as expired, or goes to its consumer. -/
theorem handleRequest_mapped (hc : env.configuration = some c)
    (hm : c.sentTypeToConsumerMapping.lookup q.type = some t) :
    handleRequest env mediator q = (do
      let consumer ← getConsumer env mediator t
      let remaining ← remainingTime env q
      if remaining.ticks ≤ 0 then
        respondWithFailure env mediator q q.tResponse q.isResponse (expired q)
      else do
        let cancellation ← consumeCancellation remaining
        let response ← tryCatch (consumeRequest env q consumer cancellation)
          (failureResponse env (requestAfter env q consumer) q.tResponse q.isResponse)
        sendResponse env mediator response (requestAfter env q consumer) (writtenMeanwhile env q consumer)
        pure true) := by
  obtain ⟨consumeMethod, hcm⟩ := getRequestConsumeMethod_of_mapped c hm
  have same : ∀ (p : Request) (r : SentType) (hr : r.isAssignableTo .response = true), r = q.tResponse →
      failureResponse env p r hr = failureResponse env p q.tResponse q.isResponse := by
    rintro p r hr rfl
    rfl
  unfold handleRequest
  rw [hc]
  simp only [getConfiguration, Traced.lift_ok_bind, hm, hcm]
  simp only [same _ _ _ (getResponseType_eq hcm), getResponseType_eq hcm]

end Equations
end RabbitMediator
