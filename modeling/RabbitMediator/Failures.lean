import RabbitMediator.SentObject

namespace RabbitMediator

/-- A correlation id as it is printed: 32 hexadecimal digits in groups of 8, 4, 4, 4 and 12. -/
def Guid.text (id : Guid) : String :=
  let digits := (Nat.toDigits 16 id.value).leftpad 32 '0'
  let group (start length : Nat) := String.ofList ((digits.drop start).take length)
  group 0 8 ++ "-" ++ group 8 4 ++ "-" ++ group 12 4 ++ "-" ++ group 16 4 ++ "-" ++ group 20 12

def requestText (request : Request) : String :=
  "Request '" ++ request.type.name ++ "' (correlation " ++ request.correlationId.text ++ ")"

def rabbitMediatorSendFailure (request : Request) (innerException : Exception) : Exception :=
  .wrapping ⟨.mediatorSendFailure,
    requestText request ++ " could not be published or routed to a consumer.", none, none⟩ innerException

def rabbitMediatorTimeout (request : Request) (timeOut : TimeSpan) : Exception :=
  .new .mediatorTimeout (requestText request ++ " timed out after " ++ timeOut.formatMilliseconds ++
    "ms with no response.")

def objectDisposed : Exception :=
  .new .objectDisposed "Cannot access a disposed object.\nObject name: 'IRabbitMediator'."

def operationCanceled : Exception := .new .operationCanceled "The operation was canceled."

/-- What `SetResult` throws on a source that is completed already. -/
def setResultTwice : Exception :=
  .new .invalidOperation "An attempt was made to transition a task to a final state when it had already completed."

def invalidCast : Exception := .new .invalidCast "Specified cast is not valid."

/-- A response as the calls that do not throw hand it back when no real one arrived. -/
def Response.failure (response : Response) (mediator : Mediator) (correlationId : Guid)
    (timedOut sendFailure : Bool) : Response :=
  { response with
    success := false
    timedOut := timedOut
    sendFailure := sendFailure
    targetInstance := some mediator.getInstanceInformation
    correlationId := correlationId
    senderInstance := some .empty }

def createFailureResponse (mediator : Mediator) (tResponse : SentType)
    (isResponse : tResponse.isAssignableTo .response = true) (correlationId : Guid)
    (timedOut sendFailure : Bool) : Except Exception Response := do
  let response ← createInstance tResponse isResponse
  pure (response.failure mediator correlationId timedOut sendFailure)

section Creating

variable {t : SentType}

theorem createFailureResponse_ok (mediator : Mediator) (h : t.isAssignableTo .response = true) (id : Guid)
    (timedOut sendFailure : Bool) (hc : t.constructible = true) : ∃ response : Response,
    createFailureResponse mediator t h id timedOut sendFailure = .ok response ∧
    response.success = false ∧ response.timedOut = timedOut ∧ response.sendFailure = sendFailure ∧
    response.correlationId = id := by
  obtain ⟨r, hr⟩ := (createInstance_ok_iff (h := h)).mpr hc
  refine ⟨r.failure mediator id timedOut sendFailure, ?_, rfl, rfl, rfl, rfl⟩
  simp [createFailureResponse, hr, bind, Except.bind, pure, Except.pure]

theorem createFailureResponse_error {mediator : Mediator} {h : t.isAssignableTo .response = true}
    {id : Guid} {timedOut sendFailure : Bool} (hc : t.constructible = false) :
    createFailureResponse mediator t h id timedOut sendFailure =
      .error (.new .missingMethod "Cannot dynamically create an instance of this type.") := by
  simp [createFailureResponse, createInstance, hc, bind, Except.bind]

end Creating

example : (Guid.mk 305419896).text = "00000000-0000-0000-0000-000012345678" := by decide

end RabbitMediator
