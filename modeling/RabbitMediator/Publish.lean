import RabbitMediator.World

namespace RabbitMediator

/-- The awaited operations of a publication, in order. The first three are `EnsureSendExchange`. -/
inductive PublishOperation
  | lookUpExchange
  | topologyChannel
  | exchangeDeclare
  | serialize
  | sendChannel
  | basicPublish
deriving DecidableEq

inductive PublishStep
  | continued (operation : PublishOperation)
  | finished
  | failed (e : Exception)

def PublishStep.afterResult (result : Except Exception Unit) (operation : PublishOperation) : PublishStep :=
  match result with
  | .ok _ => .continued operation
  | .error e => .failed e

/-- One step of a publication: the state it leaves, whether the broker took the object, and how it
goes on. -/
def PublishOperation.next (address : Address) (s : MultiplexerState) :
    PublishOperation → Occurrence → Option (MultiplexerState × Bool × PublishStep)
  | .lookUpExchange, .go =>
    some (s, false, .continued (if s.declaredSendExchanges.contains address.exchangeName then .serialize
      else .topologyChannel))
  | .topologyChannel, .ended result => some (s, false, .afterResult result .exchangeDeclare)
  | .exchangeDeclare, .ended (.ok _) =>
    some ({ s with declaredSendExchanges := address.exchangeName :: s.declaredSendExchanges }, false,
      .continued .serialize)
  | .exchangeDeclare, .ended (.error e) => some (s, false, .failed e)
  | .serialize, .ended result => some (s, false, .afterResult result .sendChannel)
  | .sendChannel, .ended result => some (s, false, .afterResult result .basicPublish)
  | .basicPublish, .published publication =>
    some (s, publication.taken, match publication.outcome with
      | .ok _ => .finished
      | .error e => .failed e)
  | _, _ => none

/-- A publication leaves the awaiters alone. -/
theorem PublishOperation.next_waiters {address : Address} {s s' : MultiplexerState}
    {operation : PublishOperation} {x : Occurrence} {taken : Bool} {step : PublishStep}
    (h : operation.next address s x = some (s', taken, step)) :
    s'.responseWaiters = s.responseWaiters ∧ s'.targetAckWaiters = s.targetAckWaiters := by
  unfold PublishOperation.next at h
  split at h <;> cases h <;> exact ⟨rfl, rfl⟩

theorem PublishOperation.next_failed {address : Address} {s s' : MultiplexerState}
    {operation : PublishOperation} {x : Occurrence} {taken : Bool} {e : Exception}
    (h : operation.next address s x = some (s', taken, .failed e)) : x.failure = some e := by
  unfold PublishOperation.next at h
  split at h
  next => cases h
  next result => cases result <;> cases h; rfl
  next => cases h
  next => cases h; rfl
  next result => cases result <;> cases h; rfl
  next result => cases result <;> cases h; rfl
  next p =>
    obtain ⟨taken, outcome⟩ := p
    cases outcome <;> cases h; rfl
  next => cases h

/-- A publication ends with what one of its operations failed with. -/
theorem PublishOperation.next_failure {address : Address} {s s' : MultiplexerState}
    {operation : PublishOperation} {x : Occurrence} {taken : Bool} {step : PublishStep} {e : Exception}
    (h : operation.next address s x = some (s', taken, step)) (he : x.failure = some e) :
    step = .failed e := by
  cases x with
  | ended result =>
    cases result with
    | ok => cases he
    | error e' =>
      cases he
      cases operation <;> cases h <;> rfl
  | published publication =>
    obtain ⟨taken, outcome⟩ := publication
    cases outcome with
    | ok => cases he
    | error e' =>
      cases he
      cases operation <;> cases h
      rfl
  | _ => cases he

theorem PublishOperation.next_elapsed (address : Address) (s : MultiplexerState)
    (operation : PublishOperation) (cancelled : Bool) :
    operation.next address s (.elapsed cancelled) = none := by
  cases operation <;> rfl

end RabbitMediator
