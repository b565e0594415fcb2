import RabbitMediator.World

namespace RabbitMediator

/-- The awaited operations inside the semaphore, in order. -/
inductive ReceiverOperation
  | addTypeIfMissing
  | topologyChannel
  | exchangeDeclare
  | queueDeclare
  | queueBind
  | basicConsume
  | registered
deriving DecidableEq

def ReceiverOperation.after : ReceiverOperation → Option ReceiverOperation
  | .addTypeIfMissing => some .topologyChannel
  | .topologyChannel => some .exchangeDeclare
  | .exchangeDeclare => some .queueDeclare
  | .queueDeclare => some .queueBind
  | .queueBind => some .basicConsume
  | .basicConsume => some .registered
  | .registered => none

/-- Where a call of `EnsureReceiver` for a response type stands. -/
inductive EnsureReceiver
  | entered
  | looking
  | checking
  | acquiring
  | rechecking
  | performing (operation : ReceiverOperation)
  | adding
  | releasing
  | returned
  | threw (e : Exception)

/-- Response types are targeted, so that no queue shared with older versions is declared. -/
def EnsureReceiver.next (hosts : Hosts) (m : MediatorRef) (sentObjectType : SentType)
    (s : MediatorState) : EnsureReceiver → Occurrence → Option (MediatorState × EnsureReceiver)
  | .entered, .go =>
    if s.disposed then some (s, .returned)
    else match RabbitNaming.typeName sentObjectType with
      | .error e => some (s, .threw e)
      | .ok _ => some (s, .looking)
  | .looking, .go => some (s, if s.registered then .checking else .threw (notRegistered (hosts.mediator m)))
  | .checking, .go =>
    some (s, if s.registeredConsumerTypes.contains sentObjectType then .returned else .acquiring)
  | .acquiring, .ended (.ok _) =>
    if s.semaphoreTaken then none else some ({ s with semaphoreTaken := true }, .rechecking)
  | .acquiring, .ended (.error e) => some (s, .threw e)
  | .rechecking, .go =>
    some (s, if s.registeredConsumerTypes.contains sentObjectType then .releasing
      else .performing .addTypeIfMissing)
  | .performing operation, .ended (.ok _) =>
    some (s, match operation.after with
      | some next => .performing next
      | none => .adding)
  | .performing _, .ended (.error e) => some ({ s with semaphoreTaken := false }, .threw e)
  | .adding, .go =>
    some ({ s with registeredConsumerTypes := sentObjectType :: s.registeredConsumerTypes }, .releasing)
  | .releasing, .go => some ({ s with semaphoreTaken := false }, .returned)
  | _, _ => none

/-- An operation that fails ends the call with just its exception. -/
theorem EnsureReceiver.next_failure {hosts : Hosts} {m : MediatorRef} {t : SentType} {s s' : MediatorState}
    {r r' : EnsureReceiver} {x : Occurrence} {e : Exception} (h : r.next hosts m t s x = some (s', r'))
    (he : x.failure = some e) : r' = .threw e := by
  cases x with
  | ended result =>
    cases result with
    | ok => cases he
    | error e' =>
      cases he
      cases r <;> cases h <;> rfl
  | published => cases r <;> cases h
  | _ => cases he

end RabbitMediator
