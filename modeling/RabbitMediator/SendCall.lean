import RabbitMediator.Publish

namespace RabbitMediator

open Registry

/-- What a call of `Send` has once its message is prepared. There is an awaiter just with
`confirmPublish`. -/
structure Prepared where
  message : IMessage
  waiter : Option Nat
  address : Address

inductive SendOutcome
  | threw (e : Exception)
  | returned (result : SendResult)

inductive SendPhase
  | entered
  | preparing
  | publishing (operation : PublishOperation) (prepared : Prepared)
  | delaying (prepared : Prepared) (waiter : Nat)
  | waiting (timeOut : TimeSpan) (prepared : Prepared) (waiter : Nat)
  | ended (prepared : Option Prepared) (outcome : SendOutcome)

/-- A call of `Send` with the runtime type of its message. -/
structure SendCall where
  mediator : MediatorRef
  message : IMessage
  confirmPublish : Bool
  confirmTimeOut : Option TimeSpan
  phase : SendPhase

namespace SendCall

def publishing (call : Nat) (c : SendCall) (prepared : Prepared) (written : IMessage) : Publishing IMessage :=
  ⟨call, written, prepared.address, c.confirmPublish, none⟩

def goesTo (c : SendCall) (phase : SendPhase) : SendCall := { c with phase := phase }

def throws (c : SendCall) (prepared : Option Prepared) (e : Exception) : SendCall :=
  c.goesTo (.ended prepared (.threw e))

def returns (c : SendCall) (prepared : Prepared) (result : SendResult) : SendCall :=
  c.goesTo (.ended (some prepared) (.returned result))

def useTimeout (hosts : Hosts) (c : SendCall) : TimeSpan :=
  c.confirmTimeOut.getD (hosts.configuration c.mediator).defaultConfirmTimeOut

def enter (w : World) (c : SendCall) (cancelled : Bool) : SendCall :=
  if (w.mediators c.mediator).disposed then c.throws none objectDisposed
  else if cancelled then c.throws none operationCanceled
  else match guardTargetIsSet (.message c.message) with
    | .error e => c.throws none e
    | .ok _ => c.goesTo .preparing

/-- The message with its sender and its id, and the awaiter it is about to get. -/
def preparedAs (hosts : Hosts) (w : World) (c : SendCall) (id : Guid) (address : Address) : Prepared :=
  ⟨c.message.issued (hosts.mediator c.mediator).getInstanceInformation id c.confirmPublish,
    if c.confirmPublish then some (w.targetAckWaiters c.mediator.multiplexer).awaiters.length else none,
    address⟩

def addWaiter (w : World) (call : Nat) (c : SendCall) (id : Guid) : World :=
  let r := w.targetAckWaiters c.mediator.multiplexer
  { if c.confirmPublish then w.setTargetAckWaiters c.mediator.multiplexer (r.add id c.mediator) else w with
    issued := (id, call) :: w.issued }

def prepare (hosts : Hosts) (w : World) (call : Nat) (c : SendCall) (id : Guid) : World × SendCall :=
  match addressOf c.message.type (.message c.message) with
  | .error e => (w, c.throws none e)
  | .ok address =>
    (c.addWaiter w call id, c.goesTo (.publishing .lookUpExchange (c.preparedAs hosts w id address)))

/-- The world after a step of the publication, at which the broker may have taken the message as it was written. -/
def handOver (w : World) (call : Nat) (c : SendCall) (prepared : Prepared) (written : IMessage)
    (s : MultiplexerState) (taken : Bool) : World :=
  let w := w.setMultiplexer c.mediator.multiplexer s
  if taken then { w with messages := c.publishing call prepared written :: w.messages } else w

/-- `TryRemove` with the id that is in the message object now. -/
def removeWaiter (w : World) (c : SendCall) (current : IMessage) : World :=
  w.setTargetAckWaiters c.mediator.multiplexer
    ((w.targetAckWaiters c.mediator.multiplexer).remove current.correlationId)

def published (w : World) (c : SendCall) (prepared : Prepared) (current : IMessage) :
    PublishStep → World × SendCall
  | .continued operation => (w, c.goesTo (.publishing operation prepared))
  | .finished => (w, match prepared.waiter with
      | some waiter => c.goesTo (.delaying prepared waiter)
      | none => c.returns prepared ⟨true, false, none, false⟩)
  | .failed e =>
    if e.isRabbitMQClientException then
      (if prepared.waiter.isSome then c.removeWaiter w current else w,
        c.returns prepared ⟨false, true, none, false⟩)
    else (w, c.throws (some prepared) e)

def delay (hosts : Hosts) (w : World) (c : SendCall) (prepared : Prepared) (waiter : Nat) : SendCall :=
  if (w.mediators c.mediator).registered then
    match (c.useTimeout hosts).timer with
    | .ok _ => c.goesTo (.waiting (c.useTimeout hosts) prepared waiter)
    | .error e => c.throws (some prepared) e
  else c.throws (some prepared) (notRegistered (hosts.mediator c.mediator))

/-- `await ackMsgTask` and the result read off the ack. -/
def readAck (c : SendCall) (prepared : Prepared) (waiter : Nat) (r : TargetAckWaiters) : SendCall :=
  match r.awaiters[waiter]?.bind Awaiter.result with
  | some ack => c.returns prepared ⟨ack.success, false, ack.exceptionData, false⟩
  | none => c.throws (some prepared) nullReference

/-- The wait is over without an ack. Only a cancelled call removes its awaiter. -/
def gaveUpWaiting (w : World) (c : SendCall) (prepared : Prepared) (current : IMessage) (cancelled : Bool) :
    World × SendCall :=
  if cancelled then (c.removeWaiter w current, c.throws (some prepared) operationCanceled)
  else (w, c.returns prepared ⟨false, false, none, true⟩)

/-- One step of call number `call`. Each awaited operation may end in any way. `current` is what the message object
says by now, and `written` what it said when it was serialized. -/
def nextWith (current written : Prepared → IMessage) (hosts : Hosts) (w : World) (call : Nat) (c : SendCall)
    (x : Occurrence) : Option (World × SendCall) :=
  match c.phase, x with
  | .entered, .checked cancelled => some (w, c.enter w cancelled)
  | .preparing, .drew id => if w.fresh id then some (c.prepare hosts w call id) else none
  | .publishing operation prepared, x =>
    (operation.next prepared.address (w.multiplexers c.mediator.multiplexer) x).map fun p =>
      c.published (c.handOver w call prepared (written prepared) p.1 p.2.1) prepared (current prepared) p.2.2
  | .delaying prepared waiter, .go => some (w, c.delay hosts w prepared waiter)
  | .waiting _ prepared waiter, .completed =>
    match (w.targetAckWaiters c.mediator.multiplexer).completion waiter with
    | .pending => none
    | .ranToCompletion => some (w, c.readAck prepared waiter (w.targetAckWaiters c.mediator.multiplexer))
    | .faulted e => some (w, c.throws (some prepared) e.exception)
  | .waiting timeOut prepared _, .elapsed cancelled =>
    -- an infinite timer ends only when the token ends it
    if timeOut.milliseconds = -1 && !cancelled then none
    else some (c.gaveUpWaiting w prepared (current prepared) cancelled)
  | _, _ => none

/-- A step of a call whose message object nobody else sends meanwhile: it says what the call has written. -/
def next (hosts : Hosts) (w : World) (call : Nat) (c : SendCall) (x : Occurrence) : Option (World × SendCall) :=
  c.nextWith Prepared.message Prepared.message hosts w call x

end SendCall

/-- The call has prepared nothing, and if it is over, it threw. -/
def SendPhase.Unprepared : SendPhase → Prop
  | .entered | .preparing | .ended none (.threw _) => True
  | _ => False

def SendPhase.prepared : SendPhase → Option Prepared
  | .publishing _ prepared | .delaying prepared _ | .waiting _ prepared _ => some prepared
  | .ended prepared _ => prepared
  | _ => none

theorem SendPhase.Unprepared.prepared {phase : SendPhase} (h : phase.Unprepared) :
    phase.prepared = none := by
  unfold SendPhase.Unprepared at h
  split at h <;> first | rfl | exact h.elim

/-- Everything a call can do in one step. -/
inductive SendCall.StepWith (current written : Prepared → IMessage) (hosts : Hosts) (w : World) (call : Nat)
    (c : SendCall) : Occurrence → World → SendCall → Prop
  | prelude {x phase} (before : c.phase.Unprepared) (after : phase.Unprepared) :
      StepWith current written hosts w call c x w (c.goesTo phase)
  | prepared {id address} (before : c.phase = .preparing) (fresh : w.fresh id = true) :
      StepWith current written hosts w call c (.drew id) (c.addWaiter w call id)
        (c.goesTo (.publishing .lookUpExchange (c.preparedAs hosts w id address)))
  | published {x operation prepared s taken phase} (before : c.phase = .publishing operation prepared)
      (same : s.responseWaiters = w.responseWaiters c.mediator.multiplexer ∧
        s.targetAckWaiters = w.targetAckWaiters c.mediator.multiplexer)
      (after : (∃ waiter, prepared.waiter = some waiter ∧ phase = .delaying prepared waiter) ∨
        ∃ next, phase = .publishing next prepared) :
      StepWith current written hosts w call c x (c.handOver w call prepared (written prepared) s taken) (c.goesTo phase)
  | unconfirmed {x operation prepared s taken} (before : c.phase = .publishing operation prepared)
      (same : s.responseWaiters = w.responseWaiters c.mediator.multiplexer ∧
        s.targetAckWaiters = w.targetAckWaiters c.mediator.multiplexer)
      (unwanted : prepared.waiter = none) :
      StepWith current written hosts w call c x (c.handOver w call prepared (written prepared) s taken)
        (c.returns prepared ⟨true, false, none, false⟩)
  | failed {x operation prepared s taken e} (before : c.phase = .publishing operation prepared)
      (same : s.responseWaiters = w.responseWaiters c.mediator.multiplexer ∧
        s.targetAckWaiters = w.targetAckWaiters c.mediator.multiplexer)
      (why : x.failure = some e) (known : e.isRabbitMQClientException = true) :
      StepWith current written hosts w call c x
        (if prepared.waiter.isSome then
            c.removeWaiter (c.handOver w call prepared (written prepared) s taken) (current prepared)
          else c.handOver w call prepared (written prepared) s taken)
        (c.returns prepared ⟨false, true, none, false⟩)
  | escaped {x operation prepared s taken e} (before : c.phase = .publishing operation prepared)
      (same : s.responseWaiters = w.responseWaiters c.mediator.multiplexer ∧
        s.targetAckWaiters = w.targetAckWaiters c.mediator.multiplexer)
      (why : x.failure = some e) (unknown : e.isRabbitMQClientException = false) :
      StepWith current written hosts w call c x (c.handOver w call prepared (written prepared) s taken)
        (c.throws (some prepared) e)
  | delayed {prepared timeOut waiter} (before : c.phase = .delaying prepared waiter) :
      StepWith current written hosts w call c .go w (c.goesTo (.waiting timeOut prepared waiter))
  | rejected {prepared waiter e} (before : c.phase = .delaying prepared waiter)
      (why : (w.mediators c.mediator).registered = false ∨ (c.useTimeout hosts).timerAccepts = false) :
      StepWith current written hosts w call c .go w (c.throws (some prepared) e)
  | answered {prepared timeOut waiter} (before : c.phase = .waiting timeOut prepared waiter)
      (done : (w.targetAckWaiters c.mediator.multiplexer).completion waiter = .ranToCompletion) :
      StepWith current written hosts w call c .completed w
        (c.readAck prepared waiter (w.targetAckWaiters c.mediator.multiplexer))
  | aborted {prepared timeOut waiter e} (before : c.phase = .waiting timeOut prepared waiter)
      (done : (w.targetAckWaiters c.mediator.multiplexer).completion waiter = .faulted e) :
      StepWith current written hosts w call c .completed w (c.throws (some prepared) e.exception)
  | cancelled {prepared timeOut waiter} (before : c.phase = .waiting timeOut prepared waiter) :
      StepWith current written hosts w call c (.elapsed true) (c.removeWaiter w (current prepared))
        (c.throws (some prepared) operationCanceled)
  | timedOut {prepared timeOut waiter} (before : c.phase = .waiting timeOut prepared waiter) :
      StepWith current written hosts w call c (.elapsed false) w (c.returns prepared ⟨false, false, none, true⟩)

abbrev SendCall.Step (hosts : Hosts) (w : World) (call : Nat) (c : SendCall) :
    Occurrence → World → SendCall → Prop :=
  c.StepWith Prepared.message Prepared.message hosts w call

namespace SendCall

variable {hosts : Hosts} {w w' : World} {call : Nat} {c c' : SendCall} {x : Occurrence}
  {current written : Prepared → IMessage}

theorem targetAckWaiters_addWaiter (confirm : c.confirmPublish = true) (id : Guid) :
    (c.addWaiter w call id).targetAckWaiters c.mediator.multiplexer =
      (w.targetAckWaiters c.mediator.multiplexer).add id c.mediator := by
  simp only [addWaiter, confirm]
  exact World.targetAckWaiters_setTargetAckWaiters_self _

theorem enter_unprepared (w : World) (c : SendCall) (cancelled : Bool) :
    ∃ phase : SendPhase, c.enter w cancelled = c.goesTo phase ∧ phase.Unprepared := by
  unfold enter
  split
  next => exact ⟨_, rfl, trivial⟩
  next =>
    split
    next => exact ⟨_, rfl, trivial⟩
    next =>
      cases guardTargetIsSet (.message c.message) with
      | error e => exact ⟨_, rfl, trivial⟩
      | ok _ => exact ⟨_, rfl, trivial⟩

theorem step_of_prepare {id : Guid} (before : c.phase = .preparing) (fresh : w.fresh id = true)
    (h : c.prepare hosts w call id = (w', c')) : c.StepWith current written hosts w call (.drew id) w' c' := by
  unfold prepare at h
  split at h
  next =>
    cases h
    exact .prelude (by rw [before]; trivial) (show SendPhase.Unprepared (.ended none (.threw _)) from trivial)
  next => cases h; exact .prepared before fresh

theorem step_of_published {operation : PublishOperation} {prepared : Prepared} {s : MultiplexerState}
    {taken : Bool} {step : PublishStep} (before : c.phase = .publishing operation prepared)
    (h : operation.next prepared.address (w.multiplexers c.mediator.multiplexer) x = some (s, taken, step))
    (he : c.published (c.handOver w call prepared (written prepared) s taken) prepared (current prepared) step =
      (w', c')) :
    c.StepWith current written hosts w call x w' c' := by
  have same := PublishOperation.next_waiters h
  cases step with
  | continued next => cases he; exact .published before same (Or.inr ⟨next, rfl⟩)
  | finished =>
    cases he
    split
    next waiter hw => exact .published before same (Or.inl ⟨waiter, hw, rfl⟩)
    next hn => exact .unconfirmed before same hn
  | failed e =>
    have why := PublishOperation.next_failed h
    simp only [published] at he
    split at he
    next known => cases he; exact .failed before same why known
    next unknown => cases he; exact .escaped before same why (by simpa using unknown)

theorem step_of_delay {prepared : Prepared} {waiter : Nat} (before : c.phase = .delaying prepared waiter) :
    c.StepWith current written hosts w call .go w (c.delay hosts w prepared waiter) := by
  unfold delay
  split
  next =>
    unfold TimeSpan.timer
    split
    next => exact .delayed before
    next h =>
      split at h
      next => cases h
      next hn => exact .rejected before (Or.inr (by simpa using hn))
  next hr => exact .rejected before (Or.inl (by simpa using hr))

theorem step_of_nextWith (h : c.nextWith current written hosts w call x = some (w', c')) :
    c.StepWith current written hosts w call x w' c' := by
  unfold nextWith at h
  split at h
  next cancelled hp =>
    cases h
    obtain ⟨phase, he, hu⟩ := enter_unprepared w c cancelled
    rw [he]
    exact .prelude (by rw [hp]; trivial) hu
  next id hp =>
    split at h
    next fresh => exact step_of_prepare hp fresh (Option.some.inj h)
    next => cases h
  next operation prepared x hp =>
    obtain ⟨⟨s, taken, step⟩, hs, he⟩ := Option.map_eq_some_iff.mp h
    exact step_of_published hp hs he
  next prepared waiter hp => cases h; exact step_of_delay hp
  next timeOut prepared waiter hp =>
    split at h
    next => cases h
    next done => cases h; exact .answered hp done
    next e done => cases h; exact .aborted hp done
  next timeOut prepared waiter cancelled hp =>
    split at h
    next => cases h
    next =>
      cases cancelled with
      | true => cases h; exact .cancelled hp
      | false => cases h; exact .timedOut hp
  next => cases h

theorem step_of_next (h : c.next hosts w call x = some (w', c')) : c.Step hosts w call x w' c' := step_of_nextWith h

end SendCall
end RabbitMediator
