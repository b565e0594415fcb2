import RabbitMediator.EnsureReceiver
import RabbitMediator.Publish

namespace RabbitMediator

open Registry

/-- What a call of `Request` has once its awaiter is added. -/
structure Issued where
  request : Request
  waiter : Nat
  address : Address
  timeOut : TimeSpan

inductive RequestOutcome
  | threw (e : Exception)
  /-- A response that `CreateFailureResponse` made. -/
  | failed (response : Response)
  /-- A response that was received. -/
  | received (response : Response)

inductive RequestPhase
  | entered
  | looking
  | ensuring (receiver : EnsureReceiver)
  | issuing
  | publishing (operation : PublishOperation) (issued : Issued)
  | delaying (issued : Issued)
  | waiting (issued : Issued)
  | ended (issued : Option Issued) (outcome : RequestOutcome)

/-- A call of `Request` or `TryRequest`. A consumer may make it with the very object that was delivered to it:
`forwards` is the number of that delivery. -/
structure RequestCall where
  mediator : MediatorRef
  request : Request
  forwards : Option Nat
  responseTimeOut : Option TimeSpan
  throwOnFailure : Bool
  phase : RequestPhase

namespace RequestCall

/-- `new BasicProperties` with the expiration of the request. -/
def publishing (call : Nat) (issued : Issued) : Publishing Request :=
  ⟨call, issued.request, issued.address, true, some (toString issued.timeOut.toInt64Milliseconds)⟩

def goesTo (c : RequestCall) (phase : RequestPhase) : RequestCall := { c with phase := phase }

def throws (c : RequestCall) (issued : Option Issued) (e : Exception) : RequestCall :=
  c.goesTo (.ended issued (.threw e))

def useTimeout (hosts : Hosts) (c : RequestCall) : TimeSpan :=
  c.responseTimeOut.getD (hosts.configuration c.mediator).defaultResponseTimeOut

/-- What the call does after a failed publish or a timeout: throw, or hand back a failure. -/
def gaveUp (hosts : Hosts) (c : RequestCall) (issued : Issued) (timedOut sendFailure : Bool)
    (e : Exception) : RequestOutcome :=
  if c.throwOnFailure then .threw e
  else match createFailureResponse (hosts.mediator c.mediator) c.request.tResponse c.request.isResponse
      issued.request.correlationId timedOut sendFailure with
    | .ok response => .failed response
    | .error e => .threw e

/-- `(TResponse?)awaiter.Result ?? throw new InvalidCastException()`. -/
def castResult (c : RequestCall) (r : ResponseWaiters) (waiter : Nat) : RequestOutcome :=
  match r.awaiters[waiter]?.bind Awaiter.result with
  | some response =>
    if response.type.isAssignableTo c.request.tResponse then .received response else .threw invalidCast
  | none => .threw invalidCast

def enter (w : World) (c : RequestCall) (cancelled : Bool) : RequestCall :=
  if (w.mediators c.mediator).disposed then c.throws none objectDisposed
  else if cancelled then c.throws none operationCanceled
  else match guardTargetIsSet (.request c.request) with
    | .error e => c.throws none e
    | .ok _ => c.goesTo .looking

def ensured (c : RequestCall) : EnsureReceiver → RequestCall
  | .returned => c.goesTo .issuing
  | .threw e => c.throws none e
  | receiver => c.goesTo (.ensuring receiver)

/-- The request with its sender, its id and its timeout, and the awaiter it is about to get. -/
def issuedAs (hosts : Hosts) (w : World) (c : RequestCall) (id : Guid) (address : Address) : Issued :=
  ⟨c.request.issued (hosts.mediator c.mediator).getInstanceInformation id (c.useTimeout hosts),
    (w.responseWaiters c.mediator.multiplexer).awaiters.length, address, c.useTimeout hosts⟩

/-- The sender, the id and the timeout are written into the object that the call was given. -/
def reissue (hosts : Hosts) (w : World) (c : RequestCall) (id : Guid) : World :=
  { w with reissued := match c.forwards with
      | some delivery => (delivery, ⟨hosts.mediator c.mediator, id, c.useTimeout hosts⟩) :: w.reissued
      | none => w.reissued }

def addWaiter (w : World) (call : Nat) (c : RequestCall) (id : Guid) : World :=
  { w.setResponseWaiters c.mediator.multiplexer
      ((w.responseWaiters c.mediator.multiplexer).add id c.mediator) with
    issued := (id, call) :: w.issued }

def issue (hosts : Hosts) (w : World) (call : Nat) (c : RequestCall) (id : Guid) : World × RequestCall :=
  match addressOf (.request c.request.tResponse) (.request c.request) with
  | .error e => (w, c.throws none e)
  | .ok address =>
    (c.addWaiter (c.reissue hosts w id) call id,
      c.goesTo (.publishing .lookUpExchange (c.issuedAs hosts w id address)))

/-- The world after a step of the publication, at which the broker may have taken the request. -/
def handOver (w : World) (call : Nat) (c : RequestCall) (issued : Issued) (s : MultiplexerState)
    (taken : Bool) : World :=
  let w := w.setMultiplexer c.mediator.multiplexer s
  if taken then { w with requests := publishing call issued :: w.requests } else w

def removeWaiter (w : World) (c : RequestCall) (issued : Issued) : World :=
  w.setResponseWaiters c.mediator.multiplexer
    ((w.responseWaiters c.mediator.multiplexer).remove issued.request.correlationId)

def published (hosts : Hosts) (w : World) (c : RequestCall) (issued : Issued) :
    PublishStep → World × RequestCall
  | .continued operation => (w, c.goesTo (.publishing operation issued))
  | .finished => (w, c.goesTo (.delaying issued))
  | .failed e =>
    if e.isRabbitMQClientException then
      (c.removeWaiter w issued, c.goesTo (.ended (some issued)
        (c.gaveUp hosts issued false true (rabbitMediatorSendFailure issued.request e))))
    else (w, c.throws (some issued) e)

/-- The wait is over without the awaiter's task. -/
def gaveUpWaiting (hosts : Hosts) (c : RequestCall) (issued : Issued) (cancelled : Bool) : RequestOutcome :=
  if cancelled then .threw operationCanceled
  else c.gaveUp hosts issued true false (rabbitMediatorTimeout issued.request issued.timeOut)

/-- One step of call number `call`. Each awaited operation may end in any way. -/
def next (hosts : Hosts) (w : World) (call : Nat) (c : RequestCall) (x : Occurrence) :
    Option (World × RequestCall) :=
  match c.phase, x with
  | .entered, .checked cancelled => some (w, c.enter w cancelled)
  | .looking, .go =>
    some (w, if (w.mediators c.mediator).registered then c.goesTo (.ensuring .entered)
      else c.throws none (notRegistered (hosts.mediator c.mediator)))
  | .ensuring receiver, x =>
    (receiver.next hosts c.mediator c.request.tResponse (w.mediators c.mediator) x).map fun p =>
      (w.setMediator c.mediator p.1, c.ensured p.2)
  | .issuing, .drew id => if w.fresh id then some (c.issue hosts w call id) else none
  | .publishing operation issued, x =>
    (operation.next issued.address (w.multiplexers c.mediator.multiplexer) x).map fun p =>
      c.published hosts (c.handOver w call issued p.1 p.2.1) issued p.2.2
  | .delaying issued, .go =>
    some (w, match issued.timeOut.timer with
      | .ok _ => c.goesTo (.waiting issued)
      | .error e => c.throws (some issued) e)
  | .waiting issued, .completed =>
    match (w.responseWaiters c.mediator.multiplexer).completion issued.waiter with
    | .pending => none
    | .ranToCompletion => some (w, c.goesTo (.ended (some issued)
        (c.castResult (w.responseWaiters c.mediator.multiplexer) issued.waiter)))
    | .faulted e => some (w, c.throws (some issued) e.exception)
  | .waiting issued, .elapsed cancelled =>
    -- an infinite timer ends only when the token ends it
    if issued.timeOut.milliseconds = -1 && !cancelled then none
    else some (c.removeWaiter w issued,
      c.goesTo (.ended (some issued) (c.gaveUpWaiting hosts issued cancelled)))
  | _, _ => none

end RequestCall

/-- The call has added no awaiter, and if it is over, it threw. -/
def RequestPhase.Unissued : RequestPhase → Prop
  | .entered | .looking | .ensuring _ | .issuing | .ended none (.threw _) => True
  | _ => False

def RequestPhase.issued : RequestPhase → Option Issued
  | .publishing _ issued | .delaying issued | .waiting issued => some issued
  | .ended issued _ => issued
  | _ => none

theorem RequestPhase.Unissued.issued {phase : RequestPhase} (h : phase.Unissued) : phase.issued = none := by
  unfold RequestPhase.Unissued at h
  split at h <;> first | rfl | exact h.elim

/-- Everything a call can do in one step. -/
inductive RequestCall.Step (hosts : Hosts) (w : World) (call : Nat) (c : RequestCall) :
    Occurrence → World → RequestCall → Prop
  | prelude {x s phase} (before : c.phase.Unissued) (after : phase.Unissued) :
      Step hosts w call c x (w.setMediator c.mediator s) (c.goesTo phase)
  | issued {id address} (before : c.phase = .issuing) (fresh : w.fresh id = true) :
      Step hosts w call c (.drew id) (c.addWaiter (c.reissue hosts w id) call id)
        (c.goesTo (.publishing .lookUpExchange (c.issuedAs hosts w id address)))
  | published {x operation issued s taken phase} (before : c.phase = .publishing operation issued)
      (same : s.responseWaiters = w.responseWaiters c.mediator.multiplexer ∧
        s.targetAckWaiters = w.targetAckWaiters c.mediator.multiplexer)
      (after : phase = .delaying issued ∨ ∃ next, phase = .publishing next issued) :
      Step hosts w call c x (c.handOver w call issued s taken) (c.goesTo phase)
  | failed {x operation issued s taken e} (before : c.phase = .publishing operation issued)
      (same : s.responseWaiters = w.responseWaiters c.mediator.multiplexer ∧
        s.targetAckWaiters = w.targetAckWaiters c.mediator.multiplexer)
      (why : x.failure = some e) (known : e.isRabbitMQClientException = true) :
      Step hosts w call c x (c.removeWaiter (c.handOver w call issued s taken) issued)
        (c.goesTo (.ended (some issued)
          (c.gaveUp hosts issued false true (rabbitMediatorSendFailure issued.request e))))
  | escaped {x operation issued s taken e} (before : c.phase = .publishing operation issued)
      (same : s.responseWaiters = w.responseWaiters c.mediator.multiplexer ∧
        s.targetAckWaiters = w.targetAckWaiters c.mediator.multiplexer)
      (why : x.failure = some e) (unknown : e.isRabbitMQClientException = false) :
      Step hosts w call c x (c.handOver w call issued s taken) (c.throws (some issued) e)
  | delayed {issued} (before : c.phase = .delaying issued) :
      Step hosts w call c .go w (c.goesTo (.waiting issued))
  | rejected {issued e} (before : c.phase = .delaying issued) (why : issued.timeOut.timer = .error e) :
      Step hosts w call c .go w (c.throws (some issued) e)
  | answered {issued} (before : c.phase = .waiting issued)
      (done : (w.responseWaiters c.mediator.multiplexer).completion issued.waiter = .ranToCompletion) :
      Step hosts w call c .completed w (c.goesTo (.ended (some issued)
        (c.castResult (w.responseWaiters c.mediator.multiplexer) issued.waiter)))
  | aborted {issued e} (before : c.phase = .waiting issued)
      (done : (w.responseWaiters c.mediator.multiplexer).completion issued.waiter = .faulted e) :
      Step hosts w call c .completed w (c.throws (some issued) e.exception)
  | gaveUp {issued cancelled} (before : c.phase = .waiting issued) :
      Step hosts w call c (.elapsed cancelled) (c.removeWaiter w issued)
        (c.goesTo (.ended (some issued) (c.gaveUpWaiting hosts issued cancelled)))

namespace RequestCall

variable {hosts : Hosts} {w w' : World} {call : Nat} {c c' : RequestCall} {x : Occurrence}

theorem responseWaiters_addWaiter (id : Guid) :
    (c.addWaiter (c.reissue hosts w id) call id).responseWaiters c.mediator.multiplexer =
      (w.responseWaiters c.mediator.multiplexer).add id c.mediator :=
  World.responseWaiters_setResponseWaiters_self _

theorem enter_unissued (w : World) (c : RequestCall) (cancelled : Bool) :
    ∃ phase : RequestPhase, c.enter w cancelled = c.goesTo phase ∧ phase.Unissued := by
  unfold enter
  split
  next => exact ⟨_, rfl, trivial⟩
  next =>
    split
    next => exact ⟨_, rfl, trivial⟩
    next =>
      cases guardTargetIsSet (.request c.request) with
      | error e => exact ⟨_, rfl, trivial⟩
      | ok _ => exact ⟨_, rfl, trivial⟩

theorem ensured_unissued (c : RequestCall) (receiver : EnsureReceiver) :
    ∃ phase : RequestPhase, c.ensured receiver = c.goesTo phase ∧ phase.Unissued := by
  cases receiver <;> exact ⟨_, rfl, trivial⟩

theorem Step.stay (phase : RequestPhase) (before : c.phase.Unissued) (after : phase.Unissued) :
    c.Step hosts w call x w (c.goesTo phase) := by
  have same : w.setMediator c.mediator (w.mediators c.mediator) = w := by simp [World.setMediator]
  have h : c.Step hosts w call x (w.setMediator c.mediator (w.mediators c.mediator)) (c.goesTo phase) :=
    .prelude before after
  rwa [same] at h

theorem step_of_issue {id : Guid} (before : c.phase = .issuing) (fresh : w.fresh id = true)
    (h : c.issue hosts w call id = (w', c')) : c.Step hosts w call (.drew id) w' c' := by
  unfold issue at h
  split at h
  next =>
    cases h
    exact .stay (.ended none _) (by rw [before]; trivial) trivial
  next => cases h; exact .issued before fresh

theorem step_of_published {operation : PublishOperation} {issued : Issued} {s : MultiplexerState}
    {taken : Bool} {step : PublishStep} (before : c.phase = .publishing operation issued)
    (h : operation.next issued.address (w.multiplexers c.mediator.multiplexer) x = some (s, taken, step))
    (he : c.published hosts (c.handOver w call issued s taken) issued step = (w', c')) :
    c.Step hosts w call x w' c' := by
  have same := PublishOperation.next_waiters h
  cases step with
  | continued next => cases he; exact .published before same (Or.inr ⟨next, rfl⟩)
  | finished => cases he; exact .published before same (Or.inl rfl)
  | failed e =>
    have why := PublishOperation.next_failed h
    simp only [published] at he
    split at he
    next known => cases he; exact .failed before same why known
    next unknown => cases he; exact .escaped before same why (by simpa using unknown)

theorem step_of_next (h : c.next hosts w call x = some (w', c')) : c.Step hosts w call x w' c' := by
  unfold next at h
  split at h
  next cancelled hp =>
    cases h
    obtain ⟨phase, he, hu⟩ := enter_unissued w c cancelled
    rw [he]
    exact .stay phase (by rw [hp]; trivial) hu
  next hp =>
    cases h
    have before : c.phase.Unissued := by rw [hp]; trivial
    split
    · exact .stay (.ensuring .entered) before trivial
    · exact .stay (.ended none _) before trivial
  next receiver x hp =>
    obtain ⟨⟨s, receiver'⟩, _, he⟩ := Option.map_eq_some_iff.mp h
    cases he
    obtain ⟨phase, he, hu⟩ := ensured_unissued c receiver'
    rw [he]
    exact .prelude (by rw [hp]; trivial) hu
  next id hp =>
    split at h
    next fresh => exact step_of_issue hp fresh (Option.some.inj h)
    next => cases h
  next operation issued x hp =>
    obtain ⟨⟨s, taken, step⟩, hs, he⟩ := Option.map_eq_some_iff.mp h
    exact step_of_published hp hs he
  next issued hp =>
    cases h
    split
    next => exact .delayed hp
    next e he => exact .rejected hp he
  next issued hp =>
    split at h
    next => cases h
    next done => cases h; exact .answered hp done
    next e done => cases h; exact .aborted hp done
  next issued cancelled hp =>
    split at h
    next => cases h
    next => cases h; exact .gaveUp hp
  next => cases h

end RequestCall
end RabbitMediator
