import RabbitMediator.Disposal
import RabbitMediator.RequestCall
import RabbitMediator.SendCall

namespace RabbitMediator

open Interleaving Registry Rendezvous

/-- A response waits for no ack: its `Result` is a field that is written before the task is completed. -/
def responseProtocol : Protocol Guid Response := ⟨Response.correlationId, true⟩

def ackProtocol : Protocol Guid SentObjectAck := ⟨SentObjectAck.correlationId, false⟩

/-- What runs at the same time: calls, deliveries of objects that go to a consumer, deliveries of responses
and of acks at the awaiters of a multiplexer, and disposals. -/
inductive Thread
  | request (call : RequestCall)
  | send (call : SendCall)
  | delivery (mediator : MediatorRef) (sentObject : SentObject) (done : Bool)
  | response (multiplexer : Nat) (handler : Handler Response)
  | ack (multiplexer : Nat) (handler : Handler SentObjectAck)
  | disposal (d : Disposal)

namespace Thread

def start (w : World) : Thread → Bool
  | .request call => match call.phase with
    | .entered => true
    | _ => false
  | .send call => match call.phase with
    | .entered => true
    | _ => false
  | .delivery _ sentObject done => w.delivers sentObject && !done
  | .response _ (.received r) => w.responds r
  | .ack _ (.received a) => w.acknowledges a
  | .disposal d => match d.phase with
    | .entered => true
    | _ => false
  | _ => false

/-- Delivery number `i` leaves its run behind, with all it has published. A request object that its consumer
has passed on by then carries what was written into it. -/
def deliver (hosts : Hosts) (w : World) (i : Nat) (m : MediatorRef) (environment : Environment) :
    SentObject → World
  | .request q => { w with
      requestRuns :=
        ⟨{ environment with reissued := w.reissued.lookup i }, hosts.mediator m, q⟩ :: w.requestRuns }
  | .message message => { w with messageRuns := ⟨environment, hosts.mediator m, message⟩ :: w.messageRuns }

def next (hosts : Hosts) (w : World) (i : Nat) : Thread → Occurrence → Option (World × Thread)
  | .request call, x => (call.next hosts w i x).map fun p => (p.1, .request p.2)
  | .send call, x => (call.next hosts w i x).map fun p => (p.1, .send p.2)
  | .delivery m sentObject false, .handled environment =>
    -- into the response another `SendResponse` has written the id of its own request
    if environment.restamped.all fun s => w.carries s.correlationId then
      some (deliver hosts w i m environment sentObject, .delivery m sentObject true)
    else none
  | .response n handler, .go =>
    (handler.next responseProtocol (w.responseWaiters n)).map fun p =>
      (w.setResponseWaiters n p.1, .response n p.2)
  | .ack n handler, .go =>
    (handler.next ackProtocol (w.targetAckWaiters n)).map fun p => (w.setTargetAckWaiters n p.1, .ack n p.2)
  | .disposal d, x => (d.next w x).map fun p => (p.1, .disposal p.2)
  | _, _ => none

/-- Everything a thread can do in one step. -/
inductive Step (hosts : Hosts) (w : World) (i : Nat) : Thread → Occurrence → World → Thread → Prop
  | request {c c' x w'} (h : c.Step hosts w i x w' c') : Step hosts w i (.request c) x w' (.request c')
  | send {c c' x w'} (h : c.Step hosts w i x w' c') : Step hosts w i (.send c) x w' (.send c')
  | delivered {m sentObject environment}
      (carried : ∀ s, environment.restamped = some s → w.carries s.correlationId = true) :
      Step hosts w i (.delivery m sentObject false) (.handled environment)
        (deliver hosts w i m environment sentObject) (.delivery m sentObject true)
  | response {n handler handler' r}
      (h : Handler.next responseProtocol (w.responseWaiters n) handler = some (r, handler')) :
      Step hosts w i (.response n handler) .go (w.setResponseWaiters n r) (.response n handler')
  | ack {n handler handler' r}
      (h : Handler.next ackProtocol (w.targetAckWaiters n) handler = some (r, handler')) :
      Step hosts w i (.ack n handler) .go (w.setTargetAckWaiters n r) (.ack n handler')
  | disposal {d d' x w'} (h : d.Step w w' d') : Step hosts w i (.disposal d) x w' (.disposal d')

theorem step_of_next {hosts : Hosts} {w w' : World} {i : Nat} {t t' : Thread} {x : Occurrence}
    (h : t.next hosts w i x = some (w', t')) : t.Step hosts w i x w' t' := by
  cases t with
  | request c =>
    obtain ⟨p, hn, he⟩ := Option.map_eq_some_iff.mp h
    cases he
    exact .request (RequestCall.step_of_next hn)
  | send c =>
    obtain ⟨p, hn, he⟩ := Option.map_eq_some_iff.mp h
    cases he
    exact .send (SendCall.step_of_next hn)
  | delivery m o done =>
    cases done <;> cases x <;> simp only [next, reduceCtorEq] at h
    split at h
    next carried =>
      cases h
      refine .delivered fun s hs => ?_
      rw [hs] at carried
      exact carried
    next => cases h
  | response n handler =>
    cases x with
    | go =>
      obtain ⟨p, hn, he⟩ := Option.map_eq_some_iff.mp h
      cases he
      exact .response hn
    | _ => cases h
  | ack n handler =>
    cases x with
    | go =>
      obtain ⟨p, hn, he⟩ := Option.map_eq_some_iff.mp h
      cases he
      exact .ack hn
    | _ => cases h
  | disposal d =>
    obtain ⟨p, hn, he⟩ := Option.map_eq_some_iff.mp h
    cases he
    exact .disposal (Disposal.step_of_next hn)

def requestCall : Thread → Option RequestCall
  | .request call => some call
  | _ => none

theorem eq_of_requestCall {t : Thread} {call : RequestCall} (h : t.requestCall = some call) :
    t = .request call := by
  cases t with
  | request c => exact congrArg Thread.request (Option.some.inj h)
  | _ => cases h

end Thread

def system (hosts : Hosts) : Threads World Thread Occurrence where
  start := Thread.start
  next w i t x := t.next hosts w i x

/-- How `HandleMessage` ends when its handler does. -/
def handledAs : Handler Response → Option (Except Exception Bool)
  | .completed => some (.ok true)
  | .missed => some (.ok false)
  | .faulted _ => some (.error setResultTwice)
  | _ => none

/-- A handler that nobody disturbs ends as `HandleMessage` does with what `Remove` and `SetResult` find. -/
theorem handledAs_handleMessage {env : Environment} {mediator : Mediator} {r : Response}
    {c : RabbitMultiplexerMediatorConfiguration} (hc : env.configuration = some c)
    (hm : c.sentTypeToConsumerMapping.lookup r.type = none) (s : ResponseWaiters)
    (found : env.removedWaiter = s.entries.lookup r.correlationId)
    (set : env.setResult = if env.removedWaiter.all fun w => s.completion w = .pending then .ok ()
      else .error setResultTwice) :
    handledAs (Handler.run responseProtocol 4 (s, .received r)).2 =
      some (handleMessage env mediator (.response r)).result := by
  have key : responseProtocol.key r = r.correlationId := rfl
  rw [handleMessage_response hc hm, set, found, Handler.run_received, key]
  cases s.entries.lookup r.correlationId with
  | none => rfl
  | some w =>
    by_cases hp : s.completion w = .pending
    · simp [handledAs, hp, Except.map]
    · simp [handledAs, hp, Except.map]

def System.init : Config World Thread := ⟨.initial, []⟩

/-- Steps of one thread, one after the other. -/
def steps (i : Nat) (xs : List Occurrence) : List (Action Thread Occurrence) := xs.map (.step i)

def testHosts : Hosts where
  instanceId _ := testMediator.instanceId
  scopeId _ := testMediator.scopeId
  configuration _ := testConfiguration

def testCall : RequestCall := ⟨⟨0, 0⟩, testRequest, none, none, true, .entered⟩

def testSend : SendCall := ⟨⟨0, 0⟩, .message testMessage, true, none, .entered⟩

/-- What happens to the first request of a response type until it has its id, if nothing fails. -/
def issues (id : Guid) : List Occurrence :=
  [.checked false, .go, .go, .go, .go, .ended (.ok ()), .go] ++ List.replicate 7 (.ended (.ok ())) ++
    [.go, .go, .drew id]

/-- Its publication, if nothing fails, and the start of its timer. -/
def publishes : List Occurrence :=
  [.go, .ended (.ok ()), .ended (.ok ()), .ended (.ok ()), .ended (.ok ()), .published ⟨true, .ok ()⟩, .go]

/-- A request as its call publishes it under the id, when neither receiver nor exchange is new. -/
def publishesAgain (id : Guid) : List Occurrence :=
  [.checked false, .go, .go, .go, .go, .drew id, .go, .ended (.ok ()), .ended (.ok ()),
    .published ⟨true, .ok ()⟩, .go]

/-- The test request as its call publishes it, and what its consumer answers. -/
def testPublished : Request := testRequest.issued testMediator.getInstanceInformation ⟨7⟩ tenSeconds

def testAnswer : Response :=
  ⟨testAnyTargetedResponse, testAnyTargetedResponse_isResponse,
    some testMediator.getInstanceInformation, ⟨7⟩, false, some testMediator.getInstanceInformation,
    true, none, false, false, "TestRequiredString"⟩

def testRequestRun : List (Action Thread Occurrence) :=
  .start (.request testCall) :: steps 0 (issues ⟨7⟩ ++ publishes)

/-- The request is issued and published, its consumer answers, and the response has arrived. -/
def testAnswerRun : List (Action Thread Occurrence) :=
  testRequestRun ++ [.start (.delivery ⟨0, 0⟩ (.request testPublished) false)] ++
    steps 1 [.handled (testEnvironment (.request testPublished))] ++
    [.start (.response 0 (.received testAnswer))]

end RabbitMediator
