import Mathlib.Logic.Function.Basic
import RabbitMediator.Answering
import RabbitMediator.Failures
import RabbitMediator.Rendezvous
import RabbitMediator.Topology

namespace RabbitMediator

open Rendezvous

/-- A mediator object: its multiplexer, and its number there. -/
structure MediatorRef where
  multiplexer : Nat
  number : Nat
deriving DecidableEq

/-- What never changes about the multiplexers and mediators: their ids and their configurations. -/
structure Hosts where
  instanceId : Nat → GeneratedId
  scopeId : MediatorRef → GeneratedId
  configuration : MediatorRef → RabbitMediatorConfiguration

def Hosts.mediator (hosts : Hosts) (m : MediatorRef) : Mediator :=
  ⟨hosts.instanceId m.multiplexer, hosts.scopeId m⟩

/-- The exception `AbortWaiters` sets, and the only one that is ever set on an awaiter. -/
inductive Abort
  | disposed
deriving DecidableEq

def Abort.exception : Abort → Exception
  | .disposed => objectDisposed

abbrev ResponseWaiters := Registry Guid MediatorRef Response Abort

abbrev TargetAckWaiters := Registry Guid MediatorRef SentObjectAck Abort

structure MultiplexerState where
  disposed : Bool
  declaredSendExchanges : List String
  responseWaiters : ResponseWaiters
  targetAckWaiters : TargetAckWaiters

/-- A mediator and its entry on the multiplexer. `registered` says that the entry is there, and
`semaphoreTaken` that somebody is inside its `EnsureReceiverSemaphore`. -/
structure MediatorState where
  disposed : Bool
  registered : Bool
  registeredConsumerTypes : List SentType
  semaphoreTaken : Bool

/-- A call of `BasicPublishAsync`, with the thread that made it. -/
structure Publishing (α : Type) where
  call : Nat
  body : α
  address : Address
  mandatory : Bool
  expiration : Option String

/-- A run of `HandleRequest`. -/
structure RequestRun where
  environment : Environment
  mediator : Mediator
  request : Request

/-- A run of `HandleMessage`. -/
structure MessageRun where
  environment : Environment
  mediator : Mediator
  message : IMessage

/-- The responses a run has sent, as they arrive. -/
def RequestRun.responses (h : RequestRun) : List Response :=
  (publishedResponses (handleRequest h.environment h.mediator h.request).effects).map
    fun p => p.2.overTheWire

def MessageRun.acks (h : MessageRun) : List SentObjectAck :=
  (handleMessage h.environment h.mediator h.message).effects.filterMap fun
    | .publishedAck _ ack => some ack
    | _ => none

/-- All multiplexers, and what the broker was given so far. Each id that was ever drawn is kept with the
thread that drew it, and whatever calls of `Request` have written into the object of a delivery with its number, the
last first. -/
structure World where
  multiplexers : Nat → MultiplexerState
  mediators : MediatorRef → MediatorState
  issued : List (Guid × Nat)
  requests : List (Publishing Request)
  messages : List (Publishing IMessage)
  requestRuns : List RequestRun
  messageRuns : List MessageRun
  reissued : List (Nat × Reissue)

/-- What the outside decides at a step of a thread. -/
inductive Occurrence
  /-- The step depends on the state alone. -/
  | go
  | checked (cancelled : Bool)
  | drew (id : Guid)
  /-- An awaited operation came to its end. -/
  | ended (result : Except Exception Unit)
  | published (publication : Publication)
  /-- `WhenAny` returned the task of the awaiter. -/
  | completed
  /-- `WhenAny` returned the task of the timer. -/
  | elapsed (cancelled : Bool)
  | handled (environment : Environment)
  /-- The next entry of an enumeration, or its end. -/
  | visited (entry : Option Guid)

/-- The exception an awaited operation ended with. -/
def Occurrence.failure : Occurrence → Option Exception
  | .ended (.error e) => some e
  | .published ⟨_, .error e⟩ => some e
  | _ => none

namespace World

/-- Nothing has happened yet: every mediator is registered and nobody waits. -/
def initial : World where
  multiplexers _ := ⟨false, [], .empty, .empty⟩
  mediators _ := ⟨false, true, [], false⟩
  issued := []
  requests := []
  messages := []
  requestRuns := []
  messageRuns := []
  reissued := []

def setMultiplexer (w : World) (n : Nat) (s : MultiplexerState) : World :=
  { w with multiplexers := Function.update w.multiplexers n s }

def setMediator (w : World) (m : MediatorRef) (s : MediatorState) : World :=
  { w with mediators := Function.update w.mediators m s }

def responseWaiters (w : World) (n : Nat) : ResponseWaiters := (w.multiplexers n).responseWaiters

def targetAckWaiters (w : World) (n : Nat) : TargetAckWaiters := (w.multiplexers n).targetAckWaiters

def setResponseWaiters (w : World) (n : Nat) (r : ResponseWaiters) : World :=
  w.setMultiplexer n { w.multiplexers n with responseWaiters := r }

def setTargetAckWaiters (w : World) (n : Nat) (r : TargetAckWaiters) : World :=
  w.setMultiplexer n { w.multiplexers n with targetAckWaiters := r }

/-- `Guid.NewGuid` returns no id twice. -/
def fresh (w : World) (id : Guid) : Bool := w.issued.all fun p => p.1 ≠ id

/-- Some request object bears this id: as it was published, or since a call was given it. -/
def carries (w : World) (id : Guid) : Bool :=
  w.requests.any (fun p => p.body.correlationId = id) || w.reissued.any fun p => p.2.correlationId = id

/-- The responses that may arrive: those some run has sent, and those that were sent as messages. -/
def responds (w : World) (r : Response) : Bool :=
  w.requestRuns.any (fun h => r ∈ h.responses) ||
    w.messages.any (fun p => match p.body with
      | .response sent => sent.overTheWire = r
      | .message _ => false)

def acknowledges (w : World) (ack : SentObjectAck) : Bool := w.messageRuns.any fun h => ack ∈ h.acks

/-- What the broker may deliver, any number of times. -/
def delivers (w : World) : SentObject → Bool
  | .request q => w.requests.any fun p => p.body = q
  | .message (.message m) => w.messages.any fun p => p.body = .message m
  | .message (.response r) => w.responds r

/-- Nothing was drawn, published or handled in between. -/
structure Quiet (w w' : World) : Prop where
  issued : w'.issued = w.issued
  requests : w'.requests = w.requests
  messages : w'.messages = w.messages
  requestRuns : w'.requestRuns = w.requestRuns
  messageRuns : w'.messageRuns = w.messageRuns
  reissued : w'.reissued = w.reissued

theorem quiet_setMultiplexer (w : World) (n : Nat) (s : MultiplexerState) :
    w.Quiet (w.setMultiplexer n s) :=
  ⟨rfl, rfl, rfl, rfl, rfl, rfl⟩

theorem quiet_setMediator (w : World) (m : MediatorRef) (s : MediatorState) :
    w.Quiet (w.setMediator m s) :=
  ⟨rfl, rfl, rfl, rfl, rfl, rfl⟩

section Reads

variable {w : World} {n k : Nat} {m : MediatorRef}

@[simp] theorem multiplexers_setMultiplexer_self (s : MultiplexerState) :
    (w.setMultiplexer n s).multiplexers n = s := by
  simp [setMultiplexer]

@[simp] theorem multiplexers_setMultiplexer_ne (s : MultiplexerState) (h : k ≠ n) :
    (w.setMultiplexer n s).multiplexers k = w.multiplexers k := by
  simp [setMultiplexer, h]

@[simp] theorem responseWaiters_setResponseWaiters_self (r : ResponseWaiters) :
    (w.setResponseWaiters n r).responseWaiters n = r := by
  simp [responseWaiters, setResponseWaiters]

@[simp] theorem responseWaiters_setResponseWaiters_ne (r : ResponseWaiters) (h : k ≠ n) :
    (w.setResponseWaiters n r).responseWaiters k = w.responseWaiters k := by
  simp [responseWaiters, setResponseWaiters, h]

@[simp] theorem targetAckWaiters_setResponseWaiters (r : ResponseWaiters) :
    (w.setResponseWaiters n r).targetAckWaiters k = w.targetAckWaiters k := by
  by_cases h : k = n
  · simp [h, targetAckWaiters, setResponseWaiters]
  · simp [targetAckWaiters, setResponseWaiters, h]

@[simp] theorem targetAckWaiters_setTargetAckWaiters_self (r : TargetAckWaiters) :
    (w.setTargetAckWaiters n r).targetAckWaiters n = r := by
  simp [targetAckWaiters, setTargetAckWaiters]

@[simp] theorem targetAckWaiters_setTargetAckWaiters_ne (r : TargetAckWaiters) (h : k ≠ n) :
    (w.setTargetAckWaiters n r).targetAckWaiters k = w.targetAckWaiters k := by
  simp [targetAckWaiters, setTargetAckWaiters, h]

@[simp] theorem responseWaiters_setTargetAckWaiters (r : TargetAckWaiters) :
    (w.setTargetAckWaiters n r).responseWaiters k = w.responseWaiters k := by
  by_cases h : k = n
  · simp [h, responseWaiters, setTargetAckWaiters]
  · simp [responseWaiters, setTargetAckWaiters, h]

/-- A new state of a multiplexer with the same awaiters leaves all awaiters as they are. -/
theorem responseWaiters_setMultiplexer {s : MultiplexerState}
    (same : s.responseWaiters = w.responseWaiters n) (k : Nat) :
    (w.setMultiplexer n s).responseWaiters k = w.responseWaiters k := by
  by_cases h : k = n
  · simpa [h, responseWaiters] using same
  · simp [responseWaiters, h]

theorem targetAckWaiters_setMultiplexer {s : MultiplexerState}
    (same : s.targetAckWaiters = w.targetAckWaiters n) (k : Nat) :
    (w.setMultiplexer n s).targetAckWaiters k = w.targetAckWaiters k := by
  by_cases h : k = n
  · simpa [h, targetAckWaiters] using same
  · simp [targetAckWaiters, h]

@[simp] theorem multiplexers_setMediator (s : MediatorState) :
    (w.setMediator m s).multiplexers = w.multiplexers := rfl

end Reads
end World
end RabbitMediator
