import RabbitMediator.Consumption
import RabbitMediator.Interleaving
import RabbitMediator.World

namespace RabbitMediator.SharedQueue

open Interleaving

/-- Where a copy is: in the queue, handed out under a delivery tag of a channel, or settled for good. -/
inductive Place
  | queued
  | delivered (channel deliveryTag : Nat)
  | acked
  | discarded
deriving DecidableEq

/-- A copy of an object as the broker keeps it, with what was handed to `Consume` because of it. -/
structure Copy where
  sentObject : SentObject
  place : Place
  consumed : List SentObject

/-- A mediator that may consume the queue. `configuration` is its entry on its multiplexer, and
`consuming` says that the broker delivers to it. -/
structure Member where
  configureDone : Bool
  configureLocked : Bool
  disposed : Bool
  consuming : Bool
  configuration : Option RabbitMultiplexerMediatorConfiguration

/-- The copies in the order they were enqueued, and all mediators. `configureDone` is the flag of each
multiplexer. -/
structure State where
  copies : List Copy
  configureDone : Nat → Bool
  members : MediatorRef → Member

/-- `EnsureConfigured`. -/
inductive ConfigurePhase
  | entered
  | acquiring
  | rechecking
  | connecting
  | listing
  | adding (rest : List (ConsumerType × SentType))
  | ensuring (sentObjectType : SentType) (rest : List (ConsumerType × SentType))
  | releasing
  | ended

/-- The handling of one delivery. The environment is what the handler has read so far, and what it is
about to meet. -/
inductive DeliveryPhase
  | idle
  | arrived (copy : Nat)
  | checking (copy : Nat) (environment : Environment)
  | lookingUp (copy : Nat) (environment : Environment)
  | creating (copy : Nat) (environment : Environment)
  | acting (copy : Nat) (effects : List Effect)

/-- `DisposeAsync`, as far as the queue is concerned. -/
inductive TeardownPhase
  | entered
  | forgetting
  | cancelling
  | ended

/-- What runs at the same time: publications of objects, and each mediator's configuring, deliveries and
disposals. -/
inductive Thread
  | publication (sentObject : SentObject) (done : Bool)
  | configuring (m : MediatorRef) (phase : ConfigurePhase)
  | delivery (m : MediatorRef) (phase : DeliveryPhase)
  | disposal (m : MediatorRef) (phase : TeardownPhase)

inductive Event
  | go
  /-- An awaited operation came to its end. -/
  | ended (result : Except Exception Unit)
  /-- `BasicConsume` has been done. -/
  | subscribed
  | took (copy : Nat)
  | handled (environment : Environment)

def Settlement.place : Settlement → Place
  | .ack => .acked
  | .reject true => .queued
  | .reject false => .discarded

namespace State

/-- Every mediator is created, and the queue is empty. -/
def initial (hosts : Hosts) : State where
  copies := []
  configureDone _ := false
  members m := ⟨false, false, false, false,
    RabbitMultiplexerMediatorConfiguration.created (hosts.configuration m)⟩

def setMember (s : State) (m : MediatorRef) (member : Member) : State :=
  { s with members := Function.update s.members m member }

def modify (s : State) (copy : Nat) (f : Copy → Copy) : State :=
  { s with copies := s.copies.modify copy f }

/-- The broker ends the delivery with the tag on the channel, if that is where the copy is. -/
def settle (s : State) (copy channel deliveryTag : Nat) (how : Settlement) : State :=
  s.modify copy fun c =>
    if c.place = .delivered channel deliveryTag then { c with place := Settlement.place how } else c

/-- What an effect of a handler means for the copy it works on. -/
def perform (s : State) (copy : Nat) : Effect → State
  | .consumed _ o _ => s.modify copy fun c => { c with consumed := c.consumed ++ [o] }
  | .settled channel deliveryTag how => s.settle copy channel deliveryTag how
  | _ => s

end State

/-- One step of `EnsureConfigured`. A failure only gives the lock back. -/
def ConfigurePhase.next (type : SentType) (s : State) (m : MediatorRef) :
    ConfigurePhase → Event → Option (State × ConfigurePhase)
  | .entered, .go => some (s, if (s.members m).configureDone then .ended else .acquiring)
  | .acquiring, .go =>
    if (s.members m).configureLocked then none
    else some (s.setMember m { s.members m with configureLocked := true }, .rechecking)
  | .rechecking, .go => some (s, if (s.members m).configureDone then .releasing else .connecting)
  | .connecting, .ended (.ok _) =>
    some ({ s with configureDone := Function.update s.configureDone m.multiplexer true }, .listing)
  | .connecting, .ended (.error _) => some (s, .releasing)
  | .listing, .go => some (s, match (s.members m).configuration with
    | some configuration => .adding configuration.receivers
    | none => .releasing)
  | .adding ((t, sentObjectType) :: rest), .go =>
    some (s.setMember m { s.members m with
        configuration := (s.members m).configuration.map fun c => c.tryAdd t sentObjectType },
      .ensuring sentObjectType rest)
  | .adding [], .go => some (s.setMember m { s.members m with configureDone := true }, .releasing)
  | .ensuring sentObjectType rest, .subscribed =>
    some (if sentObjectType = type then s.setMember m { s.members m with consuming := true } else s,
      .ensuring sentObjectType rest)
  | .ensuring _ rest, .ended (.ok _) => some (s, .adding rest)
  | .ensuring _ _, .ended (.error _) => some (s, .releasing)
  | .releasing, .go => some (s.setMember m { s.members m with configureLocked := false }, .ended)
  | _, _ => none

/-- The handler reads the flags of the configure runs, then that of the disposal, then the entry of its
mediator, and `GetConsumer` reads that again. What it does then is determined, and happens effect by
effect. -/
def DeliveryPhase.next (hosts : Hosts) (s : State) (m : MediatorRef) (deliveryTag : Nat) :
    DeliveryPhase → Event → Option (State × DeliveryPhase)
  | .idle, .took copy =>
    if (s.members m).consuming && s.copies[copy]?.any (·.place = .queued) then
      some (s.modify copy fun c => { c with place := .delivered m.multiplexer deliveryTag }, .arrived copy)
    else none
  | .arrived copy, .handled environment =>
    some (s, .checking copy { environment with
      configureDone := s.configureDone m.multiplexer
      mediatorConfigureDone := (s.members m).configureDone })
  | .checking copy environment, .go =>
    some (s, .lookingUp copy { environment with disposed := (s.members m).disposed })
  | .lookingUp copy environment, .go =>
    some (s, .creating copy { environment with configuration := (s.members m).configuration })
  | .creating copy environment, .go =>
    some (s, .acting copy (handleSentObjectReceived
      { environment with configurationOfConsumer := (s.members m).configuration }
      (hosts.mediator m) m.multiplexer deliveryTag).effects)
  | .acting copy (e :: rest), .go => some (s.perform copy e, .acting copy rest)
  | _, _ => none

def TeardownPhase.next (s : State) (m : MediatorRef) : TeardownPhase → Event → Option (State × TeardownPhase)
  | .entered, .go => some (s.setMember m { s.members m with disposed := true }, .forgetting)
  | .forgetting, .go =>
    if (s.members m).configuration.isSome then
      some (s.setMember m { s.members m with configuration := none }, .cancelling)
    else some (s, .ended)
  | .cancelling, .ended (.ok _) =>
    some (s.setMember m { s.members m with consuming := false }, .ended)
  | .cancelling, .ended (.error _) => some (s, .ended)
  | _, _ => none

namespace Thread

def start (type : SentType) : Thread → Bool
  | .publication sentObject done => sentObject.type = type && !done
  | .configuring _ .entered => true
  | .delivery _ .idle => true
  | .disposal _ .entered => true
  | _ => false

def next (hosts : Hosts) (type : SentType) (s : State) (i : Nat) : Thread → Event → Option (State × Thread)
  | .publication o false, .go => some ({ s with copies := s.copies ++ [⟨o, .queued, []⟩] }, .publication o true)
  | .configuring m phase, x => (phase.next type s m x).map fun p => (p.1, .configuring m p.2)
  | .delivery m phase, x => (phase.next hosts s m i x).map fun p => (p.1, .delivery m p.2)
  | .disposal m phase, x => (phase.next s m x).map fun p => (p.1, .disposal m p.2)
  | _, _ => none

end Thread

/-- The copy a handler still reads about. -/
def DeliveryPhase.reading : DeliveryPhase → Option Nat
  | .arrived copy | .checking copy _ | .lookingUp copy _ | .creating copy _ => some copy
  | _ => none

/-- What a step of a thread means for the copies. -/
inductive Thread.Step (hosts : Hosts) (s : State) (i : Nat) : Thread → State → Thread → Prop
  | published {o} : Step hosts s i (.publication o false)
      { s with copies := s.copies ++ [⟨o, .queued, []⟩] } (.publication o true)
  | configured {m phase phase' s'} (same : s'.copies = s.copies) :
      Step hosts s i (.configuring m phase) s' (.configuring m phase')
  | disposed {m phase phase' s'} (same : s'.copies = s.copies) :
      Step hosts s i (.disposal m phase) s' (.disposal m phase')
  | took {m copy c} (h : s.copies[copy]? = some c) (queued : c.place = .queued) :
      Step hosts s i (.delivery m .idle)
        (s.modify copy fun c => { c with place := .delivered m.multiplexer i }) (.delivery m (.arrived copy))
  | read {m copy phase phase'} (before : phase.reading = some copy) (after : phase'.reading = some copy) :
      Step hosts s i (.delivery m phase) s (.delivery m phase')
  | decided {m copy environment} : Step hosts s i (.delivery m (.creating copy environment)) s
      (.delivery m (.acting copy (handleSentObjectReceived
        { environment with configurationOfConsumer := (s.members m).configuration }
        (hosts.mediator m) m.multiplexer i).effects))
  | performed {m copy e rest} : Step hosts s i (.delivery m (.acting copy (e :: rest)))
      (s.perform copy e) (.delivery m (.acting copy rest))

section Inversion

variable {hosts : Hosts} {type : SentType} {s s' : State} {m : MediatorRef} {i : Nat} {x : Event}

theorem ConfigurePhase.copies_next {phase phase' : ConfigurePhase}
    (h : phase.next type s m x = some (s', phase')) : s'.copies = s.copies := by
  unfold ConfigurePhase.next at h
  split at h
  next => cases h; rfl
  next => split at h <;> cases h; rfl
  next => cases h; rfl
  next => cases h; rfl
  next => cases h; rfl
  next => cases h; rfl
  next => cases h; rfl
  next => cases h; rfl
  next =>
    cases h
    split <;> rfl
  next => cases h; rfl
  next => cases h; rfl
  next => cases h; rfl
  next => cases h

theorem TeardownPhase.copies_next {phase phase' : TeardownPhase}
    (h : phase.next s m x = some (s', phase')) : s'.copies = s.copies := by
  unfold TeardownPhase.next at h
  split at h
  next => cases h; rfl
  next => split at h <;> cases h <;> rfl
  next => cases h; rfl
  next => cases h; rfl
  next => cases h

theorem DeliveryPhase.step_of_next {phase phase' : DeliveryPhase}
    (h : phase.next hosts s m i x = some (s', phase')) :
    Thread.Step hosts s i (.delivery m phase) s' (.delivery m phase') := by
  unfold DeliveryPhase.next at h
  split at h
  next copy =>
    split at h
    next hq =>
      cases h
      obtain ⟨c, hc, hp⟩ := (Option.any_eq_true _ _).mp (Bool.and_eq_true_iff.mp hq).2
      exact .took hc (by simpa using hp)
    next => cases h
  next => cases h; exact .read rfl rfl
  next => cases h; exact .read rfl rfl
  next => cases h; exact .read rfl rfl
  next => cases h; exact .decided
  next => cases h; exact .performed
  next => cases h

theorem Thread.step_of_next {t t' : Thread} (h : t.next hosts type s i x = some (s', t')) :
    t.Step hosts s i s' t' := by
  unfold Thread.next at h
  split at h
  next => cases h; exact .published
  next =>
    obtain ⟨p, hn, he⟩ := Option.map_eq_some_iff.mp h
    cases he
    exact .configured (ConfigurePhase.copies_next hn)
  next =>
    obtain ⟨p, hn, he⟩ := Option.map_eq_some_iff.mp h
    cases he
    exact DeliveryPhase.step_of_next hn
  next =>
    obtain ⟨p, hn, he⟩ := Option.map_eq_some_iff.mp h
    cases he
    exact .disposed (TeardownPhase.copies_next hn)
  next => cases h

end Inversion

/-- All mediators that consume the shared queue of `type`, and all who publish objects of it. -/
def sharedQueue (hosts : Hosts) (type : SentType) : Threads State Thread Event where
  start _ t := t.start type
  next s i t x := t.next hosts type s i x

def init (hosts : Hosts) : Config State Thread := ⟨.initial hosts, []⟩

end RabbitMediator.SharedQueue
