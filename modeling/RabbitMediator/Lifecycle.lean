import RabbitMediator.EnsureConfigured
import RabbitMediator.Receive
import RabbitMediator.Teardown

namespace RabbitMediator

open Interleaving

/-- Where the handling of one delivery stands, with the effects it had in the end. -/
inductive Handling
  | received
  | delaying
  | handling
  | settled (effects : List Effect)

/-- A delivery for a mediator: its channel and its delivery tag. -/
structure Delivery where
  channel : Nat
  deliveryTag : Nat
  handling : Handling

namespace Delivery

def goesTo (d : Delivery) (h : Handling) : Delivery := { d with handling := h }

/-- `HandleSentObjectReceived`, with its read of the two flags a step of its own. -/
def next (hosts : Hosts) (m : MediatorRef) (x : MultiplexerLife) (l : MediatorLife) (d : Delivery) :
    Event → Option Delivery
  | .go => match d.handling with
    | .received => some (d.goesTo (if !x.configureDone || !l.configureDone then .delaying else .handling))
    | _ => none
  | .handled env =>
    let how (ready : Bool) := (handleSentObjectReceived
      { env with configureDone := ready, mediatorConfigureDone := ready } (hosts.mediator m) d.channel
      d.deliveryTag).effects
    match d.handling with
    | .delaying => some (d.goesTo (.settled (how false)))
    | .handling => some (d.goesTo (.settled (how true)))
    | _ => none
  | _ => none

end Delivery

inductive Activity
  | call (call : MediatorCall)
  | receiver (run : ReceiverRun)
  | teardown (t : Teardown)
  | delivery (d : Delivery)

/-- What runs at the same time, each for its mediator. A `receiver` is the `EnsureReceiver` of a `Request`. -/
structure MediatorThread where
  mediator : MediatorRef
  activity : Activity

structure Lifecycle where
  multiplexers : Nat → MultiplexerLife
  mediators : MediatorRef → MediatorLife

namespace Lifecycle

def closeChannel (s : Lifecycle) (n : Nat) (channel : ReceiveChannel) : Lifecycle where
  multiplexers := Function.update s.multiplexers n
    { s.multiplexers n with closed := Function.update (s.multiplexers n).closed channel true }
  mediators m := if m.multiplexer = n then
    { s.mediators m with topology := (s.mediators m).topology.closeChannel channel } else s.mediators m

def set (s : Lifecycle) (m : MediatorRef) (x : MultiplexerLife) (l : MediatorLife) : Lifecycle where
  multiplexers := Function.update s.multiplexers m.multiplexer x
  mediators := Function.update s.mediators m l

/-- The state after a step for `m`, which may have made the broker close a channel. -/
def after (s : Lifecycle) (m : MediatorRef) (x : MultiplexerLife) (l : MediatorLife) :
    Option ReceiveChannel → Lifecycle
  | none => s.set m x l
  | some channel => (s.set m x l).closeChannel m.multiplexer channel

/-- All multiplexers and mediators as they are created. -/
def created (configuration : MediatorRef → RabbitMultiplexerMediatorConfiguration) : Lifecycle where
  multiplexers _ := ⟨false, ∅, fun _ => false⟩
  mediators m := .created (configuration m)

end Lifecycle

namespace Activity

def start : Activity → Bool
  | .call c => match c.phase with
    | .entered => true
    | _ => false
  | .receiver run => match run.control with
    | .entered => !run.taken
    | _ => false
  | .teardown .entered => true
  | .delivery d => match d.handling with
    | .received => true
    | _ => false
  | _ => false

def next (hosts : Hosts) (m : MediatorRef) (x : MultiplexerLife) (l : MediatorLife) (e : Event) :
    Activity → Option (MultiplexerLife × MediatorLife × Activity × Option ReceiveChannel)
  | .call c => (c.next hosts m x l e).map fun p => (p.1, p.2.1, .call p.2.2.1, p.2.2.2)
  | .receiver run => (run.next hosts m x.closed l e).map fun p => (x, p.1, .receiver p.2.1, p.2.2)
  | .teardown t => (t.next hosts m x l e).map fun p => (p.1, p.2.1, .teardown p.2.2, none)
  | .delivery d => (d.next hosts m x l e).map fun d => (x, l, .delivery d, none)

/-- The run of `EnsureReceiver` that is going on. -/
def run? : Activity → Option ReceiverRun
  | .call c => c.run?
  | .receiver run => some run
  | _ => none

end Activity

def MediatorThread.next (hosts : Hosts) (s : Lifecycle) (t : MediatorThread) (e : Event) :
    Option (Lifecycle × MediatorThread) :=
  (t.activity.next hosts t.mediator (s.multiplexers t.mediator.multiplexer) (s.mediators t.mediator) e).map
    fun p => (s.after t.mediator p.1 p.2.1 p.2.2.2, ⟨t.mediator, p.2.2.1⟩)

def lifecycle (hosts : Hosts) : Threads Lifecycle MediatorThread Event where
  start _ t := t.activity.start
  next s _ t e := t.next hosts s e

/-- Everything a thread can do in one step to its multiplexer and its mediator. -/
inductive Activity.Step (hosts : Hosts) (m : MediatorRef) (x : MultiplexerLife) (l : MediatorLife) :
    Activity → Event → MultiplexerLife → MediatorLife → Activity → Option ReceiveChannel → Prop
  | call {c e x' l' c' closes} (h : c.Step hosts m x l e x' l' c' closes) :
      Step hosts m x l (.call c) e x' l' (.call c') closes
  | receiver {run e l' run' closes} (h : run.Step hosts m x.closed l e l' run' closes) :
      Step hosts m x l (.receiver run) e x l' (.receiver run') closes
  | teardown {t e x' l' t'} (h : Teardown.Step hosts m x l t e x' l' t') :
      Step hosts m x l (.teardown t) e x' l' (.teardown t') none
  | delivery {d d' e} (h : d.next hosts m x l e = some d') :
      Step hosts m x l (.delivery d) e x l (.delivery d') none

section Steps

variable {hosts : Hosts}

theorem Activity.step_of_next {m : MediatorRef} {x x' : MultiplexerLife} {l l' : MediatorLife}
    {a a' : Activity} {e : Event} {closes : Option ReceiveChannel}
    (h : a.next hosts m x l e = some (x', l', a', closes)) : a.Step hosts m x l e x' l' a' closes := by
  cases a with
  | call c =>
    obtain ⟨p, hp, he⟩ := Option.map_eq_some_iff.mp h
    cases he
    exact .call (MediatorCall.step_of_next hp)
  | receiver run =>
    obtain ⟨p, hp, he⟩ := Option.map_eq_some_iff.mp h
    cases he
    exact .receiver (ReceiverRun.step_of_next hp)
  | teardown t =>
    obtain ⟨p, hp, he⟩ := Option.map_eq_some_iff.mp h
    cases he
    exact .teardown (Teardown.step_of_next hp)
  | delivery d =>
    obtain ⟨p, hp, he⟩ := Option.map_eq_some_iff.mp h
    cases he
    exact .delivery hp

theorem MediatorThread.step_of_next {s s' : Lifecycle} {t t' : MediatorThread} {e : Event}
    (h : t.next hosts s e = some (s', t')) : ∃ x l a closes, t' = ⟨t.mediator, a⟩ ∧
      s' = s.after t.mediator x l closes ∧
      t.activity.Step hosts t.mediator (s.multiplexers t.mediator.multiplexer) (s.mediators t.mediator) e
        x l a closes := by
  obtain ⟨⟨x, l, a, closes⟩, hp, he⟩ := Option.map_eq_some_iff.mp h
  cases he
  exact ⟨x, l, a, closes, rfl, rfl, Activity.step_of_next hp⟩

end Steps

/-- A call of `EnsureReceiver` on its way to `BasicConsume`, if nothing fails. -/
def testConsumes : List Event :=
  [.go, .go, .go, .ended (.ok ()), .go, .ended (.ok ()), .ended (.ok ()), .took, .ended (.ok ()), .took,
    .ended (.ok ()), .took, .ended (.ok ())]

/-- The whole call. -/
def testRegisters : List Event := testConsumes ++ [.took, .ended (.ok ()), .ended (.ok ()), .go, .go]

/-- The entry of a mediator that nobody has configured yet. -/
def testUnconfigured : RabbitMultiplexerMediatorConfiguration :=
  { testMediatorConfiguration with
    sentTypeToConsumerMapping := ∅
    mapped := by simp }

def testConfigures : List Event :=
  [.go, .go, .go, .ended (.ok ()), .go, .go, .go] ++ testRegisters ++ [.go, .go] ++ testRegisters ++
    [.go, .go, .go, .go, .go]

def testConfigureCall (i : Nat) (xs : List Event) : List (Action MediatorThread Event) :=
  .start ⟨⟨0, 0⟩, .call ⟨.ensureConfigured, .entered⟩⟩ :: xs.map (.step i)

def testTeardown (i : Nat) (xs : List Event) : List (Action MediatorThread Event) :=
  .start ⟨⟨0, 0⟩, .teardown .entered⟩ :: xs.map (.step i)

end RabbitMediator
