import Mathlib.Logic.Function.Basic
import RabbitMediator.Mutex
import RabbitMediator.Topology

namespace RabbitMediator

open Interleaving

/-- The events of a connection the multiplexer listens to. -/
inductive ConnectionEvent
  | connectionShutdown
  | recoveringConsumer
  | consumerTagChangeAfterRecovery
  | queueNameChangedAfterRecovery
  | recoverySucceeded
  | connectionRecoveryError
deriving DecidableEq

/-- A multiplexer and its connection. Channels are numbered as they are opened; the fields of the receiving
channels hold the numbers of those in use. -/
structure ConnectionState where
  configureDone : Bool
  configureLocked : Bool
  connected : Bool
  handlers : List ConnectionEvent
  opened : Nat
  closed : List Nat
  receiveChannel : ReceiveChannel → Option Nat
  receiveAckChannel : Option Nat
  ackQueue : Bool
  ackConsumers : List Nat

namespace ConnectionState

/-- A multiplexer before its first `Configure`, with a connection of its own making or one handed in. -/
def created (customConnection : Bool) : ConnectionState :=
  ⟨false, false, customConnection, [], 0, [], fun _ => none, none, false, []⟩

/-- One set of handlers, in the order they are registered. -/
def connectionEvents : List ConnectionEvent :=
  [.connectionShutdown, .recoveringConsumer, .consumerTagChangeAfterRecovery,
    .queueNameChangedAfterRecovery, .recoverySucceeded, .connectionRecoveryError]

def registerConnectionEventHandlers (s : ConnectionState) : ConnectionState :=
  { s with handlers := s.handlers ++ connectionEvents }

/-- How often `RebindAllQueuesAfterRecovery` runs after one recovery. -/
def rebindRuns (s : ConnectionState) : Nat := s.handlers.count .recoverySucceeded

def openChannel (s : ConnectionState) : ConnectionState := { s with opened := s.opened + 1 }

def closeChannel (s : ConnectionState) (channel : Nat) : ConnectionState :=
  { s with
    closed := channel :: s.closed
    ackConsumers := s.ackConsumers.filter (· ≠ channel) }

def setReceiveChannel (s : ConnectionState) (role : ReceiveChannel) (channel : Nat) : ConnectionState :=
  { s with receiveChannel := Function.update s.receiveChannel role (some channel) }

def inUse (s : ConnectionState) (channel : Nat) : Prop :=
  (∃ role, s.receiveChannel role = some channel) ∨ s.receiveAckChannel = some channel

end ConnectionState

inductive ConfigureOutcome
  | alreadyDone
  | completed
  | failed (e : Exception)

/-- Where a call of `Configure` stands. -/
inductive Configure
  | entered
  | acquiring
  | rechecking
  | connecting
  | registering
  | creating (role : ReceiveChannel)
  | limiting (role : ReceiveChannel) (channel : Nat)
  | creatingAck
  | declaring (channel : Nat)
  | consuming (channel : Nat)
  | completing
  | releasing (outcome : ConfigureOutcome)
  | ended (outcome : ConfigureOutcome)

/-- What the outside decides at a step. A call that fails may have taken effect all the same, and may have
made the broker close its channel. -/
inductive ConfigureInput
  | go
  | ended
  | failed (e : Exception) (taken closes : Bool)

namespace Configure

/-- What `CreateChannels` does after the receiving channel for `role`. -/
def after : ReceiveChannel → Configure
  | .message => .creating .request
  | .request => .creating .response
  | .response => .creatingAck

def closing (s : ConnectionState) (channel : Nat) (closes : Bool) : ConnectionState :=
  if closes then s.closeChannel channel else s

def next (prefetchCount : Nat) (s : ConnectionState) :
    Configure → ConfigureInput → Option (ConnectionState × Configure)
  | .entered, .go => some (s, if s.configureDone then .ended .alreadyDone else .acquiring)
  | .acquiring, .go =>
    if s.configureLocked then none else some ({ s with configureLocked := true }, .rechecking)
  | .rechecking, .go => some (s, if s.configureDone then .releasing .alreadyDone else .connecting)
  | .connecting, .go => if s.connected then some (s, .registering) else none
  | .connecting, .ended => if s.connected then none else some ({ s with connected := true }, .registering)
  | .connecting, .failed e _ _ => if s.connected then none else some (s, .releasing (.failed e))
  | .registering, .go => some (s.registerConnectionEventHandlers, .creating .message)
  | .creating role, .ended =>
    if 0 < prefetchCount then some (s.openChannel, .limiting role s.opened)
    else some (s.openChannel.setReceiveChannel role s.opened, after role)
  | .creating _, .failed e taken _ =>
    some (if taken then s.openChannel else s, .releasing (.failed e))
  | .limiting role channel, .ended => some (s.setReceiveChannel role channel, after role)
  | .limiting _ channel, .failed e _ closes => some (closing s channel closes, .releasing (.failed e))
  | .creatingAck, .ended =>
    some ({ s.openChannel with receiveAckChannel := some s.opened }, .declaring s.opened)
  | .creatingAck, .failed e taken _ =>
    some (if taken then s.openChannel else s, .releasing (.failed e))
  | .declaring channel, .ended => some ({ s with ackQueue := true }, .consuming channel)
  | .declaring channel, .failed e taken closes =>
    some (closing { s with ackQueue := s.ackQueue || taken } channel closes, .releasing (.failed e))
  | .consuming channel, .ended => some ({ s with ackConsumers := channel :: s.ackConsumers }, .completing)
  | .consuming channel, .failed e taken closes =>
    some (closing { s with ackConsumers := if taken then channel :: s.ackConsumers else s.ackConsumers }
      channel closes, .releasing (.failed e))
  | .completing, .go => some ({ s with configureDone := true }, .releasing .completed)
  | .releasing outcome, .go => some ({ s with configureLocked := false }, .ended outcome)
  | _, _ => none

/-- The call has done the work of `Configure` to its end. -/
def completes : Configure → Bool
  | .releasing .completed | .ended .completed => true
  | _ => false

def isEntered : Configure → Bool
  | .entered => true
  | _ => false

/-- The call is between the `WaitAsync` and the `Release` of `_configureLock`. -/
def inside : Configure → Bool
  | .entered | .acquiring | .ended _ => false
  | _ => true

end Configure

/-- Any number of calls of `Configure` on one multiplexer. -/
def configureCalls (prefetchCount : Nat) : Threads ConnectionState Configure ConfigureInput where
  start _ t := t.isEntered
  next s _ t x := t.next prefetchCount s x

def configureLock : Lock ConnectionState Configure := ⟨ConnectionState.configureLocked, Configure.inside⟩

section Steps

variable {prefetchCount : Nat} {s s' : ConnectionState} {t t' : Configure} {x : ConfigureInput}

theorem Configure.configureLocked_closing (s : ConnectionState) (channel : Nat) (closes : Bool) :
    (closing s channel closes).configureLocked = s.configureLocked := by
  cases closes <;> rfl

theorem Configure.inside_after (role : ReceiveChannel) : (after role).inside = true := by
  cases role <;> rfl

/-- How a step moves a call with respect to the lock. -/
inductive Configure.Moves (s : ConnectionState) (t : Configure) (s' : ConnectionState) (t' : Configure) : Prop
  | outside (before : t.inside = false) (after : t'.inside = false) (same : s' = s)
  | entered (before : t = .acquiring) (free : s.configureLocked = false) (after : t' = .rechecking)
      (same : s' = { s with configureLocked := true })
  | within (before : t.inside = true) (after : t'.inside = true) (same : s'.configureLocked = s.configureLocked)
  | left {outcome} (before : t = .releasing outcome) (after : t' = .ended outcome)
      (same : s' = { s with configureLocked := false })

theorem Configure.moves_of_next (h : t.next prefetchCount s x = some (s', t')) : Moves s t s' t' := by
  unfold next at h
  split at h
  next =>
    cases h
    cases s.configureDone <;> exact .outside rfl rfl rfl
  next =>
    split at h
    next => cases h
    next free =>
      cases h
      exact .entered rfl (by simpa using free) rfl rfl
  next =>
    cases h
    cases s.configureDone <;> exact .within rfl rfl rfl
  next =>
    split at h <;> cases h
    exact .within rfl rfl rfl
  next =>
    split at h <;> cases h
    exact .within rfl rfl rfl
  next =>
    split at h <;> cases h
    exact .within rfl rfl rfl
  next => cases h; exact .within rfl rfl rfl
  next =>
    split at h <;> cases h
    · exact .within rfl rfl rfl
    · exact .within rfl (inside_after _) rfl
  next =>
    cases h
    split <;> exact .within rfl rfl rfl
  next => cases h; exact .within rfl (inside_after _) rfl
  next => cases h; exact .within rfl rfl (configureLocked_closing _ _ _)
  next => cases h; exact .within rfl rfl rfl
  next =>
    cases h
    split <;> exact .within rfl rfl rfl
  next => cases h; exact .within rfl rfl rfl
  next => cases h; exact .within rfl rfl (configureLocked_closing _ _ _)
  next => cases h; exact .within rfl rfl rfl
  next => cases h; exact .within rfl rfl (configureLocked_closing _ _ _)
  next => cases h; exact .within rfl rfl rfl
  next => cases h; exact .left rfl rfl rfl
  next => cases h

theorem Configure.same_of_outside (h : t.next prefetchCount s x = some (s', t')) (before : t.inside = false)
    (after : t'.inside = false) : s' = s := by
  cases moves_of_next h with
  | outside _ _ same => exact same
  | entered _ _ h => rw [h] at after; cases after
  | within inside => exact absurd (before.symm.trans inside) (by simp)
  | left h => rw [h] at before; cases before

theorem Configure.entered_of_enter (h : t.next prefetchCount s x = some (s', t')) (before : t.inside = false)
    (after : t'.inside = true) : t' = .rechecking ∧ s' = { s with configureLocked := true } := by
  cases moves_of_next h with
  | outside _ outside => exact absurd (after.symm.trans outside) (by simp)
  | entered _ _ after same => exact ⟨after, same⟩
  | within inside => exact absurd (before.symm.trans inside) (by simp)
  | left h => rw [h] at before; cases before

theorem Configure.left_of_leave (h : t.next prefetchCount s x = some (s', t')) (before : t.inside = true)
    (after : t'.inside = false) : (∃ outcome, t = .releasing outcome) ∧ s' = { s with configureLocked := false } := by
  cases moves_of_next h with
  | outside outside => exact absurd (before.symm.trans outside) (by simp)
  | entered h => rw [h] at before; cases before
  | within _ inside => exact absurd (after.symm.trans inside) (by simp)
  | left h _ same => exact ⟨⟨_, h⟩, same⟩

theorem configureLock_guards (prefetchCount : Nat) : configureLock.Guards (configureCalls prefetchCount) := by
  constructor
  · intro s t h
    cases t <;> first | rfl | cases h
  all_goals intro s s' i t t' x hn
  · intro before after
    cases Configure.moves_of_next hn with
    | outside _ outside => exact absurd (after.symm.trans outside) (by simp)
    | entered _ free _ same => exact ⟨free, by rw [same]; rfl⟩
    | within inside => exact absurd (before.symm.trans inside) (by simp)
    | left h => rw [h] at before; cases before
  · intro before after
    cases Configure.moves_of_next hn with
    | outside _ _ same => rw [same]
    | entered _ _ h => rw [h] at after; cases after
    | within inside => exact absurd (before.symm.trans inside) (by simp)
    | left h => rw [h] at before; cases before
  · intro before taken
    cases Configure.moves_of_next hn with
    | outside outside => exact absurd (before.symm.trans outside) (by simp)
    | entered h => rw [h] at before; cases before
    | within _ after same => exact same.trans (taken.trans after.symm)
    | left _ after same => rw [same, after]; rfl

end Steps
end RabbitMediator
