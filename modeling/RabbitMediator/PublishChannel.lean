import Mathlib.Data.List.Nodup
import Mathlib.Logic.Function.Basic
import RabbitMediator.Failures
import RabbitMediator.Mutex

namespace RabbitMediator

open Interleaving

/-- A `PublishChannel`. Channels are numbered as the factory creates them; `created` has, for each, the one
it was created in place of, and `disposed` those that were passed to their `DisposeAsync`. -/
structure PublishChannel where
  channel : Option Nat
  replaceLocked : Bool
  lockDisposed : Bool
  isOpen : Nat → Bool
  created : List (Option Nat)
  disposed : List Nat

/-- Where a call of `GetAsync` stands. `creating` awaits the factory, with what the call has found broken. -/
inductive GetAsync
  | entered
  | waiting
  | rechecking
  | creating (broken : Option Nat)
  | replacing
  | returned (channel : Option Nat)
  | threw (e : Exception)
deriving DecidableEq

inductive DisposeChannel
  | entered
  | disposing (channel : Nat)
  | ended
  | threw (e : Exception)
deriving DecidableEq

/-- What runs at the same time on a `PublishChannel`. `closing` is the end of a channel from outside. -/
inductive ChannelActivity
  | getAsync (phase : GetAsync)
  | disposeAsync (phase : DisposeChannel)
  | closing (channel : Nat)
  | closed
deriving DecidableEq

inductive ChannelInput
  | go
  | ended (result : Except Exception Unit)

def semaphoreDisposed : Exception :=
  .new .objectDisposed "Cannot access a disposed object.\nObject name: 'System.Threading.SemaphoreSlim'."

namespace PublishChannel

/-- A `PublishChannel` before its first use. -/
def unused : PublishChannel := ⟨none, false, false, fun _ => false, [], []⟩

/-- The channel, if `_channel is { IsOpen: true }`. -/
def openChannel (s : PublishChannel) : Option Nat := s.channel.filter s.isOpen

/-- The factory's channel is stored in place of `broken`. -/
def create (s : PublishChannel) (broken : Option Nat) : PublishChannel :=
  { s with
    channel := some s.created.length
    isOpen := Function.update s.isOpen s.created.length true
    created := s.created ++ [broken] }

def dispose (s : PublishChannel) (channel : Nat) : PublishChannel :=
  { s with disposed := channel :: s.disposed }

def close (s : PublishChannel) (channel : Nat) : PublishChannel :=
  { s with isOpen := Function.update s.isOpen channel false }

def release (s : PublishChannel) : PublishChannel := { s with replaceLocked := false }

/-- How a call ends that has come to its `Release`. -/
def outcome (s : PublishChannel) (ends : GetAsync) : GetAsync :=
  if s.lockDisposed then .threw semaphoreDisposed else ends

end PublishChannel

namespace GetAsync

def next (s : PublishChannel) : GetAsync → ChannelInput → Option (PublishChannel × GetAsync)
  | .entered, .go =>
    match s.openChannel with
    | some channel => some (s, .returned (some channel))
    | none => some (s, if s.lockDisposed then .threw semaphoreDisposed else .waiting)
  | .waiting, .ended (.ok _) =>
    if s.replaceLocked || s.lockDisposed then none else some ({ s with replaceLocked := true }, .rechecking)
  | .waiting, .ended (.error e) => some (s, .threw e)
  | .rechecking, .go =>
    match s.openChannel with
    | some channel => some (s.release, s.outcome (.returned (some channel)))
    | none => some (s, .creating s.channel)
  | .creating none, .ended (.ok _) =>
    some ((s.create none).release, s.outcome (.returned (s.create none).channel))
  | .creating (some broken), .ended (.ok _) => some ((s.create (some broken)).dispose broken, .replacing)
  | .creating _, .ended (.error e) => some (s.release, s.outcome (.threw e))
  | .replacing, .ended (.ok _) => some (s.release, s.outcome (.returned s.channel))
  | .replacing, .ended (.error e) => some (s.release, s.outcome (.threw e))
  | _, _ => none

/-- The call is between the `WaitAsync` and the `Release` of `_replaceLock`. -/
def inside : GetAsync → Bool
  | .rechecking | .creating _ | .replacing => true
  | _ => false

def hasEnded : GetAsync → Bool
  | .returned _ | .threw _ => true
  | _ => false

end GetAsync

namespace DisposeChannel

def next (s : PublishChannel) : DisposeChannel → ChannelInput → Option (PublishChannel × DisposeChannel)
  | .entered, .go =>
    match s.channel with
    | some channel => some (s.dispose channel, .disposing channel)
    | none => some ({ s with lockDisposed := true }, .ended)
  | .disposing channel, .ended (.ok _) =>
    some ({ s.close channel with channel := none, lockDisposed := true }, .ended)
  | .disposing _, .ended (.error e) => some (s, .threw e)
  | _, _ => none

end DisposeChannel

namespace ChannelActivity

def start : ChannelActivity → Bool
  | .getAsync .entered | .disposeAsync .entered | .closing _ => true
  | _ => false

def next (s : PublishChannel) : ChannelActivity → ChannelInput → Option (PublishChannel × ChannelActivity)
  | .getAsync phase, x => (phase.next s x).map fun p => (p.1, .getAsync p.2)
  | .disposeAsync phase, x => (phase.next s x).map fun p => (p.1, .disposeAsync p.2)
  | .closing channel, .go => some (s.close channel, .closed)
  | _, _ => none

end ChannelActivity

/-- Any number of calls on one `PublishChannel`. -/
def publishChannel : Threads PublishChannel ChannelActivity ChannelInput where
  start _ t := t.start
  next s _ t x := t.next s x

/-- Everything a call of `GetAsync` can do in one step. -/
inductive GetAsync.Step (s : PublishChannel) : GetAsync → ChannelInput → PublishChannel → GetAsync → Prop
  | found {channel} (current : s.openChannel = some channel) :
      Step s .entered .go s (.returned (some channel))
  | waits (broken : s.openChannel = none) (lock : s.lockDisposed = false) : Step s .entered .go s .waiting
  | rejected (broken : s.openChannel = none) (lock : s.lockDisposed = true) :
      Step s .entered .go s (.threw semaphoreDisposed)
  | acquired (free : s.replaceLocked = false) (lock : s.lockDisposed = false) :
      Step s .waiting (.ended (.ok ())) { s with replaceLocked := true } .rechecking
  | cancelled {e} : Step s .waiting (.ended (.error e)) s (.threw e)
  | replaced {channel} (current : s.openChannel = some channel) :
      Step s .rechecking .go s.release (s.outcome (.returned (some channel)))
  | creates (broken : s.openChannel = none) : Step s .rechecking .go s (.creating s.channel)
  | created : Step s (.creating none) (.ended (.ok ())) (s.create none).release
      (s.outcome (.returned (s.create none).channel))
  | replaces {broken} : Step s (.creating (some broken)) (.ended (.ok ()))
      ((s.create (some broken)).dispose broken) .replacing
  | failed {broken e} : Step s (.creating broken) (.ended (.error e)) s.release (s.outcome (.threw e))
  | left {result ends} (why : ends = .returned s.channel ∨ ∃ e, ends = .threw e) :
      Step s .replacing (.ended result) s.release (s.outcome ends)

theorem GetAsync.step_of_next {s s' : PublishChannel} {g g' : GetAsync} {x : ChannelInput}
    (h : g.next s x = some (s', g')) : Step s g x s' g' := by
  unfold next at h
  split at h
  next =>
    split at h
    next current => cases h; exact .found current
    next broken =>
      cases hl : s.lockDisposed with
      | true => rw [hl] at h; cases h; exact .rejected broken hl
      | false => rw [hl] at h; cases h; exact .waits broken hl
  next =>
    split at h
    next => cases h
    next free =>
      cases h
      obtain ⟨free, lock⟩ := Bool.or_eq_false_iff.mp (Bool.eq_false_iff.mpr free)
      exact .acquired free lock
  next => cases h; exact .cancelled
  next =>
    split at h
    next current => cases h; exact .replaced current
    next broken => cases h; exact .creates broken
  next => cases h; exact .created
  next => cases h; exact .replaces
  next => cases h; exact .failed
  next => cases h; exact .left (Or.inl rfl)
  next e => cases h; exact .left (Or.inr ⟨e, rfl⟩)
  next => cases h

theorem GetAsync.outcome_outside (s : PublishChannel) {ends : GetAsync} (h : ends.inside = false) :
    (s.outcome ends).inside = false := by
  unfold PublishChannel.outcome
  split
  · rfl
  · exact h

theorem GetAsync.inside_of_outcome {s : PublishChannel} {ends : GetAsync}
    (h : (s.outcome ends).inside = true) : ends.inside = true := by
  unfold PublishChannel.outcome at h
  split at h
  · cases h
  · exact h

def replaceLock : Lock PublishChannel ChannelActivity where
  taken := PublishChannel.replaceLocked
  inside
    | .getAsync phase => phase.inside
    | _ => false

/-- How a step moves a call with respect to the lock. -/
theorem GetAsync.Step.lock {s s' : PublishChannel} {g g' : GetAsync} {x : ChannelInput}
    (h : Step s g x s' g') :
    (g.inside = false → g'.inside = true → s.replaceLocked = false ∧ s'.replaceLocked = true) ∧
    (g.inside = false → g'.inside = false → s' = s) ∧
    (g.inside = true → s.replaceLocked = true → s'.replaceLocked = g'.inside) := by
  cases h with
  | acquired free => simp [inside, free]
  | replaced | failed | created =>
    rw [outcome_outside _ rfl]
    simp [inside, PublishChannel.release]
  | left why =>
    rw [outcome_outside s (by rcases why with rfl | ⟨_, rfl⟩ <;> rfl)]
    simp [inside, PublishChannel.release]
  | replaces => simp [inside, PublishChannel.create, PublishChannel.dispose]
  | creates => simp [inside]
  | _ => simp [inside]

end RabbitMediator
