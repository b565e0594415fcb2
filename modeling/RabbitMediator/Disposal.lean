import RabbitMediator.World

namespace RabbitMediator

open Rendezvous

inductive Disposable
  | mediator (m : MediatorRef)
  | multiplexer (n : Nat)
deriving DecidableEq

inductive DisposalPhase
  | entered
  | disposing
  | aborting
  | abortingResponses (walk : Aborter Guid)
  | abortingAcks (walk : Aborter Guid)
  | ended

/-- A call of `DisposeAsync`, up to the end of `AbortWaiters`. -/
structure Disposal where
  subject : Disposable
  phase : DisposalPhase

namespace Disposal

def multiplexer (d : Disposal) : Nat :=
  match d.subject with
  | .mediator m => m.multiplexer
  | .multiplexer n => n

/-- The `ownerPredicate` of `AbortWaiters`. -/
def ownerPredicate (d : Disposal) (owner : MediatorRef) : Bool :=
  match d.subject with
  | .mediator m => owner = m
  | .multiplexer _ => true

def goesTo (d : Disposal) (phase : DisposalPhase) : Disposal := { d with phase := phase }

/-- The first step of either class. -/
def enter (w : World) (d : Disposal) : World × Disposal :=
  match d.subject with
  | .mediator m => (w.setMediator m { w.mediators m with disposed := true }, d.goesTo .disposing)
  | .multiplexer n => (w, d.goesTo (if (w.multiplexers n).disposed then .ended else .disposing))

/-- A mediator forgets its topology, which only one of several calls can do; a multiplexer sets its
flag. -/
def dispose (w : World) (d : Disposal) : World × Disposal :=
  match d.subject with
  | .mediator m =>
    if (w.mediators m).registered then
      (w.setMediator m { w.mediators m with registered := false }, d.goesTo .aborting)
    else (w, d.goesTo .ended)
  | .multiplexer n =>
    (w.setMultiplexer n { w.multiplexers n with disposed := true }, d.goesTo .aborting)

def next (w : World) (d : Disposal) (x : Occurrence) : Option (World × Disposal) :=
  match d.phase, x with
  | .entered, .go => some (d.enter w)
  | .disposing, .go => some (d.dispose w)
  | .aborting, .go =>
    some (w, d.goesTo (.abortingResponses (.start (w.responseWaiters d.multiplexer))))
  | .abortingResponses walk, .visited entry =>
    (walk.next d.ownerPredicate .disposed (w.responseWaiters d.multiplexer) entry).map fun p =>
      (w.setResponseWaiters d.multiplexer p.1, d.goesTo (.abortingResponses p.2))
  | .abortingResponses walk, .go =>
    if walk.isDone then some (w, d.goesTo (.abortingAcks (.start (w.targetAckWaiters d.multiplexer))))
    else none
  | .abortingAcks walk, .visited entry =>
    (walk.next d.ownerPredicate .disposed (w.targetAckWaiters d.multiplexer) entry).map fun p =>
      (w.setTargetAckWaiters d.multiplexer p.1, d.goesTo (.abortingAcks p.2))
  | .abortingAcks walk, .go => if walk.isDone then some (w, d.goesTo .ended) else none
  | _, _ => none

end Disposal

/-- Everything a disposal can do in one step. -/
inductive Disposal.Step (w : World) (d : Disposal) : World → Disposal → Prop
  | prelude {w' phase} (before : d.phase = .entered ∨ d.phase = .disposing)
      (after : phase = .disposing ∨ phase = .aborting ∨ phase = .ended) (quiet : w.Quiet w')
      (same : ∀ n, w'.responseWaiters n = w.responseWaiters n ∧ w'.targetAckWaiters n = w.targetAckWaiters n) :
      Step w d w' (d.goesTo phase)
  | started (before : d.phase = .aborting) :
      Step w d w (d.goesTo (.abortingResponses (.start (w.responseWaiters d.multiplexer))))
  | responses {walk walk' entry r} (before : d.phase = .abortingResponses walk)
      (h : walk.next d.ownerPredicate .disposed (w.responseWaiters d.multiplexer) entry = some (r, walk')) :
      Step w d (w.setResponseWaiters d.multiplexer r) (d.goesTo (.abortingResponses walk'))
  | switched {walk} (before : d.phase = .abortingResponses walk) (done : walk.isDone = true) :
      Step w d w (d.goesTo (.abortingAcks (.start (w.targetAckWaiters d.multiplexer))))
  | acks {walk walk' entry r} (before : d.phase = .abortingAcks walk)
      (h : walk.next d.ownerPredicate .disposed (w.targetAckWaiters d.multiplexer) entry = some (r, walk')) :
      Step w d (w.setTargetAckWaiters d.multiplexer r) (d.goesTo (.abortingAcks walk'))
  | finished {walk} (before : d.phase = .abortingAcks walk) (done : walk.isDone = true) :
      Step w d w (d.goesTo .ended)

namespace Disposal

variable {w w' : World} {d d' : Disposal} {x : Occurrence}

theorem step_of_enter (before : d.phase = .entered) (h : d.enter w = (w', d')) : d.Step w w' d' := by
  unfold enter at h
  split at h
  next =>
    cases h
    exact .prelude (Or.inl before) (Or.inl rfl) (w.quiet_setMediator _ _) fun _ => ⟨rfl, rfl⟩
  next =>
    cases h
    refine .prelude (Or.inl before) ?_ ⟨rfl, rfl, rfl, rfl, rfl, rfl⟩ fun _ => ⟨rfl, rfl⟩
    split <;> simp

theorem step_of_dispose (before : d.phase = .disposing) (h : d.dispose w = (w', d')) : d.Step w w' d' := by
  unfold dispose at h
  split at h
  next =>
    split at h
    next =>
      cases h
      exact .prelude (Or.inr before) (by simp) (w.quiet_setMediator _ _) fun _ => ⟨rfl, rfl⟩
    next =>
      cases h
      exact .prelude (Or.inr before) (by simp) ⟨rfl, rfl, rfl, rfl, rfl, rfl⟩ fun _ => ⟨rfl, rfl⟩
  next =>
    cases h
    exact .prelude (Or.inr before) (by simp) (w.quiet_setMultiplexer _ _) fun k =>
      ⟨World.responseWaiters_setMultiplexer (by rfl) k, World.targetAckWaiters_setMultiplexer (by rfl) k⟩

theorem step_of_next (h : d.next w x = some (w', d')) : d.Step w w' d' := by
  unfold next at h
  split at h
  next hp => exact step_of_enter hp (Option.some.inj h)
  next hp => exact step_of_dispose hp (Option.some.inj h)
  next hp => cases h; exact .started hp
  next walk entry hp =>
    obtain ⟨⟨r, walk'⟩, hs, he⟩ := Option.map_eq_some_iff.mp h
    cases he
    exact .responses hp hs
  next walk hp =>
    split at h
    next done => cases h; exact .switched hp done
    next => cases h
  next walk entry hp =>
    obtain ⟨⟨r, walk'⟩, hs, he⟩ := Option.map_eq_some_iff.mp h
    cases he
    exact .acks hp hs
  next walk hp =>
    split at h
    next done => cases h; exact .finished hp done
    next => cases h
  next => cases h

theorem Step.subject (hs : d.Step w w' d') : d'.subject = d.subject := by
  cases hs <;> rfl

theorem Step.quiet (hs : d.Step w w' d') : w.Quiet w' := by
  cases hs with
  | prelude _ _ quiet => exact quiet
  | _ => exact ⟨rfl, rfl, rfl, rfl, rfl, rfl⟩

end Disposal
end RabbitMediator
