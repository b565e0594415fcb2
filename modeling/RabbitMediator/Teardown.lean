import RabbitMediator.MediatorLife

namespace RabbitMediator

/-- Where a call of `DisposeAsync` of a mediator stands. A loop over a table visits all it `started` with,
and perhaps what was added since; `met` is what it has visited. -/
inductive Teardown
  | entered
  | forgetting
  | cancelling (started met : List String)
  | basicCancel (consumerTag : String) (channel : ReceiveChannel) (started met : List String)
  | deleting (started met : List String)
  | queueDelete (queue : String) (started met : List String)
  | ended

namespace Teardown

/-- One step. A command that fails ends the teardown, for the exception is caught outside the loops. -/
def next (hosts : Hosts) (m : MediatorRef) (x : MultiplexerLife) (l : MediatorLife) :
    Teardown → Event → Option (MultiplexerLife × MediatorLife × Teardown)
  | .entered, .go => some (x, { l with disposed := true }, .forgetting)
  | .forgetting, .go =>
    if l.registered then
      some ({ x with rabbitMediatorInstances := x.rabbitMediatorInstances.erase (hosts.scopeId m).value },
        { l with registered := false }, .cancelling l.consumerTags.keys [])
    else some (x, l, .ended)
  | .cancelling started met, .visited (some consumerTag) =>
    match l.consumerTags.lookup consumerTag with
    | some channel =>
      if consumerTag ∈ met then none
      else some (x, l, .basicCancel consumerTag channel started (consumerTag :: met))
    | none => none
  | .cancelling started met, .visited none =>
    if started.all fun consumerTag => consumerTag ∈ met then some (x, l, .deleting l.ownedQueues.keys [])
    else none
  | .basicCancel consumerTag channel started met, .ended (.ok _) =>
    some (x, { l with topology := l.topology.basicCancel channel consumerTag }, .cancelling started met)
  | .basicCancel _ _ _ _, .ended (.error _) => some (x, l, .ended)
  | .deleting started met, .visited (some queue) =>
    if (l.ownedQueues.lookup queue).isNone || queue ∈ met then none
    else some (x, l, .queueDelete queue started (queue :: met))
  | .deleting started met, .visited none =>
    if started.all fun queue => queue ∈ met then some (x, l, .ended) else none
  | .queueDelete queue started met, .ended (.ok _) =>
    some (x, { l with topology := l.topology.queueDelete queue }, .deleting started met)
  | .queueDelete _ _ _, .ended (.error _) => some (x, l, .ended)
  | _, _ => none

/-- The call has taken the mediator off the multiplexer, or found it gone. -/
def past : Teardown → Bool
  | .entered | .forgetting => false
  | _ => true

end Teardown

/-- Everything a teardown can do in one step. -/
inductive Teardown.Step (hosts : Hosts) (m : MediatorRef) (x : MultiplexerLife) (l : MediatorLife) :
    Teardown → Event → MultiplexerLife → MediatorLife → Teardown → Prop
  | entered : Step hosts m x l .entered .go x { l with disposed := true } .forgetting
  | forgot (registered : l.registered = true) :
      Step hosts m x l .forgetting .go
        { x with rabbitMediatorInstances := x.rabbitMediatorInstances.erase (hosts.scopeId m).value }
        { l with registered := false } (.cancelling l.consumerTags.keys [])
  | gone (unregistered : l.registered = false) : Step hosts m x l .forgetting .go x l .ended
  | visited {consumerTag channel started met} (listed : l.consumerTags.lookup consumerTag = some channel) :
      Step hosts m x l (.cancelling started met) (.visited (some consumerTag)) x l
        (.basicCancel consumerTag channel started (consumerTag :: met))
  | cancelledAll {started met} (all : ∀ consumerTag ∈ started, consumerTag ∈ met) :
      Step hosts m x l (.cancelling started met) (.visited none) x l (.deleting l.ownedQueues.keys [])
  | cancelled {consumerTag channel started met} :
      Step hosts m x l (.basicCancel consumerTag channel started met) (.ended (.ok ())) x
        { l with topology := l.topology.basicCancel channel consumerTag } (.cancelling started met)
  | met {queue started met} (listed : (l.ownedQueues.lookup queue).isSome = true) :
      Step hosts m x l (.deleting started met) (.visited (some queue)) x l
        (.queueDelete queue started (queue :: met))
  | deletedAll {started met} (all : ∀ queue ∈ started, queue ∈ met) :
      Step hosts m x l (.deleting started met) (.visited none) x l .ended
  | deleted {queue started met} :
      Step hosts m x l (.queueDelete queue started met) (.ended (.ok ())) x
        { l with topology := l.topology.queueDelete queue } (.deleting started met)
  | gaveUp {t e} (before : t.past = true) : Step hosts m x l t (.ended (.error e)) x l .ended

namespace Teardown

variable {hosts : Hosts} {m : MediatorRef} {x x' : MultiplexerLife} {l l' : MediatorLife}
  {t t' : Teardown} {e : Event}

theorem step_of_next (h : t.next hosts m x l e = some (x', l', t')) : Step hosts m x l t e x' l' t' := by
  unfold next at h
  split at h
  next => cases h; exact .entered
  next =>
    cases hr : l.registered with
    | true => rw [hr] at h; cases h; exact .forgot hr
    | false => rw [hr] at h; cases h; exact .gone hr
  next =>
    split at h
    next listed => split at h <;> cases h; exact .visited listed
    next => cases h
  next =>
    split at h <;> cases h
    next all => exact .cancelledAll (by simpa using all)
  next => cases h; exact .cancelled
  next => cases h; exact .gaveUp rfl
  next =>
    split at h <;> cases h
    next open_ =>
      refine .met (Option.isSome_iff_ne_none.mpr fun none => ?_)
      simp [none] at open_
  next =>
    split at h <;> cases h
    next all => exact .deletedAll (by simpa using all)
  next => cases h; exact .deleted
  next => cases h; exact .gaveUp rfl
  next => cases h

end Teardown
end RabbitMediator
