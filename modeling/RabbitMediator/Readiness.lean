import RabbitMediator.ReceiverProgress
import RabbitMediator.System

namespace RabbitMediator

open Interleaving

/-- A sent-object type of a consumer is mapped to a consumer and registered. -/
def MediatorLife.Receives (l : MediatorLife) (s : SentType) : Prop :=
  (l.configuration.sentTypeToConsumerMapping.lookup s).isSome = true ∧ s ∈ l.registeredConsumerTypes

/-- What holds of a live mediator and its multiplexer at any time. -/
structure MediatorLife.Consistent (mediator : Mediator) (x : MultiplexerLife) (l : MediatorLife) : Prop where
  standing : l.Standing mediator x.closed
  live : l.disposed = false
  event : l.configureEvent = true → l.configureDone = true
  done : l.configureDone = true → x.configureDone = true ∧ ∀ r ∈ l.configuration.receivers, l.Receives r.2

/-- How far the configuration has got: `remaining` is what is still to come of the consumers. -/
structure MediatorCall.Covers (x : MultiplexerLife) (l : MediatorLife)
    (remaining : List (ConsumerType × SentType)) (here : SentType → Prop) : Prop where
  configured : x.configureDone = true
  listed : ∀ r ∈ remaining, r ∈ l.configuration.receivers
  covered : ∀ r ∈ l.configuration.receivers, r ∈ remaining ∨ here r.2 ∨ l.Receives r.2

/-- What the call inside `_configureLock` has done. -/
def MediatorCall.Progress (mediator : Mediator) (x : MultiplexerLife) (l : MediatorLife) (call : MediatorCall) :
    Prop :=
  match call.phase with
  | .joining | .listing => x.configureDone = true
  | .configuring remaining => Covers x l remaining fun _ => False
  | .ensuring run remaining => Covers x l remaining (· = run.sentObjectType) ∧
    (∃ t, (t, run.sentObjectType) ∈ l.configuration.receivers) ∧
    (l.configuration.sentTypeToConsumerMapping.lookup run.sentObjectType).isSome = true ∧
    run.Declares mediator x.closed l
  | .finishing => Covers x l [] fun _ => False
  | .announcing => l.configureDone = true
  | _ => True

section Steps

variable {hosts : Hosts} {m : MediatorRef} {x x' : MultiplexerLife} {l l' : MediatorLife}
  {call call' : MediatorCall} {e : Event} {closes : Option ReceiveChannel}

theorem receives_map {t : ConsumerType} {s u : SentType} (h : l.Receives u) :
    (MediatorCall.map l t s).Receives u :=
  ⟨RabbitMultiplexerMediatorConfiguration.isSome_tryAdd_of_isSome h.1, h.2⟩

/-- What a call of `EnsureReceiver` leaves alone. -/
theorem ReceiverRun.Step.frame {closed : ReceiveChannel → Bool} {run run' : ReceiverRun}
    (h : run.Step hosts m closed l e l' run' closes) :
    run'.sentObjectType = run.sentObjectType ∧ l'.configuration = l.configuration ∧
      l'.disposed = l.disposed ∧ l'.configureDone = l.configureDone ∧
      l'.configureEvent = l.configureEvent ∧ l'.configureLocked = l.configureLocked := by
  cases h with
  | @proceeded operation _ p =>
    refine ⟨rfl, configuration_remember _ _ _ _, ?_, ?_⟩
    · exact congrArg (·.disposed) (toMediatorState_remember _ _ _ _)
    · cases operation with
      | queueDeclare =>
        simp only [remember]
        split <;> exact ⟨rfl, rfl, rfl⟩
      | _ => exact ⟨rfl, rfl, rfl⟩
  | _ => exact ⟨rfl, rfl, rfl, rfl, rfl, rfl⟩

theorem MediatorLife.Consistent.locked {mediator : Mediator} (h : l.Consistent mediator x) (b : Bool) :
    MediatorLife.Consistent mediator x { l with configureLocked := b } :=
  ⟨⟨h.standing.established, h.standing.closed⟩, h.live, h.event, h.done⟩

theorem MediatorCall.progress_configured (mediator : Mediator) (call : MediatorCall) :
    call.configured.Progress mediator x l := by
  unfold configured
  split <;> exact trivial

theorem MediatorCall.Covers.mono {remaining : List (ConsumerType × SentType)} {here here' : SentType → Prop}
    (h : Covers x l remaining here) (configured : x'.configureDone = x.configureDone)
    (receivers : l'.configuration.receivers = l.configuration.receivers)
    (receives : ∀ s, here s ∨ l.Receives s → here' s ∨ l'.Receives s) : Covers x' l' remaining here' := by
  refine ⟨configured.trans h.configured, receivers ▸ h.listed, ?_⟩
  rw [receivers]
  exact fun r hr => (h.covered r hr).imp_right (receives r.2)

/-- What a step of the `EnsureReceiver` of a call makes of the invariant. -/
theorem MediatorCall.progress_ensured {run run' : ReceiverRun} {remaining : List (ConsumerType × SentType)}
    (h : run.Step hosts m x.closed l e l' run' closes) (before : call.phase = .ensuring run remaining)
    (consistent : l.Consistent (hosts.mediator m) x) (progress : call.Progress (hosts.mediator m) x l) :
    (l'.closing closes).Consistent (hosts.mediator m) (x.closing closes) ∧
      (call.goesTo (.ensuring run' remaining)).Progress (hosts.mediator m) (x.closing closes)
        (l'.closing closes) := by
  simp only [Progress, before] at progress
  obtain ⟨covers, mine, mapped, declares⟩ := progress
  obtain ⟨standing, declares'⟩ := declares.step h consistent.standing mine
  obtain ⟨type, configuration, disposed, done, event, _⟩ := h.frame
  have closed : (x.closing closes).closed = closedAfter x.closed closes := by cases closes <;> rfl
  have configured : (x.closing closes).configureDone = x.configureDone := by cases closes <;> rfl
  have kept : (l'.closing closes).configuration = l.configuration ∧ (l'.closing closes).disposed = l.disposed ∧
      (l'.closing closes).configureDone = l.configureDone ∧
      (l'.closing closes).configureEvent = l.configureEvent ∧
      (l'.closing closes).registeredConsumerTypes = l'.registeredConsumerTypes := by
    cases closes <;> exact ⟨configuration, disposed, done, event, rfl⟩
  obtain ⟨configuration, disposed, done, event, types⟩ := kept
  have receives : ∀ s, l.Receives s → (l'.closing closes).Receives s := by
    intro s hs
    refine ⟨configuration ▸ hs.1, ?_⟩
    rw [types]
    exact h.grows.registeredConsumerTypes s hs.2
  refine ⟨⟨closed ▸ standing, disposed.trans consistent.live, ?_, ?_⟩, ?_, ?_, ?_, closed ▸ declares'⟩
  · rw [event, done]
    exact consistent.event
  · rw [done, configured, configuration]
    exact fun h => ⟨(consistent.done h).1, fun r hr => receives _ ((consistent.done h).2 r hr)⟩
  · rw [type]
    exact covers.mono configured (congrArg _ configuration) fun s => Or.imp_right (receives s)
  · rw [type, configuration]
    exact mine
  · rw [type, configuration]
    exact mapped

/-- What a step of a call makes of the invariant. -/
theorem MediatorCall.Step.progress (h : call.Step hosts m x l e x' l' call' closes)
    (consistent : l.Consistent (hosts.mediator m) x) (progress : call.Progress (hosts.mediator m) x l)
    (settled : ∀ run, call.run? = some run → run.control = .returned →
      run.sentObjectType ∈ l.registeredConsumerTypes) :
    (l'.closing closes).Consistent (hosts.mediator m) (x'.closing closes) ∧
      call'.Progress (hosts.mediator m) (x'.closing closes) (l'.closing closes) := by
  cases h with
  | passed => exact ⟨consistent, progress_configured _ _⟩
  | acquired => exact ⟨consistent.locked true, trivial⟩
  | connected =>
    exact ⟨⟨consistent.standing, consistent.live, consistent.event, fun done => ⟨rfl, (consistent.done done).2⟩⟩,
      rfl⟩
  | joined before =>
    simp only [Progress, before] at progress
    exact ⟨⟨consistent.standing, consistent.live, consistent.event, consistent.done⟩, progress⟩
  | listed before =>
    simp only [Progress, before] at progress
    exact ⟨consistent, progress, fun r hr => hr, fun r hr => Or.inl hr⟩
  | @mapped t s remaining before =>
    simp only [Progress, before] at progress
    obtain ⟨configured, listed, covered⟩ := progress
    have mine := listed (t, s) List.mem_cons_self
    have receivers := l.configuration.receivers_tryAdd t s
    refine ⟨⟨consistent.standing.moved rfl (.refl _) receivers, consistent.live, consistent.event, ?_⟩, ?_⟩
    · intro done
      obtain ⟨configured, receives⟩ := consistent.done done
      exact ⟨configured, fun r hr => receives_map (receives r (receivers ▸ hr))⟩
    · refine ⟨⟨configured, fun r hr => ?_, fun r hr => ?_⟩, ⟨t, ?_⟩, RabbitMultiplexerMediatorConfiguration.isSome_tryAdd_self mine,
        ReceiverRun.declares_of_idle (by simp [ReceiverRun.entered]) (by simp [ReceiverRun.entered])⟩
      · exact receivers.symm ▸ listed r (List.mem_cons_of_mem _ hr)
      · rcases covered r (receivers ▸ hr) with hr | hr | hr
        · rcases List.mem_cons.mp hr with rfl | hr
          · exact Or.inr (Or.inl rfl)
          · exact Or.inl hr
        · exact absurd hr id
        · exact Or.inr (Or.inr (receives_map hr))
      · exact receivers.symm ▸ mine
  | ensured before h => exact progress_ensured h before consistent progress
  | @continued run remaining before returned =>
    have registered := settled run (by simp [run?, before]) returned
    simp only [Progress, before] at progress
    obtain ⟨covers, mine, mapped, _⟩ := progress
    refine ⟨consistent, covers.mono rfl rfl fun s hs => Or.inr ?_⟩
    rcases hs with rfl | hs
    · exact ⟨mapped, registered⟩
    · exact hs
  | exhausted before =>
    simp only [Progress, before] at progress
    exact ⟨consistent, progress⟩
  | finished before =>
    simp only [Progress, before] at progress
    obtain ⟨configured, _, covered⟩ := progress
    refine ⟨⟨⟨consistent.standing.established, consistent.standing.closed⟩, consistent.live, fun _ => rfl,
      fun _ => ⟨configured, fun r hr => ?_⟩⟩, rfl⟩
    rcases covered r hr with hr | hr | hr
    · cases hr
    · exact absurd hr id
    · exact hr
  | announced before =>
    simp only [Progress, before] at progress
    exact ⟨⟨⟨consistent.standing.established, consistent.standing.closed⟩, consistent.live, fun _ => progress,
      consistent.done⟩, trivial⟩
  | released => exact ⟨consistent.locked false, progress_configured _ _⟩
  | threw => exact ⟨consistent.locked false, trivial⟩
  | _ => exact ⟨consistent, trivial⟩

/-- `_configureLock`. -/
def mediatorConfigureLock (m : MediatorRef) : Lock Lifecycle MediatorThread :=
  mediatorLock m (·.configureLocked) fun
    | .call call => call.inside
    | _ => false

theorem MediatorCall.outside_configured (call : MediatorCall) : call.configured.inside = false := by
  unfold configured
  split <;> rfl

theorem MediatorCall.Step.locked (h : call.Step hosts m x l e x' l' call' closes) :
    (call.inside = false → call'.inside = true → l.configureLocked = false ∧ l'.configureLocked = true) ∧
    (call.inside = false → call'.inside = false → l'.configureLocked = l.configureLocked) ∧
    (call.inside = true → l.configureLocked = true → l'.configureLocked = call'.inside) := by
  cases h with
  | passed before =>
    have out : call.inside = false := by simp [inside, before]
    simp [out, outside_configured]
  | released before =>
    have here : call.inside = true := by simp [inside, before]
    simp [here, outside_configured]
  | acquired before free => simp [inside, before, goesTo, free]
  | ensured before h => simp [inside, before, goesTo, h.frame]
  | mapped before => simp [inside, before, goesTo, map]
  | _ before => simp [inside, before, goesTo]

theorem mediatorConfigureLock_guards (hosts : Hosts) (m : MediatorRef) :
    (mediatorConfigureLock m).Guards (lifecycle hosts) := by
  refine mediatorLock_guards (fun l closes => by cases closes <;> rfl) ?_ ?_
  · intro a hs
    cases a with
    | call call =>
      obtain ⟨caller, phase⟩ := call
      cases phase <;> first | rfl | cases hs
    | _ => rfl
  · intro x x' l l' a a' e closes h
    cases h with
    | call h => exact h.locked
    | receiver h => simp [h.frame]
    | teardown h =>
      have same : l'.configureLocked = l.configureLocked := by cases h <;> rfl
      simp [same]
    | delivery => simp

theorem MediatorCall.Step.outside (h : call.Step hosts m x l e x' l' call' closes)
    (before : call.inside = false) (after : call'.inside = false) : x' = x ∧ l' = l ∧ closes = none := by
  cases h with
  | passed | waits | disposed | proceeded => exact ⟨rfl, rfl, rfl⟩
  | acquired => cases after
  | _ control => simp [inside, control] at before

theorem MediatorCall.progress_of_outside {mediator : Mediator} (outside : call.inside = false) :
    call.Progress mediator x l := by
  obtain ⟨caller, phase⟩ := call
  cases phase <;> trivial

end Steps

/-- Only `EnsureConfigured` of the mediator, for whoever calls it, and its deliveries take steps. -/
def Configures (m : MediatorRef) (_ : Lifecycle) (_ : Nat) (t : MediatorThread) (_ : Event) : Prop :=
  t.mediator = m ∧ ((∃ call, t.activity = .call call) ∨ ∃ d, t.activity = .delivery d)

/-- A mediator that is fully configured, on a multiplexer that is. -/
structure FullyConfigured (mediator : Mediator) (x : MultiplexerLife) (l : MediatorLife) : Prop where
  configured : x.configureDone = true
  mapped : ∀ t ∈ l.configuration.allConsumerTypes, ∀ s ∈ t.sentTypes,
    (l.configuration.sentTypeToConsumerMapping.lookup s).isSome = true
  registered : ∀ t ∈ l.configuration.allConsumerTypes, ∀ s ∈ t.sentTypes, s ∈ l.registeredConsumerTypes
  established : ∀ t ∈ l.configuration.allConsumerTypes, ∀ s ∈ t.sentTypes,
    ∃ p, receiverOf mediator s = .ok p ∧ Established mediator l.topology s p

/-- A delivery that came too early goes back to its queue. -/
structure Requeues (hosts : Hosts) (m : MediatorRef) (c : Config Lifecycle MediatorThread) (i : Nat)
    (t : MediatorThread) (d : Delivery) : Prop where
  delayed : ∀ e s' t', (lifecycle hosts).next c.shared i t e = some (s', t') → d.handling = .received →
    (c.shared.mediators m).configureDone = false → t'.activity = .delivery (d.goesTo .delaying)
  rejected : ∀ e s' t' effects, (lifecycle hosts).next c.shared i t e = some (s', t') →
    t'.activity = .delivery (d.goesTo (.settled effects)) →
    d.handling = .delaying ∨ (c.shared.mediators m).configureDone = false →
    effects = [.delayed notReadyRequeueDelay, .settled d.channel d.deliveryTag (.reject true)]

section Runs

variable {hosts : Hosts} {m : MediatorRef} {c : Config Lifecycle MediatorThread}
  {configuration : MediatorRef → RabbitMultiplexerMediatorConfiguration}

theorem MediatorThread.configures {s s' : Lifecycle} {t t' : MediatorThread} {e : Event} {i : Nat}
    (hn : t.next hosts s e = some (s', t')) (configures : Configures m s i t e) (settled : t.Settled m s) :
    (mediatorConfigureLock m).Passes
      (fun s => (s.mediators m).Consistent (hosts.mediator m) (s.multiplexers m.multiplexer))
      (fun s t => (s.mediators m).Consistent (hosts.mediator m) (s.multiplexers m.multiplexer) ∧
        ∃ call, t.activity = .call call ∧
          call.Progress (hosts.mediator m) (s.multiplexers m.multiplexer) (s.mediators m))
      s t s' t' := by
  obtain ⟨own, kind⟩ := configures
  obtain ⟨x, l, a, closes, rfl, rfl, step⟩ := step_of_next hn
  subst own
  generalize ha : t.activity = b at step
  have mediators := Lifecycle.mediators_after s t.mediator x l closes
  have multiplexers := Lifecycle.multiplexers_after s t.mediator x l closes
  cases step with
  | @call call _ _ _ call' _ h =>
    have inside : (mediatorConfigureLock t.mediator).inside t = call.inside := by
      simp [mediatorConfigureLock, mediatorLock, ha]
    have inside' : (mediatorConfigureLock t.mediator).inside ⟨t.mediator, .call call'⟩ = call'.inside := by
      simp [mediatorConfigureLock, mediatorLock]
    have registered : (s.mediators t.mediator).disposed = false → ∀ run, call.run? = some run →
        run.control = .returned → run.sentObjectType ∈ (s.mediators t.mediator).registeredConsumerTypes := by
      intro live run hr returned
      refine (settled.returned run (by rw [ha]; exact hr) returned).resolve_left fun disposed => ?_
      rw [live] at disposed
      cases disposed
    constructor <;> rw [inside, inside'] <;> intro before after <;> simp only [mediators, multiplexers]
    · obtain ⟨rfl, rfl, rfl⟩ := h.outside before after
      exact ⟨id, fun _ _ held => held⟩
    · intro consistent
      obtain ⟨consistent', progress⟩ := h.progress consistent (MediatorCall.progress_of_outside before)
        (registered consistent.live)
      exact ⟨consistent', call', rfl, progress⟩
    · rintro ⟨consistent, _, same, progress⟩
      cases ha.symm.trans same
      obtain ⟨consistent', progress⟩ := h.progress consistent progress (registered consistent.live)
      exact ⟨consistent', call', rfl, progress⟩
    · rintro ⟨consistent, _, same, progress⟩
      cases ha.symm.trans same
      exact (h.progress consistent progress (registered consistent.live)).1
  | receiver => simp [ha] at kind
  | teardown => simp [ha] at kind
  | delivery =>
    have outside : (mediatorConfigureLock t.mediator).inside t = false := by simp [mediatorConfigureLock, mediatorLock, ha]
    refine ⟨fun _ _ => ?_, fun _ inside => ?_, fun inside => ?_, fun inside => ?_⟩
    · simp only [mediators, multiplexers]
      exact ⟨id, fun _ _ held => held⟩
    · simp [mediatorConfigureLock, mediatorLock] at inside
    · simp [outside] at inside
    · simp [outside] at inside

theorem consistent_of_reachable
    (h : ReachableWhere (lifecycle hosts) (StepsWhere (Configures m)) ⟨.created configuration, []⟩ c) :
    (c.shared.mediators m).Consistent (hosts.mediator m) (c.shared.multiplexers m.multiplexer) := by
  obtain ⟨whenFree, whenHeld⟩ := (mediatorConfigureLock_guards hosts m).invariant
    (fun s => (s.mediators m).Consistent (hosts.mediator m) (s.multiplexers m.multiplexer))
    (fun s t => (s.mediators m).Consistent (hosts.mediator m) (s.multiplexers m.multiplexer) ∧
      ∃ call, t.activity = .call call ∧
        call.Progress (hosts.mediator m) (s.multiplexers m.multiplexer) (s.mediators m))
    rfl rfl ⟨⟨by simp [Lifecycle.created, MediatorLife.created], by simp [Lifecycle.created]⟩, rfl,
      by simp [Lifecycle.created, MediatorLife.created], by simp [Lifecycle.created, MediatorLife.created]⟩
    (fun hc ok ht hn => MediatorThread.configures hn (ok _ _ _ rfl ht)
      (settled_of_reachable hc ht (ok _ _ _ rfl ht).1)) h
  have held := (mediatorConfigureLock_guards hosts m).held rfl rfl h
  exact held.elim whenFree fun ht inside => (whenHeld _ _ ht inside).1

theorem MediatorThread.configureDone_kept {s s' : Lifecycle} {t t' : MediatorThread} {e : Event}
    (h : t.next hosts s e = some (s', t')) (done : (s.mediators m).configureDone = true) :
    (s'.mediators m).configureDone = true := by
  have closing : ∀ (l : MediatorLife) closes, (l.closing closes).configureDone = l.configureDone := by
    intro l closes
    cases closes <;> rfl
  by_cases own : t.mediator = m
  · obtain ⟨x, l, a, closes, rfl, rfl, step⟩ := step_of_next h
    subst own
    rw [Lifecycle.mediators_after, closing]
    generalize t.activity = b at step
    cases step with
    | call step =>
      cases step with
      | ensured _ step => exact step.frame.2.2.2.1.trans done
      | finished => rfl
      | _ => exact done
    | receiver step => exact step.frame.2.2.2.1.trans done
    | teardown step => cases step <;> exact done
    | delivery => exact done
  · obtain ⟨_, closes, hl, _⟩ := next_other h own
    rw [hl, closing]
    exact done

/-- Everything a delivery can do in one step. -/
theorem Delivery.next_cases {x : MultiplexerLife} {l : MediatorLife} {d d' : Delivery} {e : Event}
    (h : d.next hosts m x l e = some d') :
    d.handling = .received ∧
      d' = d.goesTo (if !x.configureDone || !l.configureDone then .delaying else .handling) ∨
    d.handling = .delaying ∧ d' = d.goesTo (.settled [.delayed notReadyRequeueDelay,
      .settled d.channel d.deliveryTag (.reject true)]) ∨
    d.handling = .handling ∧ ∃ effects, d' = d.goesTo (.settled effects) := by
  unfold next at h
  split at h
  next =>
    split at h <;> cases h
    next hd => exact Or.inl ⟨hd, rfl⟩
  next =>
    split at h <;> cases h
    next hd => exact Or.inr (Or.inl ⟨hd, rfl⟩)
    next hd => exact Or.inr (Or.inr ⟨hd, _, rfl⟩)
  next => cases h

/-- A thread that is a delivery stays one, and one that has become a delivery was one. -/
theorem MediatorThread.next_delivery {s s' : Lifecycle} {t t' : MediatorThread} {e : Event}
    (h : t.next hosts s e = some (s', t'))
    (delivery : (∃ d, t.activity = .delivery d) ∨ ∃ d, t'.activity = .delivery d) :
    ∃ d d', t.activity = .delivery d ∧ t'.activity = .delivery d' ∧
      d.next hosts t.mediator (s.multiplexers t.mediator.multiplexer) (s.mediators t.mediator) e = some d' := by
  obtain ⟨x, l, a, closes, rfl, rfl, step⟩ := step_of_next h
  generalize t.activity = b at step delivery
  cases step with
  | delivery step => exact ⟨_, _, rfl, rfl, step⟩
  | _ => simp at delivery

/-- Nothing takes `ConfigureDone` back, and a delivery is handled only after it has been seen. -/
theorem handling_sound (hosts : Hosts) (m : MediatorRef) :
    Sound (lifecycle hosts) (fun _ _ _ _ => True) (fun _ => True)
      (fun s _ t => t.mediator = m → ∀ d, t.activity = .delivery d → d.handling = .handling →
        (s.mediators m).configureDone = true)
      (fun _ s s' => (s.mediators m).configureDone = true → (s'.mediators m).configureDone = true) := by
  refine ⟨?_, ?_, fun _ mono _ before own d hd hh => mono (before own d hd hh)⟩
  · intro s i t _ hs _ d hd hh
    replace hs : t.activity.start = true := hs
    simp [hd, Activity.start, hh] at hs
  · intro s s' i t t' e _ before _ hn
    refine ⟨trivial, fun own' d' hd' hh' => ?_, MediatorThread.configureDone_kept hn⟩
    have own : t.mediator = m := by
      by_contra other
      exact (MediatorThread.next_other hn other).1 own'
    obtain ⟨d, _, hd, same, step⟩ := MediatorThread.next_delivery hn (Or.inr ⟨d', hd'⟩)
    cases hd'.symm.trans same
    refine MediatorThread.configureDone_kept hn ?_
    rcases Delivery.next_cases step with ⟨_, rfl⟩ | ⟨_, rfl⟩ | ⟨hh, _⟩
    · rw [own] at hh'
      cases seen : (s.mediators m).configureDone with
      | true => rfl
      | false => simp [Delivery.goesTo, seen] at hh'
    · cases hh'
    · exact before own d hd hh

theorem configureDone_ready
    (h : ReachableWhere (lifecycle hosts) (StepsWhere (Configures m)) ⟨.created configuration, []⟩ c) :
    ((c.shared.mediators m).configureEvent = true → (c.shared.mediators m).configureDone = true) ∧
    ((c.shared.mediators m).configureDone = true →
      FullyConfigured (hosts.mediator m) (c.shared.multiplexers m.multiplexer) (c.shared.mediators m)) ∧
    ∀ (i : Nat) (t : MediatorThread) (d : Delivery), c.pool[i]? = some t → t.mediator = m →
      t.activity = .delivery d → Requeues hosts m c i t d := by
  have consistent := consistent_of_reachable h
  refine ⟨consistent.event, fun done => ?_, fun i t d ht own hd => ?_⟩
  · obtain ⟨configured, receives⟩ := consistent.done done
    have all : ∀ t ∈ (c.shared.mediators m).configuration.allConsumerTypes, ∀ s ∈ t.sentTypes,
        (t, s) ∈ (c.shared.mediators m).configuration.receivers := fun t ht s hs =>
      RabbitMultiplexerMediatorConfiguration.mem_receivers.mpr ⟨ht, hs⟩
    refine ⟨configured, fun t ht s hs => (receives _ (all t ht s hs)).1,
      fun t ht s hs => (receives _ (all t ht s hs)).2, fun t ht s hs => ?_⟩
    obtain ⟨p, receiver, established⟩ := consistent.standing.established s (receives _ (all t ht s hs)).2
    refine ⟨p, receiver, established (Bool.eq_false_iff.mpr fun closed => ?_)⟩
    obtain ⟨r, hr, _, new⟩ := consistent.standing.closed _ closed
    exact new (receives r hr).2
  · have seen := ((handling_sound hosts m).always trivial rfl h).2 i t ht own d hd
    constructor
    · intro e s' t' hn received undone
      obtain ⟨_, d', same, hd', step⟩ := MediatorThread.next_delivery hn (Or.inl ⟨d, hd⟩)
      cases hd.symm.trans same
      rw [own] at step
      rcases Delivery.next_cases step with ⟨_, rfl⟩ | ⟨hh, _⟩ | ⟨hh, _⟩
      · simpa [undone] using hd'
      · exact absurd (received.symm.trans hh) (by simp)
      · exact absurd (received.symm.trans hh) (by simp)
    · intro e s' t' effects hn hd' early
      obtain ⟨_, _, same, same', step⟩ := MediatorThread.next_delivery hn (Or.inl ⟨d, hd⟩)
      cases hd.symm.trans same
      cases hd'.symm.trans same'
      rcases Delivery.next_cases step with ⟨_, same⟩ | ⟨_, same⟩ | ⟨hh, _⟩
      · have handled := congrArg (·.handling) same
        simp only [Delivery.goesTo] at handled
        split at handled <;> cases handled
      · simpa [Delivery.goesTo] using same
      · rcases early with early | undone
        · exact absurd (early.symm.trans hh) (by simp)
        · rw [seen hh] at undone
          cases undone

end Runs

/-- A check of the condition. -/
def configures (m : MediatorRef) (c : Config Lifecycle MediatorThread) : Action MediatorThread Event → Bool
  | .start _ => true
  | .step i _ => c.pool[i]?.all fun t => t.mediator = m && match t.activity with
    | .call _ | .delivery _ => true
    | _ => false

theorem configures_of_check {m : MediatorRef} {c : Config Lifecycle MediatorThread}
    {a : Action MediatorThread Event} (h : configures m c a = true) : StepsWhere (Configures m) c a := by
  rintro i e t rfl ht
  simp only [configures, ht, Option.all_some, Bool.and_eq_true, decide_eq_true_eq] at h
  obtain ⟨own, kind⟩ := h
  refine ⟨own, ?_⟩
  split at kind
  next call hc => exact Or.inl ⟨call, hc⟩
  next d hd => exact Or.inr ⟨d, hd⟩
  next => cases kind

/-- The connection fails at first; the second call configures both consumers. -/
theorem testConfigure_ready :
    ∃ c, (lifecycle testHosts).run (configures ⟨0, 0⟩) ⟨.created fun _ => testUnconfigured, []⟩
        (testConfigureCall 0 [.go, .go, .go, .ended (.error brokerUnreachable), .go] ++
          testConfigureCall 1 testConfigures) = some c ∧
      (c.shared.mediators ⟨0, 0⟩).configureEvent = true ∧
      FullyConfigured (testHosts.mediator ⟨0, 0⟩) (c.shared.multiplexers 0) (c.shared.mediators ⟨0, 0⟩) := by
  have h : ((lifecycle testHosts).run (configures ⟨0, 0⟩) ⟨.created fun _ => testUnconfigured, []⟩
      (testConfigureCall 0 [.go, .go, .go, .ended (.error brokerUnreachable), .go] ++
        testConfigureCall 1 testConfigures)).any
      (fun c => (c.shared.mediators ⟨0, 0⟩).configureEvent) = true := by decide +kernel
  obtain ⟨c, hc, event⟩ := (Option.any_eq_true _ _).mp h
  obtain ⟨done, ready, _⟩ := configureDone_ready (.of_run .start (fun _ _ => configures_of_check) hc)
  exact ⟨c, hc, event, ready (done event)⟩

end RabbitMediator
