import RabbitMediator.Bookkeeping

namespace RabbitMediator

open Interleaving

/-- The consumer of the call is registered at the broker, and its tag not listed yet. -/
def ReceiverRun.consumed (run : ReceiverRun) : Bool :=
  match run.control with
  | .performing .basicConsume => run.taken
  | .performing .registered | .adding => true
  | _ => false

/-- The types with a consumer at the broker while the call is in the semaphore. -/
def ReceiverRun.types (l : MediatorLife) (run : ReceiverRun) : List SentType :=
  if run.consumed then run.sentObjectType :: l.registeredConsumerTypes else l.registeredConsumerTypes

/-- The consumers of a mediator are those of `types`, one for each. -/
structure MediatorLife.Accounted (mediator : Mediator) (l : MediatorLife) (types : List SentType) : Prop where
  received : ∀ s ∈ types, ∃ p, receiverOf mediator s = .ok p
  named : ∀ s ∈ types, ∀ s' ∈ types, ∀ p p', receiverOf mediator s = .ok p → receiverOf mediator s' = .ok p' →
    p.exchangeName = p'.exchangeName → s = s'
  consumers : ∀ k ∈ l.topology.consumers, ∃ s ∈ types, ∃ p, receiverOf mediator s = .ok p ∧
    k = consumerOf mediator s p
  present : l.disposed = false → ∀ s ∈ types, ∀ p, receiverOf mediator s = .ok p →
    consumerOf mediator s p ∈ l.topology.consumers
  nodup : l.topology.consumers.Nodup

/-- `ConsumerTags` has the tags of the registered types, each with its channel. -/
def MediatorLife.Listed (mediator : Mediator) (l : MediatorLife) : Prop :=
  ∀ consumerTag channel, l.consumerTags.lookup consumerTag = some channel ↔
    ∃ s ∈ l.registeredConsumerTypes, ∃ p, receiverOf mediator s = .ok p ∧
      (consumerOf mediator s p).consumerTag = consumerTag ∧ (consumerOf mediator s p).channel = channel

/-- No registered type has an exchange of this name. -/
def MediatorLife.Fresh (mediator : Mediator) (l : MediatorLife) (sentObjectType : SentType) : Prop :=
  ∀ s ∈ l.registeredConsumerTypes, ∀ p p', receiverOf mediator s = .ok p →
    receiverOf mediator sentObjectType = .ok p' → p.exchangeName ≠ p'.exchangeName

/-- What the call inside the semaphore knows. -/
structure ReceiverRun.Holds (mediator : Mediator) (l : MediatorLife) (run : ReceiverRun) : Prop where
  accounted : l.Accounted mediator (run.types l)
  listed : l.Listed mediator
  fresh : run.control ≠ .rechecking → run.control ≠ .releasing → l.Fresh mediator run.sentObjectType

/-- What holds while no call is inside. -/
structure MediatorLife.Resting (mediator : Mediator) (l : MediatorLife) : Prop where
  accounted : l.Accounted mediator l.registeredConsumerTypes
  listed : l.Listed mediator

section Calm

/-- What others do to a mediator while a call of `EnsureReceiver` may be inside. -/
structure MediatorLife.Calm (l l' : MediatorLife) : Prop extends l.Keeps l' where
  disposed : l.disposed = true → l'.disposed = true
  topology : l'.topology = l.topology ∨ l'.disposed = true ∧ l.topology.Shrinks l'.topology

variable {mediator : Mediator} {l l' : MediatorLife} {types : List SentType} {run : ReceiverRun}

theorem MediatorLife.Accounted.calm (h : l.Accounted mediator types) (calm : l.Calm l') :
    l'.Accounted mediator types := by
  refine ⟨h.received, h.named, ?_, ?_, ?_⟩
  · rcases calm.topology with same | ⟨_, shrinks⟩
    · exact same ▸ h.consumers
    · exact fun k hk => h.consumers k (shrinks.consumers.subset hk)
  · intro live
    rcases calm.topology with same | ⟨disposed, _⟩
    · refine same ▸ h.present (Bool.eq_false_iff.mpr fun disposed => ?_)
      rw [calm.disposed disposed] at live
      cases live
    · rw [disposed] at live
      cases live
  · rcases calm.topology with same | ⟨_, shrinks⟩
    · exact same ▸ h.nodup
    · exact h.nodup.sublist shrinks.consumers

theorem MediatorLife.Listed.calm (h : l.Listed mediator) (calm : l.Calm l') : l'.Listed mediator := by
  unfold Listed
  rw [calm.consumerTags, calm.registeredConsumerTypes]
  exact h

theorem MediatorLife.Resting.calm (h : l.Resting mediator) (calm : l.Calm l') : l'.Resting mediator :=
  ⟨calm.registeredConsumerTypes ▸ h.accounted.calm calm, h.listed.calm calm⟩

theorem ReceiverRun.Holds.calm (h : run.Holds mediator l) (calm : l.Calm l') : run.Holds mediator l' := by
  refine ⟨?_, h.listed.calm calm, fun later early => ?_⟩
  · have same : run.types l' = run.types l := by simp only [types, calm.registeredConsumerTypes]
    exact same ▸ h.accounted.calm calm
  · unfold MediatorLife.Fresh
    rw [calm.registeredConsumerTypes]
    exact h.fresh later early

theorem MediatorLife.calm_closing {closes : Option ReceiveChannel}
    (free : ∀ channel, closes = some channel → ∀ k ∈ l.topology.consumers, k.channel ≠ channel) :
    l.Calm (l.closing closes) := by
  refine ⟨l.keeps_closing closes, ?_, Or.inl ?_⟩
  · cases closes <;> exact id
  · cases closes with
    | none => rfl
    | some channel => exact ConsumingBroker.drop_eq_self (by simpa using free channel rfl)

end Calm

/-- A `BasicConsume` that has taken effect does not throw, a channel that the broker closes has no
consumer of the mediator, and a type that is not registered yet has an exchange of its own. -/
structure Retryable (hosts : Hosts) (m : MediatorRef) (s : Lifecycle) (t : MediatorThread) (e : Event) :
    Prop where
  consumed : t.mediator = m → ∀ run, t.activity.run? = some run → run.control = .performing .basicConsume →
    run.taken = true → ∀ e', e ≠ .ended (.error e')
  closing : t.mediator.multiplexer = m.multiplexer → ∀ run, t.activity.run? = some run →
    run.control = .performing .basicConsume → ∀ e', e = .refused e' →
    ∀ k ∈ (s.mediators m).topology.consumers, k.channel ≠ (receiveChannelFor run.sentObjectType).1
  fresh : t.mediator = m → ∀ run, t.activity.run? = some run → run.control = .rechecking →
    run.sentObjectType ∉ (s.mediators m).registeredConsumerTypes →
    (s.mediators m).Fresh (hosts.mediator m) run.sentObjectType

section Steps

variable {mediator : Mediator} {hosts : Hosts} {m : MediatorRef} {closed : ReceiveChannel → Bool}
  {l l' : MediatorLife} {run run' : ReceiverRun} {e : Event} {closes : Option ReceiveChannel}

theorem execute_of_toOption {b c : ConsumingBroker ReceiveChannel} {connection : String}
    {k : Broker.Command} (h : (b.execute connection k).toOption = some c) : b.execute connection k = .ok c := by
  cases hx : b.execute connection k with
  | error => simp [hx, Except.toOption] at h
  | ok d => simpa [hx, Except.toOption] using h

/-- What a command to the broker does to the consumers. -/
theorem ReceiverRun.consumers_command {b c : ConsumingBroker ReceiveChannel} {s : SentType}
    {p : ReceiveTopology} {operation : ReceiverOperation}
    (h : command mediator closed b s p operation = some c) :
    operation ≠ .basicConsume ∧ c.consumers = b.consumers ∨
      operation = .basicConsume ∧ closed (receiveChannelFor s).1 = false ∧
        c = { b with consumers := consumerOf mediator s p :: b.consumers } ∧
        consumerOf mediator s p ∉ b.consumers := by
  have executed : ∀ {k : Broker.Command}, (b.execute mediator.instanceId.value k).toOption = some c →
      c.consumers = b.consumers := by
    intro k hk
    exact (ConsumingBroker.executed_of_execute (execute_of_toOption hk)).2
  cases operation with
  | exchangeDeclare | queueDeclare | queueBind => exact Or.inl ⟨by simp, executed h⟩
  | basicConsume =>
    right
    simp only [command] at h
    split at h
    next => cases h
    next open_ =>
      unfold ConsumingBroker.basicConsume at h
      split at h
      next free =>
        cases h
        refine ⟨rfl, by simpa using open_, rfl, fun there => ?_⟩
        have other := List.all_eq_true.mp (Bool.and_eq_true_iff.mp free).2 _ there
        simp at other
      next => cases h
  | _ => cases h

theorem ReceiverRun.broker_remember (l : MediatorLife) (s : SentType) (p : ReceiveTopology)
    (operation : ReceiverOperation) : (remember l s p operation).topology = l.topology ∧
      (remember l s p operation).consumerTags = l.consumerTags := by
  cases operation with
  | queueDeclare =>
    simp only [remember]
    split <;> exact ⟨rfl, rfl⟩
  | _ => exact ⟨rfl, rfl⟩

/-- A step that neither consumes nor lists. -/
theorem ReceiverRun.Holds.moved (held : run.Holds mediator l) (types : run'.types l' = run.types l)
    (fresh : run'.control ≠ .rechecking → run'.control ≠ .releasing → l'.Fresh mediator run'.sentObjectType)
    (consumers : l'.topology.consumers = l.topology.consumers) (tags : l'.consumerTags = l.consumerTags)
    (state : l'.toMediatorState = l.toMediatorState) : run'.Holds mediator l' := by
  obtain ⟨⟨received, named, accounted, present, nodup⟩, listed, _⟩ := held
  refine ⟨⟨types ▸ received, types ▸ named, ?_, ?_, consumers ▸ nodup⟩, ?_, fresh⟩
  · rw [types, consumers]
    exact accounted
  · rw [types, consumers, state]
    exact present
  · unfold MediatorLife.Listed
    rw [tags, state]
    exact listed

theorem MediatorLife.Listed.unlisted {s : SentType} {p : ReceiveTopology} (h : l.Listed mediator)
    (fresh : l.Fresh mediator s) (receiver : receiverOf mediator s = .ok p) :
    l.consumerTags.lookup (consumerOf mediator s p).consumerTag = none := by
  cases hl : l.consumerTags.lookup (consumerOf mediator s p).consumerTag with
  | none => rfl
  | some channel =>
    obtain ⟨u, hu, q, hq, tag, _⟩ := (h _ _).mp hl
    exact absurd (consumerTag_inj tag) (fresh u hu q p hq receiver)

/-- The tag of a fresh type is not listed, and listing it makes its type one of the registered. -/
theorem MediatorLife.Listed.list {s : SentType} {p : ReceiveTopology} (h : l.Listed mediator)
    (fresh : l.Fresh mediator s) (receiver : receiverOf mediator s = .ok p) :
    MediatorLife.Listed mediator { ReceiverRun.list mediator l s p with
      registeredConsumerTypes := s :: l.registeredConsumerTypes } := by
  have unlisted := h.unlisted fresh receiver
  intro consumerTag channel
  by_cases mine : consumerTag = (consumerOf mediator s p).consumerTag
  · subst mine
    have now : (ConcurrentDictionary.tryAdd l.consumerTags (consumerOf mediator s p).consumerTag
        (consumerOf mediator s p).channel).lookup (consumerOf mediator s p).consumerTag =
          some (consumerOf mediator s p).channel := ConcurrentDictionary.lookup_tryAdd_self unlisted
    simp only [ReceiverRun.list, now, Option.some.injEq]
    constructor
    · rintro rfl
      exact ⟨s, List.mem_cons_self, p, receiver, rfl, rfl⟩
    · rintro ⟨u, hu, q, hq, tag, rfl⟩
      rcases List.mem_cons.mp hu with rfl | hu
      · rfl
      · exact absurd (consumerTag_inj tag) (fresh u hu q p hq receiver)
  · simp only [ReceiverRun.list, ConcurrentDictionary.lookup_tryAdd_ne mine]
    rw [h consumerTag channel]
    constructor
    · rintro ⟨u, hu, found⟩
      exact ⟨u, List.mem_cons_of_mem _ hu, found⟩
    · rintro ⟨u, hu, q, hq, tag, found⟩
      rcases List.mem_cons.mp hu with rfl | hu
      · cases receiver.symm.trans hq
        exact absurd tag.symm mine
      · exact ⟨u, hu, q, hq, tag, found⟩

/-- The consumer of a fresh type comes beside the others. -/
theorem MediatorLife.Accounted.consume {s : SentType} {p : ReceiveTopology}
    (h : l.Accounted mediator l.registeredConsumerTypes) (fresh : l.Fresh mediator s)
    (receiver : receiverOf mediator s = .ok p) (new : consumerOf mediator s p ∉ l.topology.consumers)
    (consumers : l'.topology.consumers = consumerOf mediator s p :: l.topology.consumers)
    (state : l'.toMediatorState = l.toMediatorState) :
    l'.Accounted mediator (s :: l.registeredConsumerTypes) := by
  refine ⟨?_, ?_, ?_, ?_, consumers ▸ List.nodup_cons.mpr ⟨new, h.nodup⟩⟩
  · intro u hu
    rcases List.mem_cons.mp hu with rfl | hu
    · exact ⟨p, receiver⟩
    · exact h.received u hu
  · intro u hu v hv q r hq hr same
    rcases List.mem_cons.mp hu with rfl | old
    · rcases List.mem_cons.mp hv with rfl | old
      · rfl
      · exact absurd same.symm (fresh v old r q hr hq)
    · rcases List.mem_cons.mp hv with rfl | old'
      · exact absurd same (fresh u old q r hq hr)
      · exact h.named u old v old' q r hq hr same
  · intro k hk
    rw [consumers] at hk
    rcases List.mem_cons.mp hk with rfl | hk
    · exact ⟨s, List.mem_cons_self, p, receiver, rfl⟩
    · obtain ⟨u, hu, found⟩ := h.consumers k hk
      exact ⟨u, List.mem_cons_of_mem _ hu, found⟩
  · intro live u hu q hq
    rw [consumers]
    rw [state] at live
    rcases List.mem_cons.mp hu with rfl | hu
    · cases receiver.symm.trans hq
      exact List.mem_cons_self
    · exact List.mem_cons_of_mem _ (h.present live u hu q hq)

theorem ReceiverRun.Holds.step (h : run.Step hosts m closed l e l' run' closes)
    (held : run.Holds (hosts.mediator m) l) (inside : run.inside = true) (inside' : run'.inside = true)
    (fresh : run.control = .rechecking → run.sentObjectType ∉ l.registeredConsumerTypes →
      l.Fresh (hosts.mediator m) run.sentObjectType) : run'.Holds (hosts.mediator m) l' := by
  have still : ∀ (r : ReceiverRun) (k : MediatorLife), r.consumed = run.consumed →
      r.sentObjectType = run.sentObjectType → k.registeredConsumerTypes = l.registeredConsumerTypes →
      r.types k = run.types l := by
    intro r k consumed type types
    simp only [ReceiverRun.types, consumed, type, types]
  cases h with
  | outside before =>
    rw [before] at inside
    cases inside
  | acquired before => simp [ReceiverRun.inside, before] at inside
  | found before =>
    refine held.moved (still (run.goesTo .releasing) l ?_ rfl rfl) (by simp [goesTo]) rfl rfl rfl
    simp [consumed, before, goesTo]
  | began before new =>
    refine held.moved (still (run.goesTo (.performing .addTypeIfMissing)) l ?_ rfl rfl) (fun _ _ => fresh before new) rfl rfl rfl
    simp [consumed, before, goesTo]
  | @took operation p b before untaken receiver done =>
    have named := held.fresh (by simp [before]) (by simp [before])
    rcases consumers_command done with ⟨other, same⟩ | ⟨rfl, _, rfl, new⟩
    · have consumed : ({ run with taken := true } : ReceiverRun).consumed = run.consumed := by
        cases operation <;> first | exact absurd rfl other | simp [ReceiverRun.consumed, before]
      exact held.moved (still _ _ consumed rfl rfl) (fun _ _ => named) same rfl rfl
    · have alone : run.types l = l.registeredConsumerTypes := by
        simp [types, ReceiverRun.consumed, before, untaken]
      have both : ReceiverRun.types l { run with taken := true } =
          run.sentObjectType :: l.registeredConsumerTypes := by
        simp [types, ReceiverRun.consumed, before]
      exact ⟨both ▸ (alone ▸ held.accounted).consume named receiver new rfl rfl, held.listed,
        fun _ _ => named⟩
  | @prepared operation next before quiet after =>
    have consumed : (run.goesTo (.performing next)).consumed = run.consumed := by
      cases operation <;> cases after <;> cases quiet <;> simp [ReceiverRun.consumed, before, goesTo]
    exact held.moved (still _ _ consumed rfl rfl)
      (fun _ _ => held.fresh (by simp [before]) (by simp [before])) rfl rfl rfl
  | @proceeded operation next p before command after taken receiver =>
    have consumed : (run.goesTo (.performing next)).consumed = run.consumed := by
      cases operation <;> cases after <;> simp [ReceiverRun.consumed, before, goesTo, taken]
    obtain ⟨consumers, tags⟩ := broker_remember l run.sentObjectType p operation
    have state := toMediatorState_remember l run.sentObjectType p operation
    have same : (remember l run.sentObjectType p operation).registeredConsumerTypes =
        l.registeredConsumerTypes := congrArg (·.registeredConsumerTypes) state
    refine held.moved (still _ _ consumed rfl same) (fun _ _ => ?_) (congrArg (·.consumers) consumers) tags state
    unfold MediatorLife.Fresh
    rw [same]
    exact held.fresh (by simp [before]) (by simp [before])
  | registered before =>
    refine held.moved (still (run.goesTo .adding) l ?_ rfl rfl)
      (fun _ _ => held.fresh (by simp [before]) (by simp [before])) rfl rfl rfl
    simp [consumed, before, goesTo]
  | listed before receiver =>
    have named := held.fresh (by simp [before]) (by simp [before])
    have both : run.types l = run.sentObjectType :: l.registeredConsumerTypes := by
      simp [types, consumed, before]
    refine ⟨?_, held.listed.list named receiver, by simp [goesTo]⟩
    obtain ⟨received, unique, consumers, present, nodup⟩ := both ▸ held.accounted
    exact ⟨received, unique, consumers, present, nodup⟩
  | failed | refused | released => cases inside'

/-- A call that leaves the semaphore has its consumer listed, or none. -/
theorem ReceiverRun.Holds.leave (h : run.Step hosts m closed l e l' run' closes)
    (held : run.Holds (hosts.mediator m) l) (inside : run.inside = true) (outside : run'.inside = false)
    (consumes : run.control = .performing .basicConsume → run.taken = true → ∀ e', e ≠ .ended (.error e'))
    (closing : ∀ e', run.control = .performing .basicConsume → e = .refused e' →
      ∀ k ∈ l.topology.consumers, k.channel ≠ (receiveChannelFor run.sentObjectType).1) :
    (l'.closing closes).Resting (hosts.mediator m) := by
  have resting : ∀ k : MediatorLife, run.consumed = false →
      k.registeredConsumerTypes = l.registeredConsumerTypes → k.disposed = l.disposed →
      k.topology = l.topology → k.consumerTags = l.consumerTags → k.Resting (hosts.mediator m) := by
    intro k consumed types disposed topology tags
    have alone : run.types l = l.registeredConsumerTypes := by simp [ReceiverRun.types, consumed]
    obtain ⟨received, named, consumers, present, nodup⟩ := alone ▸ held.accounted
    refine ⟨⟨types ▸ received, types ▸ named, ?_, ?_, topology ▸ nodup⟩, ?_⟩
    · rw [types, topology]
      exact consumers
    · rw [types, topology, disposed]
      exact present
    · unfold MediatorLife.Listed
      rw [tags, types]
      exact held.listed
  cases h with
  | outside before =>
    rw [before] at inside
    cases inside
  | acquired => cases outside
  | took before => simp [ReceiverRun.inside, before] at outside
  | @failed _ operation _ before fails why =>
    refine resting _ ?_ rfl rfl rfl rfl
    cases operation with
    | basicConsume =>
      refine Bool.eq_false_iff.mpr fun taken => ?_
      rcases why with why | ⟨_, other⟩
      · exact consumes before (by simpa [consumed, before] using taken) _ why
      · cases other
    | registered => exact absurd rfl fails
    | _ => simp [consumed, before]
  | refused before untaken =>
    have rest := resting { l with semaphoreTaken := false } (by simp [consumed, before, untaken]) rfl rfl rfl rfl
    exact rest.calm (MediatorLife.calm_closing fun channel hc => Option.some.inj hc ▸ closing _ before rfl)
  | released before =>
    exact resting _ (by simp [consumed, before]) rfl rfl rfl rfl
  | _ => cases outside

theorem Activity.Seen.calm {a a' : Activity} (h : Activity.Seen hosts m closed l a e l' a' closes)
    (before : ∀ run, a.run? = some run → run.inside = false)
    (after : ∀ run, a'.run? = some run → run.inside = false)
    (disposed : ∀ td, a = .teardown td → td ≠ .entered → l.disposed = true) :
    l.Calm l' ∧ closes = none := by
  cases h with
  | run hr hr' h =>
    replace before := before _ hr
    replace after := after _ hr'
    cases h with
    | outside => exact ⟨⟨⟨rfl, rfl, rfl, rfl, rfl⟩, id, Or.inl rfl⟩, rfl⟩
    | acquired => cases after
    | _ control => simp [ReceiverRun.inside, control] at before
  | @teardown td _ _ _ _ _ h =>
    obtain ⟨keeps, shrinks, mono⟩ := h.keeps
    refine ⟨⟨keeps, mono, ?_⟩, rfl⟩
    by_cases first : td = .entered
    · subst first
      cases h with
      | entered => exact Or.inl rfl
      | gaveUp past => cases past
    · exact Or.inr ⟨mono (disposed td rfl first), shrinks⟩
  | aside _ _ _ keeps topology disposed =>
    exact ⟨⟨keeps, fun h => disposed.trans h, Or.inl topology⟩, rfl⟩

/-- A thread that is inside goes on with its call. -/
theorem Activity.Seen.of_inside {a a' : Activity} (h : Activity.Seen hosts m closed l a e l' a' closes)
    (hr : a.run? = some run) (inside : run.inside = true) :
    ∃ run', a'.run? = some run' ∧ run.Step hosts m closed l e l' run' closes := by
  cases h with
  | run before after h =>
    cases before.symm.trans hr
    exact ⟨_, after, h⟩
  | teardown => cases hr
  | aside before =>
    rcases before run hr with control | ⟨_, control⟩ <;> simp [ReceiverRun.inside, control] at inside

theorem Activity.Seen.enter {a a' : Activity} (h : Activity.Seen hosts m closed l a e l' a' closes)
    (hr' : a'.run? = some run') (inside : run'.inside = true)
    (before : ∀ run, a.run? = some run → run.inside = false) (rest : l.Resting mediator) :
    run'.Holds mediator l' ∧ closes = none := by
  cases h with
  | run hr after h =>
    cases after.symm.trans hr'
    replace before := before _ hr
    cases h with
    | outside _ out =>
      rw [out] at inside
      cases inside
    | acquired =>
      obtain ⟨⟨received, named, consumers, present, nodup⟩, listed⟩ := rest
      exact ⟨⟨⟨received, named, consumers, present, nodup⟩, listed, by simp [ReceiverRun.goesTo]⟩, rfl⟩
    | _ control => simp [ReceiverRun.inside, control] at before
  | teardown => cases hr'
  | aside _ after =>
    obtain ⟨_, rfl⟩ := after run' hr'
    cases inside

theorem ReceiverRun.Step.closes_none (h : run.Step hosts m closed l e l' run' closes)
    (inside : run'.inside = true) : closes = none := by
  cases h with
  | refused => cases inside
  | _ => rfl

theorem MediatorLife.resting_created (mediator : Mediator)
    (configuration : RabbitMultiplexerMediatorConfiguration) :
    (MediatorLife.created configuration).Resting mediator := by
  refine ⟨⟨?_, ?_, ?_, ?_, List.nodup_nil⟩, fun consumerTag channel => ?_⟩ <;>
    simp [MediatorLife.created, ConsumingBroker.empty]

/-- What a step makes of what `EnsureReceiverSemaphore` protects. -/
theorem MediatorThread.passes {s s' : Lifecycle} {t t' : MediatorThread}
    (hn : t.next hosts s e = some (s', t')) (retryable : Retryable hosts m s t e)
    (settled : t.mediator = m → t.Settled m s) :
    (semaphore m).Passes (fun s => (s.mediators m).Resting (hosts.mediator m))
      (fun s t => ∃ run, t.activity.run? = some run ∧ run.Holds (hosts.mediator m) (s.mediators m))
      s t s' t' := by
  by_cases own : t.mediator = m
  · obtain ⟨own', l, closes, hl, seen⟩ := next_own hn own
    have out : ∀ {u : MediatorThread}, u.mediator = m → (semaphore m).inside u = false →
        ∀ run, u.activity.run? = some run → run.inside = false := by
      intro u hu outside run hr
      refine Bool.eq_false_iff.mpr fun inside => ?_
      rw [inside_semaphore.mpr ⟨hu, run, hr, inside⟩] at outside
      cases outside
    constructor
    · intro before after
      obtain ⟨calm, rfl⟩ := seen.calm (out own before) (out own' after) (settled own).teardown
      rw [hl]
      exact ⟨fun rest => rest.calm calm, fun u _ ⟨run, hr, held⟩ => ⟨run, hr, held.calm calm⟩⟩
    · intro before after rest
      obtain ⟨_, run', hr', inside⟩ := inside_semaphore.mp after
      obtain ⟨held, rfl⟩ := seen.enter hr' inside (out own before) rest
      exact ⟨run', hr', hl ▸ held⟩
    · rintro before after ⟨run, hr, held⟩
      have inside : run.inside = true := by simpa [semaphore, mediatorLock, own, hr] using before
      obtain ⟨run', hr', step⟩ := seen.of_inside hr inside
      have inside' : run'.inside = true := by simpa [semaphore, mediatorLock, own', hr'] using after
      have none := step.closes_none inside'
      subst none
      exact ⟨run', hr', hl ▸ held.step step inside inside' (retryable.fresh own run hr)⟩
    · rintro before after ⟨run, hr, held⟩
      have inside : run.inside = true := by simpa [semaphore, mediatorLock, own, hr] using before
      obtain ⟨run', hr', step⟩ := seen.of_inside hr inside
      rw [hl]
      exact held.leave step inside (out own' after run' hr') (retryable.consumed own run hr)
        fun e' control he => retryable.closing (own ▸ rfl) run hr control e' he
  · obtain ⟨own', closes, hl, why⟩ := next_other hn own
    have out : (semaphore m).inside t = false := by simp [semaphore, mediatorLock, own]
    have out' : (semaphore m).inside t' = false := by simp [semaphore, mediatorLock, own']
    have calm : (s.mediators m).Calm (s'.mediators m) := by
      rw [hl]
      refine MediatorLife.calm_closing fun channel hc => ?_
      obtain ⟨same, run, e', hr, control, _, he, rfl⟩ := why channel hc
      exact retryable.closing same.symm run hr control e' he
    exact ⟨fun _ _ => ⟨fun rest => rest.calm calm, fun u _ ⟨run, hr, held⟩ => ⟨run, hr, held.calm calm⟩⟩,
      fun _ inside => absurd (out'.symm.trans inside) (by simp),
      fun inside => absurd (out.symm.trans inside) (by simp),
      fun inside => absurd (out.symm.trans inside) (by simp)⟩

theorem accounted_of_reachable {configuration : MediatorRef → RabbitMultiplexerMediatorConfiguration}
    {c : Config Lifecycle MediatorThread}
    (h : ReachableWhere (lifecycle hosts) (StepsWhere fun s _ t e => Retryable hosts m s t e)
      ⟨.created configuration, []⟩ c) :
    ((semaphore m).taken c.shared = false → (c.shared.mediators m).Resting (hosts.mediator m)) ∧
    ∀ (i : Nat) (t : MediatorThread), c.pool[i]? = some t → (semaphore m).inside t = true →
      ∃ run, t.activity.run? = some run ∧ run.Holds (hosts.mediator m) (c.shared.mediators m) := by
  refine (semaphore_guards hosts m).invariant
    (fun s => (s.mediators m).Resting (hosts.mediator m))
    (fun s t => ∃ run, t.activity.run? = some run ∧ run.Holds (hosts.mediator m) (s.mediators m))
    rfl rfl (MediatorLife.resting_created _ _) ?_ h
  intro c i e t s' t' hc ok ht hn
  exact MediatorThread.passes hn (ok i e t rfl ht) (settled_of_reachable hc ht)

end Steps
end RabbitMediator
