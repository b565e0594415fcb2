import RabbitMediator.Accounting

namespace RabbitMediator

/-- The receiver of a type stands: its exchange, queue and binding are declared and its consumer registered. -/
structure Established (mediator : Mediator) (b : ConsumingBroker ReceiveChannel) (s : SentType)
    (p : ReceiveTopology) : Prop where
  exchange : b.broker.exchanges.lookup p.exchangeName = some p.exchange
  queue : ∃ q, b.broker.queues.lookup p.queueName = some q ∧ q.arguments = p.queue
  binding : p.binding ∈ b.broker.bindings
  consumer : consumerOf mediator s p ∈ b.consumers

/-- The commands that come before an operation. -/
def ReceiverOperation.rank : ReceiverOperation → Nat
  | .addTypeIfMissing | .topologyChannel | .exchangeDeclare => 0
  | .queueDeclare => 1
  | .queueBind => 2
  | .basicConsume => 3
  | .registered => 4

/-- How many of its commands the broker has carried out for a call. -/
def ReceiverRun.carried (run : ReceiverRun) : Nat :=
  match run.control with
  | .performing operation => operation.rank + if run.taken then 1 else 0
  | .adding => 4
  | _ => 0

/-- What the first commands for a receiver have declared. -/
structure Declared (b : ConsumingBroker ReceiveChannel) (p : ReceiveTopology) (carried : Nat) : Prop where
  exchange : 1 ≤ carried → b.broker.exchanges.lookup p.exchangeName = some p.exchange
  queue : 2 ≤ carried → ∃ q, b.broker.queues.lookup p.queueName = some q ∧ q.arguments = p.queue
  binding : 3 ≤ carried → p.binding ∈ b.broker.bindings

/-- What a call that is declaring has made of its receiver. -/
structure ReceiverRun.Declares (mediator : Mediator) (closed : ReceiveChannel → Bool) (l : MediatorLife)
    (run : ReceiverRun) : Prop where
  declared : ∀ p, receiverOf mediator run.sentObjectType = .ok p → Declared l.topology p run.carried
  consumer : ∀ p, receiverOf mediator run.sentObjectType = .ok p → 4 ≤ run.carried →
    consumerOf mediator run.sentObjectType p ∈ l.topology.consumers
  channel : 4 ≤ run.carried → closed (receiveChannelFor run.sentObjectType).1 = false
  new : run.control = .adding ∨ (∃ operation, run.control = .performing operation) →
    run.sentObjectType ∉ l.registeredConsumerTypes

/-- A registered type has its receiver, unless its channel is closed; and for a closed channel there is a
type to consume that will never be registered. -/
structure MediatorLife.Standing (mediator : Mediator) (closed : ReceiveChannel → Bool) (l : MediatorLife) :
    Prop where
  established : ∀ s ∈ l.registeredConsumerTypes, ∃ p, receiverOf mediator s = .ok p ∧
    (closed (receiveChannelFor s).1 = false → Established mediator l.topology s p)
  closed : ∀ channel, closed channel = true → ∃ r ∈ l.configuration.receivers,
    (receiveChannelFor r.2).1 = channel ∧ r.2 ∉ l.registeredConsumerTypes

section Commands

variable {mediator : Mediator} {closed : ReceiveChannel → Bool} {b c : ConsumingBroker ReceiveChannel}
  {s : SentType} {p : ReceiveTopology}

theorem Established.grows (h : Established mediator b s p) (grows : b.Grows c) : Established mediator c s p := by
  obtain ⟨q, hq, arguments⟩ := h.queue
  exact ⟨grows.exchanges h.exchange, ⟨q, grows.queues hq, arguments⟩, grows.bindings _ h.binding,
    grows.consumers _ h.consumer⟩

theorem Established.closeChannel {channel : ReceiveChannel} (h : Established mediator b s p)
    (other : (receiveChannelFor s).1 ≠ channel) : Established mediator (b.closeChannel channel) s p := by
  have stays : decide ((consumerOf mediator s p).channel = channel) = false :=
    decide_eq_false other
  have spares : ConsumingBroker.Spares p.queueName b (b.closeChannel channel) :=
    ConsumingBroker.spares_drop h.consumer stays
  obtain ⟨queue, bindings⟩ := spares
  refine ⟨?_, ?_, bindings _ h.binding rfl, ?_⟩
  · exact (congrArg (·.lookup p.exchangeName) (ConsumingBroker.shrinks_drop b _).exchanges).trans h.exchange
  · obtain ⟨q, hq, arguments⟩ := h.queue
    exact ⟨q, queue.trans hq, arguments⟩
  · unfold ConsumingBroker.closeChannel
    rw [ConsumingBroker.consumers_drop]
    exact List.mem_filter.mpr ⟨h.consumer, by simpa using stays⟩

theorem Declared.grows {n : Nat} (h : Declared b p n) (grows : b.Grows c) : Declared c p n := by
  refine ⟨fun hn => grows.exchanges (h.exchange hn), fun hn => ?_, fun hn => grows.bindings _ (h.binding hn)⟩
  obtain ⟨q, hq, arguments⟩ := h.queue hn
  exact ⟨q, grows.queues hq, arguments⟩

theorem ReceiverRun.grows_command {operation : ReceiverOperation}
    (h : command mediator closed b s p operation = some c) : b.Grows c := by
  cases operation with
  | exchangeDeclare | queueDeclare | queueBind => exact ConsumingBroker.grows_execute (execute_of_toOption h)
  | basicConsume =>
    obtain ⟨other, _⟩ | ⟨_, _, rfl, _⟩ := consumers_command h
    · exact absurd rfl other
    · exact ⟨id, id, fun _ hx => hx, fun _ hk => List.mem_cons_of_mem _ hk⟩
  | _ => cases h

theorem Declared.command {operation : ReceiverOperation}
    (h : ReceiverRun.command mediator closed b s p operation = some c)
    (declared : Declared b p operation.rank) : Declared c p (operation.rank + 1) := by
  obtain ⟨exchange, queue, binding⟩ := declared.grows (ReceiverRun.grows_command h)
  have executed : ∀ {k : Broker.Command}, (b.execute mediator.instanceId.value k).toOption = some c →
      Broker.execute mediator.instanceId.value b.broker k = .ok c.broker := fun hk =>
    (ConsumingBroker.executed_of_execute (execute_of_toOption hk)).1
  cases operation with
  | exchangeDeclare =>
    exact ⟨fun _ => (Broker.exchanges_execute (executed h)).mpr (Or.inr rfl),
      fun hn => absurd hn (by decide), fun hn => absurd hn (by decide)⟩
  | queueDeclare =>
    exact ⟨fun _ => exchange (by decide), fun _ => Broker.queue_of_declare (executed h),
      fun hn => absurd hn (by decide)⟩
  | queueBind =>
    exact ⟨fun _ => exchange (by decide), fun _ => queue (by decide),
      fun _ => (Broker.bindings_execute (executed h)).mpr (Or.inr rfl)⟩
  | basicConsume =>
    exact ⟨fun _ => exchange (by decide), fun _ => queue (by decide), fun _ => binding (by decide)⟩
  | _ => cases h

end Commands

section Steps

variable {mediator : Mediator} {hosts : Hosts} {m : MediatorRef} {closed : ReceiveChannel → Bool}
  {l l' : MediatorLife} {run run' : ReceiverRun} {e : Event} {closes : Option ReceiveChannel}

/-- The channels that are closed when the broker has closed one more. -/
def closedAfter (closed : ReceiveChannel → Bool) : Option ReceiveChannel → ReceiveChannel → Bool
  | none => closed
  | some channel => Function.update closed channel true

/-- A call that is not declaring has nothing to show. -/
theorem ReceiverRun.declares_of_idle (adding : run.control ≠ .adding)
    (performing : ∀ operation, run.control ≠ .performing operation) : run.Declares mediator closed l := by
  have none : run.carried = 0 := by
    unfold carried
    split
    next operation control => exact absurd control (performing operation)
    next control => exact absurd control adding
    next => rfl
  refine ⟨fun p _ => ?_, fun p _ hn => ?_, fun hn => ?_, fun hc => ?_⟩
  · rw [none]
    exact ⟨by simp, by simp, by simp⟩
  · omega
  · omega
  · rcases hc with hc | ⟨operation, hc⟩
    · exact absurd hc adding
    · exact absurd hc (performing operation)

/-- A step of a call that leaves the broker as it is. -/
theorem ReceiverRun.Declares.moved (h : run.Declares mediator closed l) (carried : run'.carried ≤ run.carried)
    (type : run'.sentObjectType = run.sentObjectType) (topology : l'.topology = l.topology)
    (new : run'.sentObjectType ∉ l'.registeredConsumerTypes) : run'.Declares mediator closed l' := by
  obtain ⟨declared, consumer, channel, _⟩ := h
  refine ⟨?_, ?_, ?_, fun _ => new⟩
  · rw [type, topology]
    intro p hp
    obtain ⟨exchange, queue, binding⟩ := declared p hp
    exact ⟨fun hn => exchange (le_trans hn carried), fun hn => queue (le_trans hn carried),
      fun hn => binding (le_trans hn carried)⟩
  · rw [type, topology]
    exact fun p hp hn => consumer p hp (le_trans hn carried)
  · rw [type]
    exact fun hn => channel (le_trans hn carried)

theorem MediatorLife.Standing.moved (h : l.Standing mediator closed)
    (types : l'.registeredConsumerTypes = l.registeredConsumerTypes) (topology : l.topology.Grows l'.topology)
    (receivers : l'.configuration.receivers = l.configuration.receivers) : l'.Standing mediator closed := by
  refine ⟨fun s hs => ?_, fun channel hc => ?_⟩
  · obtain ⟨p, receiver, established⟩ := h.established s (types ▸ hs)
    exact ⟨p, receiver, fun open_ => (established open_).grows topology⟩
  · rw [types, receivers]
    exact h.closed channel hc

theorem ReceiverRun.configuration_remember (l : MediatorLife) (s : SentType) (p : ReceiveTopology)
    (operation : ReceiverOperation) : (remember l s p operation).configuration = l.configuration := by
  cases operation with
  | queueDeclare =>
    simp only [remember]
    split <;> rfl
  | _ => rfl

/-- What a step of a call makes of what stands. -/
theorem ReceiverRun.Declares.step (h : run.Step hosts m closed l e l' run' closes)
    (declares : run.Declares (hosts.mediator m) closed l) (standing : l.Standing (hosts.mediator m) closed)
    (mine : ∃ t, (t, run.sentObjectType) ∈ l.configuration.receivers) :
    (l'.closing closes).Standing (hosts.mediator m) (closedAfter closed closes) ∧
      run'.Declares (hosts.mediator m) (closedAfter closed closes) (l'.closing closes) := by
  have idle : ∀ {control : EnsureReceiver} {k : MediatorLife} {closed : ReceiveChannel → Bool},
      control ≠ .adding → (∀ operation, control ≠ .performing operation) →
      (run.goesTo control).Declares (hosts.mediator m) closed k := fun adding performing =>
    declares_of_idle adding performing
  have outside : ∀ {control : EnsureReceiver} {k : MediatorLife} {closed : ReceiveChannel → Bool},
      (run.goesTo control).inside = false →
      (run.goesTo control).Declares (hosts.mediator m) closed k := by
    intro control k closed out
    exact idle (by rintro rfl; cases out) (by rintro operation rfl; cases out)
  have same : l.topology.Grows l.topology := .refl _
  cases h with
  | outside _ out => exact ⟨standing, outside out⟩
  | acquired => exact ⟨standing.moved rfl same rfl, idle (by simp) (by simp)⟩
  | found => exact ⟨standing, idle (by simp) (by simp)⟩
  | began before new =>
    exact ⟨standing, fun _ _ => ⟨by simp [carried, goesTo, ReceiverOperation.rank],
      by simp [carried, goesTo, ReceiverOperation.rank], by simp [carried, goesTo, ReceiverOperation.rank]⟩,
      by simp [carried, goesTo, ReceiverOperation.rank], by simp [carried, goesTo, ReceiverOperation.rank],
      fun _ => new⟩
  | @took operation p b before untaken receiver done =>
    refine ⟨standing.moved rfl (grows_command done) rfl, ?_⟩
    have carried : run.carried = operation.rank := by simp [ReceiverRun.carried, before, untaken]
    have carried' : ReceiverRun.carried { run with taken := true } = operation.rank + 1 := by
      simp [ReceiverRun.carried, before]
    have four : 4 ≤ operation.rank + 1 → operation = .basicConsume := by
      intro hn
      cases operation <;> first | rfl | cases done | exact absurd hn (by decide)
    refine ⟨fun q hq => ?_, fun q hq hn => ?_, fun hn => ?_, fun _ => declares.new (Or.inr ⟨_, before⟩)⟩
    · cases receiver.symm.trans hq
      exact carried' ▸ Declared.command done (carried ▸ declares.declared p receiver)
    · cases receiver.symm.trans hq
      rcases consumers_command done with ⟨other, _⟩ | ⟨_, _, rfl, _⟩
      · exact absurd (four (carried' ▸ hn)) other
      · exact List.mem_cons_self
    · rcases consumers_command done with ⟨other, _⟩ | ⟨_, open_, _⟩
      · exact absurd (four (carried' ▸ hn)) other
      · exact open_
  | @prepared operation next before noCommand after =>
    refine ⟨standing, declares.moved ?_ rfl rfl (declares.new (Or.inr ⟨_, before⟩))⟩
    cases operation with
    | addTypeIfMissing | topologyChannel =>
      cases after
      exact Nat.zero_le _
    | registered => cases after
    | _ => cases noCommand
  | @proceeded operation next p before command after taken receiver =>
    have state := toMediatorState_remember l run.sentObjectType p operation
    have types : (remember l run.sentObjectType p operation).registeredConsumerTypes =
        l.registeredConsumerTypes := congrArg (·.registeredConsumerTypes) state
    obtain ⟨topology, _⟩ := broker_remember l run.sentObjectType p operation
    refine ⟨standing.moved types (topology ▸ same) ?_, declares.moved ?_ rfl topology ?_⟩
    · exact congrArg (·.receivers) (configuration_remember l run.sentObjectType p operation)
    · cases operation with
      | exchangeDeclare | queueDeclare | queueBind | basicConsume =>
        cases after
        simp [carried, goesTo, before, taken, ReceiverOperation.rank]
      | _ => cases command
    · have new := declares.new (Or.inr ⟨_, before⟩)
      exact types ▸ new
  | registered before =>
    refine ⟨standing, declares.moved ?_ rfl rfl (declares.new (Or.inr ⟨_, before⟩))⟩
    simp [carried, goesTo, before, ReceiverOperation.rank]
  | @listed p before receiver =>
    have all : run.carried = 4 := by simp [carried, before]
    have open_ := declares.channel (by omega)
    refine ⟨⟨fun s hs => ?_, fun channel hc => ?_⟩, idle (by simp) (by simp)⟩
    · rcases List.mem_cons.mp hs with rfl | hs
      · obtain ⟨exchange, queue, binding⟩ := declares.declared p receiver
        exact ⟨p, receiver, fun _ => ⟨exchange (by omega), queue (by omega), binding (by omega),
          declares.consumer p receiver (by omega)⟩⟩
      · exact standing.established s hs
    · obtain ⟨r, hr, here, new⟩ := standing.closed channel hc
      refine ⟨r, hr, here, fun old => ?_⟩
      rcases List.mem_cons.mp old with old | old
      · rw [← old, here] at open_
        rw [closedAfter, open_] at hc
        cases hc
      · exact new old
  | failed => exact ⟨standing.moved rfl same rfl, outside rfl⟩
  | refused before untaken =>
    refine ⟨⟨fun s hs => ?_, fun channel hc => ?_⟩, outside rfl⟩
    · obtain ⟨p, receiver, established⟩ := standing.established s hs
      refine ⟨p, receiver, fun open_ => ?_⟩
      by_cases here : (receiveChannelFor s).1 = (receiveChannelFor run.sentObjectType).1
      · simp [closedAfter, here] at open_
      · rw [closedAfter, Function.update_of_ne here] at open_
        exact (established open_).closeChannel here
    · by_cases here : channel = (receiveChannelFor run.sentObjectType).1
      · obtain ⟨t, ht⟩ := mine
        exact ⟨_, ht, here.symm, declares.new (Or.inr ⟨_, before⟩)⟩
      · rw [closedAfter, Function.update_of_ne here] at hc
        exact standing.closed channel hc
  | released => exact ⟨standing.moved rfl same rfl, outside rfl⟩

end Steps
end RabbitMediator
