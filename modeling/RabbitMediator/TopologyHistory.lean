import RabbitMediator.ReceiverRun
import RabbitMediator.Routing

namespace RabbitMediator

/-- The broker and the tables of the mediators of one multiplexer, as any number of calls of `EnsureReceiver`
leave them, in any order of their steps, while other connections use the broker as well. `declared` are the
types whose queue a mediator has declared. -/
inductive Built (hosts : Hosts) (n : Nat) :
    Broker → (MediatorRef → MediatorLife) → List (MediatorRef × SentType) → Prop
  | created {configuration : MediatorRef → RabbitMultiplexerMediatorConfiguration} :
      Built hosts n .empty (fun m => .created (configuration m)) []
  | exchangeDeclared {b c tables declared m t p} (built : Built hosts n b tables declared)
      (receiver : receiverOf (hosts.mediator m) t = .ok p)
      (done : Broker.execute (hosts.instanceId n).value b (.exchangeDeclare p.exchangeName p.exchange) = .ok c) :
      Built hosts n c tables declared
  | queueDeclared {b c tables declared m t p} (built : Built hosts n b tables declared)
      (here : m.multiplexer = n) (receiver : receiverOf (hosts.mediator m) t = .ok p)
      (done : Broker.execute (hosts.instanceId n).value b (.queueDeclare p.queueName p.queue) = .ok c) :
      Built hosts n c (Function.update tables m (ReceiverRun.remember (tables m) t p .queueDeclare))
        ((m, t) :: declared)
  | queueBound {b c tables declared m t p} (built : Built hosts n b tables declared)
      (earlier : (m, t) ∈ declared) (receiver : receiverOf (hosts.mediator m) t = .ok p)
      (done : Broker.execute (hosts.instanceId n).value b (.queueBind p.binding) = .ok c) :
      Built hosts n c (Function.update tables m (ReceiverRun.remember (tables m) t p .queueBind)) declared
  | other {b c tables declared connection k} (built : Built hosts n b tables declared)
      (apart : connection ≠ (hosts.instanceId n).value) (done : Broker.execute connection b k = .ok c) :
      Built hosts n c tables declared

/-- The type's receiver has declared its queue. -/
structure DeclaredQueue (hosts : Hosts) (declared : List (MediatorRef × SentType)) (m : MediatorRef) (t : SentType)
    (p : ReceiveTopology) : Prop where
  mem : (m, t) ∈ declared
  receiver : receiverOf (hosts.mediator m) t = .ok p

/-- What the tables remember is what was declared, and the broker has it. -/
structure Remembered (hosts : Hosts) (n : Nat) (b : Broker) (tables : MediatorRef → MediatorLife)
    (declared : List (MediatorRef × SentType)) : Prop where
  owned : ∀ {m queue channel}, (tables m).ownedQueues.lookup queue = some channel →
    ∃ t p, DeclaredQueue hosts declared m t p ∧ p.owned = true ∧ p.queueName = queue ∧
      channel = (receiveChannelFor t).1
  recorded : ∀ {m queue exchange}, (tables m).queueToExchangeBindings.lookup queue = some exchange →
    ∃ t p, DeclaredQueue hosts declared m t p ∧ p.queueName = queue ∧ exchange = (p.exchangeName, p.exchange.kind) ∧
      p.binding ∈ b.bindings
  queues : ∀ {m t p}, DeclaredQueue hosts declared m t p → m.multiplexer = n ∧
    ∃ q, b.queues.lookup p.queueName = some q ∧ q.arguments = p.queue ∧
      (p.queue.exclusive = true → q.connection = (hosts.instanceId n).value)
  bindings : ∀ x ∈ b.bindings, ∃ q, b.queues.lookup x.queue = some q ∧ (q.arguments.exclusive = true →
    q.connection = (hosts.instanceId n).value → ∃ m t p, DeclaredQueue hosts declared m t p ∧ x = p.binding ∧
      ((tables m).queueToExchangeBindings.lookup x.queue).isSome = true)

section History

variable {hosts : Hosts} {n : Nat} {b c : Broker} {tables : MediatorRef → MediatorLife}
  {declared : List (MediatorRef × SentType)} {m : MediatorRef} {t : SentType} {p : ReceiveTopology}

theorem DeclaredQueue.cons (h : DeclaredQueue hosts declared m t p) (first : MediatorRef × SentType) :
    DeclaredQueue hosts (first :: declared) m t p :=
  ⟨List.mem_cons_of_mem _ h.mem, h.receiver⟩

/-- A command that binds nothing of this connection changes nothing that is remembered. -/
theorem Remembered.execute {connection : String} {k : Broker.Command} (h : Remembered hosts n b tables declared)
    (done : Broker.execute connection b k = .ok c)
    (foreign : ∀ x, k = .queueBind x → connection ≠ (hosts.instanceId n).value) :
    Remembered hosts n c tables declared := by
  refine ⟨h.owned, fun {m queue exchange} he => ?_, fun {m t p} hd => ?_, fun x hx => ?_⟩
  · obtain ⟨t, p, hd, name, he, bound⟩ := h.recorded he
    exact ⟨t, p, hd, name, he, (Broker.bindings_execute done).mpr (Or.inl bound)⟩
  · obtain ⟨here, q, hq, rest⟩ := h.queues hd
    exact ⟨here, q, Broker.queues_kept done hq, rest⟩
  · rcases (Broker.bindings_execute done).mp hx with old | rfl
    · obtain ⟨q, hq, origin⟩ := h.bindings x old
      exact ⟨q, Broker.queues_kept done hq, origin⟩
    · obtain ⟨q, hq, usable⟩ := Broker.usable_of_bind done
      refine ⟨q, Broker.queues_kept done hq, fun exclusive own => ?_⟩
      rw [Broker.Queue.usableBy, exclusive, own] at usable
      exact absurd (by simpa using usable) (Ne.symm (foreign x rfl))

theorem remember_queueDeclare (l : MediatorLife) (t : SentType) (p : ReceiveTopology) :
    (ReceiverRun.remember l t p .queueDeclare).queueToExchangeBindings = l.queueToExchangeBindings := by
  simp only [ReceiverRun.remember]
  split <;> rfl

theorem owned_remember {l : MediatorLife} {queue : String} {channel : ReceiveChannel}
    (h : (ReceiverRun.remember l t p .queueDeclare).ownedQueues.lookup queue = some channel) :
    l.ownedQueues.lookup queue = some channel ∨
      p.owned = true ∧ p.queueName = queue ∧ channel = (receiveChannelFor t).1 := by
  simp only [ReceiverRun.remember] at h
  split at h
  next owned =>
    rcases ConcurrentDictionary.lookup_tryAdd_cases h with old | ⟨rfl, rfl, _⟩
    · exact Or.inl old
    · exact Or.inr ⟨owned, rfl, rfl⟩
  next => exact Or.inl h

/-- The queue of a receiver has been declared, and is remembered if it is owned. -/
theorem Remembered.queueDeclared (h : Remembered hosts n b tables declared) (here : m.multiplexer = n)
    (receiver : receiverOf (hosts.mediator m) t = .ok p)
    (done : Broker.execute (hosts.instanceId n).value b (.queueDeclare p.queueName p.queue) = .ok c) :
    Remembered hosts n c (Function.update tables m (ReceiverRun.remember (tables m) t p .queueDeclare))
      ((m, t) :: declared) := by
  have h := h.execute done (by simp)
  have same (m' : MediatorRef) : (Function.update tables m (ReceiverRun.remember (tables m) t p .queueDeclare)
      m').queueToExchangeBindings = (tables m').queueToExchangeBindings := by
    by_cases hm : m' = m
    · subst hm
      rw [Function.update_self, remember_queueDeclare]
    · rw [Function.update_of_ne hm]
  refine ⟨fun {m' queue channel} ho => ?_, fun {m' queue exchange} he => ?_, fun {m' t' p'} hd => ?_,
    fun x hx => ?_⟩
  · have ho : (tables m').ownedQueues.lookup queue = some channel ∨ m' = m ∧ p.owned = true ∧
        p.queueName = queue ∧ channel = (receiveChannelFor t).1 := by
      by_cases hm : m' = m
      · subst hm
        rw [Function.update_self] at ho
        exact (owned_remember ho).imp id fun new => ⟨rfl, new⟩
      · rw [Function.update_of_ne hm] at ho
        exact Or.inl ho
    rcases ho with old | ⟨rfl, owned, name, hc⟩
    · obtain ⟨t', p', hd, rest⟩ := h.owned old
      exact ⟨t', p', hd.cons _, rest⟩
    · exact ⟨t, p, ⟨List.mem_cons_self, receiver⟩, owned, name, hc⟩
  · rw [same] at he
    obtain ⟨t', p', hd, rest⟩ := h.recorded he
    exact ⟨t', p', hd.cons _, rest⟩
  · rcases List.mem_cons.mp hd.mem with new | old
    · cases new
      cases receiver.symm.trans hd.receiver
      exact ⟨here, Broker.connection_of_declare done⟩
    · exact h.queues ⟨old, hd.receiver⟩
  · obtain ⟨q, hq, origin⟩ := h.bindings x hx
    refine ⟨q, hq, fun exclusive own => ?_⟩
    obtain ⟨m', t', p', hd, hx, recorded⟩ := origin exclusive own
    exact ⟨m', t', p', hd.cons _, hx, by rwa [same]⟩

/-- The queue of a receiver has been bound, and its exchange is remembered. -/
theorem Remembered.queueBound (h : Remembered hosts n b tables declared)
    (hd : DeclaredQueue hosts declared m t p)
    (done : Broker.execute (hosts.instanceId n).value b (.queueBind p.binding) = .ok c) :
    Remembered hosts n c (Function.update tables m (ReceiverRun.remember (tables m) t p .queueBind)) declared := by
  have bound : p.binding ∈ c.bindings := (Broker.bindings_execute done).mpr (Or.inr rfl)
  have same (m' : MediatorRef) : (Function.update tables m (ReceiverRun.remember (tables m) t p .queueBind)
      m').ownedQueues = (tables m').ownedQueues := by
    by_cases hm : m' = m
    · subst hm
      rw [Function.update_self]
      rfl
    · rw [Function.update_of_ne hm]
  refine ⟨fun {m' queue channel} ho => h.owned (same m' ▸ ho), fun {m' queue exchange} he => ?_,
    fun {m' t' p'} hd' => ?_, fun x hx => ?_⟩
  · have he : (tables m').queueToExchangeBindings.lookup queue = some exchange ∨
        m' = m ∧ queue = p.queueName ∧ exchange = (p.exchangeName, p.exchange.kind) := by
      by_cases hm : m' = m
      · subst hm
        rw [Function.update_self] at he
        exact (ConcurrentDictionary.lookup_tryAdd_cases he).imp id fun new => ⟨rfl, new.1, new.2.1⟩
      · rw [Function.update_of_ne hm] at he
        exact Or.inl he
    rcases he with old | ⟨rfl, rfl, rfl⟩
    · obtain ⟨t', p', hd', name, he, old⟩ := h.recorded old
      exact ⟨t', p', hd', name, he, (Broker.bindings_execute done).mpr (Or.inl old)⟩
    · exact ⟨t, p, hd, rfl, rfl, bound⟩
  · obtain ⟨here, q, hq, rest⟩ := h.queues hd'
    exact ⟨here, q, Broker.queues_kept done hq, rest⟩
  · have kept {m' : MediatorRef} {queue : String}
        (there : queue = p.queueName ∧ m' = m ∨ ((tables m').queueToExchangeBindings.lookup queue).isSome = true) :
        ((Function.update tables m (ReceiverRun.remember (tables m) t p .queueBind) m').queueToExchangeBindings.lookup
          queue).isSome = true := by
      by_cases hm : m' = m
      · subst hm
        rw [Function.update_self]
        exact ConcurrentDictionary.isSome_tryAdd (there.imp And.left id)
      · rw [Function.update_of_ne hm]
        exact there.resolve_left fun h => hm h.2
    rcases (Broker.bindings_execute done).mp hx with old | new
    · obtain ⟨q, hq, origin⟩ := h.bindings x old
      refine ⟨q, Broker.queues_kept done hq, fun exclusive own => ?_⟩
      obtain ⟨m', t', p', hd', hx, recorded⟩ := origin exclusive own
      exact ⟨m', t', p', hd', hx, kept (Or.inr recorded)⟩
    · cases new
      obtain ⟨_, q, hq, _⟩ := h.queues hd
      exact ⟨q, Broker.queues_kept done hq, fun _ _ => ⟨m, t, p, hd, rfl, kept (Or.inl ⟨rfl, rfl⟩)⟩⟩

theorem remembered_of_built (built : Built hosts n b tables declared) : Remembered hosts n b tables declared := by
  induction built with
  | created =>
    exact ⟨fun h => by simp [MediatorLife.created] at h, fun h => by simp [MediatorLife.created] at h,
      fun h => absurd h.mem List.not_mem_nil, fun x hx => absurd hx List.not_mem_nil⟩
  | exchangeDeclared built receiver done ih => exact ih.execute done (by simp)
  | other built apart done ih => exact ih.execute done fun _ _ => apart
  | queueDeclared built here receiver done ih => exact ih.queueDeclared here receiver done
  | queueBound built earlier receiver done ih => exact ih.queueBound ⟨earlier, receiver⟩ done

/-- Receivers of one mediator that have declared one queue, alike, have one topology. -/
theorem topology_of_queue {m' : MediatorRef} {t' : SentType} {p' : ReceiveTopology}
    (hp : receiverOf (hosts.mediator m) t = .ok p) (hp' : receiverOf (hosts.mediator m') t' = .ok p')
    (name : p.queueName = p'.queueName) (queue : p.queue = p'.queue) (owned : p.owned = true) :
    hosts.mediator m = hosts.mediator m' ∧ p = p' := by
  obtain ⟨u, a, _, _, rfl⟩ := receiverOf_addressing hp
  obtain ⟨u', a', _, _, rfl⟩ := receiverOf_addressing hp'
  obtain ⟨rfl, _, own⟩ := queueName_inj name
  have same : hosts.mediator m = hosts.mediator m' := own (by simpa [Addressing.receiver] using owned)
  have addressing : a = a' := by
    cases a <;> cases a' <;> first | rfl | cases queue
  subst addressing
  refine ⟨same, ?_⟩
  simp only [Addressing.receiver] at name ⊢
  rw [name, same]

end History
end RabbitMediator
