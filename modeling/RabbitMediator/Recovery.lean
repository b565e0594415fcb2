import RabbitMediator.System
import RabbitMediator.TopologyHistory

namespace RabbitMediator

open RabbitNaming

/-- What the handler of a recovery does for one owned queue. -/
structure Rebinding where
  mediator : MediatorRef
  channel : ReceiveChannel
  queue : String
  exchangeName : String
  exchangeType : Broker.ExchangeKind
  routingKey : String
deriving DecidableEq

namespace Rebinding

def exchangeDeclare (r : Rebinding) : Broker.Command :=
  .exchangeDeclare r.exchangeName ⟨r.exchangeType, false, false⟩

def binding (r : Rebinding) : Broker.Binding := ⟨r.exchangeName, r.queue, r.routingKey⟩

/-- The body of the inner `try`. `fails` are the calls that throw, and the rest is up to the broker; the second
result is what was attempted. -/
def perform (connection : String) (fails : Broker.Command → Bool) (b : Broker) :
    List Broker.Command → Broker × List Broker.Command
  | [] => (b, [])
  | k :: rest =>
    if fails k then (b, [k])
    else match Broker.execute connection b k with
      | .error _ => (b, [k])
      | .ok c =>
        let p := perform connection fails c rest
        (p.1, k :: p.2)

def attempt (connection : String) (fails : Rebinding → Broker.Command → Bool)
    (s : Broker × List (Rebinding × Broker.Command)) (r : Rebinding) :
    Broker × List (Rebinding × Broker.Command) :=
  let p := perform connection (fails r) s.1 [r.exchangeDeclare, .queueBind r.binding]
  (p.1, s.2 ++ p.2.map fun k => (r, k))

end Rebinding

/-- Fanout exchanges bind on the broadcast key, direct ones on the key of the mediator. -/
def recoveryRoutingKey (mediator : Mediator) (exchangeType : Broker.ExchangeKind) : String :=
  if exchangeType = .fanout then broadcastRoutingKey
  else instanceRoutingKey mediator.instanceId.value mediator.scopeId.value

/-- The owned queues of a mediator that have a recorded binding. -/
def rebindingsOf (hosts : Hosts) (tables : MediatorRef → MediatorLife) (m : MediatorRef) : List Rebinding :=
  if (tables m).registered then
    (tables m).ownedQueues.entries.filterMap fun queue =>
      ((tables m).queueToExchangeBindings.lookup queue.1).map fun exchange =>
        ⟨m, queue.2, queue.1, exchange.1, exchange.2, recoveryRoutingKey (hosts.mediator m) exchange.2⟩
  else []

def rebindings (hosts : Hosts) (instances : ConcurrentDictionary String MediatorRef)
    (tables : MediatorRef → MediatorLife) : List Rebinding :=
  instances.entries.flatMap fun m => rebindingsOf hosts tables m.2

def rebindAllQueuesAfterRecovery (hosts : Hosts) (n : Nat) (instances : ConcurrentDictionary String MediatorRef)
    (tables : MediatorRef → MediatorLife) (fails : Rebinding → Broker.Command → Bool) (b : Broker) :
    Broker × List (Rebinding × Broker.Command) :=
  (rebindings hosts instances tables).foldl (Rebinding.attempt (hosts.instanceId n).value fails) (b, [])

section Loop

variable {connection : String} {fails : Rebinding → Broker.Command → Bool} {b c : Broker}
  {rs done : List Rebinding} {r : Rebinding}

/-- The queues are there for the connection, and exchanges of one name are of one type. -/
structure Rebindable (connection : String) (b : Broker) (rs : List Rebinding) : Prop where
  queues : ∀ r ∈ rs, ∃ q, b.queues.lookup r.queue = some q ∧ q.usableBy connection = true
  exchanges : ∀ r ∈ rs, ∀ r' ∈ rs, r.exchangeName = r'.exchangeName → r.exchangeType = r'.exchangeType

/-- What was attempted for one queue, whatever becomes of the others. -/
def Rebinding.attempted (fails : Rebinding → Broker.Command → Bool) (r : Rebinding) :
    List (Rebinding × Broker.Command) :=
  if fails r r.exchangeDeclare then [(r, r.exchangeDeclare)]
  else [(r, r.exchangeDeclare), (r, .queueBind r.binding)]

def Rebinding.Succeeds (fails : Rebinding → Broker.Command → Bool) (r : Rebinding) : Prop :=
  fails r r.exchangeDeclare = false ∧ fails r (.queueBind r.binding) = false

/-- The state of the loop after some queues. -/
structure Rebound (fails : Rebinding → Broker.Command → Bool) (b : Broker) (done : List Rebinding)
    (s : Broker × List (Rebinding × Broker.Command)) : Prop where
  queues : s.1.queues = b.queues
  exchanges : ∀ {name a}, s.1.exchanges.lookup name = some a →
    ∃ r ∈ done, r.exchangeName = name ∧ a = ⟨r.exchangeType, false, false⟩
  bindings : ∀ {x}, x ∈ s.1.bindings ↔ ∃ r ∈ done, r.Succeeds fails ∧ x = r.binding
  attempted : s.2 = done.flatMap (Rebinding.attempted fails)

variable {s : Broker × List (Rebinding × Broker.Command)}

theorem Rebound.declares (h : Rebound fails b done s) (fits : Rebindable connection b rs)
    (sub : ∀ r ∈ done, r ∈ rs) (hr : r ∈ rs) : ∃ c, Broker.execute connection s.1 r.exchangeDeclare = .ok c := by
  simp only [Rebinding.exchangeDeclare, Broker.execute]
  split
  next => exact ⟨_, rfl⟩
  next old ho =>
    obtain ⟨r', hr', name, rfl⟩ := h.exchanges ho
    rw [fits.exchanges r' (sub r' hr') r hr name, if_pos rfl]
    exact ⟨_, rfl⟩

theorem Rebound.binds (h : Rebound fails b done s) (fits : Rebindable connection b rs) (hr : r ∈ rs)
    (declared : Broker.execute connection s.1 r.exchangeDeclare = .ok c) :
    ∃ d, Broker.execute connection c (.queueBind r.binding) = .ok d := by
  obtain ⟨q, hq, usable⟩ := fits.queues r hr
  have exchange := (Broker.exchanges_execute declared).mpr (Or.inr rfl)
  have queue : c.queues.lookup r.queue = some q := Broker.queues_kept declared (by rwa [h.queues])
  simp only [Broker.execute, Rebinding.binding, exchange, queue, usable, if_true]
  exact ⟨_, rfl⟩

/-- One turn of the loop goes through but for the calls that fail. -/
theorem Rebound.attempt (h : Rebound fails b done s) (fits : Rebindable connection b rs)
    (sub : ∀ r ∈ done, r ∈ rs) (hr : r ∈ rs) :
    Rebound fails b (done ++ [r]) (Rebinding.attempt connection fails s r) := by
  have log {ks : List Broker.Command} (hk : (ks.map fun k => (r, k)) = r.attempted fails) :
      s.2 ++ ks.map (fun k => (r, k)) = (done ++ [r]).flatMap (Rebinding.attempted fails) := by
    rw [hk, h.attempted, List.flatMap_append, List.flatMap_singleton]
  have grown {x : Broker.Binding} (failed : ¬r.Succeeds fails) :
      x ∈ s.1.bindings ↔ ∃ r' ∈ done ++ [r], r'.Succeeds fails ∧ x = r'.binding := by
    rw [h.bindings]
    refine ⟨fun ⟨r', hr', rest⟩ => ⟨r', List.mem_append_left _ hr', rest⟩, fun ⟨r', hr', ok, hx⟩ => ?_⟩
    rcases List.mem_append.mp hr' with hr' | hr'
    · exact ⟨r', hr', ok, hx⟩
    · exact absurd (List.mem_singleton.mp hr' ▸ ok) failed
  obtain ⟨c, hc⟩ := h.declares fits sub hr
  obtain ⟨d, hd⟩ := h.binds fits hr hc
  have exchanges {name : String} {a : Broker.ExchangeArguments} (ha : c.exchanges.lookup name = some a) :
      ∃ r' ∈ done ++ [r], r'.exchangeName = name ∧ a = ⟨r'.exchangeType, false, false⟩ := by
    rcases (Broker.exchanges_execute hc).mp ha with old | new
    · obtain ⟨r', hr', rest⟩ := h.exchanges old
      exact ⟨r', List.mem_append_left _ hr', rest⟩
    · cases new
      exact ⟨r, by simp, rfl, rfl⟩
  have declared : c.queues = s.1.queues := Broker.queues_execute_other hc (by simp [Rebinding.exchangeDeclare])
  have unbound {x : Broker.Binding} : x ∈ c.bindings ↔ x ∈ s.1.bindings := by
    simp [Broker.bindings_execute hc, Rebinding.exchangeDeclare]
  unfold Rebinding.attempt
  simp only [Rebinding.perform]
  cases hf : fails r r.exchangeDeclare with
  | true =>
    refine ⟨h.queues, fun ha => ?_, grown fun ok => ?_, log ?_⟩
    · obtain ⟨r', hr', rest⟩ := h.exchanges ha
      exact ⟨r', List.mem_append_left _ hr', rest⟩
    · cases ok.1.symm.trans hf
    · simp [Rebinding.attempted, hf]
  | false =>
    simp only [hc, Bool.false_eq_true, if_false]
    cases hb : fails r (.queueBind r.binding) with
    | true =>
      refine ⟨declared.trans h.queues, exchanges, unbound.trans (grown fun ok => ?_), log ?_⟩
      · cases ok.2.symm.trans hb
      · simp [Rebinding.attempted, hf]
    | false =>
      simp only [hd, Bool.false_eq_true, if_false]
      have bound : d.queues = c.queues := Broker.queues_execute_other hd (by simp)
      refine ⟨bound.trans (declared.trans h.queues), fun ha => exchanges ?_, fun {x} => ?_, log ?_⟩
      · exact ((Broker.exchanges_execute hd).mp ha).resolve_right (by simp)
      · rw [Broker.bindings_execute hd, unbound, h.bindings]
        constructor
        · rintro (⟨r', hr', rest⟩ | hx)
          · exact ⟨r', List.mem_append_left _ hr', rest⟩
          · cases hx
            exact ⟨r, by simp, ⟨hf, hb⟩, rfl⟩
        · rintro ⟨r', hr', ok, rfl⟩
          rcases List.mem_append.mp hr' with hr' | hr'
          · exact Or.inl ⟨r', hr', ok, rfl⟩
          · exact Or.inr (by rw [List.mem_singleton.mp hr'])
      · simp [Rebinding.attempted, hf]

/-- The whole loop. -/
theorem rebound_foldl (fits : Rebindable connection b rs) (fails : Rebinding → Broker.Command → Bool) :
    Rebound fails b rs (rs.foldl (Rebinding.attempt connection fails) (b.lost, [])) := by
  have start : Rebound fails b [] (b.lost, []) := by
    refine ⟨rfl, fun ha => ?_, by simp [Broker.lost], rfl⟩
    simp [Broker.lost] at ha
  have rest : ∀ (todo done : List Rebinding) s, Rebound fails b done s → (∀ r ∈ done ++ todo, r ∈ rs) →
      Rebound fails b (done ++ todo) (todo.foldl (Rebinding.attempt connection fails) s) := by
    intro todo
    induction todo with
    | nil => exact fun done s h _ => by simpa using h
    | cons r todo ih =>
      intro done s h sub
      have turn := h.attempt fits (fun r hr => sub r (List.mem_append_left _ hr)) (sub r (by simp))
      simpa using ih (done ++ [r]) _ turn (by simpa using sub)
  exact rest rs [] _ start fun r hr => hr

end Loop

section Origins

variable {hosts : Hosts} {n : Nat} {b : Broker} {instances : ConcurrentDictionary String MediatorRef}
  {tables : MediatorRef → MediatorLife} {declared : List (MediatorRef × SentType)} {m : MediatorRef}
  {queue : String} {channel : ReceiveChannel} {exchange : String × Broker.ExchangeKind}

theorem mem_rebindings {r : Rebinding} : r ∈ rebindings hosts instances tables ↔
    ∃ key m, instances.lookup key = some m ∧ (tables m).registered = true ∧ ∃ queue channel exchange,
      (tables m).ownedQueues.lookup queue = some channel ∧
      (tables m).queueToExchangeBindings.lookup queue = some exchange ∧
      r = ⟨m, channel, queue, exchange.1, exchange.2, recoveryRoutingKey (hosts.mediator m) exchange.2⟩ := by
  constructor
  · intro h
    obtain ⟨⟨key, m⟩, hm, h⟩ := List.mem_flatMap.mp h
    unfold rebindingsOf at h
    split at h
    next registered =>
      obtain ⟨⟨queue, channel⟩, hq, h⟩ := List.mem_filterMap.mp h
      obtain ⟨exchange, he, rfl⟩ := Option.map_eq_some_iff.mp h
      exact ⟨key, m, AList.mem_lookup_iff.mpr hm, registered, queue, channel, exchange,
        AList.mem_lookup_iff.mpr hq, he, rfl⟩
    next => cases h
  · rintro ⟨key, m, hm, registered, queue, channel, exchange, hq, he, rfl⟩
    refine List.mem_flatMap.mpr ⟨⟨key, m⟩, AList.mem_lookup_iff.mp hm, ?_⟩
    rw [rebindingsOf, if_pos registered]
    exact List.mem_filterMap.mpr ⟨⟨queue, channel⟩, AList.mem_lookup_iff.mp hq, Option.map_eq_some_iff.mpr ⟨_, he, rfl⟩⟩

/-- An owned queue is bound on the key that the recovery takes for its type of exchange. -/
theorem recoveryRoutingKey_eq {t : SentType} {p : ReceiveTopology}
    (hp : receiverOf (hosts.mediator m) t = .ok p) (owned : p.owned = true) :
    recoveryRoutingKey (hosts.mediator m) p.exchange.kind = p.routingKey ∧
      p.exchange = ⟨p.exchange.kind, false, false⟩ := by
  obtain ⟨name, a, _, _, rfl⟩ := receiverOf_addressing hp
  refine ⟨?_, rfl⟩
  cases a with
  | targeted => rfl
  | broadcast => rfl
  | anyTargeted => simp [Addressing.receiver] at owned

theorem exclusive_of_owned {t : SentType} {p : ReceiveTopology}
    (hp : receiverOf (hosts.mediator m) t = .ok p) (owned : p.owned = true) : p.queue.exclusive = true := by
  obtain ⟨name, a, _, _, rfl⟩ := receiverOf_addressing hp
  cases a with
  | targeted => rfl
  | broadcast => rfl
  | anyTargeted => simp [Addressing.receiver] at owned

/-- Receivers of one queue that is owned have one topology. -/
theorem Remembered.unique (h : Remembered hosts n b tables declared) {t t' : SentType} {p p' : ReceiveTopology}
    {m' : MediatorRef} (hd : DeclaredQueue hosts declared m t p) (hd' : DeclaredQueue hosts declared m' t' p')
    (name : p'.queueName = p.queueName) (owned : p.owned = true) :
    hosts.mediator m' = hosts.mediator m ∧ p' = p := by
  obtain ⟨_, q, hq, arguments, _⟩ := h.queues hd
  obtain ⟨_, q', hq', arguments', _⟩ := h.queues hd'
  rw [name, hq] at hq'
  cases hq'
  exact topology_of_queue hd'.receiver hd.receiver name (arguments'.symm.trans arguments)
    ((owned_of_queueName hd'.receiver hd.receiver name).trans owned)

/-- A rebinding repeats the declare and the bind of a receiver. -/
structure Rebinding.Repeats (r : Rebinding) (hosts : Hosts) (declared : List (MediatorRef × SentType)) (b : Broker)
    (t : SentType) (p : ReceiveTopology) : Prop where
  declared : DeclaredQueue hosts declared r.mediator t p
  owned : p.owned = true
  queue : p.queueName = r.queue
  channel : r.channel = (receiveChannelFor t).1
  exchangeDeclare : r.exchangeDeclare = .exchangeDeclare p.exchangeName p.exchange
  binding : r.binding = p.binding
  bound : p.binding ∈ b.bindings

/-- An owned queue with a recorded binding has both from one receiver. -/
theorem Remembered.repeats (h : Remembered hosts n b tables declared) {r : Rebinding}
    (hr : r ∈ rebindings hosts instances tables) : ∃ t p, r.Repeats hosts declared b t p := by
  obtain ⟨_, m, _, _, queue, channel, exchange, ho, he, rfl⟩ := mem_rebindings.mp hr
  obtain ⟨t, p, hd, owned, name, hc⟩ := h.owned ho
  obtain ⟨t', p', hd', name', rfl, bound⟩ := h.recorded he
  obtain ⟨_, rfl⟩ := h.unique hd hd' (name'.trans name.symm) owned
  obtain ⟨key, flags⟩ := recoveryRoutingKey_eq hd.receiver owned
  refine ⟨t, p', hd, owned, name, hc, ?_, ?_, bound⟩
  · rw [flags]
    rfl
  · simp only [Rebinding.binding, key, ← name]
    rfl

/-- The declares and binds of a recovery meet the queues they name and no exchange of another type. -/
theorem Remembered.rebindable (h : Remembered hosts n b tables declared) :
    Rebindable (hosts.instanceId n).value b (rebindings hosts instances tables) := by
  refine ⟨fun r hr => ?_, fun r hr r' hr' same => ?_⟩
  · obtain ⟨t, p, hp⟩ := h.repeats hr
    obtain ⟨_, q, hq, arguments, own⟩ := h.queues hp.declared
    refine ⟨q, hp.queue ▸ hq, ?_⟩
    rw [Broker.Queue.usableBy, own (exclusive_of_owned hp.declared.receiver hp.owned)]
    simp
  · obtain ⟨t, p, hp⟩ := h.repeats hr
    obtain ⟨t', p', hp'⟩ := h.repeats hr'
    obtain ⟨name, a, _, _, rfl⟩ := receiverOf_addressing hp.declared.receiver
    obtain ⟨name', a', _, _, rfl⟩ := receiverOf_addressing hp'.declared.receiver
    obtain ⟨named, kind⟩ := Broker.Command.exchangeDeclare.inj hp.exchangeDeclare
    obtain ⟨named', kind'⟩ := Broker.Command.exchangeDeclare.inj hp'.exchangeDeclare
    obtain ⟨rfl, rfl⟩ := Addressing.exchangeName_inj (named.symm.trans (same.trans named'))
    exact congrArg Broker.ExchangeArguments.kind (kind.trans kind'.symm)

end Origins

/-- What the handler of a recovery owes to the queues of the mediators `instances`, when the broker has kept
nothing but the queues of `b`. -/
structure Restores (hosts : Hosts) (n : Nat) (instances : ConcurrentDictionary String MediatorRef)
    (tables : MediatorRef → MediatorLife) (declared : List (MediatorRef × SentType)) (b : Broker) : Prop where
  /-- Every recorded queue is bound again as its receiver had it, whatever fails for the others. -/
  original : ∀ {key m queue channel exchange}, instances.lookup key = some m → (tables m).registered = true →
    (tables m).ownedQueues.lookup queue = some channel →
    (tables m).queueToExchangeBindings.lookup queue = some exchange →
    ∃ t p r, DeclaredQueue hosts declared m t p ∧ p.queueName = queue ∧ channel = (receiveChannelFor t).1 ∧
      (∀ t' p', DeclaredQueue hosts declared m t' p' → p'.queueName = queue → p' = p) ∧
      r.mediator = m ∧ r.queue = queue ∧ r.channel = channel ∧ ∀ fails,
        let attempted := (rebindAllQueuesAfterRecovery hosts n instances tables fails b.lost).2
        (r, .exchangeDeclare p.exchangeName p.exchange) ∈ attempted ∧
          ((r, .queueBind p.binding) ∈ attempted ↔ fails r (.exchangeDeclare p.exchangeName p.exchange) = false)
  /-- Nothing else is attempted. -/
  only : ∀ {fails r k}, (r, k) ∈ (rebindAllQueuesAfterRecovery hosts n instances tables fails b.lost).2 →
    (∃ key, instances.lookup key = some r.mediator) ∧ (tables r.mediator).registered = true ∧
      (tables r.mediator).ownedQueues.lookup r.queue = some r.channel ∧
      ∃ t p, DeclaredQueue hosts declared r.mediator t p ∧ p.queueName = r.queue ∧
        (k = .exchangeDeclare p.exchangeName p.exchange ∨ k = .queueBind p.binding)
  /-- If no call fails, the bindings are those that the owned queues had. -/
  restored : ∀ {fails}, (∀ r k, fails r k = false) → ∀ x,
    x ∈ (rebindAllQueuesAfterRecovery hosts n instances tables fails b.lost).1.bindings ↔
      x ∈ b.bindings ∧ ∃ key m channel, instances.lookup key = some m ∧ (tables m).registered = true ∧
        (tables m).ownedQueues.lookup x.queue = some channel

section Restoring

variable {hosts : Hosts} {n : Nat} {b : Broker} {instances : ConcurrentDictionary String MediatorRef}
  {tables : MediatorRef → MediatorLife} {declared : List (MediatorRef × SentType)}

theorem mem_attempted {fails : Rebinding → Broker.Command → Bool} {r : Rebinding} {k : Broker.Command} :
    (r, k) ∈ (rebindings hosts instances tables).flatMap (Rebinding.attempted fails) ↔
      r ∈ rebindings hosts instances tables ∧
        (k = r.exchangeDeclare ∨ k = .queueBind r.binding ∧ fails r r.exchangeDeclare = false) := by
  rw [List.mem_flatMap]
  constructor
  · rintro ⟨r', hr', hk⟩
    unfold Rebinding.attempted at hk
    split at hk
    next =>
      cases List.mem_singleton.mp hk
      exact ⟨hr', Or.inl rfl⟩
    next passes =>
      rcases List.mem_pair.mp hk with hk | hk <;> cases hk
      · exact ⟨hr', Or.inl rfl⟩
      · exact ⟨hr', Or.inr ⟨rfl, by simpa using passes⟩⟩
  · rintro ⟨hr, rfl | ⟨rfl, passes⟩⟩
    · refine ⟨r, hr, ?_⟩
      unfold Rebinding.attempted
      split <;> simp
    · exact ⟨r, hr, by simp [Rebinding.attempted, passes]⟩

theorem Remembered.restores (h : Remembered hosts n b tables declared)
    (distinct : ∀ m t m' t', (m, t) ∈ declared → (m', t') ∈ declared → hosts.scopeId m = hosts.scopeId m' → m = m') :
    Restores hosts n instances tables declared b := by
  have loop (fails : Rebinding → Broker.Command → Bool) : Rebound fails b (rebindings hosts instances tables)
      (rebindAllQueuesAfterRecovery hosts n instances tables fails b.lost) :=
    rebound_foldl h.rebindable fails
  refine ⟨fun {key m queue channel exchange} hm registered ho he => ?_, fun {fails r k} hk => ?_,
    fun {fails} passes x => ?_⟩
  · obtain ⟨r, rfl, rfl, rfl, hr⟩ : ∃ r : Rebinding, r.mediator = m ∧ r.queue = queue ∧ r.channel = channel ∧
        r ∈ rebindings hosts instances tables :=
      ⟨_, rfl, rfl, rfl, mem_rebindings.mpr ⟨key, m, hm, registered, queue, channel, exchange, ho, he, rfl⟩⟩
    obtain ⟨t, p, hp⟩ := h.repeats hr
    refine ⟨t, p, r, hp.declared, hp.queue, hp.channel, fun t' p' hd' name => ?_, rfl, rfl, rfl, fun fails => ?_⟩
    · exact (h.unique hp.declared hd' (name.trans hp.queue.symm) hp.owned).2
    · rw [← hp.exchangeDeclare, ← hp.binding, (loop fails).attempted]
      refine ⟨mem_attempted.mpr ⟨hr, Or.inl rfl⟩, mem_attempted.trans ⟨fun hk => ?_, fun passes => ?_⟩⟩
      · exact (hk.2.resolve_left (by simp [Rebinding.exchangeDeclare])).2
      · exact ⟨hr, Or.inr ⟨rfl, passes⟩⟩
  · rw [(loop fails).attempted, mem_attempted] at hk
    obtain ⟨hr, hk⟩ := hk
    obtain ⟨t, p, hp⟩ := h.repeats hr
    obtain ⟨key, m, hm, registered, queue, channel, exchange, ho, he, rfl⟩ := mem_rebindings.mp hr
    refine ⟨⟨key, hm⟩, registered, ho, t, p, hp.declared, hp.queue, ?_⟩
    exact hk.imp (·.trans hp.exchangeDeclare) fun hk => hk.1.trans (congrArg _ hp.binding)
  · rw [(loop fails).bindings]
    constructor
    · rintro ⟨r, hr, _, rfl⟩
      obtain ⟨t, p, hp⟩ := h.repeats hr
      obtain ⟨key, m, hm, registered, queue, channel, exchange, ho, he, rfl⟩ := mem_rebindings.mp hr
      exact ⟨hp.binding ▸ hp.bound, key, m, channel, hm, registered, ho⟩
    · rintro ⟨hx, key, m, channel, hm, registered, ho⟩
      obtain ⟨t, p, hd, owned, name, _⟩ := h.owned ho
      obtain ⟨here, q, hq, arguments, own⟩ := h.queues hd
      obtain ⟨q', hq', origin⟩ := h.bindings x hx
      cases hq.symm.trans (name ▸ hq')
      have exclusive := exclusive_of_owned hd.receiver owned
      -- The binding was made for a mediator of the same queue name, which is the same mediator.
      obtain ⟨m', t', p', hd', rfl, recorded⟩ := origin (arguments ▸ exclusive) (own exclusive)
      obtain ⟨same, rfl⟩ := h.unique hd hd' name.symm owned
      cases distinct m t m' t' hd.mem hd'.mem (congrArg Mediator.scopeId same).symm
      obtain ⟨exchange, he⟩ := Option.isSome_iff_exists.mp recorded
      obtain ⟨r, hr, queue⟩ : ∃ r ∈ rebindings hosts instances tables, r.queue = p'.queueName :=
        ⟨_, mem_rebindings.mpr ⟨key, m, hm, registered, _, channel, exchange, ho, he, rfl⟩, rfl⟩
      obtain ⟨t'', p'', hp⟩ := h.repeats hr
      refine ⟨r, hr, ⟨passes _ _, passes _ _⟩, ?_⟩
      rw [hp.binding, (h.unique hd hp.declared (hp.queue.trans queue) owned).2]

/-- Recovery binds the owned queues of mediators with distinct scope ids as they were. -/
theorem rebind_restores (hosts : Hosts) (n : Nat) (instances : ConcurrentDictionary String MediatorRef) (b : Broker)
    (tables : MediatorRef → MediatorLife) (declared : List (MediatorRef × SentType))
    (built : Built hosts n b tables declared)
    (distinct : ∀ m t m' t', (m, t) ∈ declared → (m', t') ∈ declared → hosts.scopeId m = hosts.scopeId m' → m = m') :
    Restores hosts n instances tables declared b :=
  (remembered_of_built built).restores distinct

/-- What the broker has of receivers that were declared one after the other. -/
structure Provides (hosts : Hosts) (b : Broker) (declared : List (MediatorRef × SentType)) : Prop where
  exchanges : ∀ {name a}, b.exchanges.lookup name = some a →
    ∃ (r : Addressing) (typeName : String), name = r.exchangeName typeName ∧ a = ⟨r.exchangeType, false, false⟩
  queues : ∀ {name q}, b.queues.lookup name = some q →
    ∃ m t p, (m, t) ∈ declared ∧ receiverOf (hosts.mediator m) t = .ok p ∧ name = p.queueName
  bindings : ∀ {m t p}, (m, t) ∈ declared → receiverOf (hosts.mediator m) t = .ok p → p.binding ∈ b.bindings

/-- The broker takes the declares of a receiver with a queue of its own. -/
theorem Provides.executes (provides : Provides hosts b declared) {m : MediatorRef} {t : SentType}
    {p : ReceiveTopology} (receiver : receiverOf (hosts.mediator m) t = .ok p)
    (new : b.queues.lookup p.queueName = none) (connection : String) : ∃ b₁ b₂ b₃,
      Broker.execute connection b (.exchangeDeclare p.exchangeName p.exchange) = .ok b₁ ∧
      Broker.execute connection b₁ (.queueDeclare p.queueName p.queue) = .ok b₂ ∧
      Broker.execute connection b₂ (.queueBind p.binding) = .ok b₃ := by
  obtain ⟨b₁, h₁⟩ : ∃ c, Broker.execute connection b (.exchangeDeclare p.exchangeName p.exchange) = .ok c := by
    simp only [Broker.execute]
    split
    next => exact ⟨_, rfl⟩
    next old ho =>
      obtain ⟨r, typeName, name, rfl⟩ := provides.exchanges ho
      obtain ⟨typeName', a, _, _, rfl⟩ := receiverOf_addressing receiver
      obtain ⟨rfl, rfl⟩ := Addressing.exchangeName_inj name
      exact ⟨_, if_pos rfl⟩
  have same := Broker.queues_execute_other h₁ (by simp)
  have there : b₁.exchanges.lookup p.exchangeName = some p.exchange :=
    (Broker.exchanges_execute h₁).mpr (Or.inr rfl)
  obtain ⟨b₂, h₂⟩ : ∃ c, Broker.execute connection b₁ (.queueDeclare p.queueName p.queue) = .ok c := by
    simp only [Broker.execute, same, new]
    exact ⟨_, rfl⟩
  obtain ⟨q, hq, _⟩ := Broker.connection_of_declare h₂
  have exchange := (Broker.exchanges_execute h₂).mpr (Or.inl there)
  have usable : q.usableBy connection = true := by
    simp only [Broker.execute, same, new, Except.ok.injEq] at h₂
    subst h₂
    simp only [AList.lookup_insert, Option.some.injEq] at hq
    subst hq
    simp [Broker.Queue.usableBy]
  obtain ⟨b₃, h₃⟩ : ∃ c, Broker.execute connection b₂ (.queueBind p.binding) = .ok c := by
    simp only [Broker.execute, ReceiveTopology.binding, exchange, hq, usable, if_true]
    exact ⟨_, rfl⟩
  exact ⟨b₁, b₂, b₃, h₁, h₂, h₃⟩

/-- A receiver with a queue of its own declares and binds it. -/
theorem Provides.receiver (provides : Provides hosts b declared) (built : Built hosts n b tables declared)
    {m : MediatorRef} {t : SentType} {p : ReceiveTopology} (here : m.multiplexer = n)
    (receiver : receiverOf (hosts.mediator m) t = .ok p) (new : b.queues.lookup p.queueName = none) :
    ∃ c tables', Built hosts n c tables' ((m, t) :: declared) ∧ Provides hosts c ((m, t) :: declared) := by
  obtain ⟨b₁, b₂, b₃, h₁, h₂, h₃⟩ := provides.executes receiver new (hosts.instanceId n).value
  have done := ((built.exchangeDeclared receiver h₁).queueDeclared here receiver h₂).queueBound List.mem_cons_self
    receiver h₃
  refine ⟨b₃, _, done, ?_, ?_, ?_⟩
  · intro name a ha
    rcases (Broker.exchanges_execute h₃).mp ha with ha | ha
    · rcases (Broker.exchanges_execute h₂).mp ha with ha | ha
      · rcases (Broker.exchanges_execute h₁).mp ha with ha | ha
        · exact provides.exchanges ha
        · cases ha
          obtain ⟨typeName, r, _, _, rfl⟩ := receiverOf_addressing receiver
          exact ⟨r, typeName, rfl, rfl⟩
      · cases ha
    · cases ha
  · intro name q hq
    rw [Broker.queues_execute_other h₃ (by simp)] at hq
    rcases Broker.queues_execute h₂ hq with hq | ⟨hk, _⟩
    · rw [Broker.queues_execute_other h₁ (by simp)] at hq
      obtain ⟨m', t', p', hm, rest⟩ := provides.queues hq
      exact ⟨m', t', p', List.mem_cons_of_mem _ hm, rest⟩
    · exact ⟨m, t, p, List.mem_cons_self, receiver, (Broker.Command.queueDeclare.inj hk).1.symm⟩
  · intro m' t' p' hm hp
    rcases List.mem_cons.mp hm with he | hm
    · cases he
      cases receiver.symm.trans hp
      exact (Broker.bindings_execute h₃).mpr (Or.inr rfl)
    · have old := provides.bindings hm hp
      exact (Broker.bindings_execute h₃).mpr (Or.inl ((Broker.bindings_execute h₂).mpr
        (Or.inl ((Broker.bindings_execute h₁).mpr (Or.inl old)))))

/-- Receivers with different queues can be declared one after the other. -/
theorem built_of_receivers (configuration : MediatorRef → RabbitMultiplexerMediatorConfiguration)
    {declared : List (MediatorRef × SentType)}
    (receivers : ∀ r ∈ declared, r.1.multiplexer = n ∧ ∃ p, receiverOf (hosts.mediator r.1) r.2 = .ok p)
    (apart : declared.Pairwise fun r r' => ∀ p p', receiverOf (hosts.mediator r.1) r.2 = .ok p →
      receiverOf (hosts.mediator r'.1) r'.2 = .ok p' → p.queueName ≠ p'.queueName) :
    ∃ b tables, Built hosts n b tables declared ∧ Provides hosts b declared := by
  induction declared with
  | nil => exact ⟨_, _, @Built.created hosts n configuration, by simp [Broker.empty], by simp [Broker.empty], by simp⟩
  | cons r declared ih =>
    obtain ⟨first, apart⟩ := List.pairwise_cons.mp apart
    obtain ⟨b, tables, built, provides⟩ := ih (fun r hr => receivers r (List.mem_cons_of_mem _ hr)) apart
    obtain ⟨here, p, hp⟩ := receivers r List.mem_cons_self
    have new : b.queues.lookup p.queueName = none := by
      by_contra taken
      obtain ⟨q, hq⟩ := Option.ne_none_iff_exists'.mp taken
      obtain ⟨m, t, p', hm, hp', name⟩ := provides.queues hq
      exact first (m, t) hm p p' hp hp' name
    obtain ⟨c, tables', done⟩ := provides.receiver built here hp new
    exact ⟨c, tables', done⟩

end Restoring

/-- Two mediators of one multiplexer, each with its own response queue, and one with a broadcast queue. -/
def testTwoHosts : Hosts := { testHosts with
  scopeId := fun m => if m.number = 0 then testMediator.scopeId else testSecondMediator.scopeId }

def testDeclared : List (MediatorRef × SentType) :=
  [(⟨0, 0⟩, testAnyTargetedResponse), (⟨0, 0⟩, testBroadcastMessage), (⟨0, 1⟩, testAnyTargetedResponse)]

theorem testAnyTargetedResponse_restored : ∃ b tables,
    Built testTwoHosts 0 b tables testDeclared ∧ Provides testTwoHosts b testDeclared ∧
      Restores testTwoHosts 0 (AList.insert testMediator.scopeId.value ⟨0, 0⟩
        (AList.insert testSecondMediator.scopeId.value ⟨0, 1⟩ ∅)) tables testDeclared b := by
  have receivers : ∀ r ∈ testDeclared, r.1.multiplexer = 0 ∧
      (receiverOf (testTwoHosts.mediator r.1) r.2).toBool = true := by decide +kernel
  have queues : testDeclared.Pairwise fun r r' =>
      ((receiverOf (testTwoHosts.mediator r.1) r.2).map ReceiveTopology.queueName).toOption ≠
        ((receiverOf (testTwoHosts.mediator r'.1) r'.2).map ReceiveTopology.queueName).toOption := by decide +kernel
  have scopes : ∀ r ∈ testDeclared, ∀ r' ∈ testDeclared,
      testTwoHosts.scopeId r.1 = testTwoHosts.scopeId r'.1 → r.1 = r'.1 := by decide +kernel
  have all : ∀ r ∈ testDeclared, r.1.multiplexer = 0 ∧ ∃ p, receiverOf (testTwoHosts.mediator r.1) r.2 = .ok p := by
    intro r hr
    obtain ⟨here, found⟩ := receivers r hr
    cases hp : receiverOf (testTwoHosts.mediator r.1) r.2 with
    | ok p => exact ⟨here, p, rfl⟩
    | error e => simp [hp, Except.toBool] at found
  have apart : testDeclared.Pairwise fun r r' => ∀ p p', receiverOf (testTwoHosts.mediator r.1) r.2 = .ok p →
      receiverOf (testTwoHosts.mediator r'.1) r'.2 = .ok p' → p.queueName ≠ p'.queueName := by
    refine queues.imp fun {r r'} other p p' hp hp' same => other ?_
    simp only [hp, hp', Except.map, same]
  obtain ⟨b, tables, built, provides⟩ := built_of_receivers (fun _ => testMediatorConfiguration) all apart
  refine ⟨b, tables, built, provides, rebind_restores testTwoHosts 0 _ b tables _ built ?_⟩
  exact fun m t m' t' hm hm' same => scopes (m, t) hm (m', t') hm' same

end RabbitMediator
