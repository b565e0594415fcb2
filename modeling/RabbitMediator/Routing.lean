import RabbitMediator.Topology

namespace RabbitMediator

open RabbitNaming

/-- The broker calls of some receivers and of some publishers, in any order in which a receiver binds
after its own declares. Every mediator uses the connection of its multiplexer. -/
structure DeclaredBy (receivers : List (Mediator × SentType)) (sent : List (GeneratedId × SentObject))
    (ks : List (String × Broker.Command)) : Prop where
  receiver : ∀ {m t}, (m, t) ∈ receivers → ∃ p, receiverOf m t = .ok p ∧
    ∀ k ∈ p.commands, (m.instanceId.value, k) ∈ ks
  sender : ∀ {i o}, (i, o) ∈ sent → ∃ d, addressOf o.type o = .ok d ∧
    (i.value, d.ensureSendExchange) ∈ ks
  only : ∀ {u k}, (u, k) ∈ ks →
    (∃ m t p, (m, t) ∈ receivers ∧ receiverOf m t = .ok p ∧ u = m.instanceId.value ∧
      k ∈ p.commands) ∨
    ∃ i o d, (i, o) ∈ sent ∧ addressOf o.type o = .ok d ∧ k = d.ensureSendExchange
  order : ∀ {before after u x}, ks = before ++ (u, .queueBind x) :: after →
    ∃ m t p, (m, t) ∈ receivers ∧ receiverOf m t = .ok p ∧ x = p.binding ∧
      (u, .exchangeDeclare p.exchangeName p.exchange) ∈ before ∧
      (u, .queueDeclare p.queueName p.queue) ∈ before

/-- Different types among these have different type names. -/
def NamesDiffer (types : List SentType) : Prop :=
  ∀ t ∈ types, ∀ u ∈ types, ∀ name, typeName t = .ok name → typeName u = .ok name → t = u

def sentTypesOf (receivers : List (Mediator × SentType)) (sent : List (GeneratedId × SentObject)) :
    List SentType :=
  receivers.map (·.2) ++ sent.map (·.2.type)

/-- Where an object ends up: both sides declare its exchange alike, and it goes just to the queues of
the receivers it is meant for, to each once. -/
structure Lands (receivers : List (Mediator × SentType)) (b : Broker) (o : SentObject) (d : Address) :
    Prop where
  agree : ∀ {m p}, (m, o.type) ∈ receivers → receiverOf m o.type = .ok p →
    p.exchangeName = d.exchangeName ∧ p.exchange = ⟨d.exchangeType, false, false⟩
  declared : b.exchanges.lookup d.exchangeName = some ⟨d.exchangeType, false, false⟩
  targeted : o.type.implements .iTargetedSentObject = true → ∀ {target},
    o.targetInstance = some target →
    (∀ {m name}, (m, o.type) ∈ receivers → typeName o.type = .ok name →
      m.getInstanceInformation = target → b.route d.exchangeName d.routingKey =
        [inputQueue (receiveChannelFor o.type).2 name m.instanceId.value m.scopeId.value]) ∧
    ((∀ {m}, (m, o.type) ∈ receivers → m.getInstanceInformation ≠ target) →
      b.route d.exchangeName d.routingKey = [])
  broadcast : o.type.implements .iBroadCastSentObject = true →
    ∀ {name}, typeName o.type = .ok name → (b.route d.exchangeName d.routingKey).Nodup ∧
    ∀ {queue}, queue ∈ b.route d.exchangeName d.routingKey ↔ ∃ m, (m, o.type) ∈ receivers ∧
      queue = inputQueue (receiveChannelFor o.type).2 name m.instanceId.value m.scopeId.value
  anyTargeted : o.type.implements .iAnyTargetedSentObject = true →
    (∀ {m name}, (m, o.type) ∈ receivers → typeName o.type = .ok name →
      b.route d.exchangeName d.routingKey = [sharedQueue name]) ∧
    ((∀ {m}, (m, o.type) ∉ receivers) → b.route d.exchangeName d.routingKey = [])

theorem prefix_mem (t : SentType) : (receiveChannelFor t).2 ∈
    [inputQueuePrefixMessage, inputQueuePrefixRequest, inputQueuePrefixResponse] := by
  unfold receiveChannelFor
  split
  · simp
  · split <;> simp

/-- Each mediator has an input queue of its own for each type. -/
theorem inputQueue_mediator_inj {m m' : Mediator} {t t' : SentType} {n n' : String}
    (h : inputQueue (receiveChannelFor t).2 n m.instanceId.value m.scopeId.value =
      inputQueue (receiveChannelFor t').2 n' m'.instanceId.value m'.scopeId.value) :
    n = n' ∧ m = m' := by
  obtain ⟨_, hn, hi, hs⟩ := inputQueue_inj (prefix_mem t) (prefix_mem t') h
  refine ⟨hn, ?_⟩
  obtain ⟨⟨i, _, _⟩, ⟨s, _, _⟩⟩ := m
  obtain ⟨⟨i', _, _⟩, ⟨s', _, _⟩⟩ := m'
  simp only at hi hs
  subst hi
  subst hs
  rfl

section Routing

variable {receivers : List (Mediator × SentType)} {sent : List (GeneratedId × SentObject)}
  {ks : List (String × Broker.Command)}

theorem DeclaredBy.exchange_of (declared : DeclaredBy receivers sent ks) {u n : String}
    {a : Broker.ExchangeArguments} (h : (u, .exchangeDeclare n a) ∈ ks) :
    ∃ (r : Addressing) (t : String), n = r.exchangeName t ∧ a = ⟨r.exchangeType, false, false⟩ := by
  rcases declared.only h with ⟨m, t, p, _, hp, _, hk⟩ | ⟨i, o, d, _, hd, hk⟩
  · obtain ⟨name, r, _, _, rfl⟩ := receiverOf_addressing hp
    simp only [ReceiveTopology.commands, List.mem_cons, Broker.Command.exchangeDeclare.injEq,
      reduceCtorEq, List.not_mem_nil, or_false] at hk
    exact ⟨r, name, hk⟩
  · obtain ⟨name, r, _, _, _, _, rfl⟩ := addressOf_addressing hd
    simp only [Address.ensureSendExchange, Broker.Command.exchangeDeclare.injEq] at hk
    exact ⟨r, name, hk⟩

/-- A declared queue is that of a receiver, either its own or the shared one of the type. -/
theorem DeclaredBy.queue_of (declared : DeclaredBy receivers sent ks) {u n : String}
    {a : Broker.QueueArguments} (h : (u, .queueDeclare n a) ∈ ks) :
    ∃ m t p, (m, t) ∈ receivers ∧ receiverOf m t = .ok p ∧ u = m.instanceId.value ∧
      n = p.queueName ∧ a = p.queue := by
  rcases declared.only h with ⟨m, t, p, hr, hp, hu, hk⟩ | ⟨i, o, d, _, hd, hk⟩
  · simp only [ReceiveTopology.commands, List.mem_cons, Broker.Command.queueDeclare.injEq,
      reduceCtorEq, List.not_mem_nil, or_false, false_or] at hk
    exact ⟨m, t, p, hr, hp, hu, hk.1, hk.2⟩
  · simp [Address.ensureSendExchange] at hk

theorem DeclaredBy.binding_of (declared : DeclaredBy receivers sent ks) {u : String}
    {x : Broker.Binding} (h : (u, .queueBind x) ∈ ks) :
    ∃ m t p, (m, t) ∈ receivers ∧ receiverOf m t = .ok p ∧ u = m.instanceId.value ∧ x = p.binding := by
  rcases declared.only h with ⟨m, t, p, hr, hp, hu, hk⟩ | ⟨i, o, d, _, hd, hk⟩
  · simp only [ReceiveTopology.commands, List.mem_cons, Broker.Command.queueBind.injEq,
      reduceCtorEq, List.not_mem_nil, or_false, false_or] at hk
    exact ⟨m, t, p, hr, hp, hu, hk⟩
  · simp [Address.ensureSendExchange] at hk

theorem mem_sentTypesOf_receiver {m : Mediator} {t : SentType} (h : (m, t) ∈ receivers) :
    t ∈ sentTypesOf receivers sent :=
  List.mem_append_left _ (List.mem_map.mpr ⟨_, h, rfl⟩)

theorem mem_sentTypesOf_sent {i : GeneratedId} {o : SentObject} (h : (i, o) ∈ sent) :
    o.type ∈ sentTypesOf receivers sent :=
  List.mem_append_right _ (List.mem_map.mpr ⟨_, h, rfl⟩)

/-- Queues of one name come from one type, or are both shared. -/
theorem queueName_inj {a a' : Addressing} {m m' : Mediator} {t t' : SentType} {n n' : String}
    (h : a.queueName m t n = a'.queueName m' t' n') :
    n = n' ∧ (a = .anyTargeted ↔ a' = .anyTargeted) ∧ (a ≠ .anyTargeted → m = m') := by
  cases a <;> cases a' <;> simp only [Addressing.queueName] at h
  case anyTargeted.anyTargeted => exact ⟨sharedQueue_inj h, by simp, by simp⟩
  case anyTargeted.targeted | anyTargeted.broadcast =>
    exact absurd h.symm (inputQueue_ne_sharedQueue (prefix_mem t') _ _ _ _)
  case targeted.anyTargeted | broadcast.anyTargeted =>
    exact absurd h (inputQueue_ne_sharedQueue (prefix_mem t) _ _ _ _)
  all_goals
    obtain ⟨hn, hm⟩ := inputQueue_mediator_inj h
    exact ⟨hn, by simp, fun _ => hm⟩

/-- A queue is owned or shared by its name. -/
theorem owned_of_queueName {m m' : Mediator} {t t' : SentType} {p p' : ReceiveTopology}
    (hp : receiverOf m t = .ok p) (hp' : receiverOf m' t' = .ok p') (h : p.queueName = p'.queueName) :
    p.owned = p'.owned := by
  obtain ⟨n, a, _, _, rfl⟩ := receiverOf_addressing hp
  obtain ⟨n', a', _, _, rfl⟩ := receiverOf_addressing hp'
  obtain ⟨_, shared, _⟩ := queueName_inj h
  simp only [Addressing.receiver, decide_eq_decide]
  exact not_congr shared

/-- Two receivers with one queue have one type, and one mediator unless the queue is shared. -/
theorem receivers_of_queue (names : NamesDiffer (sentTypesOf receivers sent)) {m m' : Mediator}
    {t t' : SentType} {p p' : ReceiveTopology} (hr : (m, t) ∈ receivers) (hr' : (m', t') ∈ receivers)
    (hp : receiverOf m t = .ok p) (hp' : receiverOf m' t' = .ok p') (h : p.queueName = p'.queueName) :
    p.queue = p'.queue ∧ (p.queue.exclusive = true → m = m') := by
  obtain ⟨n, a, hn, ha, rfl⟩ := receiverOf_addressing hp
  obtain ⟨n', a', hn', ha', rfl⟩ := receiverOf_addressing hp'
  obtain ⟨rfl, _, hm⟩ := queueName_inj h
  cases names t (mem_sentTypesOf_receiver hr) t' (mem_sentTypesOf_receiver hr') n hn hn'
  cases Addressing.implementedBy_unique ha ha'
  refine ⟨rfl, fun hx => hm ?_⟩
  rintro rfl
  cases hx

theorem DeclaredBy.coherent (declared : DeclaredBy receivers sent ks)
    (names : NamesDiffer (sentTypesOf receivers sent)) : Broker.Coherent ks := by
  constructor
  · intro u v n a a' h h'
    obtain ⟨r, t, hn, ha⟩ := declared.exchange_of h
    obtain ⟨r', t', hn', ha'⟩ := declared.exchange_of h'
    obtain ⟨rfl, _⟩ := Addressing.exchangeName_inj (hn.symm.trans hn')
    rw [ha, ha']
  · intro u v n a a' h h'
    obtain ⟨m, t, p, hr, hp, hu, hn, ha⟩ := declared.queue_of h
    obtain ⟨m', t', p', hr', hp', hu', hn', ha'⟩ := declared.queue_of h'
    obtain ⟨hq, hm⟩ := receivers_of_queue names hr hr' hp hp' (hn.symm.trans hn')
    subst ha
    exact ⟨hq.trans ha'.symm, fun hx => by rw [hu, hu', hm hx]⟩
  · intro u v x a h h' hx
    obtain ⟨m, t, p, hr, hp, hu, hb⟩ := declared.binding_of h
    obtain ⟨m', t', p', hr', hp', hu', hn', ha'⟩ := declared.queue_of h'
    have hq : p.queueName = p'.queueName := by rw [← hn', hb]; rfl
    obtain ⟨hqq, hm⟩ := receivers_of_queue names hr hr' hp hp' hq
    rw [ha', ← hqq] at hx
    rw [hu, hu', hm hx]
  · intro before after u x h
    obtain ⟨m, t, p, _, _, rfl, he, hq⟩ := declared.order h
    exact ⟨⟨u, _, he⟩, u, _, hq⟩

/-- The receivers of one exchange are those of one type: names of exchanges tell types apart. -/
theorem type_of_exchange (names : NamesDiffer (sentTypesOf receivers sent)) {m : Mediator}
    {t s : SentType} {i : GeneratedId} {o : SentObject} {p : ReceiveTopology} {d : Address}
    (hr : (m, t) ∈ receivers) (ho : (i, o) ∈ sent) (hp : receiverOf m t = .ok p)
    (hd : addressOf s o = .ok d) (h : p.exchangeName = d.exchangeName) : t = o.type := by
  obtain ⟨n, a, hn, _, rfl⟩ := receiverOf_addressing hp
  obtain ⟨n', a', _, hn', _, _, rfl⟩ := addressOf_addressing hd
  obtain ⟨_, rfl⟩ := Addressing.exchangeName_inj h
  exact names t (mem_sentTypesOf_receiver hr) _ (mem_sentTypesOf_sent ho) n hn hn'

/-- Both sides declare the exchange of a type with one name, one kind and the same flags. -/
theorem exchange_agrees {m : Mediator} {o : SentObject} {p : ReceiveTopology} {d : Address}
    {s : SentType} (hp : receiverOf m o.type = .ok p) (hd : addressOf s o = .ok d) :
    p.exchangeName = d.exchangeName ∧ p.exchange = ⟨d.exchangeType, false, false⟩ := by
  obtain ⟨n, a, hn, ha, rfl⟩ := receiverOf_addressing hp
  obtain ⟨n', a', _, hn', ha', _, rfl⟩ := addressOf_addressing hd
  cases hn.symm.trans hn'
  cases Addressing.implementedBy_unique ha ha'
  exact ⟨rfl, rfl⟩

theorem DeclaredBy.exchange_lookup (declared : DeclaredBy receivers sent ks) {b : Broker}
    (hb : Broker.run .empty ks = .ok b) {i : GeneratedId} {o : SentObject} {d : Address}
    (ho : (i, o) ∈ sent) (hd : addressOf o.type o = .ok d) :
    b.exchanges.lookup d.exchangeName = some ⟨d.exchangeType, false, false⟩ := by
  obtain ⟨d', hd', hk⟩ := declared.sender ho
  cases hd.symm.trans hd'
  exact (Broker.exchanges_run hb).mpr (Or.inr ⟨_, hk, rfl⟩)

/-- An object goes to the queues of the receivers of its type whose key it carries. -/
theorem DeclaredBy.mem_route (declared : DeclaredBy receivers sent ks)
    (names : NamesDiffer (sentTypesOf receivers sent)) {b : Broker}
    (hb : Broker.run .empty ks = .ok b) {i : GeneratedId} {o : SentObject} {d : Address}
    (ho : (i, o) ∈ sent) (hd : addressOf o.type o = .ok d) {queue : String} :
    queue ∈ b.route d.exchangeName d.routingKey ↔ ∃ m p, (m, o.type) ∈ receivers ∧
      receiverOf m o.type = .ok p ∧ queue = p.queueName ∧
      (d.exchangeType = .fanout ∨ p.routingKey = d.routingKey) := by
  have accepts : ∀ (x : Broker.Binding), x.accepts ⟨d.exchangeType, false, false⟩ d.routingKey = true ↔
      (d.exchangeType = .fanout ∨ x.routingKey = d.routingKey) := by
    intro x
    unfold Broker.Binding.accepts
    cases d.exchangeType <;> simp
  rw [Broker.mem_route (declared.exchange_lookup hb ho hd)]
  constructor
  · rintro ⟨x, hx, hex, hm, hq⟩
    obtain ⟨⟨u, k⟩, hk, rfl⟩ := ((Broker.bindings_run hb).mp hx).resolve_left (by simp [Broker.empty])
    obtain ⟨m, t, p, hr, hp, _, rfl⟩ := declared.binding_of hk
    cases type_of_exchange names hr ho hp hd hex
    exact ⟨m, p, hr, hp, hq.symm, (accepts _).mp hm⟩
  · rintro ⟨m, p, hr, hp, hq, hm⟩
    obtain ⟨p', hp', hks⟩ := declared.receiver hr
    cases hp.symm.trans hp'
    refine ⟨p.binding, (Broker.bindings_run hb).mpr (Or.inr ⟨_, hks _ ?_, rfl⟩),
      (exchange_agrees hp hd).1, (accepts _).mpr hm, hq.symm⟩
    simp [ReceiveTopology.commands]

theorem getInstanceInformation_inj {m m' : Mediator}
    (h : m.getInstanceInformation = m'.getInstanceInformation) : m = m' := by
  obtain ⟨⟨i, _, _⟩, ⟨s, _, _⟩⟩ := m
  obtain ⟨⟨i', _, _⟩, ⟨s', _, _⟩⟩ := m'
  simp only [Mediator.getInstanceInformation, InstanceInformation.mk.injEq] at h
  obtain ⟨rfl, rfl⟩ := h
  rfl

/-- The same, with the receivers spelled out for the addressing of the type. -/
theorem DeclaredBy.mem_route_addressing (declared : DeclaredBy receivers sent ks)
    (names : NamesDiffer (sentTypesOf receivers sent)) {b : Broker}
    (hb : Broker.run .empty ks = .ok b) {i : GeneratedId} {o : SentObject} {d : Address}
    (ho : (i, o) ∈ sent) (hd : addressOf o.type o = .ok d) {a : Addressing}
    (ha : a.implementedBy o.type = true) {name queue : String} (hn : typeName o.type = .ok name) :
    queue ∈ b.route d.exchangeName d.routingKey ↔ ∃ m, (m, o.type) ∈ receivers ∧
      queue = a.queueName m o.type name ∧
      (a = .targeted → o.targetInstance = some m.getInstanceInformation) := by
  rw [declared.mem_route names hb ho hd]
  obtain ⟨name', a', target, hn', ha', htarget, rfl⟩ := addressOf_addressing hd
  cases Addressing.implementedBy_unique ha ha'
  cases hn.symm.trans hn'
  constructor
  · rintro ⟨m, p, hr, hp, rfl, hkey⟩
    obtain ⟨n, c, hn'', hc, rfl⟩ := receiverOf_addressing hp
    cases Addressing.implementedBy_unique ha hc
    cases hn.symm.trans hn''
    refine ⟨m, hr, rfl, ?_⟩
    rintro rfl
    rcases hkey with hkey | hkey
    · cases hkey
    · obtain ⟨hi, hs⟩ := instanceRoutingKey_inj hkey.symm
      rw [htarget rfl, Mediator.getInstanceInformation, ← hi, ← hs]
  · rintro ⟨m, hr, rfl, hm⟩
    obtain ⟨p, hp, _⟩ := declared.receiver hr
    obtain ⟨n, c, hn'', hc, rfl⟩ := receiverOf_addressing hp
    cases Addressing.implementedBy_unique ha hc
    cases hn.symm.trans hn''
    refine ⟨m, _, hr, hp, rfl, ?_⟩
    cases a with
    | targeted =>
      cases (htarget rfl).symm.trans (hm rfl)
      exact Or.inr rfl
    | broadcast => exact Or.inl rfl
    | anyTargeted => exact Or.inr rfl

theorem DeclaredBy.lands (declared : DeclaredBy receivers sent ks)
    (names : NamesDiffer (sentTypesOf receivers sent)) {b : Broker}
    (hb : Broker.run .empty ks = .ok b) {i : GeneratedId} {o : SentObject} {d : Address}
    (ho : (i, o) ∈ sent) (hd : addressOf o.type o = .ok d) : Lands receivers b o d := by
  have mem : ∀ {a : Addressing} {name queue : String}, a.implementedBy o.type = true →
      typeName o.type = .ok name → (queue ∈ b.route d.exchangeName d.routingKey ↔
        ∃ m, (m, o.type) ∈ receivers ∧ queue = a.queueName m o.type name ∧
          (a = .targeted → o.targetInstance = some m.getInstanceInformation)) :=
    fun ha hn => declared.mem_route_addressing names hb ho hd ha hn
  obtain ⟨name, _, _, hname, _⟩ := addressOf_addressing hd
  refine ⟨fun _ hp => exchange_agrees hp hd, declared.exchange_lookup hb ho hd, ?_, ?_, ?_⟩
  · intro ht target htarget
    constructor
    · intro m n hr hn hm
      subst hm
      refine Broker.route_eq_singleton ?_ fun q hq => ?_
      · exact (mem (a := .targeted) ht hn).mpr ⟨m, hr, rfl, fun _ => htarget⟩
      · obtain ⟨m', _, rfl, hm'⟩ := (mem (a := .targeted) ht hn).mp hq
        rw [getInstanceInformation_inj (Option.some.inj (htarget.symm.trans (hm' rfl)))]
        rfl
    · intro none_
      refine List.eq_nil_iff_forall_not_mem.mpr fun q hq => ?_
      obtain ⟨m, hr, _, hm⟩ := (mem (a := .targeted) ht hname).mp hq
      exact none_ hr (Option.some.inj ((hm rfl).symm.trans htarget))
  · intro hb' n hn
    refine ⟨b.nodup_route _ _, fun {queue} => ?_⟩
    rw [mem (a := .broadcast) hb' hn]
    simp [Addressing.queueName]
  · intro ha
    constructor
    · intro m n hr hn
      refine Broker.route_eq_singleton ?_ fun q hq => ?_
      · exact (mem (a := .anyTargeted) ha hn).mpr ⟨m, hr, rfl, by simp⟩
      · obtain ⟨_, _, rfl, _⟩ := (mem (a := .anyTargeted) ha hn).mp hq
        rfl
    · intro none_
      refine List.eq_nil_iff_forall_not_mem.mpr fun q hq => ?_
      obtain ⟨m, hr, _⟩ := (mem (a := .anyTargeted) ha hname).mp hq
      exact none_ hr

/-- Whatever the order of the declares, none is refused, and each published object lands where its
class, and not the type of the variable it came through, says. -/
theorem published_object_lands (declared : DeclaredBy receivers sent ks)
    (names : NamesDiffer (sentTypesOf receivers sent)) :
    ∃ b, Broker.run .empty ks = .ok b ∧ ∀ {i o}, (i, o) ∈ sent → ∃ d,
      (∀ staticType, addressOf staticType o = .ok d) ∧ Lands receivers b o d := by
  obtain ⟨b, hb⟩ := Broker.run_ok (declared.coherent names)
  refine ⟨b, hb, fun {i o} ho => ?_⟩
  obtain ⟨d, hd, _⟩ := declared.sender ho
  exact ⟨d, fun _ => hd, declared.lands names hb ho hd⟩

end Routing

/-- Every bind comes after the declares of its receiver. -/
def BindsLast (receivers : List (Mediator × SentType)) (ks : List (String × Broker.Command)) : Prop :=
  ∀ before after u x, ks = before ++ (u, .queueBind x) :: after →
    ∃ m t p, (m, t) ∈ receivers ∧ receiverOf m t = .ok p ∧ x = p.binding ∧
      (u, .exchangeDeclare p.exchangeName p.exchange) ∈ before ∧
      (u, .queueDeclare p.queueName p.queue) ∈ before

theorem BindsLast.append {receivers : List (Mediator × SentType)} {ks ls : List (String × Broker.Command)}
    (h : BindsLast receivers ks) (h' : BindsLast receivers ls) : BindsLast receivers (ks ++ ls) := by
  intro before after u x he
  rcases List.append_eq_append_iff.mp he with ⟨rest, rfl, hl⟩ | ⟨rest, hk, hl⟩
  · obtain ⟨m, t, p, hr, hp, hx, exchange, queue⟩ := h' _ _ _ _ hl
    exact ⟨m, t, p, hr, hp, hx, List.mem_append_right _ exchange, List.mem_append_right _ queue⟩
  · cases rest with
    | nil =>
      obtain ⟨m, t, p, hr, hp, hx, exchange, queue⟩ := h' [] _ _ _ (by simpa using hl.symm)
      cases exchange
    | cons k rest =>
      obtain ⟨rfl, rfl⟩ := List.cons.inj hl
      exact h _ _ _ _ hk

theorem bindsLast_flatMap {α : Type} {receivers : List (Mediator × SentType)} {xs : List α}
    {f : α → List (String × Broker.Command)} (h : ∀ a ∈ xs, BindsLast receivers (f a)) :
    BindsLast receivers (xs.flatMap f) := by
  induction xs with
  | nil =>
    intro before after u x he
    simp at he
  | cons a xs ih =>
    rw [List.flatMap_cons]
    exact (h a List.mem_cons_self).append (ih fun b hb => h b (List.mem_cons_of_mem a hb))

/-- The declares of all receivers and publishers, one after the other. -/
def declaresOf (receivers : List (Mediator × SentType)) (sent : List (GeneratedId × SentObject)) :
    List (String × Broker.Command) :=
  (receivers.flatMap fun r => match receiverOf r.1 r.2 with
    | .ok p => p.commands.map fun k => (r.1.instanceId.value, k)
    | .error _ => []) ++
  sent.flatMap fun s => match addressOf s.2.type s.2 with
    | .ok d => [(s.1.value, d.ensureSendExchange)]
    | .error _ => []

theorem declaredBy_declaresOf {receivers : List (Mediator × SentType)} {sent : List (GeneratedId × SentObject)}
    (hr : ∀ r ∈ receivers, ∃ p, receiverOf r.1 r.2 = .ok p)
    (hs : ∀ s ∈ sent, ∃ d, addressOf s.2.type s.2 = .ok d) :
    DeclaredBy receivers sent (declaresOf receivers sent) := by
  constructor
  · intro m t hm
    obtain ⟨p, hp⟩ := hr (m, t) hm
    refine ⟨p, hp, fun k hk => List.mem_append_left _ (List.mem_flatMap.mpr ⟨(m, t), hm, ?_⟩)⟩
    simp only [hp, List.mem_map]
    exact ⟨k, hk, rfl⟩
  · intro i o ho
    obtain ⟨d, hd⟩ := hs (i, o) ho
    refine ⟨d, hd, List.mem_append_right _ (List.mem_flatMap.mpr ⟨(i, o), ho, ?_⟩)⟩
    simp only [hd, List.mem_singleton]
  · intro u k hk
    rcases List.mem_append.mp hk with hk | hk
    · obtain ⟨⟨m, t⟩, hm, hk⟩ := List.mem_flatMap.mp hk
      obtain ⟨p, hp⟩ := hr (m, t) hm
      simp only [hp, List.mem_map, Prod.mk.injEq] at hk
      obtain ⟨k', hk', rfl, rfl⟩ := hk
      exact Or.inl ⟨m, t, p, hm, hp, rfl, hk'⟩
    · obtain ⟨⟨i, o⟩, ho, hk⟩ := List.mem_flatMap.mp hk
      obtain ⟨d, hd⟩ := hs (i, o) ho
      simp only [hd, List.mem_singleton, Prod.mk.injEq] at hk
      exact Or.inr ⟨i, o, d, ho, hd, hk.2⟩
  · have receiving : ∀ r ∈ receivers, BindsLast receivers (match receiverOf r.1 r.2 with
        | .ok p => p.commands.map fun k => (r.1.instanceId.value, k)
        | .error _ => []) := by
      rintro ⟨m, t⟩ hm before after u x he
      obtain ⟨p, hp⟩ := hr (m, t) hm
      simp only [hp, ReceiveTopology.commands, List.map_cons, List.map_nil] at he
      refine ⟨m, t, p, hm, hp, ?_⟩
      rcases before with _ | ⟨a, _ | ⟨b, _ | ⟨c, before⟩⟩⟩ <;> simp at he
      obtain ⟨rfl, rfl, ⟨rfl, rfl⟩, _⟩ := he
      simp
    have sending : ∀ s ∈ sent, BindsLast receivers (match addressOf s.2.type s.2 with
        | .ok d => [(s.1.value, d.ensureSendExchange)]
        | .error _ => []) := by
      rintro ⟨i, o⟩ ho before after u x he
      obtain ⟨d, hd⟩ := hs (i, o) ho
      rcases before with _ | ⟨a, before⟩ <;> simp_all [Address.ensureSendExchange]
    intro before after u x he
    exact (bindsLast_flatMap receiving).append (bindsLast_flatMap sending) before after u x he

/-- Two mediators that consume a class of each addressing, and an object of each class. -/
def testReceivers : List (Mediator × SentType) :=
  [(testMediator, testAnyTargetedRequest), (testMediator, testTargetedMessage), (testMediator, testBroadcastMessage),
    (testSecondMediator, testAnyTargetedRequest), (testSecondMediator, testTargetedMessage),
    (testSecondMediator, testBroadcastMessage)]

def testSent : List (GeneratedId × SentObject) :=
  [(testMediator.instanceId, .request testRequest),
    (testMediator.instanceId, .message (.message { testMessage with
      type := testTargetedMessage, isMessage := by decide, noResponse := by decide
      targetInstance := some testSecondMediator.getInstanceInformation })),
    (testMediator.instanceId, .message (.message { testMessage with
      type := testBroadcastMessage, isMessage := by decide, noResponse := by decide }))]

theorem testRequest_lands : ∃ b, Broker.run .empty (declaresOf testReceivers testSent) = .ok b ∧
    ∀ {i o}, (i, o) ∈ testSent → ∃ d, (∀ staticType, addressOf staticType o = .ok d) ∧
      Lands testReceivers b o d := by
  have hr : ∀ r ∈ testReceivers, (receiverOf r.1 r.2).toBool = true := by decide +kernel
  have hs : ∀ s ∈ testSent, (addressOf s.2.type s.2).toBool = true := by decide +kernel
  have toBool {α : Type} {x : Except Exception α} (h : x.toBool = true) : ∃ a, x = .ok a := by
    cases x with
    | ok a => exact ⟨a, rfl⟩
    | error e => cases h
  have names : ∀ t ∈ sentTypesOf testReceivers testSent, ∀ u ∈ sentTypesOf testReceivers testSent,
      (typeName t).toOption = (typeName u).toOption → t = u := by decide +kernel
  refine published_object_lands (declaredBy_declaresOf (fun r h => toBool (hr r h)) fun s h => toBool (hs s h)) ?_
  intro t ht u hu name hn hn'
  exact names t ht u hu (by rw [hn, hn'])

end RabbitMediator
