import RabbitMediator.EnsureConfigured
import RabbitMediator.Validation

namespace RabbitMediator

/-- The base classes of the contracts that say how their objects find the receivers. -/
def SentType.isAddressedBase : SentType → Bool
  | .broadcastMessage | .anyTargetedMessage | .targetedMessage | .response => true
  | .anyTargetedRequest _ | .targetedRequest _ => true
  | _ => false

def SentType.DerivesAddressed (t : SentType) : Prop := ∃ base ∈ t.selfAndBases, base.isAddressedBase = true

theorem isAddressedBase_iff (t : SentType) : t.isAddressedBase = true ↔
    t.declares .iTargetedSentObject = true ∨ t.declares .iBroadCastSentObject = true ∨
      t.declares .iAnyTargetedSentObject = true := by
  cases t <;> simp [SentType.isAddressedBase, SentType.declares]

/-- A class has an addressing just when it derives from one of these. -/
theorem derivesAddressed_iff (t : SentType) :
    t.DerivesAddressed ↔ ∃ a : Addressing, a.implementedBy t = true := by
  constructor
  · rintro ⟨base, hb, addressed⟩
    rcases (isAddressedBase_iff base).mp addressed with h | h | h
    · exact ⟨.targeted, List.any_eq_true.mpr ⟨base, hb, h⟩⟩
    · exact ⟨.broadcast, List.any_eq_true.mpr ⟨base, hb, h⟩⟩
    · exact ⟨.anyTargeted, List.any_eq_true.mpr ⟨base, hb, h⟩⟩
  · rintro ⟨a, h⟩
    cases a with
    | targeted =>
      obtain ⟨base, hb, h⟩ := List.any_eq_true.mp h
      exact ⟨base, hb, (isAddressedBase_iff base).mpr (Or.inl h)⟩
    | broadcast =>
      obtain ⟨base, hb, h⟩ := List.any_eq_true.mp h
      exact ⟨base, hb, (isAddressedBase_iff base).mpr (Or.inr (Or.inl h))⟩
    | anyTargeted =>
      obtain ⟨base, hb, h⟩ := List.any_eq_true.mp h
      exact ⟨base, hb, (isAddressedBase_iff base).mpr (Or.inr (Or.inr h))⟩

theorem declareReceiveTopology_of_addressed {m : Mediator} {t : SentType} (h : t.DerivesAddressed)
    (typeName inputQueuePrefix : String) : ∃ p, declareReceiveTopology m t typeName inputQueuePrefix = .ok p := by
  obtain ⟨a, ha⟩ := (derivesAddressed_iff t).mp h
  unfold declareReceiveTopology
  simp only
  split
  next => exact ⟨_, rfl⟩
  next untargeted =>
    split
    next => exact ⟨_, rfl⟩
    next silent =>
      rw [if_pos]
      · exact ⟨_, rfl⟩
      · cases a with
        | targeted => exact absurd ha untargeted
        | broadcast => exact absurd ha silent
        | anyTargeted => exact ha

/-- A type has a receiver just when it has a name and an addressing. -/
theorem receiverOf_iff {m : Mediator} {t : SentType} :
    (∃ p, receiverOf m t = .ok p) ↔ t.DerivesAddressed ∧ ∃ name, RabbitNaming.typeName t = .ok name := by
  constructor
  · rintro ⟨p, h⟩
    obtain ⟨name, a, hn, ha, _⟩ := receiverOf_addressing h
    exact ⟨(derivesAddressed_iff t).mpr ⟨a, ha⟩, name, hn⟩
  · rintro ⟨addressed, name, hn⟩
    obtain ⟨p, hp⟩ := declareReceiveTopology_of_addressed (m := m) addressed name (receiveChannelFor t).2
    exact ⟨p, except_bind_eq_ok.mpr ⟨name, hn, hp⟩⟩

/-- The responses a `Request` waits for are all targeted. -/
theorem derivesAddressed_of_response {t : SentType} (h : t.isAssignableTo .response = true) :
    t.DerivesAddressed := by
  refine ⟨.response, ?_, rfl⟩
  simpa [SentType.isAssignableTo] using h

/-- The consumers of two classes would have one tag on one channel. -/
def SentType.SharesTag (s t : SentType) : Prop :=
  (receiveChannelFor s).1 = (receiveChannelFor t).1 ∧ ∃ a : Addressing, a.implementedBy s = true ∧
    a.implementedBy t = true ∧ ∃ name, RabbitNaming.typeName s = .ok name ∧ RabbitNaming.typeName t = .ok name

theorem SentType.SharesTag.symm {s t : SentType} (h : s.SharesTag t) : t.SharesTag s := by
  obtain ⟨channel, a, hs, ht, name, hns, hnt⟩ := h
  exact ⟨channel.symm, a, ht, hs, name, hnt, hns⟩

theorem sharesTag_iff {m : Mediator} {s t : SentType} {p q : ReceiveTopology} (hs : receiverOf m s = .ok p)
    (ht : receiverOf m t = .ok q) : s.SharesTag t ↔ (consumerOf m s p).channel = (consumerOf m t q).channel ∧
      (consumerOf m s p).consumerTag = (consumerOf m t q).consumerTag := by
  obtain ⟨name, a, hns, has, rfl⟩ := receiverOf_addressing hs
  obtain ⟨name', b, hnt, hbt, rfl⟩ := receiverOf_addressing ht
  constructor
  · rintro ⟨channel, d, hds, hdt, name'', hn, hn'⟩
    refine ⟨channel, ?_⟩
    cases Addressing.implementedBy_unique has hds
    cases Addressing.implementedBy_unique hbt hdt
    cases hns.symm.trans hn
    cases hnt.symm.trans hn'
    rfl
  · rintro ⟨channel, tag⟩
    obtain ⟨rfl, rfl⟩ := Addressing.exchangeName_inj (consumerTag_inj tag)
    exact ⟨channel, a, has, hbt, name, hns, hnt⟩

/-- How the broker answers a `BasicConsume` with the tag of another consumer of the channel. -/
def consumerTagInUse (consumerTag : String) : Exception :=
  .new (.rabbitMQClient "RabbitMQ.Client.Exceptions.OperationInterruptedException")
    ("NOT_ALLOWED - attempt to reuse consumer tag '" ++ consumerTag ++ "'")

namespace MediatorLife

/-- `EnsureReceiver`, when the broker accepts every declare and no awaited operation fails but for it. -/
def ensureReceiver (mediator : Mediator) (l : MediatorLife) (sentObjectType : SentType) :
    Except Exception MediatorLife :=
  if l.disposed then .ok l
  else do
    let _ ← RabbitNaming.typeName sentObjectType
    if !l.registered then .error (notRegistered mediator)
    else if l.registeredConsumerTypes.contains sentObjectType then .ok l
    else do
      let p ← receiverOf mediator sentObjectType
      let declared := ReceiverRun.remember l sentObjectType p .queueDeclare
      let bound := ReceiverRun.remember declared sentObjectType p .queueBind
      let consumer := consumerOf mediator sentObjectType p
      match (p.commands.foldl (ConsumingBroker.accept mediator.instanceId.value) l.topology).basicConsume
          consumer with
      | none => .error (consumerTagInUse consumer.consumerTag)
      | some b => .ok { ReceiverRun.list mediator bound sentObjectType p with
          registeredConsumerTypes := sentObjectType :: l.registeredConsumerTypes
          topology := b }

/-- `ConfigureAllReceivers` with these calls of `EnsureReceiver`. -/
def configureAllReceivers (mediator : Mediator) (l : MediatorLife) : Except Exception MediatorLife :=
  if !l.registered then .error (notRegistered mediator)
  else l.configuration.receivers.foldlM
    (fun l p => ensureReceiver mediator (MediatorCall.map l p.1 p.2) p.2) l

end MediatorLife

namespace ReceiverRun

/-- What comes of an operation when nothing fails but the broker has to refuse. -/
def answer (mediator : Mediator) (l : MediatorLife) (run : ReceiverRun) : Event :=
  match run.control with
  | .performing operation =>
    match receiverOf mediator run.sentObjectType with
    | .ok p =>
      if operation.atBroker && !run.taken then
        match command mediator (fun _ => false) l.topology run.sentObjectType p operation with
        | some _ => .took
        | none => .refused (consumerTagInUse (consumerOf mediator run.sentObjectType p).consumerTag)
      else .ended (.ok ())
    | .error _ => if operation.atBroker then .go else .ended (.ok ())
  | .acquiring => .ended (.ok ())
  | _ => .go

/-- The call is left alone for so many steps. -/
def alone (hosts : Hosts) (m : MediatorRef) : Nat → MediatorLife → ReceiverRun → MediatorLife × ReceiverRun
  | 0, l, run => (l, run)
  | steps + 1, l, run =>
    match run.next hosts m (fun _ => false) l (run.answer (hosts.mediator m) l) with
    | some p => alone hosts m steps p.1 p.2.1
    | none => (l, run)

section Alone

variable {hosts : Hosts} {m : MediatorRef} {l l' : MediatorLife} {run run' : ReceiverRun} {t : SentType}
  {p : ReceiveTopology} {closes : Option ReceiveChannel}

theorem alone_step (h : run.next hosts m (fun _ => false) l (run.answer (hosts.mediator m) l) =
    some (l', run', closes)) (steps : Nat) :
    alone hosts m (steps + 1) l run = alone hosts m steps l' run' := by
  simp only [alone, h]

/-- The broker carries out a command, and the call comes to its next operation. -/
theorem alone_command {operation next : ReceiverOperation} {b : ConsumingBroker ReceiveChannel}
    (receiver : receiverOf (hosts.mediator m) t = .ok p) (atBroker : operation.atBroker = true)
    (after : operation.after = some next)
    (done : command (hosts.mediator m) (fun _ => false) l.topology t p operation = some b) (steps : Nat) :
    alone hosts m (steps + 2) l ⟨t, .performing operation, false⟩ =
      alone hosts m steps (remember { l with topology := b } t p operation) ⟨t, .performing next, false⟩ := by
  have took : ReceiverRun.next hosts m (fun _ => false) l ⟨t, .performing operation, false⟩
      (answer (hosts.mediator m) l ⟨t, .performing operation, false⟩) =
        some ({ l with topology := b }, ⟨t, .performing operation, true⟩, none) := by
    simp [ReceiverRun.next, perform, answer, receiver, atBroker, done]
  have ended : ReceiverRun.next hosts m (fun _ => false) { l with topology := b } ⟨t, .performing operation, true⟩
      (answer (hosts.mediator m) { l with topology := b } ⟨t, .performing operation, true⟩) =
        some (remember { l with topology := b } t p operation, ⟨t, .performing next, false⟩, none) := by
    simp [ReceiverRun.next, perform, answer, receiver, follow, goesTo, EnsureReceiver.next, after]
  rw [alone_step took, alone_step ended]

end Alone
end ReceiverRun

section Alone

variable {hosts : Hosts} {m : MediatorRef} {l : MediatorLife} {t : SentType}

theorem foldl_accept_of_accepts {connection : String} {b : ConsumingBroker ReceiveChannel} {p : ReceiveTopology}
    (accepts : b.Accepts connection p.commands) :
    ∃ b₁ b₂ b₃, b.execute connection (.exchangeDeclare p.exchangeName p.exchange) = .ok b₁ ∧
      b₁.execute connection (.queueDeclare p.queueName p.queue) = .ok b₂ ∧
      b₂.execute connection (.queueBind p.binding) = .ok b₃ ∧
      p.commands.foldl (ConsumingBroker.accept connection) b = b₃ := by
  obtain ⟨b₁, h₁, b₂, h₂, b₃, h₃, _⟩ := accepts
  refine ⟨b₁, b₂, b₃, h₁, h₂, h₃, ?_⟩
  simp only [ReceiveTopology.commands, List.foldl_cons, List.foldl_nil, ConsumingBroker.accept, h₁, h₂, h₃]

/-- A call for a new type comes to its declares. -/
theorem alone_entered {name : String} (undisposed : l.disposed = false)
    (named : RabbitNaming.typeName t = .ok name) (registered : l.registered = true)
    (new : t ∉ l.registeredConsumerTypes) (free : l.semaphoreTaken = false) (steps : Nat) :
    ReceiverRun.alone hosts m (steps + 7) l (.entered t) =
      ReceiverRun.alone hosts m steps { l with semaphoreTaken := true } ⟨t, .performing .exchangeDeclare, false⟩ := by
  cases hr : receiverOf (hosts.mediator m) t <;>
    simp [ReceiverRun.alone, ReceiverRun.next, ReceiverRun.perform, ReceiverRun.answer, ReceiverRun.follow,
      ReceiverRun.goesTo, ReceiverRun.entered, ReceiverRun.remember, ReceiverOperation.atBroker,
      ReceiverOperation.after, EnsureReceiver.next, undisposed, named, registered, new, free, hr]

theorem remember_with (l : MediatorLife) (t : SentType) (p : ReceiveTopology) (operation : ReceiverOperation)
    (taken : Bool) (b : ConsumingBroker ReceiveChannel) :
    ReceiverRun.remember { l with semaphoreTaken := taken, topology := b } t p operation =
      { ReceiverRun.remember l t p operation with semaphoreTaken := taken, topology := b } := by
  cases operation with
  | queueDeclare =>
    simp only [ReceiverRun.remember]
    split <;> rfl
  | _ => rfl

/-- The broker accepts the declares of a call, which goes on to consume its queue. -/
theorem alone_declares {p : ReceiveTopology} {b₁ b₂ b₃ : ConsumingBroker ReceiveChannel}
    (receiver : receiverOf (hosts.mediator m) t = .ok p)
    (h₁ : l.topology.execute (hosts.mediator m).instanceId.value (.exchangeDeclare p.exchangeName p.exchange) = .ok b₁)
    (h₂ : b₁.execute (hosts.mediator m).instanceId.value (.queueDeclare p.queueName p.queue) = .ok b₂)
    (h₃ : b₂.execute (hosts.mediator m).instanceId.value (.queueBind p.binding) = .ok b₃) (steps : Nat) :
    ReceiverRun.alone hosts m (steps + 6) { l with semaphoreTaken := true }
        ⟨t, .performing .exchangeDeclare, false⟩ =
      ReceiverRun.alone hosts m steps
        { ReceiverRun.remember (ReceiverRun.remember l t p .queueDeclare) t p .queueBind with
          semaphoreTaken := true, topology := b₃ } ⟨t, .performing .basicConsume, false⟩ := by
  have first : ReceiverRun.command (hosts.mediator m) (fun _ => false) l.topology t p .exchangeDeclare = some b₁ := by
    simp [ReceiverRun.command, h₁, Except.toOption]
  have second : ReceiverRun.command (hosts.mediator m) (fun _ => false) b₁ t p .queueDeclare = some b₂ := by
    simp [ReceiverRun.command, h₂, Except.toOption]
  have third : ReceiverRun.command (hosts.mediator m) (fun _ => false) b₂ t p .queueBind = some b₃ := by
    simp [ReceiverRun.command, h₃, Except.toOption]
  calc
    _ = ReceiverRun.alone hosts m (steps + 4) { l with semaphoreTaken := true, topology := b₁ }
        ⟨t, .performing .queueDeclare, false⟩ :=
      ReceiverRun.alone_command (l := { l with semaphoreTaken := true }) receiver rfl rfl first _
    _ = ReceiverRun.alone hosts m (steps + 2)
        { ReceiverRun.remember l t p .queueDeclare with semaphoreTaken := true, topology := b₂ }
        ⟨t, .performing .queueBind, false⟩ := by
      rw [ReceiverRun.alone_command (l := { l with semaphoreTaken := true, topology := b₁ }) receiver rfl rfl second]
      exact congrArg (fun l => ReceiverRun.alone hosts m (steps + 2) l _) (remember_with l t p .queueDeclare true b₂)
    _ = _ :=
      ReceiverRun.alone_command
        (l := { ReceiverRun.remember l t p .queueDeclare with semaphoreTaken := true, topology := b₂ })
        receiver rfl rfl third _

/-- A call with its consumer registers the type. -/
theorem alone_registered {p : ReceiveTopology} (receiver : receiverOf (hosts.mediator m) t = .ok p) :
    ReceiverRun.alone hosts m 3 l ⟨t, .performing .registered, false⟩ =
      ({ ReceiverRun.list (hosts.mediator m) l t p with
          registeredConsumerTypes := t :: l.registeredConsumerTypes
          semaphoreTaken := false }, ⟨t, .returned, false⟩) := by
  simp [ReceiverRun.alone, ReceiverRun.next, ReceiverRun.perform, ReceiverRun.answer, ReceiverRun.follow,
    ReceiverRun.goesTo, ReceiverRun.remember, ReceiverRun.list, ReceiverOperation.atBroker, ReceiverOperation.after,
    EnsureReceiver.next, receiver]

/-- A call that is left alone goes through the awaited operations one by one to the same result. -/
theorem alone_ensureReceiver (free : l.semaphoreTaken = false)
    (accepts : ∀ p, receiverOf (hosts.mediator m) t = .ok p →
      l.topology.Accepts (hosts.mediator m).instanceId.value p.commands) :
    match l.ensureReceiver (hosts.mediator m) t with
    | .ok l' => ReceiverRun.alone hosts m 18 l (.entered t) = (l', ⟨t, .returned, false⟩)
    | .error e => (ReceiverRun.alone hosts m 18 l (.entered t)).2.control = .threw e := by
  unfold MediatorLife.ensureReceiver
  by_cases disposed : l.disposed = true
  · simp [ReceiverRun.alone, ReceiverRun.next, ReceiverRun.answer, ReceiverRun.follow, ReceiverRun.goesTo,
      ReceiverRun.entered, EnsureReceiver.next, disposed]
  cases named : RabbitNaming.typeName t with
  | error e =>
    simp [ReceiverRun.alone, ReceiverRun.next, ReceiverRun.answer, ReceiverRun.follow, ReceiverRun.goesTo,
      ReceiverRun.entered, EnsureReceiver.next, disposed, named, bind, Except.bind]
  | ok name =>
    by_cases registered : l.registered = true
    swap
    · simp [ReceiverRun.alone, ReceiverRun.next, ReceiverRun.answer, ReceiverRun.follow, ReceiverRun.goesTo,
        ReceiverRun.entered, EnsureReceiver.next, disposed, named, registered, bind, Except.bind]
    by_cases old : t ∈ l.registeredConsumerTypes
    · simp [ReceiverRun.alone, ReceiverRun.next, ReceiverRun.answer, ReceiverRun.follow, ReceiverRun.goesTo,
        ReceiverRun.entered, EnsureReceiver.next, disposed, named, registered, old, bind, Except.bind]
    rw [alone_entered (Bool.eq_false_iff.mpr disposed) named registered old free 11]
    cases receiver : receiverOf (hosts.mediator m) t with
    | error e =>
      simp [ReceiverRun.alone, ReceiverRun.next, ReceiverRun.perform, ReceiverRun.answer, ReceiverRun.follow,
        ReceiverRun.goesTo, ReceiverOperation.atBroker, EnsureReceiver.next, disposed, registered, old, receiver,
        bind, Except.bind]
    | ok p =>
      obtain ⟨b₁, b₂, b₃, h₁, h₂, h₃, declared⟩ := foldl_accept_of_accepts (accepts p receiver)
      rw [alone_declares receiver h₁ h₂ h₃]
      have undisposed : l.disposed = false := Bool.eq_false_iff.mpr disposed
      have contains : l.registeredConsumerTypes.contains t = false := by simpa using old
      simp only [undisposed, registered, contains, declared, bind, Except.bind, Bool.not_true, Bool.false_eq_true,
        if_false]
      cases consumed : b₃.basicConsume (consumerOf (hosts.mediator m) t p) with
      | none =>
        simp [ReceiverRun.alone, ReceiverRun.next, ReceiverRun.perform, ReceiverRun.answer, ReceiverRun.follow,
          ReceiverRun.command, ReceiverRun.goesTo, ReceiverOperation.atBroker, EnsureReceiver.next, receiver, consumed]
      | some b =>
        have done : ReceiverRun.command (hosts.mediator m) (fun _ => false) b₃ t p .basicConsume = some b := by
          simp [ReceiverRun.command, consumed]
        have unlocked : (ReceiverRun.remember (ReceiverRun.remember l t p .queueDeclare) t p
            .queueBind).toMediatorState = l.toMediatorState := by
          rw [ReceiverRun.toMediatorState_remember, ReceiverRun.toMediatorState_remember]
        generalize ReceiverRun.remember (ReceiverRun.remember l t p .queueDeclare) t p .queueBind = bound at *
        rw [ReceiverRun.alone_command (l := { bound with semaphoreTaken := true, topology := b₃ }) receiver rfl rfl
          done, alone_registered receiver]
        simp only [ReceiverRun.remember, ReceiverRun.list, unlocked, free]

end Alone

section SetUp

variable {hosts : Hosts} {m : MediatorRef} {mediator : Mediator} {l l' : MediatorLife} {t : SentType}

/-- After the declares only the tag of the consumer is left to refuse. -/
theorem basicConsume_declared (connection : String) {p : ReceiveTopology} (b : ConsumingBroker ReceiveChannel)
    {k : Broker.Consumer ReceiveChannel} (queue : k.queue = p.queueName) :
    (∃ c, (p.commands.foldl (ConsumingBroker.accept connection) b).basicConsume k = some c) ↔
      ∀ j ∈ b.consumers, ¬(j.channel = k.channel ∧ j.consumerTag = k.consumerTag) := by
  have consumers : (p.commands.foldl (ConsumingBroker.accept connection) b).consumers = b.consumers := by
    simp only [ReceiveTopology.commands, List.foldl_cons, List.foldl_nil, ConsumingBroker.consumers_accept]
  have there : ((p.commands.foldl (ConsumingBroker.accept connection) b).broker.queues.lookup k.queue).isSome =
      true := by
    obtain ⟨q, hq⟩ := Option.isSome_iff_exists.mp (ConsumingBroker.isSome_accept_queueDeclare connection
      (b.accept connection (.exchangeDeclare p.exchangeName p.exchange)) p.queueName p.queue)
    simp only [ReceiveTopology.commands, List.foldl_cons, List.foldl_nil]
    rw [queue, (ConsumingBroker.grows_accept connection _ _).queues hq]
    rfl
  unfold ConsumingBroker.basicConsume
  rw [there, consumers]
  simp only [Bool.true_and, List.all_eq_true, Bool.not_eq_true', Bool.and_eq_false_iff, decide_eq_false_iff_not]
  constructor
  · rintro ⟨c, h⟩ j hj ⟨channel, tag⟩
    split at h
    next free => exact (free j hj).elim (absurd channel) (absurd tag)
    next => cases h
  · intro free
    exact ⟨_, if_pos fun j hj => not_and_or.mp (free j hj)⟩

theorem consumers_basicConsume {connection : String} {p : ReceiveTopology} {b c : ConsumingBroker ReceiveChannel}
    {k : Broker.Consumer ReceiveChannel}
    (h : (p.commands.foldl (ConsumingBroker.accept connection) b).basicConsume k = some c) :
    c.consumers = k :: b.consumers := by
  have consumers : (p.commands.foldl (ConsumingBroker.accept connection) b).consumers = b.consumers := by
    simp only [ReceiveTopology.commands, List.foldl_cons, List.foldl_nil, ConsumingBroker.consumers_accept]
  unfold ConsumingBroker.basicConsume at h
  split at h
  next =>
    cases h
    exact congrArg (k :: ·) consumers
  next => cases h

/-- The mediator is in use, and what it has registered is what the broker has of its consumers. -/
structure MediatorLife.Live (mediator : Mediator) (l : MediatorLife) : Prop where
  undisposed : l.disposed = false
  registered : l.registered = true
  receivers : ∀ t ∈ l.registeredConsumerTypes, ∃ p, receiverOf mediator t = .ok p
  consumers : ∀ k, k ∈ l.topology.consumers ↔
    ∃ t ∈ l.registeredConsumerTypes, ∃ p, receiverOf mediator t = .ok p ∧ consumerOf mediator t p = k
  apart : ∀ s ∈ l.registeredConsumerTypes, ∀ t ∈ l.registeredConsumerTypes, s ≠ t → ¬s.SharesTag t

theorem live_created (mediator : Mediator) (configuration : RabbitMultiplexerMediatorConfiguration) :
    (MediatorLife.created configuration).Live mediator where
  undisposed := rfl
  registered := rfl
  receivers _ h := absurd h List.not_mem_nil
  consumers k := by simp [MediatorLife.created, ConsumingBroker.empty]
  apart _ h := absurd h List.not_mem_nil

/-- The tag of a consumer is free just when nobody it would share it with is registered. -/
theorem MediatorLife.Live.free_iff (live : l.Live mediator) {p : ReceiveTopology}
    (receiver : receiverOf mediator t = .ok p) :
    (∀ j ∈ l.topology.consumers, ¬(j.channel = (consumerOf mediator t p).channel ∧
      j.consumerTag = (consumerOf mediator t p).consumerTag)) ↔
      ∀ s ∈ l.registeredConsumerTypes, ¬s.SharesTag t := by
  constructor
  · intro free s hs shares
    obtain ⟨q, hq⟩ := live.receivers s hs
    exact free _ ((live.consumers _).mpr ⟨s, hs, q, hq, rfl⟩) ((sharesTag_iff hq receiver).mp shares)
  · rintro apart j hj same
    obtain ⟨s, hs, q, hq, rfl⟩ := (live.consumers j).mp hj
    exact apart s hs ((sharesTag_iff hq receiver).mpr same)

/-- A call that completes has found the type registered, or has registered it. -/
theorem ensureReceiver_cases (live : l.Live mediator) (h : l.ensureReceiver mediator t = .ok l') :
    l' = l ∧ t ∈ l.registeredConsumerTypes ∨ t ∉ l.registeredConsumerTypes ∧
      (l'.disposed = l.disposed ∧ l'.registered = l.registered ∧
        l'.registeredConsumerTypes = t :: l.registeredConsumerTypes) ∧
      ∃ p, receiverOf mediator t = .ok p ∧
        l'.topology.consumers = consumerOf mediator t p :: l.topology.consumers ∧
        ∀ s ∈ l.registeredConsumerTypes, ¬s.SharesTag t := by
  unfold MediatorLife.ensureReceiver at h
  rw [live.undisposed, live.registered] at h
  obtain ⟨name, _, h⟩ := except_bind_eq_ok.mp h
  simp only [Bool.not_true, Bool.false_eq_true, if_false] at h
  split at h
  next old =>
    cases h
    exact Or.inl ⟨rfl, by simpa using old⟩
  next new =>
    obtain ⟨p, hp, h⟩ := except_bind_eq_ok.mp h
    split at h
    next => cases h
    next b hb =>
      cases h
      refine Or.inr ⟨by simpa using new, ⟨?_, ?_, rfl⟩, p, hp, consumers_basicConsume hb, ?_⟩
      · simp only [ReceiverRun.list, ReceiverRun.toMediatorState_remember]
      · simp only [ReceiverRun.list, ReceiverRun.toMediatorState_remember]
      · exact (live.free_iff hp).mp ((basicConsume_declared _ _ rfl).mp ⟨b, hb⟩)

theorem MediatorLife.Live.ensureReceiver (live : l.Live mediator) (h : l.ensureReceiver mediator t = .ok l') :
    l'.Live mediator := by
  rcases ensureReceiver_cases live h with ⟨rfl, _⟩ | ⟨_, ⟨disposed, registered, types⟩, p, hp, consumers, apart⟩
  · exact live
  · constructor
    · exact disposed.trans live.undisposed
    · exact registered.trans live.registered
    · intro s hs
      rw [types] at hs
      rcases List.mem_cons.mp hs with rfl | hs
      · exact ⟨p, hp⟩
      · exact live.receivers s hs
    · intro k
      rw [types, consumers, List.mem_cons, live.consumers, List.exists_mem_cons_iff]
      refine or_congr ⟨fun he => ⟨p, hp, he.symm⟩, ?_⟩ Iff.rfl
      rintro ⟨q, hq, rfl⟩
      cases hp.symm.trans hq
      rfl
    · intro s hs u hu other shares
      rw [types] at hs hu
      rcases List.mem_cons.mp hs with rfl | hso <;> rcases List.mem_cons.mp hu with rfl | huo
      · exact other rfl
      · exact apart u huo shares.symm
      · exact apart s hso shares
      · exact live.apart s hso u huo other shares

/-- `EnsureReceiver` completes just when the type is registered, or has a receiver whose tag is free. -/
theorem ensureReceiver_completes_iff (live : l.Live mediator) :
    (∃ l', l.ensureReceiver mediator t = .ok l') ↔ t ∈ l.registeredConsumerTypes ∨
      (∃ p, receiverOf mediator t = .ok p) ∧ ∀ s ∈ l.registeredConsumerTypes, ¬s.SharesTag t := by
  constructor
  · rintro ⟨l', h⟩
    rcases ensureReceiver_cases live h with ⟨_, old⟩ | ⟨_, _, p, hp, _, apart⟩
    · exact Or.inl old
    · exact Or.inr ⟨⟨p, hp⟩, apart⟩
  · intro fits
    obtain ⟨p, hp⟩ : ∃ p, receiverOf mediator t = .ok p := fits.elim (live.receivers t) And.left
    obtain ⟨name, _, hn, _⟩ := receiverOf_addressing hp
    unfold MediatorLife.ensureReceiver
    simp only [live.undisposed, live.registered, hn, hp, bind, Except.bind, Bool.not_true, Bool.false_eq_true,
      if_false]
    split
    next => exact ⟨_, rfl⟩
    next new =>
      have apart := fits.resolve_left fun old => new (by simpa using old)
      obtain ⟨c, hc⟩ := (basicConsume_declared mediator.instanceId.value l.topology rfl).mpr
        ((live.free_iff hp).mpr apart.2)
      rw [hc]
      exact ⟨_, rfl⟩

/-- The types can be consumed besides those that are registered: each has a receiver and a tag of its own. -/
structure Fits (mediator : Mediator) (registered types : List SentType) : Prop where
  receivers : ∀ t ∈ types, ∃ p, receiverOf mediator t = .ok p
  apart : ∀ t ∈ types, ∀ s, s ∈ types ∨ s ∈ registered → s ≠ t → ¬s.SharesTag t

theorem fits_cons_registered {types : List SentType} (live : l.Live mediator)
    (old : t ∈ l.registeredConsumerTypes) :
    Fits mediator l.registeredConsumerTypes (t :: types) ↔ Fits mediator l.registeredConsumerTypes types := by
  constructor
  · intro fits
    refine ⟨fun u hu => fits.receivers u (List.mem_cons_of_mem t hu), fun u hu s hs => ?_⟩
    exact fits.apart u (List.mem_cons_of_mem t hu) s (hs.imp (List.mem_cons_of_mem t) id)
  · intro fits
    constructor
    · intro u hu
      rcases List.mem_cons.mp hu with rfl | hu
      · exact live.receivers u old
      · exact fits.receivers u hu
    · intro u hu s hs other shares
      have known : s ∈ types ∨ s ∈ l.registeredConsumerTypes := by
        rw [List.mem_cons] at hs
        rcases hs with (rfl | hs) | hs
        · exact Or.inr old
        · exact Or.inl hs
        · exact Or.inr hs
      rcases List.mem_cons.mp hu with rfl | huo
      · rcases known with hso | hso
        · exact fits.apart s hso u (Or.inr old) other.symm shares.symm
        · exact live.apart s hso u old other shares
      · exact fits.apart u huo s known other shares

theorem fits_cons_new {registered types : List SentType} (new : t ∉ registered) :
    Fits mediator registered (t :: types) ↔ ((∃ p, receiverOf mediator t = .ok p) ∧
      ∀ s ∈ registered, ¬s.SharesTag t) ∧ Fits mediator (t :: registered) types := by
  constructor
  · intro fits
    refine ⟨⟨fits.receivers t List.mem_cons_self, fun s hs => ?_⟩, ?_, ?_⟩
    · exact fits.apart t List.mem_cons_self s (Or.inr hs) fun he => new (he ▸ hs)
    · exact fun u hu => fits.receivers u (List.mem_cons_of_mem t hu)
    · intro u hu s hs
      refine fits.apart u (List.mem_cons_of_mem t hu) s ?_
      rw [List.mem_cons] at hs ⊢
      tauto
  · rintro ⟨⟨receiver, free⟩, fits⟩
    constructor
    · intro u hu
      rcases List.mem_cons.mp hu with rfl | hu
      · exact receiver
      · exact fits.receivers u hu
    · intro u hu s hs other shares
      rcases List.mem_cons.mp hu with rfl | huo
      · rcases hs with hs | hs
        · rcases List.mem_cons.mp hs with rfl | hso
          · exact other rfl
          · exact fits.apart s hso u (Or.inr List.mem_cons_self) other.symm shares.symm
        · exact free s hs shares
      · refine fits.apart u huo s ?_ other shares
        rw [List.mem_cons] at hs ⊢
        tauto

/-- The loop completes just when all its types can be consumed. -/
theorem configures_iff (live : l.Live mediator) (pairs : List (ConsumerType × SentType)) :
    (∃ l', pairs.foldlM (fun l p => MediatorLife.ensureReceiver mediator (MediatorCall.map l p.1 p.2) p.2) l =
      .ok l') ↔ Fits mediator l.registeredConsumerTypes (pairs.map Prod.snd) := by
  induction pairs generalizing l with
  | nil => exact ⟨fun _ => ⟨by simp, by simp⟩, fun _ => ⟨l, rfl⟩⟩
  | cons p pairs ih =>
    have mapped : (MediatorCall.map l p.1 p.2).Live mediator := ⟨live.1, live.2, live.3, live.4, live.5⟩
    rw [List.foldlM_cons, List.map_cons]
    constructor
    · rintro ⟨l', h⟩
      obtain ⟨l₁, first, rest⟩ := except_bind_eq_ok.mp h
      have fits := (ih (mapped.ensureReceiver first)).mp ⟨l', rest⟩
      rcases ensureReceiver_cases mapped first with ⟨rfl, old⟩ | ⟨new, ⟨_, _, types⟩, q, hq, _, apart⟩
      · exact (fits_cons_registered live old).mpr fits
      · rw [types] at fits
        exact (fits_cons_new new).mpr ⟨⟨⟨q, hq⟩, apart⟩, fits⟩
    · intro fits
      have turn : p.2 ∈ l.registeredConsumerTypes ∨ (∃ q, receiverOf mediator p.2 = .ok q) ∧
          ∀ s ∈ l.registeredConsumerTypes, ¬s.SharesTag p.2 := by
        by_cases old : p.2 ∈ l.registeredConsumerTypes
        · exact Or.inl old
        · exact Or.inr ((fits_cons_new old).mp fits).1
      obtain ⟨l₁, first⟩ := (ensureReceiver_completes_iff mapped).mpr turn
      have rest : Fits mediator l₁.registeredConsumerTypes (pairs.map Prod.snd) := by
        rcases ensureReceiver_cases mapped first with ⟨rfl, old⟩ | ⟨new, ⟨_, _, types⟩, _⟩
        · exact (fits_cons_registered live old).mp fits
        · rw [types]
          exact ((fits_cons_new new).mp fits).2
      obtain ⟨l', loop⟩ := (ih (mapped.ensureReceiver first)).mpr rest
      exact ⟨l', except_bind_eq_ok.mpr ⟨l₁, first, loop⟩⟩

end SetUp

/-- The set-up of a mediator with these consumers completes, and no caller of `DeclareReceiveTopology` brings
a type without addressing. -/
structure SetsUp (mediator : Mediator) (l : MediatorLife) (types : List ConsumerType) : Prop where
  completes : ∃ l', l.configureAllReceivers mediator = .ok l'
  addressed : ∀ t ∈ types, ∀ s ∈ t.sentTypes, ∃! a : Addressing, a.implementedBy s = true
  declares : ∀ s, (∃ t ∈ types, s ∈ t.sentTypes) ∨ s.isAssignableTo .response = true →
    ∀ typeName inputQueuePrefix, ∃ p, declareReceiveTopology mediator s typeName inputQueuePrefix = .ok p

theorem existsUnique_addressing {t : SentType} (h : t.DerivesAddressed) :
    ∃! a : Addressing, a.implementedBy t = true := by
  obtain ⟨a, ha⟩ := (derivesAddressed_iff t).mp h
  exact ⟨a, ha, fun b hb => Addressing.implementedBy_unique hb ha⟩

/-- A configuration that was accepted is set up just when the classes it consumes have a name, derive from a
base class with an addressing, and share no consumer tag with each other or with what was registered before. -/
theorem setsUp_iff {interfaceMap : InterfaceMap} {c : RabbitMediatorSettings}
    (h : c.validate interfaceMap = .ok ()) :
    ∃ types, c.getAllConsumerTypes = .ok types ∧ ∀ (mediator : Mediator) (l : MediatorLife), l.Live mediator →
      l.configuration.configuration = c.toRabbitMediatorConfiguration →
      (SetsUp mediator l types ↔ ∀ t ∈ types, ∀ s ∈ t.sentTypes,
        (s.DerivesAddressed ∧ ∃ name, RabbitNaming.typeName s = .ok name) ∧
        ∀ u, (∃ t' ∈ types, u ∈ t'.sentTypes) ∨ u ∈ l.registeredConsumerTypes → u ≠ s → ¬u.SharesTag s) := by
  obtain ⟨types, listed, _⟩ := sentTypes_nodup_of_validate h
  refine ⟨types, listed, fun mediator l live same => ?_⟩
  have all : l.configuration.allConsumerTypes = types := by
    have validated := l.configuration.validated
    rw [same, listed] at validated
    exact (Except.ok.inj validated).symm
  have loop : (∃ l', l.configureAllReceivers mediator = .ok l') ↔
      Fits mediator l.registeredConsumerTypes (l.configuration.receivers.map Prod.snd) := by
    unfold MediatorLife.configureAllReceivers
    rw [live.registered]
    exact configures_iff live _
  have consumed : ∀ s, s ∈ l.configuration.receivers.map Prod.snd ↔ ∃ t ∈ types, s ∈ t.sentTypes := by
    intro s
    simp only [RabbitMultiplexerMediatorConfiguration.receivers, all, List.mem_map, List.mem_flatMap]
    constructor
    · rintro ⟨_, ⟨t, ht, u, hu, rfl⟩, rfl⟩
      exact ⟨t, ht, hu⟩
    · rintro ⟨t, ht, hs⟩
      exact ⟨(t, s), ⟨t, ht, s, hs, rfl⟩, rfl⟩
  constructor
  · intro up t ht s hs
    have fits := loop.mp up.completes
    have here := (consumed s).mpr ⟨t, ht, hs⟩
    exact ⟨receiverOf_iff.mp (fits.receivers s here), fun u hu => fits.apart s here u (hu.imp (consumed u).mpr id)⟩
  · intro fit
    refine ⟨loop.mpr ⟨fun s hs => ?_, fun s hs u hu => ?_⟩, fun t ht s hs => ?_, ?_⟩
    · obtain ⟨t, ht, hst⟩ := (consumed s).mp hs
      exact receiverOf_iff.mpr (fit t ht s hst).1
    · obtain ⟨t, ht, hst⟩ := (consumed s).mp hs
      exact (fit t ht s hst).2 u (hu.imp (consumed u).mp id)
    · exact existsUnique_addressing (fit t ht s hs).1.1
    · rintro s (⟨t, ht, hs⟩ | response) typeName inputQueuePrefix
      · exact declareReceiveTopology_of_addressed (fit t ht s hs).1.1 typeName inputQueuePrefix
      · exact declareReceiveTopology_of_addressed (derivesAddressed_of_response response) typeName inputQueuePrefix

theorem testSettings_setsUp :
    SetsUp testMediator (.created testMediatorConfiguration)
      [testAnyTargetedRequestConsumer, testAnyTargetedMessageConsumer] := by
  have accepted : testSettings.validate testInterfaceMap = .ok () := by decide
  obtain ⟨types, listed, fits⟩ := setsUp_iff accepted
  cases listed
  refine (fits testMediator (.created testMediatorConfiguration) (live_created _ _) rfl).mpr fun t ht s hs => ?_
  -- the request and the message are consumed on two channels
  have apart : ∀ u, (∃ t' ∈ [testAnyTargetedRequestConsumer, testAnyTargetedMessageConsumer], u ∈ t'.sentTypes) ∨
      u ∈ (MediatorLife.created testMediatorConfiguration).registeredConsumerTypes →
      u = testAnyTargetedRequest ∨ u = testAnyTargetedMessage := by
    rintro u (⟨t', ht', hu⟩ | hu)
    · rcases List.mem_cons.mp ht' with rfl | ht'
      · exact Or.inl (List.mem_singleton.mp hu)
      · cases List.mem_singleton.mp ht'
        exact Or.inr (List.mem_singleton.mp hu)
    · exact absurd hu List.not_mem_nil
  rcases List.mem_cons.mp ht with rfl | ht
  · cases List.mem_singleton.mp hs
    refine ⟨⟨⟨.anyTargetedRequest testAnyTargetedResponse,
      by simp [testAnyTargetedRequest, SentType.selfAndBases], rfl⟩, _, rfl⟩, fun u hu other shares => ?_⟩
    rcases apart u hu with rfl | rfl
    · exact other rfl
    · exact absurd shares.1 (by decide)
  · cases List.mem_singleton.mp ht
    cases List.mem_singleton.mp hs
    refine ⟨⟨⟨.anyTargetedMessage, by simp [testAnyTargetedMessage, SentType.selfAndBases], rfl⟩, _, rfl⟩,
      fun u hu other shares => ?_⟩
    rcases apart u hu with rfl | rfl
    · exact absurd shares.1 (by decide)
    · exact other rfl

/-- A message class that derives from `Message` itself. -/
def testPlainMessage : SentType := .derived (testClass "TestPlainMessage") .message

def testPlainMessageConsumer : ConsumerType where
  fullName := "Weltmeyer.RabbitMediator.TestTool.Consumers.TestPlainMessageConsumer"
  assembly := "Weltmeyer.RabbitMediator.Test.Shared"
  isAbstract := false
  implementsIConsumer := true
  messageInterfaces := [⟨testPlainMessage, by rfl⟩]
  requestInterfaces := []
  messageInterfaces_nodup := List.pairwise_singleton _ _
  requestInterfaces_nodup := List.nodup_nil
  consumeParameters := [testPlainMessage]

def testPlainSettings : RabbitMediatorSettings :=
  ⟨{ testConfiguration with consumerTypes := [testPlainMessageConsumer] }, .singleton, 10, none⟩

theorem plain_message_not_set_up :
    ¬∀ interfaceMap (c : RabbitMediatorSettings), c.validate interfaceMap = .ok () →
      ∀ types, c.getAllConsumerTypes = .ok types → ∀ mediator (l : MediatorLife), l.Live mediator →
      l.configuration.configuration = c.toRabbitMediatorConfiguration → SetsUp mediator l types := by
  intro claim
  have up := claim testInterfaceMap testPlainSettings (by decide) [testPlainMessageConsumer] rfl testMediator
    (.created (.configured testPlainSettings.toRabbitMediatorConfiguration [testPlainMessageConsumer] rfl))
    (live_created _ _) rfl
  obtain ⟨a, ha, _⟩ := up.addressed testPlainMessageConsumer (by simp) testPlainMessage
    (by simp [testPlainMessageConsumer, ConsumerType.sentTypes])
  cases a <;> cases ha

end RabbitMediator
