import RabbitMediator.MediatorLife

namespace RabbitMediator

/-- A call of `EnsureReceiver`. `taken` says that the broker has carried out the command it awaits. -/
structure ReceiverRun where
  sentObjectType : SentType
  control : EnsureReceiver
  taken : Bool

/-- The operation is a command to the broker. -/
def ReceiverOperation.atBroker : ReceiverOperation → Bool
  | .exchangeDeclare | .queueDeclare | .queueBind | .basicConsume => true
  | .addTypeIfMissing | .topologyChannel | .registered => false

namespace ReceiverRun

def entered (sentObjectType : SentType) : ReceiverRun := ⟨sentObjectType, .entered, false⟩

def goesTo (run : ReceiverRun) (control : EnsureReceiver) : ReceiverRun :=
  ⟨run.sentObjectType, control, false⟩

/-- The broker after the command of an operation. -/
def command (mediator : Mediator) (closed : ReceiveChannel → Bool) (b : ConsumingBroker ReceiveChannel)
    (sentObjectType : SentType) (p : ReceiveTopology) :
    ReceiverOperation → Option (ConsumingBroker ReceiveChannel)
  | .exchangeDeclare =>
    (b.execute mediator.instanceId.value (.exchangeDeclare p.exchangeName p.exchange)).toOption
  | .queueDeclare => (b.execute mediator.instanceId.value (.queueDeclare p.queueName p.queue)).toOption
  | .queueBind => (b.execute mediator.instanceId.value (.queueBind p.binding)).toOption
  | .basicConsume =>
    if closed (receiveChannelFor sentObjectType).1 then none
    else b.basicConsume (consumerOf mediator sentObjectType p)
  | _ => none

/-- What `DeclareReceiveTopology` remembers when an operation has returned. -/
def remember (l : MediatorLife) (sentObjectType : SentType) (p : ReceiveTopology) :
    ReceiverOperation → MediatorLife
  | .queueDeclare =>
    let useChannel := (receiveChannelFor sentObjectType).1
    if p.owned then
      { l with ownedQueues := ConcurrentDictionary.tryAdd l.ownedQueues p.queueName useChannel }
    else l
  | .queueBind =>
    let exchange := (p.exchangeName, p.exchange.kind)
    { l with queueToExchangeBindings :=
        ConcurrentDictionary.tryAdd l.queueToExchangeBindings p.queueName exchange }
  | _ => l

def list (mediator : Mediator) (l : MediatorLife) (sentObjectType : SentType) (p : ReceiveTopology) :
    MediatorLife :=
  let consumer := consumerOf mediator sentObjectType p
  { l with consumerTags := ConcurrentDictionary.tryAdd l.consumerTags consumer.consumerTag consumer.channel }

theorem toMediatorState_remember (l : MediatorLife) (sentObjectType : SentType)
    (p : ReceiveTopology) (operation : ReceiverOperation) :
    (remember l sentObjectType p operation).toMediatorState = l.toMediatorState := by
  cases operation with
  | queueDeclare =>
    simp only [remember]
    split <;> rfl
  | _ => rfl

/-- A step of the control flow, which `EnsureReceiver` has in common for all types. -/
def follow (hosts : Hosts) (m : MediatorRef) (l : MediatorLife) (run : ReceiverRun) (x : Occurrence) :
    Option (MediatorLife × ReceiverRun) :=
  (run.control.next hosts m run.sentObjectType l.toMediatorState x).map fun p =>
    ({ l with toMediatorState := p.1 }, run.goesTo p.2)

/-- A step at an awaited operation, with the channel the broker closes. -/
def perform (hosts : Hosts) (m : MediatorRef) (closed : ReceiveChannel → Bool) (l : MediatorLife)
    (run : ReceiverRun) (operation : ReceiverOperation) :
    Event → Option (MediatorLife × ReceiverRun × Option ReceiveChannel)
  | .go =>
    -- a type without addressing gets no topology
    match receiverOf (hosts.mediator m) run.sentObjectType with
    | .error e =>
      if operation = .exchangeDeclare then
        (run.follow hosts m l (.ended (.error e))).map fun p => (p.1, p.2, none)
      else none
    | .ok _ => none
  | .took =>
    match receiverOf (hosts.mediator m) run.sentObjectType with
    | .ok p =>
      if run.taken then none
      else (command (hosts.mediator m) closed l.topology run.sentObjectType p operation).map fun b =>
        ({ l with topology := b }, { run with taken := true }, none)
    | .error _ => none
  | .ended (.ok _) =>
    match receiverOf (hosts.mediator m) run.sentObjectType with
    | .ok p =>
      if operation.atBroker && !run.taken then none
      else (run.follow hosts m (remember l run.sentObjectType p operation) (.ended (.ok ()))).map
        fun p => (p.1, p.2, none)
    | .error _ =>
      if operation.atBroker then none
      else (run.follow hosts m l (.ended (.ok ()))).map fun p => (p.1, p.2, none)
  | .ended (.error e) =>
    -- nothing cancels the wait for the registration
    if operation = .registered then none
    else (run.follow hosts m l (.ended (.error e))).map fun p => (p.1, p.2, none)
  | .refused e =>
    if operation = .basicConsume && !run.taken then
      (run.follow hosts m l (.ended (.error e))).map fun p =>
        (p.1, p.2, some (receiveChannelFor run.sentObjectType).1)
    else none
  | _ => none

/-- One step of a call. Registering the type and its consumer tag is one step: nothing is awaited there. -/
def next (hosts : Hosts) (m : MediatorRef) (closed : ReceiveChannel → Bool) (l : MediatorLife)
    (run : ReceiverRun) (x : Event) : Option (MediatorLife × ReceiverRun × Option ReceiveChannel) :=
  match run.control, x with
  | .performing operation, x => run.perform hosts m closed l operation x
  | .adding, .go =>
    match receiverOf (hosts.mediator m) run.sentObjectType with
    | .ok p =>
      (run.follow hosts m (list (hosts.mediator m) l run.sentObjectType p) .go).map fun p => (p.1, p.2, none)
    | .error _ => none
  | _, .go => (run.follow hosts m l .go).map fun p => (p.1, p.2, none)
  | .acquiring, .ended result => (run.follow hosts m l (.ended result)).map fun p => (p.1, p.2, none)
  | _, _ => none

/-- The call is between the `WaitAsync` and the `Release` of the semaphore. -/
def inside (run : ReceiverRun) : Bool :=
  match run.control with
  | .rechecking | .performing _ | .adding | .releasing => true
  | _ => false

/-- The call has not looked up the configuration of its mediator yet, or is over. -/
def outOfReach (run : ReceiverRun) : Bool :=
  match run.control with
  | .entered | .looking | .returned | .threw _ => true
  | _ => false

end ReceiverRun

/-- Everything a call of `EnsureReceiver` can do in one step. -/
inductive ReceiverRun.Step (hosts : Hosts) (m : MediatorRef) (closed : ReceiveChannel → Bool)
    (l : MediatorLife) (run : ReceiverRun) :
    Event → MediatorLife → ReceiverRun → Option ReceiveChannel → Prop
  | outside {x control} (before : run.inside = false) (after : (run.goesTo control).inside = false)
      (reach : (run.goesTo control).outOfReach = false → run.outOfReach = false ∨ l.registered = true)
      (live : control = .looking → l.disposed = false)
      (why : control = .returned → l.disposed = true ∨ run.sentObjectType ∈ l.registeredConsumerTypes) :
      Step hosts m closed l run x l (run.goesTo control) none
  | acquired {x} (before : run.control = .acquiring) (free : l.semaphoreTaken = false) :
      Step hosts m closed l run x { l with semaphoreTaken := true } (run.goesTo .rechecking) none
  | found (before : run.control = .rechecking) (old : run.sentObjectType ∈ l.registeredConsumerTypes) :
      Step hosts m closed l run .go l (run.goesTo .releasing) none
  | began (before : run.control = .rechecking) (new : run.sentObjectType ∉ l.registeredConsumerTypes) :
      Step hosts m closed l run .go l (run.goesTo (.performing .addTypeIfMissing)) none
  | took {operation p b} (before : run.control = .performing operation) (untaken : run.taken = false)
      (receiver : receiverOf (hosts.mediator m) run.sentObjectType = .ok p)
      (done : command (hosts.mediator m) closed l.topology run.sentObjectType p operation = some b) :
      Step hosts m closed l run .took { l with topology := b } { run with taken := true } none
  | prepared {operation next} (before : run.control = .performing operation)
      (quiet : operation.atBroker = false) (after : operation.after = some next) :
      Step hosts m closed l run (.ended (.ok ())) l (run.goesTo (.performing next)) none
  | proceeded {operation next p} (before : run.control = .performing operation)
      (command : operation.atBroker = true) (after : operation.after = some next) (taken : run.taken = true)
      (receiver : receiverOf (hosts.mediator m) run.sentObjectType = .ok p) :
      Step hosts m closed l run (.ended (.ok ())) (remember l run.sentObjectType p operation)
        (run.goesTo (.performing next)) none
  | registered (before : run.control = .performing .registered) :
      Step hosts m closed l run (.ended (.ok ())) l (run.goesTo .adding) none
  | listed {p} (before : run.control = .adding)
      (receiver : receiverOf (hosts.mediator m) run.sentObjectType = .ok p) :
      Step hosts m closed l run .go
        { list (hosts.mediator m) l run.sentObjectType p with
          registeredConsumerTypes := run.sentObjectType :: l.registeredConsumerTypes }
        (run.goesTo .releasing) none
  | failed {x operation e} (before : run.control = .performing operation) (fails : operation ≠ .registered)
      (why : x = .ended (.error e) ∨ x = .go ∧ operation = .exchangeDeclare) :
      Step hosts m closed l run x { l with semaphoreTaken := false } (run.goesTo (.threw e)) none
  | refused {e} (before : run.control = .performing .basicConsume) (untaken : run.taken = false) :
      Step hosts m closed l run (.refused e) { l with semaphoreTaken := false } (run.goesTo (.threw e))
        (some (receiveChannelFor run.sentObjectType).1)
  | released (before : run.control = .releasing) :
      Step hosts m closed l run .go { l with semaphoreTaken := false } (run.goesTo .returned) none

namespace ReceiverRun

variable {hosts : Hosts} {m : MediatorRef} {closed : ReceiveChannel → Bool} {l l' : MediatorLife}
  {run run' : ReceiverRun} {x : Event} {closes : Option ReceiveChannel}

theorem step_of_quiet {operation : ReceiverOperation} {s : MediatorState} {control : EnsureReceiver}
    (before : run.control = .performing operation) (quiet : operation.atBroker = false)
    (h : EnsureReceiver.next hosts m run.sentObjectType l.toMediatorState (.performing operation)
      (.ended (.ok ())) = some (s, control)) :
    run.Step hosts m closed l (.ended (.ok ())) { l with toMediatorState := s } (run.goesTo control) none := by
  cases h
  cases operation with
  | addTypeIfMissing | topologyChannel => exact .prepared before rfl rfl
  | registered => exact .registered before
  | _ => cases quiet

theorem step_of_perform {operation : ReceiverOperation} (before : run.control = .performing operation)
    (h : run.perform hosts m closed l operation x = some (l', run', closes)) :
    run.Step hosts m closed l x l' run' closes := by
  have follows : ∀ {k : MediatorLife} {y : Occurrence} {c : Option ReceiveChannel},
      ((run.follow hosts m k y).map fun p => (p.1, p.2, c)) = some (l', run', closes) →
      ∃ s control, EnsureReceiver.next hosts m run.sentObjectType k.toMediatorState (.performing operation) y =
        some (s, control) ∧ l' = { k with toMediatorState := s } ∧ run' = run.goesTo control ∧ closes = c := by
    intro k y c hf
    obtain ⟨p, hp, he⟩ := Option.map_eq_some_iff.mp hf
    obtain ⟨⟨s, control⟩, hs, rfl⟩ := Option.map_eq_some_iff.mp hp
    cases he
    exact ⟨s, control, before ▸ hs, rfl, rfl, rfl⟩
  unfold perform at h
  split at h
  next =>
    split at h
    next e hr =>
      split at h
      next hop =>
        obtain ⟨s, control, hn, rfl, rfl, rfl⟩ := follows h
        cases hn
        exact .failed before (by rw [hop]; simp) (Or.inr ⟨rfl, hop⟩)
      next => cases h
    next => cases h
  next =>
    split at h
    next p hr =>
      split at h
      next => cases h
      next untaken =>
        obtain ⟨b, hb, he⟩ := Option.map_eq_some_iff.mp h
        cases he
        exact .took before (by simpa using untaken) hr hb
    next => cases h
  next =>
    split at h
    next p hr =>
      split at h
      next => cases h
      next done =>
        obtain ⟨s, control, hn, rfl, rfl, rfl⟩ := follows h
        cases hb : operation.atBroker with
        | false =>
          have same : remember l run.sentObjectType p operation = l := by
            cases operation <;> first | rfl | cases hb
          rw [same] at hn ⊢
          exact step_of_quiet before hb hn
        | true =>
          cases hn
          have taken : run.taken = true := by simpa [hb] using done
          cases operation <;> first | exact .proceeded before rfl rfl taken hr | cases hb
    next e hr =>
      split at h
      next => cases h
      next outside =>
        obtain ⟨s, control, hn, rfl, rfl, rfl⟩ := follows h
        exact step_of_quiet before (by simpa using outside) hn
  next e =>
    split at h
    next => cases h
    next fails =>
      obtain ⟨s, control, hn, rfl, rfl, rfl⟩ := follows h
      cases hn
      exact .failed before fails (Or.inl rfl)
  next e =>
    split at h
    next hop =>
      obtain ⟨hop, untaken⟩ := Bool.and_eq_true_iff.mp hop
      obtain ⟨s, control, hn, rfl, rfl, rfl⟩ := follows h
      cases hn
      have hop : operation = .basicConsume := of_decide_eq_true hop
      subst hop
      exact .refused before (by simpa using untaken)
    next => cases h
  next => cases h

/-- A step of the control flow that waits for nothing, up to the semaphore and after it. -/
theorem step_of_go {s : MediatorState} {control : EnsureReceiver}
    (outer : ∀ operation, run.control ≠ .performing operation) (listing : run.control ≠ .adding)
    (h : EnsureReceiver.next hosts m run.sentObjectType l.toMediatorState run.control .go = some (s, control)) :
    run.Step hosts m closed l .go { l with toMediatorState := s } (run.goesTo control) none := by
  cases hc : run.control with
  | entered =>
    rw [hc] at h
    have here : run.inside = false := by simp [inside, hc]
    simp only [EnsureReceiver.next] at h
    split at h
    next disposed =>
      cases h
      exact .outside here rfl (by simp [outOfReach, goesTo]) (by simp) fun _ => Or.inl disposed
    next live =>
      split at h <;> cases h
      · exact .outside here rfl (by simp [outOfReach, goesTo]) (by simp) (by simp)
      · exact .outside here rfl (by simp [outOfReach, goesTo]) (fun _ => by simpa using live) (by simp)
  | looking =>
    rw [hc] at h
    have here : run.inside = false := by simp [inside, hc]
    cases h
    cases hr : l.registered with
    | true => exact .outside here rfl (fun _ => Or.inr hr) (by simp) (by simp)
    | false => exact .outside here rfl (by simp [outOfReach, goesTo]) (by simp) (by simp)
  | checking =>
    rw [hc] at h
    have here : run.inside = false := by simp [inside, hc]
    have reach : run.outOfReach = false := by simp [outOfReach, hc]
    cases h
    cases ht : l.registeredConsumerTypes.contains run.sentObjectType with
    | true => exact .outside here rfl (fun _ => Or.inl reach) (by simp) fun _ => Or.inr (by simpa using ht)
    | false => exact .outside here rfl (fun _ => Or.inl reach) (by simp) (by simp)
  | acquiring => rw [hc] at h; cases h
  | rechecking =>
    rw [hc] at h
    cases h
    cases ht : l.registeredConsumerTypes.contains run.sentObjectType with
    | true => exact .found hc (by simpa using ht)
    | false => exact .began hc (by simpa using ht)
  | performing operation => exact absurd hc (outer operation)
  | adding => exact absurd hc listing
  | releasing =>
    rw [hc] at h
    cases h
    exact .released hc
  | returned => rw [hc] at h; cases h
  | threw => rw [hc] at h; cases h

theorem step_of_next (h : run.next hosts m closed l x = some (l', run', closes)) :
    run.Step hosts m closed l x l' run' closes := by
  unfold next at h
  split at h
  next operation x hp => exact step_of_perform hp h
  next hp =>
    split at h
    next p hr =>
      obtain ⟨⟨l₁, run₁⟩, hf, he⟩ := Option.map_eq_some_iff.mp h
      cases he
      simp only [follow, hp, EnsureReceiver.next, Option.map_some, Option.some.injEq, Prod.mk.injEq] at hf
      obtain ⟨rfl, rfl⟩ := hf
      exact .listed hp hr
    next => cases h
  next hp ha =>
    obtain ⟨p, hf, he⟩ := Option.map_eq_some_iff.mp h
    obtain ⟨⟨s, control⟩, hs, rfl⟩ := Option.map_eq_some_iff.mp hf
    cases he
    exact step_of_go hp ha hs
  next result hp =>
    obtain ⟨p, hf, he⟩ := Option.map_eq_some_iff.mp h
    obtain ⟨⟨s, control⟩, hs, rfl⟩ := Option.map_eq_some_iff.mp hf
    cases he
    rw [hp] at hs
    cases result with
    | error e =>
      cases hs
      exact .outside (by simp [inside, hp]) rfl (by simp [outOfReach, goesTo]) (by simp) (by simp)
    | ok _ =>
      simp only [EnsureReceiver.next] at hs
      split at hs
      next => cases hs
      next free =>
        cases hs
        exact .acquired hp (by simpa using free)
  next => cases h

end ReceiverRun
end RabbitMediator
