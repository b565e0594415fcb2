import RabbitMediator.ConsumerTypes
import RabbitMediator.Readiness
import RabbitMediator.SetUp

namespace RabbitMediator

open Interleaving

/-- The mapping has the sent-object types that are consumed, each with its only consumer. -/
structure MapsConsumers (mapping : ConcurrentDictionary SentType ConsumerType) (types : List ConsumerType) : Prop where
  domain : ∀ s, (mapping.lookup s).isSome = true ↔ ∃ t ∈ types, s ∈ t.sentTypes
  only : ∀ s t, mapping.lookup s = some t → t ∈ types ∧ s ∈ t.sentTypes ∧ ∀ u ∈ types, s ∈ u.sentTypes → u = t

/-- One turn of the loop of `ConfigureAllReceivers`. -/
def MediatorLife.configureReceiver (mediator : Mediator) (l : MediatorLife) (p : ConsumerType × SentType) :
    Except Exception MediatorLife :=
  ensureReceiver mediator (MediatorCall.map l p.1 p.2) p.2

/-- Every call of `EnsureReceiver` that `ConfigureAllReceivers` makes succeeds. -/
def EnsuresAll (mediator : Mediator) (l : MediatorLife) : Prop :=
  ∀ before p after l₁, l.configuration.receivers = before ++ p :: after →
    before.foldlM (MediatorLife.configureReceiver mediator) l = .ok l₁ →
    ∃ l₂, l₁.configureReceiver mediator p = .ok l₂

/-- No call of `ConfigureAllReceivers` of the mediator comes to its `TryAdd` for the type. -/
def Unadded (m : MediatorRef) (s : SentType) (c : Config Lifecycle MediatorThread)
    (a : Action MediatorThread Event) : Prop :=
  ∀ i e call t remaining, a = .step i e → c.pool[i]? = some ⟨m, .call call⟩ →
    call.phase ≠ .configuring ((t, s) :: remaining)

section Mapping

variable {types : List ConsumerType} {t u : ConsumerType} {s : SentType}
  {c : RabbitMultiplexerMediatorConfiguration}

theorem consumer_unique (once : ¬ConsumedTwice types) (ht : t ∈ types) (hu : u ∈ types) (hs : s ∈ t.sentTypes)
    (hs' : s ∈ u.sentTypes) : u = t := by
  obtain ⟨i, hi⟩ := List.mem_iff_getElem?.mp ht
  obtain ⟨j, hj⟩ := List.mem_iff_getElem?.mp hu
  rcases Nat.lt_trichotomy i j with lt | rfl | lt
  · exact absurd ⟨i, j, t, u, s, lt, hi, hj, hs, hs'⟩ once
  · exact Option.some.inj (hj.symm.trans hi)
  · exact absurd ⟨j, i, u, t, s, lt, hj, hi, hs', hs⟩ once

/-- A mapping that lacks no consumer is complete, for it never holds anything else. -/
theorem mapsConsumers_of_complete (once : ¬ConsumedTwice c.allConsumerTypes)
    (complete : ∀ p ∈ c.receivers, (c.sentTypeToConsumerMapping.lookup p.2).isSome = true) :
    MapsConsumers c.sentTypeToConsumerMapping c.allConsumerTypes := by
  refine ⟨fun s => ⟨fun there => ?_, fun ⟨t, ht, hs⟩ => ?_⟩, ?_⟩
  · obtain ⟨t, h⟩ := Option.isSome_iff_exists.mp there
    exact ⟨t, c.mapped h⟩
  · exact complete (t, s) (RabbitMultiplexerMediatorConfiguration.mem_receivers.mpr ⟨ht, hs⟩)
  · intro s t h
    obtain ⟨ht, hs⟩ := c.mapped h
    exact ⟨ht, hs, fun u hu hs' => consumer_unique once ht hu hs hs'⟩

end Mapping

section Loop

variable {mediator : Mediator} {l l' : MediatorLife} {t : SentType} {p : ConsumerType × SentType}

theorem ensureReceiver_configuration (h : l.ensureReceiver mediator t = .ok l') :
    l'.configuration = l.configuration := by
  unfold MediatorLife.ensureReceiver at h
  split at h
  next => cases h; rfl
  next =>
    obtain ⟨_, _, h⟩ := except_bind_eq_ok.mp h
    split at h
    next => cases h
    next =>
      split at h
      next => cases h; rfl
      next =>
        obtain ⟨_, _, h⟩ := except_bind_eq_ok.mp h
        dsimp only at h
        split at h
        next => cases h
        next =>
          cases h
          simp only [ReceiverRun.list, ReceiverRun.configuration_remember]

theorem configureReceiver_configuration (h : l.configureReceiver mediator p = .ok l') :
    l'.configuration = l.configuration.tryAdd p.1 p.2 :=
  ensureReceiver_configuration h

/-- What the loop over some of the receivers has mapped, and that it forgets nothing. -/
theorem mapped_of_loop {pairs : List (ConsumerType × SentType)}
    (h : pairs.foldlM (MediatorLife.configureReceiver mediator) l = .ok l')
    (listed : ∀ p ∈ pairs, p ∈ l.configuration.receivers) :
    l'.configuration.allConsumerTypes = l.configuration.allConsumerTypes ∧
    ∀ s, (∃ p ∈ pairs, p.2 = s) ∨ (l.configuration.sentTypeToConsumerMapping.lookup s).isSome = true →
      (l'.configuration.sentTypeToConsumerMapping.lookup s).isSome = true := by
  induction pairs generalizing l with
  | nil =>
    cases h
    exact ⟨rfl, fun s hs => by simpa using hs⟩
  | cons p pairs ih =>
    rw [List.foldlM_cons] at h
    obtain ⟨l₁, first, rest⟩ := except_bind_eq_ok.mp h
    have turn := configureReceiver_configuration first
    have later : ∀ q ∈ pairs, q ∈ l₁.configuration.receivers := fun q hq => by
      rw [turn, RabbitMultiplexerMediatorConfiguration.receivers_tryAdd]
      exact listed q (List.mem_cons_of_mem p hq)
    obtain ⟨types, mapped⟩ := ih rest later
    refine ⟨types.trans ?_, fun s hs => mapped s ?_⟩
    · rw [turn, RabbitMultiplexerMediatorConfiguration.allConsumerTypes_tryAdd]
    · rw [turn]
      rcases hs with ⟨q, hq, rfl⟩ | old
      · rcases List.mem_cons.mp hq with rfl | hq
        · exact Or.inr (RabbitMultiplexerMediatorConfiguration.isSome_tryAdd_self (listed q List.mem_cons_self))
        · exact Or.inl ⟨q, hq, rfl⟩
      · exact Or.inr (RabbitMultiplexerMediatorConfiguration.isSome_tryAdd_of_isSome old)

/-- A loop completes when each turn does where it is taken. -/
theorem foldlM_completes {α β : Type} {f : β → α → Except Exception β} {xs : List α} {b : β}
    (turns : ∀ before x after b₁, xs = before ++ x :: after → before.foldlM f b = .ok b₁ → ∃ b₂, f b₁ x = .ok b₂) :
    ∃ b', xs.foldlM f b = .ok b' := by
  induction xs generalizing b with
  | nil => exact ⟨b, rfl⟩
  | cons x xs ih =>
    obtain ⟨b₁, first⟩ := turns [] x xs b rfl rfl
    obtain ⟨b', rest⟩ := ih fun before y after b₂ he hb => by
      refine turns (x :: before) y after b₂ (by rw [he, List.cons_append]) ?_
      rw [List.foldlM_cons]
      exact except_bind_eq_ok.mpr ⟨b₁, first, hb⟩
    exact ⟨b', by rw [List.foldlM_cons]; exact except_bind_eq_ok.mpr ⟨b₁, first, rest⟩⟩

/-- `ConfigureAllReceivers` ends with the whole mapping, also after a run that failed half-way. -/
theorem configureAllReceivers_maps (once : ¬ConsumedTwice l.configuration.allConsumerTypes)
    (registered : l.registered = true) (ensures : EnsuresAll mediator l) :
    ∃ l', l.configureAllReceivers mediator = .ok l' ∧
      MapsConsumers l'.configuration.sentTypeToConsumerMapping l.configuration.allConsumerTypes := by
  obtain ⟨l', loop⟩ := foldlM_completes ensures
  obtain ⟨types, mapped⟩ := mapped_of_loop loop fun _ hp => hp
  refine ⟨l', ?_, ?_⟩
  · unfold MediatorLife.configureAllReceivers
    rw [registered]
    exact loop
  · rw [← types] at once ⊢
    refine mapsConsumers_of_complete once fun p hp => mapped p.2 (Or.inl ⟨p, ?_, rfl⟩)
    simpa only [RabbitMultiplexerMediatorConfiguration.receivers, types] using hp

end Loop

/-- What is still to come of the consumers at a point of `ConfigureAllReceivers`: the others are mapped. -/
def MediatorCall.Mapped (c : RabbitMultiplexerMediatorConfiguration) (call : MediatorCall) : Prop :=
  match call.phase with
  | .configuring remaining | .ensuring _ remaining => (∀ p ∈ remaining, p ∈ c.receivers) ∧
    ∀ p ∈ c.receivers, p ∈ remaining ∨ (c.sentTypeToConsumerMapping.lookup p.2).isSome = true
  | .finishing => ∀ p ∈ c.receivers, (c.sentTypeToConsumerMapping.lookup p.2).isSome = true
  | _ => True

/-- The entry of a mediator has the same consumers, and has forgotten none of them. -/
structure RabbitMultiplexerMediatorConfiguration.Extends (c c' : RabbitMultiplexerMediatorConfiguration) : Prop where
  allConsumerTypes : c'.allConsumerTypes = c.allConsumerTypes
  mapped : ∀ s, (c.sentTypeToConsumerMapping.lookup s).isSome = true →
    (c'.sentTypeToConsumerMapping.lookup s).isSome = true

section Runs

variable {hosts : Hosts} {m : MediatorRef} {s s' : Lifecycle} {t t' : MediatorThread} {e : Event}

theorem RabbitMultiplexerMediatorConfiguration.Extends.refl (c : RabbitMultiplexerMediatorConfiguration) :
    c.Extends c :=
  ⟨rfl, fun _ => id⟩

theorem RabbitMultiplexerMediatorConfiguration.Extends.tryAdd (c : RabbitMultiplexerMediatorConfiguration)
    (t : ConsumerType) (s : SentType) : c.Extends (c.tryAdd t s) :=
  ⟨c.allConsumerTypes_tryAdd t s, fun _ => isSome_tryAdd_of_isSome⟩

theorem RabbitMultiplexerMediatorConfiguration.Extends.receivers {c c' : RabbitMultiplexerMediatorConfiguration}
    (h : c.Extends c') : c'.receivers = c.receivers := by
  simp only [RabbitMultiplexerMediatorConfiguration.receivers, h.allConsumerTypes]

theorem MediatorCall.Mapped.extended {c c' : RabbitMultiplexerMediatorConfiguration} {call : MediatorCall}
    (h : call.Mapped c) (extended : c.Extends c') : call.Mapped c' := by
  unfold Mapped at h ⊢
  rw [extended.receivers]
  split
  next hp =>
    rw [hp] at h
    exact ⟨h.1, fun p hp => (h.2 p hp).imp_right (extended.mapped p.2)⟩
  next hp =>
    rw [hp] at h
    exact ⟨h.1, fun p hp => (h.2 p hp).imp_right (extended.mapped p.2)⟩
  next hp =>
    rw [hp] at h
    exact fun p hp => extended.mapped p.2 (h p hp)
  next => trivial

/-- Only a `TryAdd` of `ConfigureAllReceivers` changes the entry of a mediator. -/
theorem Activity.Step.configuration {x x' : MultiplexerLife} {l l' : MediatorLife} {a a' : Activity}
    {closes : Option ReceiveChannel} (h : a.Step hosts m x l e x' l' a' closes) :
    l'.configuration = l.configuration ∨ ∃ call t s remaining, a = .call call ∧
      call.phase = .configuring ((t, s) :: remaining) ∧ l'.configuration = l.configuration.tryAdd t s := by
  cases h with
  | call h =>
    cases h with
    | mapped before => exact Or.inr ⟨_, _, _, _, rfl, before, rfl⟩
    | ensured _ h => exact Or.inl h.frame.2.1
    | _ => exact Or.inl rfl
  | receiver h => exact Or.inl h.frame.2.1
  | teardown h => cases h <;> exact Or.inl rfl
  | delivery => exact Or.inl rfl

theorem MediatorThread.next_configuration (h : t.next hosts s e = some (s', t')) (m : MediatorRef) :
    (s'.mediators m).configuration = (s.mediators m).configuration ∨
      ∃ call c r remaining, t = ⟨m, .call call⟩ ∧ call.phase = .configuring ((c, r) :: remaining) ∧
        (s'.mediators m).configuration = (s.mediators m).configuration.tryAdd c r := by
  have closing : ∀ (l : MediatorLife) closes, (l.closing closes).configuration = l.configuration := by
    intro l closes
    cases closes <;> rfl
  by_cases own : t.mediator = m
  · obtain ⟨x, l, a, closes, rfl, rfl, step⟩ := step_of_next h
    subst own
    rw [Lifecycle.mediators_after, closing]
    rcases step.configuration with same | ⟨call, c, r, remaining, ha, before, added⟩
    · exact Or.inl same
    · exact Or.inr ⟨call, c, r, remaining, by rw [← ha], before, added⟩
  · obtain ⟨_, closes, hl, _⟩ := next_other h own
    exact Or.inl (by rw [hl, closing])

theorem MediatorThread.next_extends (h : t.next hosts s e = some (s', t')) (m : MediatorRef) :
    (s.mediators m).configuration.Extends (s'.mediators m).configuration := by
  rcases next_configuration h m with same | ⟨_, c, r, _, _, _, added⟩
  · exact same ▸ .refl _
  · exact added ▸ .tryAdd _ c r

/-- A step of a call leaves mapped what it goes past. -/
theorem MediatorCall.Step.mapped_kept {x x' : MultiplexerLife} {l l' : MediatorLife} {call call' : MediatorCall}
    {closes : Option ReceiveChannel} (h : call.Step hosts m x l e x' l' call' closes)
    (mapped : call.Mapped l.configuration) : call'.Mapped l'.configuration := by
  have idle (call : MediatorCall) (c : RabbitMultiplexerMediatorConfiguration) : call.configured.Mapped c := by
    unfold configured
    split <;> exact trivial
  cases h with
  | passed | released => exact idle _ _
  | listed => exact ⟨fun _ hp => hp, fun _ hp => Or.inl hp⟩
  | @mapped c r remaining before =>
    simp only [Mapped, before] at mapped
    obtain ⟨listed, covered⟩ := mapped
    have extended := RabbitMultiplexerMediatorConfiguration.Extends.tryAdd l.configuration c r
    have receivers := extended.receivers
    refine ⟨fun p hp => receivers ▸ listed p (List.mem_cons_of_mem _ hp), fun p hp => ?_⟩
    rcases covered p (receivers ▸ hp) with hp | old
    · rcases List.mem_cons.mp hp with rfl | hp
      · exact Or.inr (RabbitMultiplexerMediatorConfiguration.isSome_tryAdd_self (listed (c, r) List.mem_cons_self))
      · exact Or.inl hp
    · exact Or.inr (extended.mapped p.2 old)
  | ensured before h =>
    simp only [Mapped, before] at mapped
    rw [h.frame.2.1]
    exact mapped
  | continued before =>
    simp only [Mapped, before] at mapped
    exact mapped
  | exhausted before =>
    simp only [Mapped, before] at mapped
    exact fun p hp => (mapped.2 p hp).resolve_left List.not_mem_nil
  | _ => trivial

theorem mapped_sound (hosts : Hosts) (m : MediatorRef) :
    Sound (lifecycle hosts) (fun _ _ _ _ => True) (fun _ => True)
      (fun s _ t => ∀ call, t = ⟨m, .call call⟩ → call.Mapped (s.mediators m).configuration)
      (fun _ s s' => (s.mediators m).configuration.Extends (s'.mediators m).configuration) := by
  refine ⟨?_, ?_, fun _ extended _ before call own => (before call own).extended extended⟩
  · rintro s i _ _ start call rfl
    obtain ⟨caller, phase⟩ := call
    cases phase <;> trivial
  · intro s s' i t t' e _ before _ hn
    refine ⟨trivial, ?_, MediatorThread.next_extends hn m⟩
    rintro call' rfl
    obtain ⟨x, l, a, closes, same, rfl, step⟩ := MediatorThread.step_of_next hn
    obtain ⟨own, ha⟩ := MediatorThread.mk.inj same
    subst ha own
    generalize hb : t.activity = b at step
    cases step with
    | @call call _ _ _ _ _ step =>
      have kept := step.mapped_kept (before call (by rw [← hb]))
      rw [Lifecycle.mediators_after]
      cases closes <;> exact kept

theorem mapped_of_reachable {allowed : Config Lifecycle MediatorThread → Action MediatorThread Event → Prop}
    {init : Lifecycle} {c : Config Lifecycle MediatorThread} {i : Nat} {call : MediatorCall}
    (h : ReachableWhere (lifecycle hosts) allowed ⟨init, []⟩ c) (hi : c.pool[i]? = some ⟨m, .call call⟩) :
    call.Mapped (c.shared.mediators m).configuration :=
  ((mapped_sound hosts m).always trivial rfl h).2 i _ hi call rfl

/-- Once the loop of a call is through, the mediator has its whole mapping. -/
theorem mapped_of_finishing {configuration : MediatorRef → RabbitMultiplexerMediatorConfiguration}
    {c : Config Lifecycle MediatorThread} (once : ¬ConsumedTwice (configuration m).allConsumerTypes)
    (h : Reachable (lifecycle hosts) ⟨.created configuration, []⟩ c) {i : Nat} {call : MediatorCall}
    (hi : c.pool[i]? = some ⟨m, .call call⟩) (through : call.phase = .finishing) :
    MapsConsumers (c.shared.mediators m).configuration.sentTypeToConsumerMapping
      (configuration m).allConsumerTypes := by
  have types : (c.shared.mediators m).configuration.allConsumerTypes = (configuration m).allConsumerTypes := by
    refine h.invariant (P := fun c => (c.shared.mediators m).configuration.allConsumerTypes =
      (configuration m).allConsumerTypes) rfl fun c d a _ ih _ hd => ?_
    cases a with
    | start =>
      obtain ⟨_, rfl⟩ := act_start hd
      exact ih
    | step i e =>
      obtain ⟨t, s', t', _, hn, rfl⟩ := act_step hd
      exact (MediatorThread.next_extends hn m).allConsumerTypes.trans ih
  have mapped := mapped_of_reachable h hi
  simp only [MediatorCall.Mapped, through] at mapped
  rw [← types] at once ⊢
  exact mapsConsumers_of_complete once mapped

/-- A type is unmapped until a call comes to its `TryAdd`. -/
theorem unmapped_of_unadded {configuration : MediatorRef → RabbitMultiplexerMediatorConfiguration}
    {c : Config Lifecycle MediatorThread} {r : SentType}
    (empty : (configuration m).sentTypeToConsumerMapping = ∅)
    (h : ReachableWhere (lifecycle hosts) (Unadded m r) ⟨.created configuration, []⟩ c) :
    (c.shared.mediators m).configuration.sentTypeToConsumerMapping.lookup r = none := by
  refine h.invariant (P := fun c => (c.shared.mediators m).configuration.sentTypeToConsumerMapping.lookup r = none)
    ?_ fun c d a _ ih ha hd => ?_
  · simp [Lifecycle.created, MediatorLife.created, empty]
  cases a with
  | start =>
    obtain ⟨_, rfl⟩ := act_start hd
    exact ih
  | step i e =>
    obtain ⟨t, s', t', ht, hn, rfl⟩ := act_step hd
    rcases MediatorThread.next_configuration hn m with same | ⟨call, u, q, remaining, rfl, before, added⟩
    · simpa only [same] using ih
    · have other : r ≠ q := by
        rintro rfl
        exact ha i e call u remaining rfl ht before
      simp only [added]
      unfold RabbitMultiplexerMediatorConfiguration.tryAdd
      split
      · exact (ConcurrentDictionary.lookup_tryAdd_ne other).trans ih
      · exact ih

/-- The first `TryAdd` for a type maps it. -/
theorem mapped_of_first {configuration : MediatorRef → RabbitMultiplexerMediatorConfiguration}
    {c : Config Lifecycle MediatorThread} {u : ConsumerType} {r : SentType}
    {remaining : List (ConsumerType × SentType)} {i : Nat} {call : MediatorCall}
    (empty : (configuration m).sentTypeToConsumerMapping = ∅)
    (h : ReachableWhere (lifecycle hosts) (Unadded m r) ⟨.created configuration, []⟩ c)
    (hi : c.pool[i]? = some ⟨m, .call call⟩) (before : call.phase = .configuring ((u, r) :: remaining))
    (hn : (lifecycle hosts).next c.shared i ⟨m, .call call⟩ e = some (s', t')) :
    (s'.mediators m).configuration.sentTypeToConsumerMapping.lookup r = some u := by
  have unmapped := unmapped_of_unadded empty h
  have covers := mapped_of_reachable h hi
  simp only [MediatorCall.Mapped, before] at covers
  have listed := covers.1 (u, r) List.mem_cons_self
  obtain ⟨x, l, a, closes, rfl, rfl, step⟩ := MediatorThread.step_of_next hn
  rw [Lifecycle.mediators_after]
  cases step with
  | call step =>
    cases step with
    | mapped same =>
      cases before.symm.trans same
      simp only [MediatorLife.closing, MediatorCall.map]
      rw [RabbitMultiplexerMediatorConfiguration.mapping_tryAdd
        (RabbitMultiplexerMediatorConfiguration.mem_receivers.mp listed)]
      exact ConcurrentDictionary.lookup_tryAdd_self unmapped
    | _ same => exact absurd (before.symm.trans same) (by simp)

end Runs

/-- What `Validate` has accepted is what the set-up of a mediator makes of the configuration. -/
structure SetUpAgrees (c : RabbitMediatorSettings) (types : List ConsumerType) : Prop where
  /-- `ConfigureAllReceivers` ends with the mapping, in whatever state it found the mediator. -/
  ends : ∀ (mediator : Mediator) (l : MediatorLife), l.registered = true →
    l.configuration.configuration = c.toRabbitMediatorConfiguration → EnsuresAll mediator l →
    ∃ l', l.configureAllReceivers mediator = .ok l' ∧
      MapsConsumers l'.configuration.sentTypeToConsumerMapping types
  /-- So it does among any other calls on the multiplexer, and after any runs that failed. -/
  maps : ∀ (hosts : Hosts) (m : MediatorRef) configuration d, (configuration m).configuration =
      c.toRabbitMediatorConfiguration →
    Reachable (lifecycle hosts) ⟨.created configuration, []⟩ d →
    ∀ (i : Nat) (call : MediatorCall), d.pool[i]? = some ⟨m, .call call⟩ → call.phase = .finishing →
    MapsConsumers (d.shared.mediators m).configuration.sentTypeToConsumerMapping types
  /-- The first `TryAdd` for a type is not ignored. -/
  first : ∀ (hosts : Hosts) (m : MediatorRef) configuration d t s remaining (i : Nat) (call : MediatorCall) e s' t',
    (configuration m).sentTypeToConsumerMapping = ∅ →
    ReachableWhere (lifecycle hosts) (Unadded m s) ⟨.created configuration, []⟩ d →
    d.pool[i]? = some ⟨m, .call call⟩ → call.phase = .configuring ((t, s) :: remaining) →
    (lifecycle hosts).next d.shared i ⟨m, .call call⟩ e = some (s', t') →
    (s'.mediators m).configuration.sentTypeToConsumerMapping.lookup s = some t

/-- What a configuration lists, and what `Validate` and the set-up make of it. -/
structure Agrees (interfaceMap : InterfaceMap) (c : RabbitMediatorSettings) : Prop where
  throws : (∃ e, c.getAllConsumerTypes = .error e) ↔
    ∃ t ∈ c.consumerTypes, t.isAbstract = true ∨ t.isConsumer = false
  lists : ∀ types, c.getAllConsumerTypes = .ok types → ∀ t,
    types.count t = max (c.consumerTypes.count t) (if c.Found t then 1 else 0)
  checks : ∀ types, c.getAllConsumerTypes = .ok types → SingleConsumerCheck interfaceMap c types
  setsUp : c.validate interfaceMap = .ok () → ∀ types, c.getAllConsumerTypes = .ok types → SetUpAgrees c types

theorem allConsumerTypes_eq {c : RabbitMultiplexerMediatorConfiguration} {types : List ConsumerType}
    (h : c.configuration.getAllConsumerTypes = .ok types) : c.allConsumerTypes = types :=
  Except.ok.inj (c.validated.symm.trans h)

theorem validation_agrees (interfaceMap : InterfaceMap) (c : RabbitMediatorSettings) : Agrees interfaceMap c := by
  refine ⟨getAllConsumerTypes_error_iff _, fun types listed => count_getAllConsumerTypes listed,
    fun types listed => singleConsumerCheck interfaceMap listed, fun accepted types listed => ?_⟩
  have once := ((singleConsumerCheck interfaceMap listed).accepted.mp accepted).2
  refine ⟨fun mediator l registered same ensures => ?_, fun hosts m configuration d same h i call hi through => ?_,
    fun hosts m configuration d t s remaining i call e s' t' empty h hi before hn =>
      mapped_of_first empty h hi before hn⟩
  · have all := allConsumerTypes_eq (c := l.configuration) (by rw [same]; exact listed)
    rw [← all] at once ⊢
    exact configureAllReceivers_maps once registered ensures
  · have all := allConsumerTypes_eq (c := configuration m) (by rw [same]; exact listed)
    rw [← all] at once ⊢
    exact mapped_of_finishing once h hi through

end RabbitMediator
