import RabbitMediator.Validation

namespace RabbitMediator

/-- An assembly of the configuration has this concrete consumer. -/
def RabbitMediatorConfiguration.Found (c : RabbitMediatorConfiguration) (t : ConsumerType) : Prop :=
  (∃ asm ∈ c.consumerAssemblies, t ∈ asm) ∧ t.isConsumer = true ∧ t.isAbstract = false

instance (c : RabbitMediatorConfiguration) (t : ConsumerType) : Decidable (c.Found t) :=
  inferInstanceAs (Decidable (_ ∧ _))

/-- Two entries of a list consume one sent-object type. -/
def ConsumedTwice (types : List ConsumerType) : Prop :=
  ∃ (i j : Nat) (t u : ConsumerType) (s : SentType), i < j ∧ types[i]? = some t ∧ types[j]? = some u ∧
    s ∈ t.sentTypes ∧ s ∈ u.sentTypes

/-- What `Validate` throws when a sent-object type has a consumer already. -/
def onlyOneConsumer : Exception := .new .argument "Only one consumer per sentobject type is allowed!"

/-- The settings `Validate` looks at before the consumers. -/
structure SettingsValid (c : RabbitMediatorSettings) : Prop where
  serviceLifetime : c.serviceLifetime = .singleton ∨ c.serviceLifetime = .scoped
  consumerDispatchConcurrency : c.consumerDispatchConcurrency ≠ 0
  prefetchCount : ∀ p, c.prefetchCount = some p → p = 0 ∨ c.consumerDispatchConcurrency ≤ p

/-- Everything `Validate` looks at besides the sent-object types. -/
structure OtherChecks (interfaceMap : InterfaceMap) (c : RabbitMediatorSettings) (types : List ConsumerType) : Prop
    extends SettingsValid c where
  overloads : ∀ t ∈ types, ∀ i ∈ t.requestInterfaces, implementsAnyConsumeOverload interfaceMap t i = true

section Listing

variable {c : RabbitMediatorConfiguration} {types : List ConsumerType} {t : ConsumerType}

theorem nodup_eraseDups {α : Type} [DecidableEq α] (xs : List α) : xs.eraseDups.Nodup := by
  induction h : xs.length using Nat.strongRecOn generalizing xs with
  | ind n ih =>
    cases xs with
    | nil => exact List.nodup_nil
    | cons x xs =>
      rw [List.eraseDups_cons]
      refine List.nodup_cons.mpr ⟨fun hx => ?_, ih _ ?_ _ rfl⟩
      · have kept := (List.mem_filter.mp (List.mem_eraseDups.mp hx)).2
        simp at kept
      · subst h
        exact Nat.lt_succ_of_le (List.length_filter_le _ _)

/-- The concrete consumers of the assemblies, each of them once. -/
theorem count_fromAssemblies (c : RabbitMediatorConfiguration) (t : ConsumerType) :
    ((c.consumerAssemblies.flatten.filter fun t => t.isConsumer && !t.isAbstract).eraseDups).count t =
      if c.Found t then 1 else 0 := by
  rw [List.Nodup.count (nodup_eraseDups _)]
  refine if_congr ?_ rfl rfl
  rw [List.mem_eraseDups, List.mem_filter, List.mem_flatten, Bool.and_eq_true, Bool.not_eq_true']
  exact Iff.rfl

/-- What the list consists of when nothing listed is missing from it. -/
theorem getAllConsumerTypes_cases (c : RabbitMediatorConfiguration) :
    ((∀ t ∈ c.consumerTypes, t.isConsumer = true ∧ t.isAbstract = false) ∧
      c.getAllConsumerTypes = .ok (c.consumerTypes ++ ((c.consumerAssemblies.flatten.filter fun t =>
        t.isConsumer && !t.isAbstract).eraseDups.filter fun t => !c.consumerTypes.contains t))) ∨
    ((∃ t ∈ c.consumerTypes, t.isAbstract = true ∨ t.isConsumer = false) ∧
      ∃ e, c.getAllConsumerTypes = .error e) := by
  generalize hf : (c.consumerAssemblies.flatten.filter fun t => t.isConsumer && !t.isAbstract).eraseDups.filter
    (fun t => !c.consumerTypes.contains t) = found
  have concrete : ∀ t ∈ found, t.isConsumer = true ∧ t.isAbstract = false := by
    intro t ht
    rw [← hf, List.mem_filter, List.mem_eraseDups, List.mem_filter] at ht
    simpa using ht.1.2
  unfold RabbitMediatorConfiguration.getAllConsumerTypes
  simp only [hf]
  by_cases fit : ∀ t ∈ c.consumerTypes, t.isConsumer = true ∧ t.isAbstract = false
  · have all : (c.consumerTypes ++ found).filter (fun t => t.isConsumer && !t.isAbstract) =
        c.consumerTypes ++ found := by
      refine List.filter_eq_self.mpr fun t ht => ?_
      rcases List.mem_append.mp ht with ht | ht
      · simpa using fit t ht
      · simpa using concrete t ht
    have complete : (c.consumerTypes ++ found).filter (fun t => !(c.consumerTypes ++ found).contains t) = [] :=
      List.filter_eq_nil_iff.mpr fun t ht => by rw [List.contains_iff_mem.mpr ht]; exact Bool.false_ne_true
    rw [all, complete]
    exact Or.inl ⟨fit, rfl⟩
  · push Not at fit
    obtain ⟨t, ht, unfit⟩ := fit
    have why : t.isAbstract = true ∨ t.isConsumer = false := by
      cases hc : t.isConsumer with
      | false => exact Or.inr rfl
      | true => exact Or.inl (by simpa using unfit hc)
    have dropped : (t.isConsumer && !t.isAbstract) = false := by
      rcases why with abstract | other
      · simp [abstract]
      · simp [other]
    have missing : t ∈ ((c.consumerTypes ++ found).filter fun u =>
        !((c.consumerTypes ++ found).filter fun t => t.isConsumer && !t.isAbstract).contains u).eraseDups := by
      rw [List.mem_eraseDups, List.mem_filter]
      exact ⟨List.mem_append_left _ ht, by simp [dropped]⟩
    refine Or.inr ⟨⟨t, ht, why⟩, ?_⟩
    rw [if_neg (by simpa using List.ne_nil_of_mem missing)]
    exact ⟨_, rfl⟩

theorem getAllConsumerTypes_error_iff (c : RabbitMediatorConfiguration) :
    (∃ e, c.getAllConsumerTypes = .error e) ↔ ∃ t ∈ c.consumerTypes, t.isAbstract = true ∨ t.isConsumer = false := by
  rcases getAllConsumerTypes_cases c with ⟨fit, listed⟩ | ⟨unfit, thrown⟩
  · refine iff_of_false (by simp [listed]) ?_
    rintro ⟨t, ht, abstract | other⟩
    · exact absurd (abstract.symm.trans (fit t ht).2) (by simp)
    · exact absurd (other.symm.trans (fit t ht).1) (by simp)
  · exact iff_of_true thrown unfit

/-- A listed class counts as often as it was listed, and one that is only found counts once. -/
theorem count_getAllConsumerTypes (h : c.getAllConsumerTypes = .ok types) (t : ConsumerType) :
    types.count t = max (c.consumerTypes.count t) (if c.Found t then 1 else 0) := by
  rcases getAllConsumerTypes_cases c with ⟨_, listed⟩ | ⟨_, e, thrown⟩
  swap
  · cases h.symm.trans thrown
  cases h.symm.trans listed
  rw [List.count_append]
  by_cases ht : t ∈ c.consumerTypes
  · have none : t ∉ (c.consumerAssemblies.flatten.filter fun t =>
        t.isConsumer && !t.isAbstract).eraseDups.filter fun t => !c.consumerTypes.contains t := by
      simp [ht]
    have some_ := List.count_pos_iff.mpr ht
    rw [List.count_eq_zero_of_not_mem none]
    split <;> omega
  · rw [List.count_eq_zero_of_not_mem ht, List.count_filter (by simpa using ht), count_fromAssemblies]
    omega

end Listing

section Checking

variable {interfaceMap : InterfaceMap} {types : List ConsumerType} {registered : List SentType} {e : Exception}

/-- A class consumes a sent-object type through one interface only: a request has one response type, and no
request is a message. -/
theorem ConsumerType.sentTypes_nodup (t : ConsumerType) : t.sentTypes.Nodup := by
  have message : Function.Injective MessageInterface.messageType := by
    rintro ⟨s, _⟩ ⟨_, _⟩ rfl
    rfl
  have request : Function.Injective RequestInterface.requestType := by
    intro i j h
    refine RequestInterface.ext h (Option.some.inj ?_)
    rw [← i.isRequest, ← j.isRequest, h]
  refine List.nodup_append'.mpr ⟨t.messageInterfaces_nodup.map message, t.requestInterfaces_nodup.map request, ?_⟩
  intro s hm hr
  obtain ⟨i, _, rfl⟩ := List.mem_map.mp hm
  obtain ⟨j, _, same⟩ := List.mem_map.mp hr
  have yes := SentType.implements_of_isAssignableTo i.isMessage (i := .iMessage) rfl
  have no := (SentType.request_of_getResponseTypeOfRequest j.isRequest).2
  rw [same, yes] at no
  cases no

theorem consumedTwice_iff : ConsumedTwice types ↔ ¬(types.flatMap (·.sentTypes)).Nodup := by
  rw [List.nodup_flatMap, List.pairwise_iff_getElem]
  constructor
  · rintro ⟨i, j, t, u, s, lt, hi, hj, ht, hu⟩ ⟨_, apart⟩
    obtain ⟨li, rfl⟩ := List.getElem?_eq_some_iff.mp hi
    obtain ⟨lj, rfl⟩ := List.getElem?_eq_some_iff.mp hj
    exact apart i j li lj lt ht hu
  · intro h
    by_contra free
    refine h ⟨fun t _ => t.sentTypes_nodup, fun i j hi hj lt s ht hu => free ?_⟩
    exact ⟨i, j, types[i], types[j], s, lt, List.getElem?_eq_getElem hi, List.getElem?_eq_getElem hj, ht, hu⟩

/-- The types cannot all be added, each of them once. -/
def Clash (registered types : List SentType) : Prop := ¬types.Nodup ∨ ∃ s ∈ types, s ∈ registered

theorem Clash.left {xs ys : List SentType} (h : Clash registered xs) : Clash registered (xs ++ ys) := by
  rcases h with twice | ⟨s, hs, old⟩
  · exact Or.inl fun nodup => twice (List.nodup_append'.mp nodup).1
  · exact Or.inr ⟨s, List.mem_append_left _ hs, old⟩

theorem Clash.right {xs ys middle : List SentType} (added : Adds registered xs middle) (h : Clash middle ys) :
    Clash registered (xs ++ ys) := by
  rcases h with twice | ⟨s, hs, old⟩
  · exact Or.inl fun nodup => twice (List.nodup_append'.mp nodup).2.1
  · rcases (added.members s).mp old with hx | old
    · exact Or.inl fun nodup => (List.nodup_append'.mp nodup).2.2 hx hs
    · exact Or.inr ⟨s, List.mem_append_right _ hs, old⟩

/-- A loop that adds types throws when a type is there already, or for the reason of one of its turns. -/
theorem Clash.of_foldlM {α : Type} {f : List SentType → α → Except Exception (List SentType)}
    {added : α → List SentType} (Throws : α → Exception → Prop)
    (step : ∀ {registered a after}, f registered a = .ok after → Adds registered (added a) after)
    (fails : ∀ {registered a e}, f registered a = .error e →
      e = onlyOneConsumer ∧ Clash registered (added a) ∨ Throws a e)
    {xs : List α} (h : xs.foldlM f registered = .error e) :
    e = onlyOneConsumer ∧ Clash registered (xs.flatMap added) ∨ ∃ a ∈ xs, Throws a e := by
  induction xs generalizing registered with
  | nil => cases h
  | cons x xs ih =>
    rw [List.foldlM_cons] at h
    rw [List.flatMap_cons]
    rcases except_bind_eq_error.mp h with first | ⟨middle, first, rest⟩
    · rcases fails first with ⟨he, clash⟩ | thrown
      · exact Or.inl ⟨he, clash.left⟩
      · exact Or.inr ⟨x, List.mem_cons_self, thrown⟩
    · rcases ih rest with ⟨he, clash⟩ | ⟨a, ha, thrown⟩
      · exact Or.inl ⟨he, .right (step first) clash⟩
      · exact Or.inr ⟨a, List.mem_cons_of_mem _ ha, thrown⟩

/-- A request interface whose class brings neither overload, and what `Validate` throws for it. -/
def LacksOverload (interfaceMap : InterfaceMap) (t : ConsumerType) (i : RequestInterface) (e : Exception) : Prop :=
  implementsAnyConsumeOverload interfaceMap t i = false ∧ ∃ text, e = .new .argument (text ++ "(Parameter 'ConsumerTypes')")

theorem LacksOverload.other {t : ConsumerType} {i : RequestInterface} (h : LacksOverload interfaceMap t i e) :
    e ≠ onlyOneConsumer := by
  obtain ⟨_, text, rfl⟩ := h
  intro same
  have texts : text ++ "(Parameter 'ConsumerTypes')" = "Only one consumer per sentobject type is allowed!" := by
    injection same with same
    injection same
  have last := congrArg (fun s => s.toList.getLast?) texts
  simp [String.toList_append, List.getLast?_append] at last

theorem addSentObjectType_error {s : SentType} (h : addSentObjectType registered s = .error e) :
    e = onlyOneConsumer ∧ Clash registered [s] := by
  unfold addSentObjectType at h
  split at h
  next old =>
    cases h
    exact ⟨rfl, Or.inr ⟨s, List.mem_singleton_self s, by simpa using old⟩⟩
  next => cases h

theorem validateRequestInterface_error {t : ConsumerType} {i : RequestInterface}
    (h : validateRequestInterface interfaceMap t registered i = .error e) :
    e = onlyOneConsumer ∧ Clash registered [i.requestType] ∨ LacksOverload interfaceMap t i e := by
  rcases except_bind_eq_error.mp h with first | ⟨_, _, rest⟩
  · exact Or.inl (addSentObjectType_error first)
  · split at rest
    next => cases rest
    next lacks =>
      cases rest
      exact Or.inr ⟨Bool.eq_false_iff.mpr lacks, _, rfl⟩

theorem validateConsumerType_error {t : ConsumerType}
    (h : validateConsumerType interfaceMap registered t = .error e) :
    e = onlyOneConsumer ∧ Clash registered t.sentTypes ∨
      ∃ i ∈ t.requestInterfaces, LacksOverload interfaceMap t i e := by
  have split : t.sentTypes = (t.messageInterfaces.flatMap fun i => [i.messageType]) ++
      t.requestInterfaces.flatMap fun i => [i.requestType] := by
    simp only [ConsumerType.sentTypes, List.map_eq_flatMap]
  rw [split]
  rcases except_bind_eq_error.mp h with messages | ⟨middle, messages, requests⟩
  · have first : e = onlyOneConsumer ∧ Clash registered (t.messageInterfaces.flatMap fun i => [i.messageType]) ∨
        ∃ i ∈ t.messageInterfaces, False :=
      Clash.of_foldlM (fun _ _ => False) (fun h => addSentObjectType_ok h)
        (fun h => Or.inl (addSentObjectType_error h)) messages
    rcases first with ⟨he, clash⟩ | ⟨_, _, h⟩
    · exact Or.inl ⟨he, clash.left⟩
    · exact absurd h id
  · rcases Clash.of_foldlM (LacksOverload interfaceMap t) (fun h => validateRequestInterface_ok h)
      (fun h => validateRequestInterface_error h) requests with ⟨he, clash⟩ | lacks
    · exact Or.inl ⟨he, .right (Adds.of_foldlM (fun h => addSentObjectType_ok h) messages) clash⟩
    · exact Or.inr lacks

/-- The loop of `Validate` throws for a type that is consumed twice, or for a consumer without overload. -/
theorem validateLoop_error (h : types.foldlM (validateConsumerType interfaceMap) [] = .error e) :
    e = onlyOneConsumer ∧ ConsumedTwice types ∨
      ∃ t ∈ types, ∃ i ∈ t.requestInterfaces, LacksOverload interfaceMap t i e := by
  rcases Clash.of_foldlM (fun t e => ∃ i ∈ t.requestInterfaces, LacksOverload interfaceMap t i e)
    (fun h => validateConsumerType_ok h) (fun h => validateConsumerType_error h) h with
    ⟨he, twice | ⟨_, _, old⟩⟩ | lacks
  · exact Or.inl ⟨he, consumedTwice_iff.mpr twice⟩
  · cases old
  · exact Or.inr lacks

end Checking

/-- The check for a single consumer throws just for a type that is consumed twice. -/
structure SingleConsumerCheck (interfaceMap : InterfaceMap) (c : RabbitMediatorSettings)
    (types : List ConsumerType) : Prop where
  thrown : c.validate interfaceMap = .error onlyOneConsumer → ConsumedTwice types
  rejected : OtherChecks interfaceMap c types → ConsumedTwice types →
    c.validate interfaceMap = .error onlyOneConsumer
  accepted : c.validate interfaceMap = .ok () ↔ OtherChecks interfaceMap c types ∧ ¬ConsumedTwice types

section Validate

variable {interfaceMap : InterfaceMap} {c : RabbitMediatorSettings} {types : List ConsumerType}

/-- `Validate` throws for one of its settings, or comes to the loop. -/
theorem validate_cases (interfaceMap : InterfaceMap) (listed : c.getAllConsumerTypes = .ok types) :
    (¬SettingsValid c ∧ ∃ e, c.validate interfaceMap = .error e ∧ e ≠ onlyOneConsumer) ∨
    SettingsValid c ∧
      c.validate interfaceMap = (types.foldlM (validateConsumerType interfaceMap) []).map fun _ => () := by
  unfold RabbitMediatorSettings.validate
  by_cases lifetime : c.serviceLifetime ≠ .singleton ∧ c.serviceLifetime ≠ .scoped
  · rw [if_pos lifetime]
    exact Or.inl ⟨fun h => h.serviceLifetime.elim lifetime.1 lifetime.2, _, rfl, by decide⟩
  rw [if_neg lifetime]
  by_cases concurrency : c.consumerDispatchConcurrency = 0
  · rw [if_pos concurrency]
    exact Or.inl ⟨fun h => h.consumerDispatchConcurrency concurrency, _, rfl, by decide⟩
  rw [if_neg concurrency]
  by_cases prefetch : (c.prefetchCount.any fun p => 0 < p && p < c.consumerDispatchConcurrency) = true
  · rw [if_pos prefetch]
    refine Or.inl ⟨fun h => ?_, _, rfl, by decide⟩
    obtain ⟨p, hp, low⟩ := (Option.any_eq_true _ _).mp prefetch
    obtain ⟨some_, low⟩ := Bool.and_eq_true_iff.mp low
    rcases h.prefetchCount p hp with rfl | enough
    · simp at some_
    · exact absurd enough (UInt16.not_le.mpr (of_decide_eq_true low))
  rw [if_neg prefetch]
  refine Or.inr ⟨⟨?_, concurrency, fun p hp => ?_⟩, ?_⟩
  · by_cases singleton : c.serviceLifetime = .singleton
    · exact Or.inl singleton
    · exact Or.inr (Decidable.not_not.mp fun other => lifetime ⟨singleton, other⟩)
  · by_contra low
    obtain ⟨some_, low⟩ := not_or.mp low
    refine prefetch ((Option.any_eq_true _ _).mpr ⟨p, hp, ?_⟩)
    rw [Bool.and_eq_true, decide_eq_true_eq, decide_eq_true_eq]
    exact ⟨UInt16.pos_iff_ne_zero.mpr some_, UInt16.not_le.mp low⟩
  · rw [listed]
    change (types.foldlM (validateConsumerType interfaceMap) [] >>= fun _ => pure ()) = _
    cases types.foldlM (validateConsumerType interfaceMap) [] <;> rfl

/-- `Validate` rejects a configuration for its consumers just when two of them consume one sent-object type. -/
theorem singleConsumerCheck (interfaceMap : InterfaceMap) (listed : c.getAllConsumerTypes = .ok types) :
    SingleConsumerCheck interfaceMap c types := by
  rcases validate_cases interfaceMap listed with ⟨unfit, e, thrown, other⟩ | ⟨fit, loop⟩
  · refine ⟨fun h => ?_, fun checks => absurd checks.toSettingsValid unfit, ?_⟩
    · cases thrown.symm.trans h
      exact absurd rfl other
    · exact iff_of_false (by simp [thrown]) fun h => unfit h.1.toSettingsValid
  have lacking : ∀ {e}, (∃ t ∈ types, ∃ i ∈ t.requestInterfaces, LacksOverload interfaceMap t i e) →
      ¬OtherChecks interfaceMap c types := by
    rintro e ⟨t, ht, i, hi, lacks, _⟩ checks
    rw [checks.overloads t ht i hi] at lacks
    cases lacks
  cases result : types.foldlM (validateConsumerType interfaceMap) [] with
  | ok after =>
    replace loop : c.validate interfaceMap = .ok () := loop.trans (congrArg _ result)
    have once : ¬ConsumedTwice types := fun twice =>
      consumedTwice_iff.mp twice (Adds.of_foldlM (fun h => validateConsumerType_ok h) result).nodup
    refine ⟨fun h => ?_, fun _ twice => absurd twice once, iff_of_true loop ⟨⟨fit, fun t ht i hi => ?_⟩, once⟩⟩
    · cases loop.symm.trans h
    · exact implementsAnyConsumeOverload_of_validate loop listed ht hi
  | error e =>
    replace loop : c.validate interfaceMap = .error e := loop.trans (congrArg _ result)
    rcases validateLoop_error result with ⟨rfl, twice⟩ | lacks
    · exact ⟨fun _ => twice, fun _ _ => loop, iff_of_false (by simp [loop]) fun h => h.2 twice⟩
    · refine ⟨fun h => ?_, fun checks => absurd checks (lacking lacks),
        iff_of_false (by simp [loop]) fun h => lacking lacks h.1⟩
      obtain ⟨t, _, i, _, lacks⟩ := lacks
      exact absurd (Except.error.inj (loop.symm.trans h)) lacks.other

end Validate
end RabbitMediator
