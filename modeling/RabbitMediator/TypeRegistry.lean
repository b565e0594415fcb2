import RabbitMediator.Serializing
import RabbitMediator.System

namespace RabbitMediator

open Interleaving

section Steps

variable {hosts : Hosts} {s s' : SerializingWorld} {t t' : SerializingThread}

/-- What the call of `AddTypeIfMissing` that the thread is in knows of the serializer. -/
def SerializingThread.Holds (n : Nat) (s : SerializingWorld) (t : SerializingThread) : Prop :=
  ∀ newType call, t.adds = some (n, newType, call) → call.Holds newType (s.serializerHelper n)

theorem SerializingThread.holds_outside {n : Nat} (out : (typeSemaphore n).inside t = false) : t.Holds n s := by
  intro newType call adds
  refine AddTypeIfMissing.holds_outside (Bool.eq_false_iff.mpr fun inside => ?_)
  rw [inside_typeSemaphore.mpr ⟨newType, call, adds, inside⟩] at out
  cases out

theorem SerializingThread.Turns.keeps {n : Nat} (h : t.Turns n s s' t') (sound : (s.serializerHelper n).Sound)
    (holds : t.Holds n s) : (s'.serializerHelper n).Sound ∧ t'.Holds n s' := by
  cases h with
  | adds before after h =>
    obtain ⟨sound', holds'⟩ := h.keeps sound (holds _ _ before)
    refine ⟨sound', fun newType call adds => ?_⟩
    cases after.symm.trans adds
    exact holds'
  | aside same _ after =>
    refine ⟨same ▸ sound, fun newType call adds => ?_⟩
    rw [after newType call adds]
    trivial

theorem SerializingThread.Turns.passes {n : Nat} (h : t.Turns n s s' t') :
    (typeSemaphore n).Passes (fun s => (s.serializerHelper n).Sound)
      (fun s t => (s.serializerHelper n).Sound ∧ t.Holds n s) s t s' t' where
  outside out out' := by
    have same := h.lock.2.1 out out'
    refine ⟨fun sound => same ▸ sound, fun u _ held => ⟨same ▸ held.1, fun newType call adds => ?_⟩⟩
    exact same ▸ held.2 newType call adds
  enter out _ sound := h.keeps sound (holds_outside out)
  within _ _ held := h.keeps held.1 held.2
  leave _ _ held := (h.keeps held.1 held.2).1

theorem SerializingThread.Turns.grows {n : Nat} (h : t.Turns n s s' t') (holds : t.Holds n s) :
    (s.serializerHelper n).knownTypes <+: (s'.serializerHelper n).knownTypes := by
  cases h with
  | adds before _ h => exact h.grows (holds _ _ before)
  | aside same => exact same ▸ List.prefix_refl _

/-- The call of `EnsureReceiver` is past `AddTypeIfMissing`, and not through with registering its type. -/
def ReceiverRun.added (run : ReceiverRun) : Bool :=
  match run.control with
  | .performing .addTypeIfMissing => false
  | .performing _ | .adding => true
  | _ => false

/-- The types on which the thread goes on, each known to its serializer by now. -/
def SerializingThread.Relies (n : Nat) (t : SentType) : SerializingThread → Prop
  | .serialize k (.reading (some sentObject)) => k = n ∧ sentObject = t
  | .received m sentObjectType .reading => m.multiplexer = n ∧ sentObjectType = t
  | .mediator thread _ => thread.mediator.multiplexer = n ∧
    ∃ run, thread.activity.run? = some run ∧ run.added = true ∧ run.sentObjectType = t
  | _ => False

/-- The options the thread has read, for an object of the type. -/
def SerializingThread.uses : SerializingThread → Option (SentType × Option JsonSerializerOptions)
  | .serialize _ (.serializing (some sentObject) options) => some (sentObject, options)
  | .received _ sentObjectType (.deserializing options) => some (sentObjectType, options)
  | _ => none

structure SerializingThread.Knows (s : SerializingWorld) (t : SerializingThread) : Prop where
  returned : ∀ n newType, t.adds = some (n, newType, .returned) → newType ∈ (s.serializerHelper n).knownTypes
  relies : ∀ n newType, t.Relies n newType → newType ∈ (s.serializerHelper n).knownTypes
  uses : ∀ sentObject options, t.uses = some (sentObject, options) →
    ∃ o, options = some o ∧ o.Recognises sentObject

theorem SerializingThread.Knows.mono (h : t.Knows s)
    (grown : ∀ n, (s.serializerHelper n).knownTypes <+: (s'.serializerHelper n).knownTypes) : t.Knows s' where
  returned n newType adds := (grown n).subset (h.returned n newType adds)
  relies n newType relies := (grown n).subset (h.relies n newType relies)
  uses := h.uses

theorem SerializingThread.relies_goesTo {n : Nat} {newType : SentType} {call : AddTypeIfMissing}
    (h : (t.goesTo call).Relies n newType) : t.Relies n newType := by
  cases t with
  | serialize k c => cases c <;> exact h
  | _ => exact h

theorem SerializingThread.uses_goesTo (t : SerializingThread) (call : AddTypeIfMissing) :
    (t.goesTo call).uses = t.uses := by
  cases t with
  | serialize k c => cases c <;> rfl
  | _ => rfl

theorem ReceiverRun.added_of_performing {run : ReceiverRun} {operation : ReceiverOperation}
    (control : run.control = .performing operation) :
    run.added = true ∨ run.control = .performing .addTypeIfMissing := by
  cases operation with
  | addTypeIfMissing => exact Or.inr control
  | _ => exact Or.inl (by simp [added, control])

section Receivers

variable {m : MediatorRef} {closed : ReceiveChannel → Bool} {l l' : MediatorLife} {run run' : ReceiverRun}
  {x : Event} {closes : Option ReceiveChannel}

/-- Only `AddTypeIfMissing` comes first: what a call goes on with follows on an operation of its own. -/
theorem ReceiverRun.Step.added (h : run.Step hosts m closed l x l' run' closes) (ha : run'.added = true) :
    run.sentObjectType = run'.sentObjectType ∧
      (run.added = true ∨ run.control = .performing .addTypeIfMissing) := by
  cases h with
  | @outside _ control _ out =>
    cases control with
    | performing | adding => cases out
    | _ => cases ha
  | took control | prepared control | proceeded control | registered control =>
    exact ⟨rfl, added_of_performing control⟩
  | _ => cases ha

theorem ReceiverRun.Step.registers (h : run.Step hosts m closed l x l' run' closes) {t : SentType}
    (ht : t ∈ l'.registeredConsumerTypes) :
    t ∈ l.registeredConsumerTypes ∨ run.added = true ∧ run.sentObjectType = t := by
  cases h with
  | listed control =>
    rcases List.mem_cons.mp ht with rfl | ht
    · exact Or.inr ⟨by simp [ReceiverRun.added, control], rfl⟩
    · exact Or.inl ht
  | proceeded => exact Or.inl (by rwa [toMediatorState_remember] at ht)
  | _ => exact Or.inl ht

theorem Activity.Seen.added {a a' : Activity} (h : Activity.Seen hosts m closed l a x l' a' closes)
    (hr : a'.run? = some run') (ha : run'.added = true) : ∃ run, a.run? = some run ∧
      run.sentObjectType = run'.sentObjectType ∧
      (run.added = true ∨ run.control = .performing .addTypeIfMissing) := by
  cases h with
  | run before after h =>
    cases after.symm.trans hr
    exact ⟨_, before, h.added ha⟩
  | teardown => cases hr
  | aside _ after =>
    obtain ⟨_, rfl⟩ := after run' hr
    cases ha

theorem Activity.Seen.registers {a a' : Activity} (h : Activity.Seen hosts m closed l a x l' a' closes)
    {t : SentType} (ht : t ∈ l'.registeredConsumerTypes) :
    t ∈ l.registeredConsumerTypes ∨ ∃ run, a.run? = some run ∧ run.added = true ∧ run.sentObjectType = t := by
  cases h with
  | run before _ h => exact (h.registers ht).imp_right fun added => ⟨_, before, added⟩
  | teardown h => exact Or.inl (h.keeps.1.registeredConsumerTypes ▸ ht)
  | aside _ _ _ keeps => exact Or.inl (keeps.registeredConsumerTypes ▸ ht)

end Receivers

theorem MediatorThread.next_registers {l l' : Lifecycle} {t t' : MediatorThread} {e : Event} {m : MediatorRef}
    {sentObjectType : SentType} (h : t.next hosts l e = some (l', t'))
    (registered : sentObjectType ∈ (l'.mediators m).registeredConsumerTypes) :
    sentObjectType ∈ (l.mediators m).registeredConsumerTypes ∨ t.mediator = m ∧
      ∃ run, t.activity.run? = some run ∧ run.added = true ∧ run.sentObjectType = sentObjectType := by
  by_cases own : t.mediator = m
  · obtain ⟨_, k, closes, hk, seen⟩ := MediatorThread.next_own h own
    rw [hk, (k.keeps_closing closes).registeredConsumerTypes] at registered
    exact (seen.registers registered).imp_right fun added => ⟨own, added⟩
  · obtain ⟨_, closes, hk, _⟩ := MediatorThread.next_other h own
    rw [hk, (MediatorLife.keeps_closing _ closes).registeredConsumerTypes] at registered
    exact Or.inl registered

theorem SerializingWorld.mem_consumedAfter {t : MediatorThread} {e : Event} {m : MediatorRef}
    {sentObjectType : SentType} (h : sentObjectType ∈ s.consumedAfter t e m) :
    sentObjectType ∈ s.consumed m ∨ t.mediator = m ∧
      ∃ run, t.activity.run? = some run ∧ run.added = true ∧ run.sentObjectType = sentObjectType := by
  cases e with
  | took =>
    cases hc : t.awaits .basicConsume with
    | none =>
      simp only [consumedAfter, hc] at h
      exact Or.inl h
    | some consumed =>
      simp only [consumedAfter, hc] at h
      by_cases own : m = t.mediator
      · subst own
        rw [Function.update_self] at h
        rcases List.mem_cons.mp h with rfl | h
        · obtain ⟨run, hr, control, same⟩ := MediatorThread.awaits_eq_some.mp hc
          exact Or.inr ⟨rfl, run, hr, by simp [ReceiverRun.added, control], same⟩
        · exact Or.inl h
      · rw [Function.update_of_ne own] at h
        exact Or.inl h
  | _ => exact Or.inl h

/-- The types of all receivers are known. -/
structure SerializingWorld.ReceiversKnown (s : SerializingWorld) : Prop where
  consumed : ∀ m, ∀ t ∈ s.consumed m, t ∈ (s.serializerHelper m.multiplexer).knownTypes
  registered : ∀ m, ∀ t ∈ (s.lifecycle.mediators m).registeredConsumerTypes,
    t ∈ (s.serializerHelper m.multiplexer).knownTypes

theorem SerializingThread.knows_of_start (h : t.start s = true) (receivers : s.ReceiversKnown) : t.Knows s := by
  refine ⟨fun n newType adds => ?_, fun n newType relies => ?_, fun sentObject options uses => ?_⟩
  · cases adds_of_start h adds
  · unfold start at h
    split at h
    next => cases relies
    next => cases relies
    next => cases relies
    next => cases relies
    next m sentObjectType =>
      obtain ⟨rfl, rfl⟩ := relies
      exact receivers.consumed m _ (List.contains_iff_mem.mp h)
    next thread =>
      obtain ⟨_, run, hr, added, _⟩ := relies
      rw [Activity.run?_of_start h hr] at added
      cases added
    next => cases h
  · unfold start at h
    split at h <;> first | cases uses | cases h

theorem SerializingThread.Step.knows (h : t.Step hosts s s' t') (sound : ∀ n, (s.serializerHelper n).Sound)
    (holds : ∀ n, t.Holds n s) (knows : t.Knows s) : t'.Knows s' := by
  have known : t.Knows s' := knows.mono fun n => (h.turns n).grows (holds n)
  cases h with
  | adds before h =>
    refine ⟨fun n newType adds => ?_, fun n newType relies => known.relies n newType (relies_goesTo relies),
      fun sentObject options uses => known.uses sentObject options (uses_goesTo _ _ ▸ uses)⟩
    rw [adds_goesTo, before] at adds
    cases adds
    simpa [SerializingWorld.setHelper] using h.returns (holds _ _ _ before)
  | added =>
    refine ⟨by simp [SerializingThread.adds], fun n newType relies => ?_, by simp [SerializingThread.uses]⟩
    obtain ⟨rfl, rfl⟩ := relies
    exact known.returned _ _ rfl
  | @serializes n sentObject =>
    refine ⟨by simp [SerializingThread.adds], by simp [Relies], fun t options uses => ?_⟩
    cases sentObject with
    | none => cases uses
    | some sentObject =>
      cases uses
      exact (sound n).recognised _ (known.relies n _ ⟨rfl, rfl⟩)
  | deserializes =>
    exact ⟨by simp [SerializingThread.adds], by simp [Relies], by simp [SerializingThread.uses]⟩
  | @receives m sentObjectType =>
    refine ⟨by simp [SerializingThread.adds], by simp [Relies], fun t options uses => ?_⟩
    cases uses
    exact (sound m.multiplexer).recognised _ (known.relies _ _ ⟨rfl, rfl⟩)
  | @leads thread call e l thread' ready h =>
    refine ⟨fun n newType adds => ?_, fun n newType relies => ?_, by simp [SerializingThread.uses]⟩
    · obtain ⟨_, _, he⟩ := Option.map_eq_some_iff.mp adds
      cases he
    · obtain ⟨rfl, run', hr', added, rfl⟩ := relies
      obtain ⟨own, _, _, _, seen⟩ := MediatorThread.next_own h rfl
      obtain ⟨run, hr, same, added | control⟩ := seen.added hr' added
      · exact known.relies _ _ ⟨by rw [own], run, hr, added, same⟩
      · have awaits := MediatorThread.awaits_eq_some.mpr ⟨run, hr, control, same⟩
        refine known.returned _ _ ?_
        simp [SerializingThread.adds, awaits, ready _ awaits, own]

theorem SerializingThread.Step.receiversKnown (h : t.Step hosts s s' t') (holds : ∀ n, t.Holds n s)
    (knows : t.Knows s) (receivers : s.ReceiversKnown) : s'.ReceiversKnown := by
  have grown := fun n => (h.turns n).grows (holds n)
  cases h with
  | leads _ h =>
    refine ⟨fun m t ht => ?_, fun m t ht => ?_⟩
    · rcases SerializingWorld.mem_consumedAfter ht with ht | ⟨rfl, added⟩
      · exact receivers.consumed m t ht
      · exact knows.relies _ _ ⟨rfl, added⟩
    · rcases MediatorThread.next_registers h ht with ht | ⟨rfl, added⟩
      · exact receivers.registered m t ht
      · exact knows.relies _ _ ⟨rfl, added⟩
  | _ =>
    exact ⟨fun m t ht => (grown m.multiplexer).subset (receivers.consumed m t ht),
      fun m t ht => (grown m.multiplexer).subset (receivers.registered m t ht)⟩

end Steps

section Runs

variable {hosts : Hosts} {configuration : MediatorRef → RabbitMultiplexerMediatorConfiguration}
  {c d : Config SerializingWorld SerializingThread}

/-- Every serializer is sound, also while a call is inside the semaphore. -/
theorem serializer_sound (h : Reachable (serializing hosts) ⟨.created configuration, []⟩ c) (n : Nat) :
    (c.shared.serializerHelper n).Sound ∧
      ∀ (i : Nat) (t : SerializingThread), c.pool[i]? = some t → t.Holds n c.shared := by
  have guards := typeSemaphore_guards hosts n
  have first : JsonSerializerHelper.Sound .unused := ⟨List.nodup_nil, by simp [JsonSerializerHelper.unused]⟩
  obtain ⟨free, held⟩ := guards.invariant (fun s => (s.serializerHelper n).Sound)
    (fun s t => (s.serializerHelper n).Sound ∧ t.Holds n s) rfl rfl first
    (fun _ _ _ hn => ((SerializingThread.step_of_next hn).turns n).passes) h
  refine ⟨(guards.held rfl rfl h).elim free fun ht inside => (held _ _ ht inside).1, fun i t ht => ?_⟩
  cases inside : (typeSemaphore n).inside t with
  | false => exact SerializingThread.holds_outside inside
  | true => exact (held i t ht inside).2

theorem knownTypes_act {a : Action SerializingThread Event}
    (h : Reachable (serializing hosts) ⟨.created configuration, []⟩ c) (hd : (serializing hosts).act c a = some d)
    (n : Nat) : (c.shared.serializerHelper n).knownTypes <+: (d.shared.serializerHelper n).knownTypes := by
  cases a with
  | start t =>
    obtain ⟨_, rfl⟩ := act_start hd
    exact List.prefix_refl _
  | step i e =>
    obtain ⟨t, s, t', ht, hn, rfl⟩ := act_step hd
    exact ((SerializingThread.step_of_next hn).turns n).grows ((serializer_sound h n).2 i t ht)

theorem knownTypes_grow (h : Reachable (serializing hosts) ⟨.created configuration, []⟩ c)
    (hd : Reachable (serializing hosts) c d) (n : Nat) :
    (c.shared.serializerHelper n).knownTypes <+: (d.shared.serializerHelper n).knownTypes := by
  refine hd.invariant (P := fun d => (c.shared.serializerHelper n).knownTypes <+:
    (d.shared.serializerHelper n).knownTypes) (List.prefix_refl _) ?_
  intro d e a hd grown _ he
  exact grown.trans (knownTypes_act (h.trans hd) he n)

theorem registry_known (h : Reachable (serializing hosts) ⟨.created configuration, []⟩ c) :
    c.shared.ReceiversKnown ∧ ∀ (i : Nat) (t : SerializingThread), c.pool[i]? = some t → t.Knows c.shared := by
  have first : (SerializingWorld.created configuration).ReceiversKnown :=
    ⟨fun m t ht => absurd ht List.not_mem_nil, fun m t ht => absurd ht List.not_mem_nil⟩
  refine h.invariant (P := fun c => c.shared.ReceiversKnown ∧
    ∀ (i : Nat) (t : SerializingThread), c.pool[i]? = some t → t.Knows c.shared) ⟨first, by simp⟩ ?_
  intro c d a hc ⟨receivers, knows⟩ _ hd
  cases a with
  | start t =>
    obtain ⟨hs, rfl⟩ := act_start hd
    refine ⟨receivers, fun i u hu => ?_⟩
    rcases pool_append_cases hu with hu | ⟨_, rfl⟩
    · exact knows i u hu
    · exact SerializingThread.knows_of_start hs receivers
  | step i e =>
    have grown := knownTypes_act hc hd
    obtain ⟨t, s, t', ht, hn, rfl⟩ := act_step hd
    have step := SerializingThread.step_of_next hn
    have holds := fun n => (serializer_sound hc n).2 i t ht
    refine ⟨step.receiversKnown holds (knows i t ht) receivers, fun j u hu => ?_⟩
    rcases pool_set_cases ht hu with ⟨_, rfl⟩ | ⟨_, hu⟩
    · exact step.knows (fun n => (serializer_sound hc n).1) holds (knows i t ht)
    · exact (knows j u hu).mono grown

/-- A type that is known is recognised from then on. -/
theorem recognised_of_known (h : Reachable (serializing hosts) ⟨.created configuration, []⟩ c) {n : Nat}
    {t : SentType} (known : t ∈ (c.shared.serializerHelper n).knownTypes) (hd : Reachable (serializing hosts) c d) :
    (d.shared.serializerHelper n).Recognises t :=
  (serializer_sound (h.trans hd) n).1.recognised t ((knownTypes_grow h hd n).subset known)

/-- A call of `EnsureReceiver` that has returned has its type known, unless the mediator is disposed. -/
theorem known_of_ensured (h : Reachable (serializing hosts) ⟨.created configuration, []⟩ c) {i : Nat}
    {thread : MediatorThread} {call : AddTypeIfMissing} {run : ReceiverRun}
    (ht : c.pool[i]? = some (.mediator thread call)) (hr : thread.activity.run? = some run)
    (returned : run.control = .returned) : (c.shared.lifecycle.mediators thread.mediator).disposed = true ∨
      run.sentObjectType ∈ (c.shared.serializerHelper thread.mediator.multiplexer).knownTypes := by
  have there : (mediatorsOf c).pool[i]? = some thread := by simp [mediatorsOf, ht, SerializingThread.asMediator]
  have settled := settled_of_reachable (mediatorsOf_reachable h) there rfl
  exact (settled.returned run hr returned).imp_right ((registry_known h).1.registered _ _)

/-- The registry of each serializer loses nothing, and the options in use are never behind it. -/
structure RegistryKeepsUp (hosts : Hosts) (c : Config SerializingWorld SerializingThread) : Prop where
  nodup : ∀ n, (c.shared.serializerHelper n).knownTypes.Nodup
  recognised : ∀ n, ∀ t ∈ (c.shared.serializerHelper n).knownTypes, (c.shared.serializerHelper n).Recognises t
  grows : ∀ d n, Reachable (serializing hosts) c d →
    (c.shared.serializerHelper n).knownTypes <+: (d.shared.serializerHelper n).knownTypes
  added : ∀ (i : Nat) t n newType, c.pool[i]? = some t → t.adds = some (n, newType, .returned) →
    ∀ d, Reachable (serializing hosts) c d → (d.shared.serializerHelper n).Recognises newType
  serialized : ∀ (i n : Nat) sentObject options,
    c.pool[i]? = some (.serialize n (.serializing (some sentObject) options)) →
    ∃ o, options = some o ∧ o.Recognises sentObject
  /-- `EnsureReceiver` does nothing for a mediator that is disposed. -/
  ensured : ∀ (i : Nat) thread call run, c.pool[i]? = some (.mediator thread call) →
    thread.activity.run? = some run → run.control = .returned →
    (c.shared.lifecycle.mediators thread.mediator).disposed = true ∨ ∀ d, Reachable (serializing hosts) c d →
      (d.shared.serializerHelper thread.mediator.multiplexer).Recognises run.sentObjectType
  deserialized : ∀ (i : Nat) m sentObjectType options,
    c.pool[i]? = some (.received m sentObjectType (.deserializing options)) →
    ∃ o, options = some o ∧ o.Recognises sentObjectType

theorem registry_keepsUp (h : Reachable (serializing hosts) ⟨.created configuration, []⟩ c) :
    RegistryKeepsUp hosts c where
  nodup n := (serializer_sound h n).1.nodup
  recognised n := (serializer_sound h n).1.recognised
  grows _ n hd := knownTypes_grow h hd n
  added i t n newType ht adds _ hd := recognised_of_known h (((registry_known h).2 i t ht).returned n newType adds) hd
  serialized i _ _ _ ht := ((registry_known h).2 i _ ht).uses _ _ rfl
  ensured _ _ _ _ ht hr returned :=
    (known_of_ensured h ht hr returned).imp_right fun known _ hd => recognised_of_known h known hd
  deserialized i _ _ _ ht := ((registry_known h).2 i _ ht).uses _ _ rfl

end Runs

def testSteps (i : Nat) (xs : List Event) : List (Action SerializingThread Event) := xs.map (.step i)

/-- A request is serialized while `EnsureReceiver` adds the type of a message, and such a message comes. -/
def testSerializing : List (Action SerializingThread Event) :=
  .start (.mediator ⟨⟨0, 0⟩, .receiver (.entered testAnyTargetedMessage)⟩ .entered) ::
      testSteps 0 (testConsumes.take 5 ++ List.replicate 5 .go) ++
    .start (.serialize 0 (.entered (some testAnyTargetedRequest))) :: testSteps 1 [.go] ++
    testSteps 0 (List.replicate 3 .go ++ testConsumes.drop 5 ++ [.took]) ++
    .start (.received ⟨0, 0⟩ testAnyTargetedMessage .reading) :: testSteps 2 [.go] ++
    testSteps 1 (List.replicate 9 .go)

theorem testSerializing_keepsUp :
    ∃ c written read, (serializing testHosts).run (fun _ _ => true)
        ⟨.created fun _ => testMediatorConfiguration, []⟩ testSerializing = some c ∧
      c.pool[1]? = some (.serialize 0 (.serializing (some testAnyTargetedRequest) (some written))) ∧
      written.Recognises testAnyTargetedRequest ∧
      c.pool[2]? = some (.received ⟨0, 0⟩ testAnyTargetedMessage (.deserializing (some read))) ∧
      read.Recognises testAnyTargetedMessage := by
  have h : ((serializing testHosts).run (fun _ _ => true) ⟨.created fun _ => testMediatorConfiguration, []⟩
      testSerializing).any (fun c =>
        (c.pool[1]?.any fun
          | .serialize n (.serializing t _) => decide (n = 0 ∧ t = some testAnyTargetedRequest)
          | _ => false) &&
        (c.pool[2]?.any fun
          | .received m t (.deserializing _) => decide (m = ⟨0, 0⟩ ∧ t = testAnyTargetedMessage)
          | _ => false)) = true := by decide +kernel
  obtain ⟨c, hc, found⟩ := (Option.any_eq_true _ _).mp h
  obtain ⟨writes, reads⟩ := Bool.and_eq_true_iff.mp found
  obtain ⟨t, ht, writes⟩ := (Option.any_eq_true _ _).mp writes
  obtain ⟨u, hu, reads⟩ := (Option.any_eq_true _ _).mp reads
  have keepsUp := registry_keepsUp (.of_run .start (fun _ _ _ => trivial) hc)
  split at writes
  next =>
    split at reads
    next =>
      obtain ⟨rfl, rfl⟩ := of_decide_eq_true writes
      obtain ⟨rfl, rfl⟩ := of_decide_eq_true reads
      obtain ⟨written, rfl, recognises⟩ := keepsUp.serialized 1 _ _ _ ht
      obtain ⟨read, rfl, recognises'⟩ := keepsUp.deserialized 2 _ _ _ hu
      exact ⟨c, written, read, hc, ht, recognises, hu, recognises'⟩
    next => cases reads
  next => cases writes

end RabbitMediator
