import RabbitMediator.Accounting
import RabbitMediator.System

namespace RabbitMediator

open Interleaving

/-- What the calls of `EnsureReceiver` for one mediator come to. -/
structure SafelyRegistered (hosts : Hosts) (m : MediatorRef) (c : Config Lifecycle MediatorThread) : Prop where
  /-- No `BasicConsume` on its way has a tag that its channel has already. -/
  newTag : ∀ (i : Nat) (t : MediatorThread) (run : ReceiverRun) (p : ReceiveTopology),
    c.pool[i]? = some t → t.mediator = m → t.activity.run? = some run →
    run.control = .performing .basicConsume → run.taken = false →
    receiverOf (hosts.mediator m) run.sentObjectType = .ok p →
    ∀ k ∈ (c.shared.mediators m).topology.consumers,
      k.channel = (consumerOf (hosts.mediator m) run.sentObjectType p).channel →
      k.consumerTag ≠ (consumerOf (hosts.mediator m) run.sentObjectType p).consumerTag
  /-- A call that has returned while its mediator lives leaves just one consumer for its type. -/
  oneConsumer : ∀ (i : Nat) (t : MediatorThread) (run : ReceiverRun),
    c.pool[i]? = some t → t.mediator = m → t.activity.run? = some run → run.control = .returned →
    (c.shared.mediators m).disposed = false →
    ∃ p, receiverOf (hosts.mediator m) run.sentObjectType = .ok p ∧
      (c.shared.mediators m).topology.consumers.filter (fun k =>
        k.consumerTag = (consumerOf (hosts.mediator m) run.sentObjectType p).consumerTag) =
      [consumerOf (hosts.mediator m) run.sentObjectType p]
  /-- A consumer has its tag listed, or a call in the semaphore is about to list it. -/
  listed : ∀ k ∈ (c.shared.mediators m).topology.consumers,
    (c.shared.mediators m).consumerTags.lookup k.consumerTag = some k.channel ∨
    ∃ (i : Nat) (t : MediatorThread) (run : ReceiverRun) (p : ReceiveTopology),
      c.pool[i]? = some t ∧ t.mediator = m ∧ t.activity.run? = some run ∧ run.consumed = true ∧
      receiverOf (hosts.mediator m) run.sentObjectType = .ok p ∧
      k = consumerOf (hosts.mediator m) run.sentObjectType p

variable {hosts : Hosts} {m : MediatorRef} {c : Config Lifecycle MediatorThread}
  {configuration : MediatorRef → RabbitMultiplexerMediatorConfiguration}

/-- At any time the consumers are accounted for, to types that include all that are registered. -/
theorem accounted (h : ReachableWhere (lifecycle hosts) (StepsWhere fun s _ t e => Retryable hosts m s t e)
      ⟨.created configuration, []⟩ c) :
    ∃ types, (c.shared.mediators m).Accounted (hosts.mediator m) types ∧
      (∀ s ∈ (c.shared.mediators m).registeredConsumerTypes, s ∈ types) ∧
      (c.shared.mediators m).Listed (hosts.mediator m) ∧
      ∀ s ∈ types, s ∉ (c.shared.mediators m).registeredConsumerTypes →
        ∃ (i : Nat) (t : MediatorThread) (run : ReceiverRun), c.pool[i]? = some t ∧ t.mediator = m ∧
          t.activity.run? = some run ∧ run.consumed = true ∧ run.sentObjectType = s := by
  obtain ⟨whenFree, whenHeld⟩ := accounted_of_reachable h
  have lock := (semaphore_guards hosts m).held rfl rfl h
  cases taken : (semaphore m).taken c.shared with
  | false =>
    obtain ⟨accounted, listed⟩ := whenFree taken
    exact ⟨_, accounted, fun s hs => hs, listed, fun s hs new => absurd hs new⟩
  | true =>
    obtain ⟨i, t, ht, inside⟩ := lock.someone taken
    obtain ⟨run, hr, accounted, listed, _⟩ := whenHeld i t ht inside
    refine ⟨_, accounted, fun s hs => ?_, listed, fun s hs new => ?_⟩
    · unfold ReceiverRun.types
      split
      · exact List.mem_cons_of_mem _ hs
      · exact hs
    · unfold ReceiverRun.types at hs
      split at hs
      next consumed =>
        rcases List.mem_cons.mp hs with rfl | hs
        · exact ⟨i, t, run, ht, (inside_semaphore.mp inside).1, hr, consumed, rfl⟩
        · exact absurd hs new
      next => exact absurd hs new

theorem ensureReceiver_retry
    (h : ReachableWhere (lifecycle hosts) (StepsWhere fun s _ t e => Retryable hosts m s t e)
      ⟨.created configuration, []⟩ c) : SafelyRegistered hosts m c := by
  obtain ⟨types, inAccount, registered, listed, others⟩ := accounted h
  refine ⟨?_, ?_, ?_⟩
  · intro i t run p ht own hr control untaken receiver k hk channel tag
    have inside : (semaphore m).inside t = true :=
      inside_semaphore.mpr ⟨own, run, hr, by simp [ReceiverRun.inside, control]⟩
    obtain ⟨run', hr', held⟩ := (accounted_of_reachable h).2 i t ht inside
    cases hr.symm.trans hr'
    have alone : run.types (c.shared.mediators m) = (c.shared.mediators m).registeredConsumerTypes := by
      simp [ReceiverRun.types, ReceiverRun.consumed, control, untaken]
    obtain ⟨s, hs, q, hq, rfl⟩ := held.accounted.consumers k hk
    exact held.fresh (by simp [control]) (by simp [control]) s (alone ▸ hs) q p hq receiver (consumerTag_inj tag)
  · intro i t run ht own hr control live
    have settled := settled_of_reachable h ht own
    have there : run.sentObjectType ∈ types := by
      refine registered _ ((settled.returned run hr control).resolve_left ?_)
      simp [live]
    obtain ⟨p, receiver⟩ := inAccount.received _ there
    refine ⟨p, receiver, Broker.eq_singleton_of_nodup (inAccount.nodup.filter _) ?_ ?_⟩
    · exact List.mem_filter.mpr ⟨inAccount.present live _ there p receiver, by simp⟩
    · intro k hk
      obtain ⟨hk, tag⟩ := List.mem_filter.mp hk
      obtain ⟨s, hs, q, hq, rfl⟩ := inAccount.consumers k hk
      have same := inAccount.named s hs _ there q p hq receiver (consumerTag_inj (of_decide_eq_true tag))
      subst same
      cases hq.symm.trans receiver
      rfl
  · intro k hk
    obtain ⟨s, hs, p, receiver, rfl⟩ := inAccount.consumers k hk
    by_cases old : s ∈ (c.shared.mediators m).registeredConsumerTypes
    · exact Or.inl ((listed _ _).mpr ⟨s, old, p, receiver, rfl, rfl⟩)
    · obtain ⟨i, t, run, ht, own, hr, consumed, rfl⟩ := others s hs old
      exact Or.inr ⟨i, t, run, p, ht, own, hr, consumed, receiver, rfl⟩

/-- A check of the condition for runs in which no two types are registered. -/
def ReceiverRun.retries (l : MediatorLife) (run : ReceiverRun) (e : Event) : Bool :=
  match run.control, e with
  | .performing .basicConsume, .ended (.error _) => !run.taken
  | .performing .basicConsume, .refused _ => false
  | .rechecking, _ => l.registeredConsumerTypes.isEmpty
  | _, _ => true

def retries (m : MediatorRef) (c : Config Lifecycle MediatorThread) : Action MediatorThread Event → Bool
  | .start _ => true
  | .step i e => (c.pool[i]?.bind (·.activity.run?)).all fun run => run.retries (c.shared.mediators m) e

theorem retryable_of_retries {a : Action MediatorThread Event} (h : retries m c a = true) :
    StepsWhere (fun s _ t e => Retryable hosts m s t e) c a := by
  rintro i e t rfl ht
  have here : ∀ run, t.activity.run? = some run → run.retries (c.shared.mediators m) e = true := by
    intro run hr
    simpa only [retries, ht, Option.bind_some, hr, Option.all_some] using h
  refine ⟨fun _ run hr control taken => ?_, fun _ run hr control e' he => ?_, fun _ run hr control _ => ?_⟩
  · rintro e' rfl
    have checked := here run hr
    unfold ReceiverRun.retries at checked
    rw [control] at checked
    simp [taken] at checked
  · have checked := here run hr
    unfold ReceiverRun.retries at checked
    rw [control, he] at checked
    cases checked
  · have checked := here run hr
    unfold ReceiverRun.retries at checked
    rw [control] at checked
    intro s hs
    rw [List.isEmpty_iff.mp checked] at hs
    cases hs

def testReceiver : MediatorThread := ⟨⟨0, 0⟩, .receiver (.entered testAnyTargetedMessage)⟩

def testReceiverCall (i : Nat) (xs : List Event) : List (Action MediatorThread Event) :=
  .start testReceiver :: xs.map (.step i)

/-- The `BasicConsume` of the first call is cancelled before the broker has it, and the second call
registers the consumer. -/
theorem testReceiver_retry :
    ∃ c, (lifecycle testHosts).run (retries ⟨0, 0⟩) ⟨.created fun _ => testMediatorConfiguration, []⟩
        (testReceiverCall 0 (testConsumes ++ [.ended (.error operationCanceled)]) ++
          testReceiverCall 1 testRegisters) =
        some c ∧
      (c.shared.mediators ⟨0, 0⟩).topology.consumers.length = 1 ∧
      (c.shared.mediators ⟨0, 0⟩).consumerTags.keys.length = 1 ∧ SafelyRegistered testHosts ⟨0, 0⟩ c := by
  have h : ((lifecycle testHosts).run (retries ⟨0, 0⟩) ⟨.created fun _ => testMediatorConfiguration, []⟩
      (testReceiverCall 0 (testConsumes ++ [.ended (.error operationCanceled)]) ++
        testReceiverCall 1 testRegisters)).any
      (fun c => (c.shared.mediators ⟨0, 0⟩).topology.consumers.length = 1 ∧
        (c.shared.mediators ⟨0, 0⟩).consumerTags.keys.length = 1) = true := by decide +kernel
  obtain ⟨c, hc, found⟩ := (Option.any_eq_true _ _).mp h
  obtain ⟨one, one'⟩ := of_decide_eq_true found
  exact ⟨c, hc, one, one', ensureReceiver_retry (.of_run .start (fun _ _ => retryable_of_retries) hc)⟩

/-- The `BasicConsume` is cancelled when the broker has it already: its consumer stays, with its tag in no
table. -/
theorem ensureReceiver_retry_leaks :
    ¬∀ hosts m configuration c, Reachable (lifecycle hosts) ⟨.created configuration, []⟩ c →
      SafelyRegistered hosts m c := by
  intro claim
  have h : ((lifecycle testHosts).run (fun _ _ => true) ⟨.created fun _ => testMediatorConfiguration, []⟩
      (testReceiverCall 0 (testConsumes ++ [.took, .ended (.error operationCanceled)]))).any
      (fun c => (c.pool.all fun t => t.activity.run?.all fun run => !run.consumed) &&
        (c.shared.mediators ⟨0, 0⟩).topology.consumers.any fun k =>
          ((c.shared.mediators ⟨0, 0⟩).consumerTags.lookup k.consumerTag).isNone) = true := by decide +kernel
  obtain ⟨c, hc, found⟩ := (Option.any_eq_true _ _).mp h
  obtain ⟨idle, leaked⟩ := Bool.and_eq_true_iff.mp found
  obtain ⟨k, hk, unlisted⟩ := List.any_eq_true.mp leaked
  have safe := claim testHosts ⟨0, 0⟩ _ c (.of_run .start (fun _ _ _ => trivial) hc)
  rcases safe.listed k hk with listed | ⟨i, t, run, p, ht, _, hr, consumed, _⟩
  · rw [listed] at unlisted
    cases unlisted
  · have out := List.all_eq_true.mp idle t (List.mem_of_getElem? ht)
    simp [hr, consumed] at out

end RabbitMediator
