import RabbitMediator.TearingDown
import RabbitMediator.UseAfterDispose

namespace RabbitMediator

open Interleaving

/-- No command to the broker fails. -/
structure Succeeds (t : MediatorThread) (e : Event) : Prop where
  receivers : ∀ run, t.activity.run? = some run → ∀ operation, run.control = .performing operation →
    operation.atBroker = true → ∀ e', e ≠ .ended (.error e') ∧ e ≠ .refused e'
  teardowns : ∀ td, t.activity = .teardown td → ∀ e', e ≠ .ended (.error e')

/-- No call of `EnsureReceiver` overtakes a teardown, no call puts a forgotten mediator into
`_rabbitMediatorInstances`, and a type that is not registered yet has an exchange of its own. -/
structure InTime (hosts : Hosts) (m : MediatorRef) (c : Config Lifecycle MediatorThread) (t : MediatorThread)
    (e : Event) : Prop extends TearsDown hosts m c t e where
  joins : t.mediator = m → ∀ call, t.activity = .call call → call.phase = .joining →
    (c.shared.mediators m).registered = true
  fresh : t.mediator = m → ∀ run, t.activity.run? = some run → run.control = .rechecking →
    run.sentObjectType ∉ (c.shared.mediators m).registeredConsumerTypes →
    (c.shared.mediators m).Fresh (hosts.mediator m) run.sentObjectType

/-- A `DisposeAsync` of the mediator has completed, and none is going on, nor any call of `EnsureReceiver`. -/
structure Finished (m : MediatorRef) (c : Config Lifecycle MediatorThread) : Prop where
  disposed : Disposed m c
  teardowns : ∀ (i : Nat) td, c.pool[i]? = some ⟨m, .teardown td⟩ → td = .entered ∨ td = .ended
  runs : ∀ run, Running m c run → run.outOfReach = true

structure NothingLeft (hosts : Hosts) (m : MediatorRef) (c : Config Lifecycle MediatorThread) : Prop where
  consumers : (c.shared.mediators m).topology.consumers = []
  queues : ∀ name, OwnQueue (hosts.mediator m) name →
    (c.shared.mediators m).topology.broker.queues.lookup name = none
  configurations : (c.shared.mediators m).registered = false
  instances : ∀ n key, (c.shared.multiplexers n).rabbitMediatorInstances.lookup key ≠ some m

/-- Every broker call succeeds. -/
abbrev AllSucceed (c : Config Lifecycle MediatorThread) (a : Action MediatorThread Event) : Prop :=
  StepsWhere (fun _ _ t e => Succeeds t e) c a

/-- Every broker call succeeds, and the condition holds. -/
def SucceedsInTime (hosts : Hosts) (m : MediatorRef) (c : Config Lifecycle MediatorThread)
    (a : Action MediatorThread Event) : Prop :=
  ∀ i e t, a = .step i e → c.pool[i]? = some t → Succeeds t e ∧ InTime hosts m c t e

section Queues

variable {hosts : Hosts} {m : MediatorRef} {c d : Config Lifecycle MediatorThread} {t t' : MediatorThread} {i : Nat}
  {s' : Lifecycle} {e : Event} {run run' : ReceiverRun} {closed : ReceiveChannel → Bool} {l l' : MediatorLife}
  {closes : Option ReceiveChannel} {configuration : MediatorRef → RabbitMultiplexerMediatorConfiguration}

/-- The broker has the queue `name` from the thread, which has not put it into `OwnedQueues` yet. -/
def MediatorThread.Declared (hosts : Hosts) (m : MediatorRef) (t : MediatorThread) (name : String) : Prop :=
  t.mediator = m ∧ ∃ run p, t.activity.run? = some run ∧ run.control = .performing .queueDeclare ∧
    run.taken = true ∧ receiverOf (hosts.mediator m) run.sentObjectType = .ok p ∧ p.queueName = name

/-- A `QueueDeclare` that does not fail. -/
theorem ReceiverRun.Step.declared (h : run.Step hosts m closed l e l' run' closes)
    (before : run.control = .performing .queueDeclare) (succeeds : ∀ e', e ≠ .ended (.error e')) :
    run.taken = false ∧ run' = { run with taken := true } ∨
      ∃ p, receiverOf (hosts.mediator m) run.sentObjectType = .ok p ∧
        l' = remember l run.sentObjectType p .queueDeclare := by
  cases h with
  | took _ untaken => exact Or.inl ⟨untaken, rfl⟩
  | proceeded at_ _ _ _ receiver =>
    cases before.symm.trans at_
    exact Or.inr ⟨_, receiver, rfl⟩
  | failed at_ _ why =>
    cases before.symm.trans at_
    rcases why with why | ⟨_, other⟩
    · exact absurd why (succeeds _)
    · cases other
  | outside out => simp [inside, before] at out
  | prepared at_ quiet =>
    cases before.symm.trans at_
    cases quiet
  | _ at_ => exact absurd (before.symm.trans at_) (by simp)

/-- Every own queue at the broker is in `OwnedQueues`, or about to come there. -/
def QueuesKnown (hosts : Hosts) (m : MediatorRef) (c : Config Lifecycle MediatorThread) : Prop :=
  ∀ name, OwnQueue (hosts.mediator m) name →
    (c.shared.mediators m).topology.broker.queues.lookup name = none ∨
    ((c.shared.mediators m).ownedQueues.lookup name).isSome = true ∨
    ∃ (i : Nat) (t : MediatorThread), c.pool[i]? = some t ∧ t.Declared hosts m name

theorem QueuesKnown.next (h : QueuesKnown hosts m c) (tabled : Tabled hosts m c) (ht : c.pool[i]? = some t)
    (hn : t.next hosts c.shared e = some (s', t')) (succeeds : Succeeds t e) :
    QueuesKnown hosts m ⟨s', c.pool.set i t'⟩ := by
  have leaves := leaves_of_next tabled ht hn
  have step {run : ReceiverRun} (own : t.mediator = m) (hr : t.activity.run? = some run)
      (before : run.control = .performing .queueDeclare) : t'.mediator = m ∧
      (run.taken = false ∧ t'.activity.run? = some { run with taken := true } ∨
        ∃ p, receiverOf (hosts.mediator m) run.sentObjectType = .ok p ∧ (p.owned = true →
          ((s'.mediators m).ownedQueues.lookup p.queueName).isSome = true)) := by
    obtain ⟨own', l, closes, hl, seen⟩ := MediatorThread.next_own hn own
    refine ⟨own', ?_⟩
    obtain ⟨run', hr', h⟩ := seen.of_inside hr (by simp [ReceiverRun.inside, before])
    rcases h.declared before fun e' => (succeeds.receivers run hr _ before rfl e').1 with ⟨untaken, rfl⟩ | ⟨p, receiver, rfl⟩
    · exact Or.inl ⟨untaken, hr'⟩
    · refine Or.inr ⟨p, receiver, fun owned => ?_⟩
      rw [hl, (MediatorLife.keeps_closing _ closes).ownedQueues]
      exact ReceiverRun.ownedQueues_remember (Or.inr ⟨rfl, owned, rfl⟩)
  intro name own
  rcases h name own with absent | listed | ⟨j, u, hu, mine, run, p, hr, before, taken, receiver, rfl⟩
  · rcases leaves.queues name absent with absent | ⟨mine, run, p, hr, before, untaken, receiver, rfl⟩
    · exact Or.inl absent
    · obtain ⟨mine', ⟨_, hr'⟩ | ⟨q, hq, listed⟩⟩ := step mine hr before
      · exact Or.inr (Or.inr ⟨i, t', pool_set_self ht, mine', _, p, hr', before, rfl, receiver, rfl⟩)
      · cases receiver.symm.trans hq
        exact Or.inr (Or.inl (listed (owned_of_ownQueue own receiver)))
  · exact Or.inr (Or.inl (leaves.ownedQueues name listed))
  · by_cases same : j = i
    · subst same
      cases ht.symm.trans hu
      obtain ⟨_, ⟨untaken, _⟩ | ⟨q, hq, listed⟩⟩ := step mine hr before
      · rw [taken] at untaken
        cases untaken
      · cases receiver.symm.trans hq
        exact Or.inr (Or.inl (listed (owned_of_ownQueue own receiver)))
    · exact Or.inr (Or.inr ⟨j, u, (pool_set_other same).trans hu, mine, run, p, hr, before, taken, receiver, rfl⟩)

end Queues

section Runs

variable {hosts : Hosts} {m : MediatorRef} {c : Config Lifecycle MediatorThread}
  {configuration : MediatorRef → RabbitMultiplexerMediatorConfiguration}

theorem retryable_of_succeeds {a : Action MediatorThread Event} (h : SucceedsInTime hosts m c a) :
    StepsWhere (fun s _ t e => Retryable hosts m s t e) c a := by
  intro i e t ha ht
  obtain ⟨succeeds, inTime⟩ := h i e t ha ht
  refine ⟨fun _ run hr control _ e' => (succeeds.receivers run hr _ control rfl e').1, fun _ run hr control e' he => ?_,
    inTime.fresh⟩
  exact absurd he (succeeds.receivers run hr _ control rfl e').2

theorem tracked_of_reachable
    (h : ReachableWhere (lifecycle hosts) (SucceedsInTime hosts m) ⟨.created configuration, []⟩ c) :
    Tracked hosts m (OwnQueue (hosts.mediator m)) c := by
  have tabled {d : Config Lifecycle MediatorThread}
      (h : ReachableWhere (lifecycle hosts) (SucceedsInTime hosts m) ⟨.created configuration, []⟩ d) :
      Tabled hosts m d := tabled_of_reachable (h.mono fun _ _ => retryable_of_succeeds)
  obtain ⟨ownListed, owns⟩ := (ownListed_sound hosts m).always (by rintro k ⟨⟩) rfl h
  have known : QueuesKnown hosts m c := by
    refine h.invariant (P := QueuesKnown hosts m) (fun name _ => Or.inl rfl) fun c d a hc known ha hd => ?_
    cases a with
    | start t =>
      obtain ⟨_, rfl⟩ := act_start hd
      intro name own
      refine (known name own).imp_right (Or.imp_right ?_)
      rintro ⟨i, t, ht, declared⟩
      exact ⟨i, t, pool_append_of_old ht, declared⟩
    | step i e =>
      obtain ⟨t, s', t', ht, hn, rfl⟩ := act_step hd
      exact known.next (tabled hc) ht hn (ha i e t rfl ht).1
  refine ⟨tabled h, ownListed, fun run ⟨i, t, ht, own, hr⟩ => owns i t ht own run hr, fun name own => ?_⟩
  refine (known name own).imp_right (Or.imp_right ?_)
  rintro ⟨i, t, ht, mine, run, _, hr, before, _⟩
  exact ⟨run, ⟨⟨i, t, ht, mine, hr⟩, by simp [ReceiverRun.declaring, before]⟩,
    by simp [ReceiverRun.pastDeclare, before]⟩

theorem registriesAgreeOn_of_reachable
    (h : ReachableWhere (lifecycle hosts) (SucceedsInTime hosts m) ⟨.created configuration, []⟩ c) :
    RegistriesAgreeOn hosts m c.shared := by
  refine h.invariant (P := fun c => RegistriesAgreeOn hosts m c.shared) (fun n key hm => ?_) fun c d a _ agree ha hd => ?_
  · simp [Lifecycle.created] at hm
  · cases a with
    | start t =>
      obtain ⟨_, rfl⟩ := act_start hd
      exact agree
    | step i e =>
      obtain ⟨t, s', t', ht, hn, rfl⟩ := act_step hd
      exact agree.step (i := i) hn fun own call hc joining => own ▸ (ha i e t rfl ht).2.joins own call hc joining

/-- When a disposal has completed in time, nothing of the mediator is left. -/
theorem disposal_leaves_nothing
    (h : ReachableWhere (lifecycle hosts) (SucceedsInTime hosts m) ⟨.created configuration, []⟩ c)
    (finished : Finished m c) : NothingLeft hosts m c := by
  obtain ⟨_, forgotten⟩ := disposed_of_disposed h.reachable finished.disposed
  have torn : TornDown hosts m (OwnQueue (hosts.mediator m)) c := by
    refine tornDown_of_reachable (fun d hd => tracked_of_reachable hd) ?_ ?_ h
    · exact fun c i e t ha ht _ => (ha i e t rfl ht).1.teardowns
    · exact fun c i e t _ ha ht => (ha i e t rfl ht).2.toTearsDown
  have gone : Gone hosts m (OwnQueue (hosts.mediator m)) c := by
    cases torn with
    | registered registered =>
      rw [forgotten] at registered
      cases registered
    | tearing _ there clears => rcases finished.teardowns _ _ there with rfl | rfl <;> exact clears.elim
    | gone _ gone => exact gone
  refine ⟨gone.consumers, gone.queues, forgotten, fun n key there => ?_⟩
  obtain ⟨_, _, registered⟩ := registriesAgreeOn_of_reachable h n key there
  rw [forgotten] at registered
  cases registered

end Runs
/-- The queue that the receiver of responses declares. -/
def testResponseQueue : Option String :=
  (receiverOf (testHosts.mediator ⟨0, 0⟩) testAnyTargetedResponse).toOption.map (·.queueName)

def testResponseReceiver : MediatorThread := ⟨⟨0, 0⟩, .receiver (.entered testAnyTargetedResponse)⟩

def Event.succeeds : Event → Bool
  | .ended (.error _) | .refused _ => false
  | _ => true

theorem succeeds_of_check {t : MediatorThread} {e : Event} (h : e.succeeds = true) : Succeeds t e := by
  refine ⟨fun _ _ _ _ _ e' => ⟨?_, ?_⟩, fun _ _ e' => ?_⟩ <;> rintro rfl <;> cases h

def Teardown.finished : Teardown → Bool
  | .entered | .ended => true
  | _ => false

def finished (m : MediatorRef) (c : Config Lifecycle MediatorThread) : Bool :=
  c.pool.any (fun t => decide (t.mediator = m) && t.ended) && c.pool.all fun t => match t.activity with
    | .teardown td => td.finished
    | a => a.run?.all (·.outOfReach)

theorem finished_of_check {m : MediatorRef} {c : Config Lifecycle MediatorThread} (h : finished m c = true) :
    Finished m c := by
  obtain ⟨some, all⟩ := Bool.and_eq_true_iff.mp h
  refine ⟨?_, fun i td hi => ?_, fun run ⟨i, t, hi, _, hr⟩ => ?_⟩
  · obtain ⟨⟨_, a⟩, ht, ended⟩ := List.any_eq_true.mp some
    obtain ⟨own, ended⟩ := Bool.and_eq_true_iff.mp ended
    obtain ⟨i, hi⟩ := List.mem_iff_getElem?.mp ht
    refine ⟨i, _, hi, of_decide_eq_true own, ?_⟩
    unfold MediatorThread.ended at ended
    split at ended
    next he => exact (MediatorThread.mk.inj he).2
    next => cases ended
  · have here := List.all_eq_true.mp all _ (List.mem_of_getElem? hi)
    cases td <;> first | exact Or.inl rfl | exact Or.inr rfl | cases here
  · have here := List.all_eq_true.mp all _ (List.mem_of_getElem? hi)
    split at here
    next ha =>
      rw [ha] at hr
      cases hr
    next => simpa [hr] using here

def ReceiverRun.isFirst (l : MediatorLife) (run : ReceiverRun) : Bool :=
  match run.control with
  | .rechecking => l.registeredConsumerTypes.isEmpty
  | _ => true

/-- A check of the condition for runs in which a teardown meets no call of `EnsureReceiver`. -/
def inTime (m : MediatorRef) (c : Config Lifecycle MediatorThread) : Action MediatorThread Event → Bool
  | .start _ => true
  | .step i e => e.succeeds && c.pool[i]?.all fun t => match t.activity, e with
    | .receiver run, _ => run.isFirst (c.shared.mediators m) && c.pool.all fun u => u.activity.run?.isSome
    | .teardown (.cancelling _ met), .visited none =>
      (c.shared.mediators m).consumerTags.keys.all (· ∈ met) && c.pool.all (·.activity.run?.all (·.outOfReach))
    | .teardown (.deleting _ met), .visited none =>
      (c.shared.mediators m).ownedQueues.keys.all (· ∈ met) && c.pool.all (·.activity.run?.all (·.outOfReach))
    | .teardown _, _ => true
    | _, _ => false

theorem ReceiverRun.idle_of_outOfReach {run : ReceiverRun} {l : MediatorLife} (h : run.outOfReach = true) :
    run.declaring l = false := by
  unfold outOfReach at h
  unfold declaring
  split at h <;> simp_all

theorem inTime_of_check {hosts : Hosts} {m : MediatorRef} {c : Config Lifecycle MediatorThread}
    {a : Action MediatorThread Event} (h : inTime m c a = true) : SucceedsInTime hosts m c a := by
  rintro i e ⟨k, a⟩ rfl ht
  obtain ⟨succeeds, here⟩ := Bool.and_eq_true_iff.mp h
  rw [ht, Option.all_some] at here
  refine ⟨succeeds_of_check succeeds, ?_⟩
  have none (idle : c.pool.all (·.activity.run?.all (·.outOfReach)) = true) (run : ReceiverRun) :
      ¬Declaring m c run := by
    rintro ⟨⟨j, u, hu, _, hr⟩, declaring⟩
    have idle := List.all_eq_true.mp idle u (List.mem_of_getElem? hu)
    rw [hr, Option.all_some] at idle
    rw [ReceiverRun.idle_of_outOfReach idle] at declaring
    cases declaring
  have listed {d : ConcurrentDictionary String ReceiveChannel} {met : List String}
      (all : d.keys.all (· ∈ met) = true) {key : String} (hk : (d.lookup key).isSome = true) : key ∈ met :=
    of_decide_eq_true (List.all_eq_true.mp all key (AList.lookup_isSome.mp hk))
  cases a with
  | receiver run =>
    obtain ⟨first, alone⟩ := Bool.and_eq_true_iff.mp here
    refine ⟨⟨by simp, by simp, fun name _ j td hj => ?_⟩, by simp, fun _ run' hr control _ s hs => ?_⟩
    · cases List.all_eq_true.mp alone _ (List.mem_of_getElem? hj)
    · cases hr
      rw [ReceiverRun.isFirst, control] at first
      rw [List.isEmpty_iff.mp first] at hs
      cases hs
  | teardown td =>
    refine ⟨⟨fun _ started met ha he s p receiver shared => ?_, fun _ started met ha he => ?_, ?_⟩, by simp,
      by simp [Activity.run?]⟩
    · cases ha
      cases he
      obtain ⟨all, idle⟩ := Bool.and_eq_true_iff.mp here
      exact ⟨listed all, fun run declaring => absurd declaring (none idle run)⟩
    · cases ha
      cases he
      obtain ⟨all, idle⟩ := Bool.and_eq_true_iff.mp here
      exact ⟨fun queue => listed all, fun run declaring => absurd declaring (none idle run)⟩
    · rintro name ⟨_, run, _, hr, _⟩
      cases hr
  | _ => cases here

/-- A mediator consumes the responses to its requests and is disposed. -/
theorem testDisposal_leaves_nothing :
    ∃ c, (lifecycle testHosts).run (inTime ⟨0, 0⟩) ⟨.created fun _ => testMediatorConfiguration, []⟩
        (.start testResponseReceiver :: testRegisters.map (.step 0) ++
          testTeardown 1 [.go, .go, .visited (testTag testAnyTargetedResponse), .ended (.ok ()), .visited none,
            .visited testResponseQueue, .ended (.ok ()), .visited none]) = some c ∧
      (c.shared.mediators ⟨0, 0⟩).consumerTags.keys.length = 1 ∧ NothingLeft testHosts ⟨0, 0⟩ c := by
  have h : ((lifecycle testHosts).run (inTime ⟨0, 0⟩) ⟨.created fun _ => testMediatorConfiguration, []⟩
      (.start testResponseReceiver :: testRegisters.map (.step 0) ++
        testTeardown 1 [.go, .go, .visited (testTag testAnyTargetedResponse), .ended (.ok ()), .visited none,
          .visited testResponseQueue, .ended (.ok ()), .visited none])).any
      (fun c => finished ⟨0, 0⟩ c && decide ((c.shared.mediators ⟨0, 0⟩).consumerTags.keys.length = 1)) = true := by
    decide +kernel
  obtain ⟨c, hc, found⟩ := (Option.any_eq_true _ _).mp h
  obtain ⟨ended, one⟩ := Bool.and_eq_true_iff.mp found
  exact ⟨c, hc, of_decide_eq_true one, disposal_leaves_nothing (.of_run .start (fun _ _ => inTime_of_check) hc)
    (finished_of_check ended)⟩

/-- The mediator is disposed while a call of `EnsureReceiver` waits for the semaphore. The call goes on with the
configuration it has, and its consumer and its queue stay. -/
theorem disposal_leaves_consumer :
    ¬∀ hosts m configuration c, ReachableWhere (lifecycle hosts) AllSucceed ⟨.created configuration, []⟩ c →
      Finished m c → NothingLeft hosts m c := by
  intro claim
  have h : ((lifecycle testHosts).run (fun _ a => match a with | .start _ => true | .step _ e => e.succeeds)
      ⟨.created fun _ => testMediatorConfiguration, []⟩
      (.start testResponseReceiver :: (testRegisters.take 3).map (.step 0) ++ testTeardown 1 testDisposes ++
        (testRegisters.drop 3).map (.step 0))).any
      (fun c => finished ⟨0, 0⟩ c && !(c.shared.mediators ⟨0, 0⟩).topology.consumers.isEmpty) = true := by decide +kernel
  obtain ⟨c, hc, found⟩ := (Option.any_eq_true _ _).mp h
  obtain ⟨ended, left⟩ := Bool.and_eq_true_iff.mp found
  have nothing := claim testHosts ⟨0, 0⟩ _ c
    (.of_run .start (fun c a h i e t ha _ => succeeds_of_check (by subst ha; exact h)) hc) (finished_of_check ended)
  rw [nothing.consumers] at left
  cases left

end RabbitMediator
