import RabbitMediator.Accounting
import RabbitMediator.Routing

namespace RabbitMediator

open Interleaving

namespace ReceiverRun

/-- The call has the configuration of its mediator and will declare, unless its type gets registered before. -/
def declaring (l : MediatorLife) (run : ReceiverRun) : Bool :=
  match run.control with
  | .checking | .acquiring | .rechecking => !l.registeredConsumerTypes.contains run.sentObjectType
  | .performing _ | .adding => true
  | _ => false

/-- The queue of the call is declared and, if it is owned, remembered. -/
def pastDeclare (run : ReceiverRun) : Bool :=
  match run.control with
  | .performing .queueBind | .performing .basicConsume | .performing .registered | .adding => true
  | _ => false

/-- What a step of a call does to the tables of its mediator and to its queues and consumers at the broker. -/
inductive Records (mediator : Mediator) (l : MediatorLife) (run : ReceiverRun) : MediatorLife → Prop
  | nothing {l'} (consumerTags : l'.consumerTags = l.consumerTags) (ownedQueues : l'.ownedQueues = l.ownedQueues)
      (consumers : l'.topology.consumers = l.topology.consumers)
      (queues : l'.topology.broker.queues = l.topology.broker.queues) : Records mediator l run l'
  | declares {p b} (before : run.control = .performing .queueDeclare) (untaken : run.taken = false)
      (receiver : receiverOf mediator run.sentObjectType = .ok p)
      (done : l.topology.execute mediator.instanceId.value (.queueDeclare p.queueName p.queue) = .ok b) :
      Records mediator l run { l with topology := b }
  | owns {p} (before : run.control = .performing .queueDeclare)
      (receiver : receiverOf mediator run.sentObjectType = .ok p) :
      Records mediator l run (remember l run.sentObjectType p .queueDeclare)
  | consumes {p} (before : run.control = .performing .basicConsume) (untaken : run.taken = false)
      (receiver : receiverOf mediator run.sentObjectType = .ok p)
      (queue : (l.topology.broker.queues.lookup p.queueName).isSome = true) :
      Records mediator l run
        { l with topology := { l.topology with
          consumers := consumerOf mediator run.sentObjectType p :: l.topology.consumers } }
  | lists {p} (before : run.control = .adding) (receiver : receiverOf mediator run.sentObjectType = .ok p) :
      Records mediator l run
        { list mediator l run.sentObjectType p with
          registeredConsumerTypes := run.sentObjectType :: l.registeredConsumerTypes }

variable {mediator : Mediator} {hosts : Hosts} {m : MediatorRef} {closed : ReceiveChannel → Bool}
  {l l' : MediatorLife} {run run' : ReceiverRun} {e : Event} {closes : Option ReceiveChannel}

theorem records_of_took {operation : ReceiverOperation} {p : ReceiveTopology}
    {b : ConsumingBroker ReceiveChannel} (before : run.control = .performing operation)
    (untaken : run.taken = false) (receiver : receiverOf mediator run.sentObjectType = .ok p)
    (done : command mediator closed l.topology run.sentObjectType p operation = some b) :
    run.Records mediator l { l with topology := b } := by
  have quiet : ∀ {k : Broker.Command}, (∀ name arguments, k ≠ .queueDeclare name arguments) →
      (l.topology.execute mediator.instanceId.value k).toOption = some b →
      run.Records mediator l { l with topology := b } := by
    intro k other hk
    obtain ⟨hx, consumers⟩ := ConsumingBroker.executed_of_execute (execute_of_toOption hk)
    exact .nothing rfl rfl consumers (Broker.queues_execute_other hx other)
  cases operation with
  | exchangeDeclare | queueBind => exact quiet (by simp) done
  | queueDeclare => exact .declares before untaken receiver (execute_of_toOption done)
  | basicConsume =>
    simp only [command] at done
    split at done
    next => cases done
    next =>
      unfold ConsumingBroker.basicConsume at done
      split at done
      next free =>
        cases done
        exact .consumes before untaken receiver (Bool.and_eq_true_iff.mp free).1
      next => cases done
  | _ => cases done

theorem Step.records (h : run.Step hosts m closed l e l' run' closes) : run.Records (hosts.mediator m) l l' := by
  cases h with
  | took before untaken receiver done => exact records_of_took before untaken receiver done
  | @proceeded operation next p before command after taken receiver =>
    cases operation with
    | queueDeclare => exact .owns before receiver
    | _ => exact .nothing rfl rfl rfl rfl
  | listed before receiver => exact .lists before receiver
  | _ => exact .nothing rfl rfl rfl rfl

/-- A call that is to declare has been so before, or its mediator is still registered. -/
theorem Step.declaring (h : run.Step hosts m closed l e l' run' closes) (after : run'.declaring l' = true) :
    run.declaring l = true ∨ l.registered = true := by
  cases h with
  | @outside _ control before outside reach =>
    cases hc : control with
    | checking | acquiring =>
      subst hc
      refine (reach (by simp [outOfReach, goesTo])).imp_left fun inReach => ?_
      simp only [ReceiverRun.declaring, goesTo] at after ⊢
      cases hr : run.control <;> simp_all [outOfReach, inside]
    | rechecking | performing | adding =>
      subst hc
      cases outside
    | _ =>
      subst hc
      cases after
  | acquired before => exact Or.inl (by simpa [ReceiverRun.declaring, goesTo, before] using after)
  | began before new => exact Or.inl (by simp [ReceiverRun.declaring, before, new])
  | found | released | failed | refused => cases after
  | _ before => exact Or.inl (by simp [ReceiverRun.declaring, before])

theorem inside_of_pastDeclare (h : run.pastDeclare = true) : run.inside = true := by
  unfold pastDeclare at h
  split at h <;> simp_all [inside]

theorem Step.pastDeclare (h : run.Step hosts m closed l e l' run' closes) (before : run.pastDeclare = true)
    (after : run'.declaring l' = true) : run'.pastDeclare = true := by
  cases h with
  | took => exact before
  | outside out =>
    rw [inside_of_pastDeclare before] at out
    cases out
  | @prepared operation next at_ quiet later =>
    simp only [ReceiverRun.pastDeclare, at_] at before
    cases operation <;> cases later <;> simp_all [ReceiverRun.pastDeclare, goesTo]
  | @proceeded operation next _ at_ _ later =>
    simp only [ReceiverRun.pastDeclare, at_] at before
    cases operation <;> cases later <;> simp_all [ReceiverRun.pastDeclare, goesTo]
  | registered => rfl
  | listed | failed | refused | released => cases after
  | _ control => simp [ReceiverRun.pastDeclare, control] at before

end ReceiverRun

/-- The name is that of a queue which only this mediator consumes. -/
def OwnQueue (mediator : Mediator) (name : String) : Prop :=
  ∃ s p, receiverOf mediator s = .ok p ∧ p.owned = true ∧ p.queueName = name

theorem owned_of_ownQueue {mediator : Mediator} {s : SentType} {p : ReceiveTopology}
    (h : OwnQueue mediator p.queueName) (receiver : receiverOf mediator s = .ok p) : p.owned = true := by
  obtain ⟨u, q, hq, owned, name⟩ := h
  exact (owned_of_queueName receiver hq name.symm).trans owned

/-- The own queues that are consumed are in `OwnedQueues`. -/
def MediatorLife.OwnListed (mediator : Mediator) (l : MediatorLife) : Prop :=
  ∀ k ∈ l.topology.consumers, OwnQueue mediator k.queue → (l.ownedQueues.lookup k.queue).isSome = true

/-- A call that has declared an own queue has put it into `OwnedQueues`. -/
def ReceiverRun.Owns (mediator : Mediator) (l : MediatorLife) (run : ReceiverRun) : Prop :=
  run.pastDeclare = true → ∀ p, receiverOf mediator run.sentObjectType = .ok p → p.owned = true →
    (l.ownedQueues.lookup p.queueName).isSome = true

section Owned

variable {hosts : Hosts} {m : MediatorRef} {mediator : Mediator} {s s' : Lifecycle} {t t' : MediatorThread} {e : Event}
  {l l' : MediatorLife} {run run' : ReceiverRun} {closed : ReceiveChannel → Bool} {closes : Option ReceiveChannel}

theorem ReceiverRun.ownedQueues_remember {p : ReceiveTopology} {operation : ReceiverOperation} {sentObjectType : SentType}
    {queue : String} (h : (l.ownedQueues.lookup queue).isSome = true ∨
      operation = .queueDeclare ∧ p.owned = true ∧ queue = p.queueName) :
    ((remember l sentObjectType p operation).ownedQueues.lookup queue).isSome = true := by
  rcases h with old | ⟨rfl, owned, rfl⟩
  · unfold remember
    split
    · dsimp only
      split
      · exact ConcurrentDictionary.isSome_tryAdd (Or.inr old)
      · exact old
    · exact old
    · exact old
  · simp only [remember, owned, if_true]
    exact ConcurrentDictionary.isSome_tryAdd (Or.inl rfl)

theorem ReceiverRun.Records.ownedQueues (h : run.Records mediator l l') {queue : String}
    (old : (l.ownedQueues.lookup queue).isSome = true) : (l'.ownedQueues.lookup queue).isSome = true := by
  cases h with
  | nothing _ same => rwa [same]
  | owns => exact ownedQueues_remember (Or.inl old)
  | _ => exact old

theorem ReceiverRun.Owns.step (h : run.Step hosts m closed l e l' run' closes) (owns : run.Owns (hosts.mediator m) l) :
    run'.Owns (hosts.mediator m) l' := by
  intro past p receiver owned
  cases h with
  | outside _ outside =>
    rw [inside_of_pastDeclare past] at outside
    cases outside
  | took before => exact owns (by simpa [pastDeclare, before] using past) p receiver owned
  | @prepared operation next before quiet after =>
    cases operation with
    | addTypeIfMissing | topologyChannel => cases after; cases past
    | registered => cases after
    | _ => cases quiet
  | @proceeded operation next q before command after taken receiver' =>
    cases receiver'.symm.trans receiver
    refine ownedQueues_remember ?_
    cases operation with
    | queueDeclare => exact Or.inr ⟨rfl, owned, rfl⟩
    | queueBind | basicConsume => exact Or.inl (owns (by simp [pastDeclare, before]) p receiver owned)
    | exchangeDeclare => cases after; cases past
    | _ => cases command
  | registered before => exact owns (by simp [pastDeclare, before]) p receiver owned
  | _ => cases past

theorem MediatorLife.OwnListed.records (h : l.OwnListed mediator) (records : run.Records mediator l l')
    (owns : run.Owns mediator l) : l'.OwnListed mediator := by
  intro k hk own
  refine records.ownedQueues ?_
  cases records with
  | nothing _ _ consumers => exact h k (consumers ▸ hk) own
  | declares _ _ _ done => exact h k ((ConsumingBroker.executed_of_execute done).2 ▸ hk) own
  | @owns p =>
    rw [(ReceiverRun.broker_remember l run.sentObjectType p .queueDeclare).1] at hk
    exact h k hk own
  | consumes before _ receiver =>
    rcases List.mem_cons.mp hk with rfl | hk
    · exact owns (by simp [ReceiverRun.pastDeclare, before]) _ receiver (owned_of_ownQueue own receiver)
    · exact h k hk own
  | lists => exact h k hk own

theorem MediatorLife.OwnListed.shrinks (h : l.OwnListed mediator) (ownedQueues : l'.ownedQueues = l.ownedQueues)
    (shrinks : l.topology.Shrinks l'.topology) : l'.OwnListed mediator := by
  intro k hk own
  rw [ownedQueues]
  exact h k (shrinks.consumers.subset hk) own

theorem MediatorLife.shrinks_closing (l : MediatorLife) (closes : Option ReceiveChannel) :
    l.topology.Shrinks (l.closing closes).topology := by
  cases closes with
  | none => exact .refl _
  | some => exact ConsumingBroker.shrinks_drop _ _

theorem ownListed_sound (hosts : Hosts) (m : MediatorRef) :
    Sound (lifecycle hosts) (fun _ _ _ _ => True) (fun s => (s.mediators m).OwnListed (hosts.mediator m))
      (fun s _ t => t.mediator = m → ∀ run, t.activity.run? = some run → run.Owns (hosts.mediator m) (s.mediators m))
      (fun _ s s' => ∀ queue, ((s.mediators m).ownedQueues.lookup queue).isSome = true →
        ((s'.mediators m).ownedQueues.lookup queue).isSome = true) := by
  refine ⟨fun {s i t} _ hs _ run hr past => ?_, fun {s s' i t t' e} listed owns _ hn => ?_,
    fun {s s' i j u} _ grows _ owns own run hr past p receiver owned => grows _ (owns own run hr past p receiver owned)⟩
  · rw [Activity.run?_of_start hs hr] at past
    cases past
  by_cases own : t.mediator = m
  · obtain ⟨_, l, closes, hl, seen⟩ := MediatorThread.next_own hn own
    have keeps := (l.keeps_closing closes).ownedQueues
    have shrinks := l.shrinks_closing closes
    rw [hl]
    replace owns := owns own
    generalize t.activity = a at seen owns
    generalize t'.activity = a' at seen
    cases seen with
    | run before after h =>
      have here := owns _ before
      refine ⟨(listed.records h.records here).shrinks keeps shrinks, fun _ u hu => ?_, fun queue old => ?_⟩
      · cases after.symm.trans hu
        exact fun past p receiver owned => keeps ▸ here.step h past p receiver owned
      · rw [keeps]
        exact h.records.ownedQueues old
    | teardown h =>
      obtain ⟨same, less, _⟩ := h.keeps
      refine ⟨listed.shrinks same.ownedQueues less, fun _ u hu => ?_, fun queue old => ?_⟩
      · cases hu
      · exact (congrArg (fun d => (d.lookup queue).isSome) same.ownedQueues).trans old
    | aside _ after _ same topology =>
      refine ⟨listed.shrinks same.ownedQueues (topology ▸ .refl _), fun _ u hu past => ?_, fun queue old => ?_⟩
      · obtain ⟨_, rfl⟩ := after u hu
        cases past
      · exact (congrArg (fun d => (d.lookup queue).isSome) same.ownedQueues).trans old
  · obtain ⟨own', closes, hl, _⟩ := MediatorThread.next_other hn own
    have keeps := ((s.mediators m).keeps_closing closes).ownedQueues
    rw [hl]
    exact ⟨listed.shrinks keeps ((s.mediators m).shrinks_closing closes), fun own => absurd own own',
      fun queue old => keeps ▸ old⟩

end Owned

/-- A call of `EnsureReceiver` for the mediator. -/
def Running (m : MediatorRef) (c : Config Lifecycle MediatorThread) (run : ReceiverRun) : Prop :=
  ∃ (i : Nat) (t : MediatorThread), c.pool[i]? = some t ∧ t.mediator = m ∧ t.activity.run? = some run

/-- What the tables know about the consumers of a mediator. -/
structure Tabled (hosts : Hosts) (m : MediatorRef) (c : Config Lifecycle MediatorThread) : Prop where
  consumers : ∀ k ∈ (c.shared.mediators m).topology.consumers, ∃ s p, receiverOf (hosts.mediator m) s = .ok p ∧
    k = consumerOf (hosts.mediator m) s p ∧
    ((c.shared.mediators m).consumerTags.lookup k.consumerTag = some k.channel ∨
      (c.shared.mediators m).consumerTags.lookup k.consumerTag = none ∧
      ∃ run, Running m c run ∧ run.consumed = true ∧ run.sentObjectType = s)
  unlisted : ∀ run p, Running m c run → run.control = .performing .basicConsume →
    receiverOf (hosts.mediator m) run.sentObjectType = .ok p →
    (c.shared.mediators m).consumerTags.lookup (consumerOf (hosts.mediator m) run.sentObjectType p).consumerTag = none

theorem tabled_of_reachable {hosts : Hosts} {m : MediatorRef} {c : Config Lifecycle MediatorThread}
    {configuration : MediatorRef → RabbitMultiplexerMediatorConfiguration}
    (h : ReachableWhere (lifecycle hosts) (StepsWhere fun s _ t e => Retryable hosts m s t e)
      ⟨.created configuration, []⟩ c) : Tabled hosts m c := by
  obtain ⟨free, held⟩ := accounted_of_reachable h
  have lock := (semaphore_guards hosts m).held rfl rfl h
  have inside {run : ReceiverRun} {i : Nat} {t : MediatorThread} (ht : c.pool[i]? = some t) (own : t.mediator = m)
      (hr : t.activity.run? = some run) (here : run.inside = true) :
      run.Holds (hosts.mediator m) (c.shared.mediators m) := by
    obtain ⟨run', hr', holds⟩ := held i t ht (inside_semaphore.mpr ⟨own, run, hr, here⟩)
    cases hr.symm.trans hr'
    exact holds
  refine ⟨fun k hk => ?_, fun run p ⟨i, t, ht, own, hr⟩ before receiver => ?_⟩
  · have registered {s : SentType} {p : ReceiveTopology} (listed : (c.shared.mediators m).Listed (hosts.mediator m))
        (hs : s ∈ (c.shared.mediators m).registeredConsumerTypes)
        (receiver : receiverOf (hosts.mediator m) s = .ok p) :
        (c.shared.mediators m).consumerTags.lookup (consumerOf (hosts.mediator m) s p).consumerTag =
          some (consumerOf (hosts.mediator m) s p).channel :=
      (listed _ _).mpr ⟨s, hs, p, receiver, rfl, rfl⟩
    cases taken : (semaphore m).taken c.shared with
    | false =>
      have rest := free taken
      obtain ⟨s, hs, p, receiver, rfl⟩ := rest.accounted.consumers k hk
      exact ⟨s, p, receiver, rfl, Or.inl (registered rest.listed hs receiver)⟩
    | true =>
      obtain ⟨i, t, ht, within⟩ := lock.someone taken
      obtain ⟨own, run, hr, here⟩ := inside_semaphore.mp within
      have holds := inside ht own hr here
      obtain ⟨s, hs, p, receiver, rfl⟩ := holds.accounted.consumers k hk
      refine ⟨s, p, receiver, rfl, ?_⟩
      unfold ReceiverRun.types at hs
      split at hs
      next consumed =>
        rcases List.mem_cons.mp hs with rfl | hs
        · refine Or.inr ⟨holds.listed.unlisted (holds.fresh ?_ ?_) receiver, run, ⟨i, t, ht, own, hr⟩, consumed, rfl⟩ <;>
            rintro control <;> simp [ReceiverRun.consumed, control] at consumed
        · exact Or.inl (registered holds.listed hs receiver)
      next => exact Or.inl (registered holds.listed hs receiver)
  · have holds := inside ht own hr (by simp [ReceiverRun.inside, before])
    exact holds.listed.unlisted (holds.fresh (by simp [before]) (by simp [before])) receiver

end RabbitMediator
