import RabbitMediator.Readiness
import RabbitMediator.Recorded

namespace RabbitMediator

open Interleaving

/-- A call of `EnsureReceiver` for the mediator that will declare or consume. -/
def Declaring (m : MediatorRef) (c : Config Lifecycle MediatorThread) (run : ReceiverRun) : Prop :=
  Running m c run ∧ run.declaring (c.shared.mediators m) = true

/-- The thread declares the queue `name`. -/
def MediatorThread.Declares (hosts : Hosts) (m : MediatorRef) (t : MediatorThread) (name : String) : Prop :=
  t.mediator = m ∧ ∃ run p, t.activity.run? = some run ∧ run.control = .performing .queueDeclare ∧
    run.taken = false ∧ receiverOf (hosts.mediator m) run.sentObjectType = .ok p ∧ p.queueName = name

/-- What a step of the thread, of whatever kind, leaves of the mediator. -/
structure Leaves (hosts : Hosts) (m : MediatorRef) (c : Config Lifecycle MediatorThread) (t : MediatorThread)
    (l : MediatorLife) : Prop where
  consumers : ∀ k ∈ l.topology.consumers, k ∈ (c.shared.mediators m).topology.consumers ∨
    (c.shared.mediators m).consumerTags.lookup k.consumerTag = none ∧
    ((c.shared.mediators m).topology.broker.queues.lookup k.queue).isSome = true ∧
    ∃ run p, Declaring m c run ∧ receiverOf (hosts.mediator m) run.sentObjectType = .ok p ∧ p.queueName = k.queue
  queues : ∀ name, (c.shared.mediators m).topology.broker.queues.lookup name = none →
    l.topology.broker.queues.lookup name = none ∨ t.Declares hosts m name
  consumerTags : ∀ consumerTag channel, (c.shared.mediators m).consumerTags.lookup consumerTag = some channel →
    l.consumerTags.lookup consumerTag = some channel
  ownedQueues : ∀ name, ((c.shared.mediators m).ownedQueues.lookup name).isSome = true →
    (l.ownedQueues.lookup name).isSome = true

section Steps

variable {hosts : Hosts} {m : MediatorRef} {c : Config Lifecycle MediatorThread} {l l' : MediatorLife}
  {run run' : ReceiverRun} {i : Nat} {t t' : MediatorThread} {s' : Lifecycle} {e : Event}

theorem Leaves.shrinks (h : Leaves hosts m c t l) (keeps : l.Keeps l') (shrinks : l.topology.Shrinks l'.topology) :
    Leaves hosts m c t l' := by
  refine ⟨fun k hk => h.consumers k (shrinks.consumers.subset hk), fun name absent => ?_, fun tag channel listed => ?_,
    fun name listed => ?_⟩
  · refine (h.queues name absent).imp_left fun absent => ?_
    cases there : l'.topology.broker.queues.lookup name with
    | none => rfl
    | some q => exact absurd (absent.symm.trans (shrinks.queues there)) (by simp)
  · rw [keeps.consumerTags]
    exact h.consumerTags tag channel listed
  · rw [keeps.ownedQueues]
    exact h.ownedQueues name listed

theorem leaves_self (t : MediatorThread) : Leaves hosts m c t (c.shared.mediators m) :=
  ⟨fun _ => Or.inl, fun _ => Or.inl, fun _ _ => id, fun _ => id⟩

theorem Leaves.of_records (tabled : Tabled hosts m c) (ht : c.pool[i]? = some t) (own : t.mediator = m)
    (hr : t.activity.run? = some run) (h : run.Records (hosts.mediator m) (c.shared.mediators m) l) :
    Leaves hosts m c t l := by
  have running : Running m c run := ⟨i, t, ht, own, hr⟩
  have ownedQueues (name : String) (listed : ((c.shared.mediators m).ownedQueues.lookup name).isSome = true) :
      (l.ownedQueues.lookup name).isSome = true := h.ownedQueues listed
  have declaring {operation : ReceiverOperation} (before : run.control = .performing operation) : Declaring m c run :=
    ⟨running, by simp [ReceiverRun.declaring, before]⟩
  cases h with
  | nothing consumerTags _ consumers queues =>
    exact ⟨fun k hk => Or.inl (consumers ▸ hk), fun name absent => Or.inl (queues ▸ absent),
      fun _ _ listed => consumerTags ▸ listed, ownedQueues⟩
  | @declares p b before untaken receiver done =>
    obtain ⟨executed, consumers⟩ := ConsumingBroker.executed_of_execute done
    refine ⟨fun k hk => Or.inl (consumers ▸ hk), fun name absent => ?_, fun _ _ => id, ownedQueues⟩
    cases there : b.broker.queues.lookup name with
    | none => exact Or.inl rfl
    | some q =>
      rcases Broker.queues_execute executed there with old | ⟨named, _⟩
      · exact absurd (absent.symm.trans old) (by simp)
      · exact Or.inr ⟨own, run, p, hr, before, untaken, receiver, (Broker.Command.queueDeclare.inj named).1⟩
  | @owns p =>
    obtain ⟨topology, consumerTags⟩ :=
      ReceiverRun.broker_remember (c.shared.mediators m) run.sentObjectType p .queueDeclare
    exact ⟨fun k hk => Or.inl (topology ▸ hk), fun name absent => Or.inl (topology ▸ absent),
      fun _ _ listed => consumerTags ▸ listed, ownedQueues⟩
  | @consumes p before _ receiver queue =>
    refine ⟨fun k hk => ?_, fun _ => Or.inl, fun _ _ => id, ownedQueues⟩
    rcases List.mem_cons.mp hk with rfl | hk
    · exact Or.inr ⟨tabled.unlisted run p running before receiver, queue, run, p, declaring before, receiver, rfl⟩
    · exact Or.inl hk
  | @lists p before receiver =>
    exact ⟨fun _ => Or.inl, fun _ => Or.inl, fun _ _ => ConcurrentDictionary.lookup_tryAdd_of_some, ownedQueues⟩

/-- Every step of any thread. -/
theorem leaves_of_next (tabled : Tabled hosts m c) (ht : c.pool[i]? = some t)
    (hn : t.next hosts c.shared e = some (s', t')) : Leaves hosts m c t (s'.mediators m) := by
  by_cases own : t.mediator = m
  · obtain ⟨_, l, closes, hl, seen⟩ := MediatorThread.next_own hn own
    rw [hl]
    refine Leaves.shrinks (l := l) ?_ (l.keeps_closing closes) (l.shrinks_closing closes)
    generalize ha : t.activity = a at seen
    generalize t'.activity = a' at seen
    cases seen with
    | run before _ h => exact .of_records tabled ht own (ha ▸ before) h.records
    | teardown h => exact (leaves_self t).shrinks h.keeps.1 h.keeps.2.1
    | aside _ _ _ same topology => exact (leaves_self t).shrinks same (topology ▸ .refl _)
  · obtain ⟨_, closes, hl, _⟩ := MediatorThread.next_other hn own
    rw [hl]
    exact (leaves_self t).shrinks ((c.shared.mediators m).keeps_closing closes)
      ((c.shared.mediators m).shrinks_closing closes)

theorem ReceiverRun.declaring_mono (types : ∀ s ∈ l.registeredConsumerTypes, s ∈ l'.registeredConsumerTypes)
    (h : run.declaring l' = true) : run.declaring l = true := by
  have unregistered : (!l'.registeredConsumerTypes.contains run.sentObjectType) = true →
      (!l.registeredConsumerTypes.contains run.sentObjectType) = true := by
    simpa using fun new old => new (types _ old)
  unfold declaring at h ⊢
  split at h <;> simp_all

theorem ReceiverRun.declaring_of_consumed (h : run.consumed = true) : run.declaring l = true := by
  unfold consumed at h
  split at h <;> simp_all [declaring]

/-- The calls that are to declare after the step were to declare before. -/
def Follows (m : MediatorRef) (c d : Config Lifecycle MediatorThread) : Prop :=
  ∀ run', Declaring m d run' → ∃ run, Declaring m c run ∧ run'.sentObjectType = run.sentObjectType ∧
    (run.pastDeclare = true → run'.pastDeclare = true)

theorem follows_of_start (hs : t.activity.start = true) : Follows m c ⟨c.shared, c.pool ++ [t]⟩ := by
  rintro run ⟨⟨j, u, hu, own, hr⟩, declaring⟩
  rcases pool_append_cases hu with hu | ⟨_, rfl⟩
  · exact ⟨run, ⟨⟨j, u, hu, own, hr⟩, declaring⟩, rfl, id⟩
  · rw [Activity.run?_of_start hs hr] at declaring
    cases declaring

/-- Once the mediator is forgotten, no more calls are to declare. -/
theorem follows_of_next (ht : c.pool[i]? = some t) (hn : t.next hosts c.shared e = some (s', t'))
    (gone : (c.shared.mediators m).registered = false) : Follows m c ⟨s', c.pool.set i t'⟩ := by
  rintro run' ⟨⟨j, u, hu, own, hr⟩, declaring⟩
  have grows := (MediatorThread.next_grows (m := m) hn).registeredConsumerTypes
  rcases pool_set_cases ht hu with ⟨rfl, rfl⟩ | ⟨_, hu⟩
  · have mine : t.mediator = m := by
      by_contra other
      exact (MediatorThread.next_other hn other).1 own
    obtain ⟨_, l, closes, hl, seen⟩ := MediatorThread.next_own hn mine
    have after : run'.declaring l = true := by
      refine ReceiverRun.declaring_mono (fun s hs => ?_) declaring
      rw [hl, (l.keeps_closing closes).registeredConsumerTypes]
      exact hs
    generalize ha : t.activity = a at seen
    generalize u.activity = a' at seen hr
    cases seen with
    | @run _ _ _ _ _ run _ before now h =>
      cases now.symm.trans hr
      have declaring := (h.declaring after).resolve_right (by simp [gone])
      exact ⟨run, ⟨⟨j, t, ht, mine, ha ▸ before⟩, declaring⟩, h.frame.1, fun past => h.pastDeclare past after⟩
    | teardown => cases hr
    | aside _ now =>
      obtain ⟨_, rfl⟩ := now run' hr
      cases after
  · exact ⟨run', ⟨⟨j, u, hu, own, hr⟩, ReceiverRun.declaring_mono grows declaring⟩, rfl, id⟩

end Steps

/-- These tags are listed and have no consumer any more. -/
def Cancels (l : MediatorLife) (cancelled : List String) : Prop :=
  ∀ consumerTag ∈ cancelled, (l.consumerTags.lookup consumerTag).isSome = true ∧
    ∀ k ∈ l.topology.consumers, k.consumerTag ≠ consumerTag

/-- Only own queues are consumed, and these of them are deleted. -/
structure Deletes (hosts : Hosts) (m : MediatorRef) (c : Config Lifecycle MediatorThread) (deleted : List String) :
    Prop where
  consumers : ∀ k ∈ (c.shared.mediators m).topology.consumers, OwnQueue (hosts.mediator m) k.queue
  declaring : ∀ run p, Declaring m c run → receiverOf (hosts.mediator m) run.sentObjectType = .ok p → p.owned = true
  deleted : ∀ name ∈ deleted, (c.shared.mediators m).topology.broker.queues.lookup name = none ∧
    ∀ k ∈ (c.shared.mediators m).topology.consumers, k.queue ≠ name

/-- Nothing consumes, and the queues of the calls still under way are gone, and those of `names` too. -/
structure Gone (hosts : Hosts) (m : MediatorRef) (names : String → Prop) (c : Config Lifecycle MediatorThread) :
    Prop where
  consumers : (c.shared.mediators m).topology.consumers = []
  declaring : ∀ run p, Declaring m c run → receiverOf (hosts.mediator m) run.sentObjectType = .ok p →
    run.pastDeclare = true ∧ (c.shared.mediators m).topology.broker.queues.lookup p.queueName = none
  queues : ∀ name, names name → (c.shared.mediators m).topology.broker.queues.lookup name = none

section Kept

variable {hosts : Hosts} {m : MediatorRef} {c d : Config Lifecycle MediatorThread} {t : MediatorThread} {i : Nat}
  {l : MediatorLife} {names : String → Prop}

/-- A call that declares a queue has not declared it before. -/
def Early (hosts : Hosts) (m : MediatorRef) (c : Config Lifecycle MediatorThread) (t : MediatorThread) : Prop :=
  ∀ name, t.Declares hosts m name → ∃ run p, Declaring m c run ∧ run.pastDeclare = false ∧
    receiverOf (hosts.mediator m) run.sentObjectType = .ok p

theorem early_of_mem (ht : c.pool[i]? = some t) : Early hosts m c t := by
  rintro name ⟨own, run, p, hr, before, _, receiver, _⟩
  exact ⟨run, p, ⟨⟨i, t, ht, own, hr⟩, by simp [ReceiverRun.declaring, before]⟩,
    by simp [ReceiverRun.pastDeclare, before], receiver⟩

theorem Cancels.leaves {cancelled : List String} (h : Cancels (c.shared.mediators m) cancelled)
    (leaves : Leaves hosts m c t l) : Cancels l cancelled := by
  intro tag ht
  obtain ⟨listed, unused⟩ := h tag ht
  obtain ⟨channel, listed⟩ := Option.isSome_iff_exists.mp listed
  have kept := leaves.consumerTags tag channel listed
  refine ⟨Option.isSome_iff_exists.mpr ⟨channel, kept⟩, fun k hk same => ?_⟩
  rcases leaves.consumers k hk with old | ⟨unlisted, _⟩
  · exact unused k old same
  · rw [same, listed] at unlisted
    cases unlisted

theorem Deletes.leaves {deleted : List String} (h : Deletes hosts m c deleted)
    (leaves : Leaves hosts m c t (d.shared.mediators m)) (follows : Follows m c d)
    (declares : ∀ name, t.Declares hosts m name → name ∉ deleted) : Deletes hosts m d deleted := by
  refine ⟨fun k hk => ?_, fun run' p declaring receiver => ?_, fun name hn => ?_⟩
  · rcases leaves.consumers k hk with old | ⟨_, _, run, p, declaring, receiver, name⟩
    · exact h.consumers k old
    · exact ⟨run.sentObjectType, p, receiver, h.declaring run p declaring receiver, name⟩
  · obtain ⟨run, before, type, _⟩ := follows run' declaring
    exact h.declaring run p before (type ▸ receiver)
  · obtain ⟨absent, unused⟩ := h.deleted name hn
    have gone := (leaves.queues name absent).resolve_right fun hd => declares name hd hn
    refine ⟨gone, fun k hk same => ?_⟩
    rcases leaves.consumers k hk with old | ⟨_, queue, _⟩
    · exact unused k old same
    · rw [same, absent] at queue
      cases queue

theorem Gone.leaves (h : Gone hosts m names c) (early : Early hosts m c t)
    (leaves : Leaves hosts m c t (d.shared.mediators m)) (follows : Follows m c d) : Gone hosts m names d := by
  have kept (name : String) (absent : (c.shared.mediators m).topology.broker.queues.lookup name = none) :
      (d.shared.mediators m).topology.broker.queues.lookup name = none := by
    refine (leaves.queues name absent).resolve_right fun declares => ?_
    obtain ⟨run, p, declaring, early, receiver⟩ := early name declares
    rw [(h.declaring run p declaring receiver).1] at early
    cases early
  refine ⟨List.eq_nil_iff_forall_not_mem.mpr fun k hk => ?_, fun run' p declaring receiver => ?_,
    fun name hn => kept name (h.queues name hn)⟩
  · rcases leaves.consumers k hk with old | ⟨_, queue, run, p, declaring, receiver, name⟩
    · rw [h.consumers] at old
      cases old
    · rw [← name, (h.declaring run p declaring receiver).2] at queue
      cases queue
  · obtain ⟨run, before, type, further⟩ := follows run' declaring
    obtain ⟨past, absent⟩ := h.declaring run p before (type ▸ receiver)
    exact ⟨further past, kept _ absent⟩

end Kept
/-- What the tables know of a mediator and its broker. -/
structure Tracked (hosts : Hosts) (m : MediatorRef) (names : String → Prop) (c : Config Lifecycle MediatorThread) :
    Prop extends Tabled hosts m c where
  ownListed : (c.shared.mediators m).OwnListed (hosts.mediator m)
  owns : ∀ run, Running m c run → run.Owns (hosts.mediator m) (c.shared.mediators m)
  queues : ∀ name, names name → (c.shared.mediators m).topology.broker.queues.lookup name = none ∨
    ((c.shared.mediators m).ownedQueues.lookup name).isSome = true ∨
    ∃ run, Declaring m c run ∧ run.pastDeclare = false

namespace Teardown

/-- The queues that the teardown has deleted. -/
def deleted : Teardown → List String
  | .deleting _ met => met
  | .queueDelete queue _ met => met.filter (· ≠ queue)
  | _ => []

/-- What a teardown that has forgotten its mediator has cleared so far. -/
def Clears (hosts : Hosts) (m : MediatorRef) (c : Config Lifecycle MediatorThread) : Teardown → Prop
  | .cancelling _ met => Cancels (c.shared.mediators m) met
  | .basicCancel consumerTag channel _ met =>
    (c.shared.mediators m).consumerTags.lookup consumerTag = some channel ∧
      Cancels (c.shared.mediators m) (met.filter (· ≠ consumerTag))
  | .deleting _ met => Deletes hosts m c met
  | .queueDelete queue _ met => Deletes hosts m c (met.filter (· ≠ queue))
  | _ => False

end Teardown

/-- When a teardown has been through `ConsumerTags`, the tags of all shared queues have been visited and no call is
to consume from one; when it has been through `OwnedQueues`, all of them have been visited and every call under way
has its queue declared; and no call declares a deleted queue anew. -/
structure TearsDown (hosts : Hosts) (m : MediatorRef) (c : Config Lifecycle MediatorThread) (t : MediatorThread)
    (e : Event) : Prop where
  cancels : t.mediator = m → ∀ started met, t.activity = .teardown (.cancelling started met) → e = .visited none →
    ∀ s p, receiverOf (hosts.mediator m) s = .ok p → p.owned = false →
      (((c.shared.mediators m).consumerTags.lookup (consumerOf (hosts.mediator m) s p).consumerTag).isSome = true →
        (consumerOf (hosts.mediator m) s p).consumerTag ∈ met) ∧
      ∀ run, Declaring m c run → run.sentObjectType ≠ s
  deletes : t.mediator = m → ∀ started met, t.activity = .teardown (.deleting started met) → e = .visited none →
    (∀ queue, ((c.shared.mediators m).ownedQueues.lookup queue).isSome = true → queue ∈ met) ∧
      ∀ run, Declaring m c run → run.pastDeclare = true
  declares : ∀ name, t.Declares hosts m name → ∀ (j : Nat) td, c.pool[j]? = some ⟨m, .teardown td⟩ →
    name ∉ td.deleted

/-- A mediator is registered, or a teardown is clearing it, or nothing is left of it. -/
inductive TornDown (hosts : Hosts) (m : MediatorRef) (names : String → Prop) (c : Config Lifecycle MediatorThread) :
    Prop
  | registered (registered : (c.shared.mediators m).registered = true)
  | tearing {i : Nat} {td : Teardown} (forgotten : (c.shared.mediators m).registered = false)
      (there : c.pool[i]? = some ⟨m, .teardown td⟩) (clears : td.Clears hosts m c)
  | gone (forgotten : (c.shared.mediators m).registered = false) (gone : Gone hosts m names c)

section Teardowns

variable {hosts : Hosts} {m : MediatorRef} {c d : Config Lifecycle MediatorThread} {t t' : MediatorThread} {i : Nat}
  {l l' : MediatorLife} {names : String → Prop} {td td' : Teardown} {e : Event} {x x' : MultiplexerLife}
  {s' : Lifecycle}

theorem Cancels.subset {tags tags' : List String} (h : Cancels l tags) (subset : ∀ tag ∈ tags', tag ∈ tags) :
    Cancels l tags' := fun tag ht => h tag (subset tag ht)

theorem Deletes.subset {queues queues' : List String} (h : Deletes hosts m c queues)
    (subset : ∀ queue ∈ queues', queue ∈ queues) : Deletes hosts m c queues' :=
  ⟨h.consumers, h.declaring, fun name hn => h.deleted name (subset name hn)⟩

theorem mem_filter_cons {name : String} {met : List String} :
    ∀ n ∈ (name :: met).filter (· ≠ name), n ∈ met := by
  intro n hn
  obtain ⟨hn, other⟩ := List.mem_filter.mp hn
  exact (List.mem_cons.mp hn).resolve_left (of_decide_eq_true other)

/-- The steps of others. -/
theorem Teardown.Clears.leaves (h : td.Clears hosts m c) (leaves : Leaves hosts m c t (d.shared.mediators m))
    (follows : Follows m c d) (declares : ∀ name, t.Declares hosts m name → name ∉ td.deleted) :
    td.Clears hosts m d := by
  cases td with
  | cancelling => exact Cancels.leaves h leaves
  | basicCancel => exact ⟨leaves.consumerTags _ _ h.1, Cancels.leaves h.2 leaves⟩
  | deleting => exact Deletes.leaves h leaves follows declares
  | queueDelete => exact Deletes.leaves h leaves follows declares
  | _ => exact h

/-- A tag that is cancelled has no consumer any more. -/
theorem Cancels.cancelled {consumerTag : String} {channel : ReceiveChannel} {met : List String}
    (tabled : Tabled hosts m c)
    (listed : (c.shared.mediators m).consumerTags.lookup consumerTag = some channel)
    (h : Cancels (c.shared.mediators m) (met.filter (· ≠ consumerTag))) :
    Cancels { c.shared.mediators m with
      topology := (c.shared.mediators m).topology.basicCancel channel consumerTag } met := by
  intro tag ht
  have left {k : Broker.Consumer ReceiveChannel}
      (hk : k ∈ ((c.shared.mediators m).topology.basicCancel channel consumerTag).consumers) :
      k ∈ (c.shared.mediators m).topology.consumers ∧ ¬(k.channel = channel ∧ k.consumerTag = consumerTag) := by
    unfold ConsumingBroker.basicCancel at hk
    rw [ConsumingBroker.consumers_drop] at hk
    obtain ⟨hk, stays⟩ := List.mem_filter.mp hk
    exact ⟨hk, fun same => by simp [same] at stays⟩
  by_cases same : tag = consumerTag
  · subst same
    refine ⟨Option.isSome_iff_exists.mpr ⟨channel, listed⟩, fun k hk tag => ?_⟩
    obtain ⟨hk, stays⟩ := left hk
    obtain ⟨_, _, _, _, known | ⟨unlisted, _⟩⟩ := tabled.consumers k hk
    · rw [tag, listed] at known
      exact stays ⟨(Option.some.inj known).symm, tag⟩
    · rw [tag, listed] at unlisted
      cases unlisted
  · obtain ⟨listed, unused⟩ := h tag (List.mem_filter.mpr ⟨ht, decide_eq_true same⟩)
    exact ⟨listed, fun k hk => unused k (left hk).1⟩

/-- With all consumers of shared queues cancelled, only own queues are consumed. -/
theorem Cancels.done {met : List String} (tabled : Tabled hosts m c) (h : Cancels (c.shared.mediators m) met)
    (all : ∀ s p, receiverOf (hosts.mediator m) s = .ok p → p.owned = false →
      (((c.shared.mediators m).consumerTags.lookup (consumerOf (hosts.mediator m) s p).consumerTag).isSome = true →
        (consumerOf (hosts.mediator m) s p).consumerTag ∈ met) ∧
      ∀ run, Declaring m c run → run.sentObjectType ≠ s) : Deletes hosts m c [] := by
  refine ⟨fun k hk => ?_, fun run p declaring receiver => ?_, by simp⟩
  · obtain ⟨s, p, receiver, rfl, known⟩ := tabled.consumers k hk
    by_contra foreign
    have shared : p.owned = false := by
      by_contra owned
      exact foreign ⟨s, p, receiver, by simpa using owned, rfl⟩
    obtain ⟨visited, others⟩ := all s p receiver shared
    rcases known with listed | ⟨_, run, running, consumed, type⟩
    · exact (h _ (visited (Option.isSome_iff_exists.mpr ⟨_, listed⟩))).2 _ hk rfl
    · exact others run ⟨running, ReceiverRun.declaring_of_consumed consumed⟩ type
  · by_contra shared
    exact (all _ p receiver (by simpa using shared)).2 run declaring rfl

theorem Deletes.deletedOne {queue : String} {met : List String} (h : Deletes hosts m c (met.filter (· ≠ queue)))
    (follows : Follows m c d) (topology : (d.shared.mediators m).topology =
      (c.shared.mediators m).topology.queueDelete queue) : Deletes hosts m d met := by
  have left {k : Broker.Consumer ReceiveChannel} (hk : k ∈ (d.shared.mediators m).topology.consumers) :
      k ∈ (c.shared.mediators m).topology.consumers ∧ k.queue ≠ queue := by
    rw [topology] at hk
    simpa using List.mem_filter.mp hk
  refine ⟨fun k hk => h.consumers k (left hk).1, fun run' p declaring receiver => ?_, fun name hn => ?_⟩
  · obtain ⟨run, before, type, _⟩ := follows run' declaring
    exact h.declaring run p before (type ▸ receiver)
  · rw [topology]
    by_cases same : name = queue
    · subst same
      refine ⟨ConsumingBroker.lookup_queueDelete_self _ _, fun k hk => ?_⟩
      exact (left (topology ▸ hk)).2
    · obtain ⟨absent, unused⟩ := h.deleted name (List.mem_filter.mpr ⟨hn, decide_eq_true same⟩)
      exact ⟨(ConsumingBroker.lookup_queueDelete_ne same).trans absent, fun k hk => unused k (left (topology ▸ hk)).1⟩

/-- With all own queues deleted, nothing is left. -/
theorem Deletes.done {met : List String} (tracked : Tracked hosts m names c) (h : Deletes hosts m c met)
    (all : ∀ queue, ((c.shared.mediators m).ownedQueues.lookup queue).isSome = true → queue ∈ met)
    (past : ∀ run, Declaring m c run → run.pastDeclare = true) : Gone hosts m names c := by
  refine ⟨List.eq_nil_iff_forall_not_mem.mpr fun k hk => ?_, fun run p declaring receiver => ?_, fun name hn => ?_⟩
  · exact (h.deleted _ (all _ (tracked.ownListed k hk (h.consumers k hk)))).2 k hk rfl
  · have owned := tracked.owns run declaring.1 (past run declaring) p receiver (h.declaring run p declaring receiver)
    exact ⟨past run declaring, (h.deleted _ (all _ owned)).1⟩
  · rcases tracked.queues name hn with absent | owned | ⟨run, declaring, early⟩
    · exact absent
    · exact (h.deleted _ (all _ owned)).1
    · rw [past run declaring] at early
      cases early

/-- A mediator that is registered no longer has just been forgotten by a teardown. -/
theorem forgotten_of_next (hn : t.next hosts c.shared e = some (s', t'))
    (before : (c.shared.mediators m).registered = true) (after : (s'.mediators m).registered = false) :
    ∃ started, t' = ⟨m, .teardown (.cancelling started [])⟩ := by
  by_cases own : t.mediator = m
  · obtain ⟨own', l, closes, hl, seen⟩ := MediatorThread.next_own hn own
    rw [hl, MediatorLife.registered_closing] at after
    generalize t.activity = a at seen
    generalize ha' : t'.activity = a' at seen
    cases seen with
    | run _ _ h => exact absurd (before.symm.trans (h.registered_eq.symm.trans after)) (by simp)
    | teardown h =>
      cases h with
      | forgot => exact ⟨_, congrArg₂ MediatorThread.mk own' ha'⟩
      | _ => exact absurd (before.symm.trans after) (by simp)
    | aside _ _ _ _ _ _ registered => exact absurd (before.symm.trans (registered.symm.trans after)) (by simp)
  · obtain ⟨_, closes, hl, _⟩ := MediatorThread.next_other hn own
    rw [hl, MediatorLife.registered_closing, before] at after
    cases after

/-- A step of the teardown that clears the mediator. -/
theorem Teardown.Step.tornDown (h : Teardown.Step hosts m x (c.shared.mediators m) td e x' l' td')
    (tracked : Tracked hosts m names c) (clears : td.Clears hosts m c) (follows : Follows m c d)
    (ht : c.pool[i]? = some ⟨m, .teardown td⟩) (hl : d.shared.mediators m = l')
    (there : d.pool[i]? = some ⟨m, .teardown td'⟩) (forgotten : (c.shared.mediators m).registered = false)
    (succeeds : ∀ e', e ≠ .ended (.error e')) (allowed : TearsDown hosts m c ⟨m, .teardown td⟩ e) :
    TornDown hosts m names d := by
  have idle (name : String) : ¬MediatorThread.Declares hosts m ⟨m, .teardown td⟩ name := by
    rintro ⟨_, _, _, hr, _⟩
    cases hr
  have still (same : d.shared.mediators m = c.shared.mediators m) :
      Leaves hosts m c ⟨m, .teardown td⟩ (d.shared.mediators m) := same ▸ leaves_self _
  cases h with
  | visited listed =>
    refine .tearing (hl ▸ forgotten) there ⟨hl ▸ listed, ?_⟩
    rw [hl]
    exact Cancels.subset clears mem_filter_cons
  | @cancelledAll started met =>
    refine .tearing (hl ▸ forgotten) there ?_
    exact (Cancels.done tracked.toTabled clears (allowed.cancels rfl started met rfl rfl)).leaves (still hl) follows
      fun name hd => absurd hd (idle name)
  | cancelled =>
    refine .tearing (hl ▸ forgotten) there ?_
    unfold Clears
    rw [hl]
    exact clears.2.cancelled tracked.toTabled clears.1
  | met =>
    refine .tearing (hl ▸ forgotten) there ?_
    exact (Deletes.subset clears mem_filter_cons).leaves (still hl) follows fun name hd => absurd hd (idle name)
  | @deletedAll started met =>
    obtain ⟨all, past⟩ := allowed.deletes rfl started met rfl rfl
    exact .gone (hl ▸ forgotten) ((Deletes.done tracked clears all past).leaves (early_of_mem ht) (still hl) follows)
  | deleted => exact .tearing (hl ▸ forgotten) there (Deletes.deletedOne clears follows (congrArg _ hl))
  | gaveUp => exact absurd rfl (succeeds _)
  | _ => exact clears.elim

theorem TornDown.next (h : TornDown hosts m names c) (tracked : Tracked hosts m names c) (ht : c.pool[i]? = some t)
    (hn : t.next hosts c.shared e = some (s', t'))
    (succeeds : t.mediator = m → ∀ td, t.activity = .teardown td → ∀ e', e ≠ .ended (.error e'))
    (allowed : TearsDown hosts m c t e) : TornDown hosts m names ⟨s', c.pool.set i t'⟩ := by
  have leaves := leaves_of_next tracked.toTabled ht hn
  have forgotten := MediatorThread.next_unregistered (m := m) hn
  cases h with
  | registered before =>
    cases after : (s'.mediators m).registered with
    | true => exact .registered after
    | false =>
      obtain ⟨started, rfl⟩ := forgotten_of_next hn before after
      exact .tearing after (pool_set_self ht) (fun tag htag => absurd htag (by simp))
  | @tearing j td gone there clears =>
    have follows := follows_of_next ht hn gone
    by_cases same : j = i
    · subst same
      cases ht.symm.trans there
      obtain ⟨x, l, a, closes, rfl, rfl, step⟩ := MediatorThread.step_of_next hn
      cases step with
      | teardown h =>
        exact h.tornDown tracked clears follows ht (Lifecycle.mediators_after c.shared m x l none) (pool_set_self ht)
          gone (succeeds rfl td rfl) allowed
    · exact .tearing (forgotten gone) ((pool_set_other same).trans there)
        (clears.leaves leaves follows fun name hd => allowed.declares name hd j td there)
  | gone before rest => exact .gone (forgotten before) (rest.leaves (early_of_mem ht) leaves (follows_of_next ht hn before))

theorem TornDown.started (h : TornDown hosts m names c) (hs : t.activity.start = true) :
    TornDown hosts m names ⟨c.shared, c.pool ++ [t]⟩ := by
  have follows : Follows m c ⟨c.shared, c.pool ++ [t]⟩ := follows_of_start hs
  have idle (name : String) : ¬t.Declares hosts m name := by
    rintro ⟨_, _, _, hr, before, _⟩
    rw [Activity.run?_of_start hs hr] at before
    cases before
  cases h with
  | registered before => exact .registered before
  | tearing gone there clears =>
    exact .tearing gone (pool_append_of_old there) (clears.leaves (leaves_self t) follows fun name hd => absurd hd (idle name))
  | gone before rest =>
    exact .gone before (rest.leaves (fun name hd => absurd hd (idle name)) (leaves_self t) follows)

theorem tornDown_of_reachable {configuration : MediatorRef → RabbitMultiplexerMediatorConfiguration}
    {allowed : Config Lifecycle MediatorThread → Action MediatorThread Event → Prop}
    (tracked : ∀ c, ReachableWhere (lifecycle hosts) allowed ⟨.created configuration, []⟩ c → Tracked hosts m names c)
    (succeeds : ∀ c i e t, allowed c (.step i e) → c.pool[i]? = some t → t.mediator = m →
      ∀ td, t.activity = .teardown td → ∀ e', e ≠ .ended (.error e'))
    (tears : ∀ c i e t, ReachableWhere (lifecycle hosts) allowed ⟨.created configuration, []⟩ c →
      allowed c (.step i e) → c.pool[i]? = some t → TearsDown hosts m c t e)
    (h : ReachableWhere (lifecycle hosts) allowed ⟨.created configuration, []⟩ c) : TornDown hosts m names c := by
  refine h.invariant (.registered rfl) fun c d a hc torn ha hd => ?_
  cases a with
  | start t =>
    obtain ⟨hs, rfl⟩ := act_start hd
    exact torn.started hs
  | step i e =>
    obtain ⟨t, s', t', ht, hn, rfl⟩ := act_step hd
    exact torn.next (tracked c hc) ht hn (succeeds c i e t ha ht) (tears c i e t hc ha ht)

end Teardowns
end RabbitMediator
