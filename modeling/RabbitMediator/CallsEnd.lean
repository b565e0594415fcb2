import RabbitMediator.ConsumerMapping
import RabbitMediator.Progress
import RabbitMediator.Recorded

namespace RabbitMediator

open Interleaving

section Left

/-- The awaited operations up to the registration, this one with them. -/
def ReceiverOperation.left : ReceiverOperation → Nat
  | .addTypeIfMissing => 7
  | .topologyChannel => 6
  | .exchangeDeclare => 5
  | .queueDeclare => 4
  | .queueBind => 3
  | .basicConsume => 2
  | .registered => 1

/-- A bound of the steps a call of `EnsureReceiver` has before it, apart from what the broker does. -/
def EnsureReceiver.left : EnsureReceiver → Nat
  | .entered => 14
  | .looking => 13
  | .checking => 12
  | .acquiring => 11
  | .rechecking => 10
  | .performing operation => operation.left + 2
  | .adding => 2
  | .releasing => 1
  | .returned | .threw _ => 0

def ReceiverRun.left (run : ReceiverRun) : Nat := 2 * run.control.left + if run.taken then 0 else 1

/-- The same for `EnsureConfigured` of a mediator with `receivers` types to consume. -/
def MediatorCall.left (receivers : Nat) (call : MediatorCall) : Nat :=
  match call.phase with
  | .entered => 32 * receivers + 14
  | .acquiring => 32 * receivers + 13
  | .rechecking => 32 * receivers + 12
  | .connecting => 32 * receivers + 11
  | .joining => 32 * receivers + 10
  | .listing => 32 * receivers + 9
  | .configuring remaining => 32 * remaining.length + 8
  | .ensuring run remaining => 32 * remaining.length + 9 + run.left
  | .finishing => 7
  | .announcing => 6
  | .releasing _ => 5
  | .checking => 1
  | .proceeding | .returned | .threw _ => 0

def Delivery.left (d : Delivery) : Nat :=
  match d.handling with
  | .received => 2
  | .delaying | .handling => 1
  | .settled _ => 0

/-- The entries of a table that a loop has not visited. -/
def unvisited (table : ConcurrentDictionary String ReceiveChannel) (met : List String) : Nat :=
  (table.keys.filter fun name => name ∉ met).length

/-- The steps of a teardown, as long as the tables of its mediator do not grow. -/
def Teardown.left (l : MediatorLife) : Teardown → Nat
  | .entered => 2 * unvisited l.consumerTags [] + 2 * unvisited l.ownedQueues [] + 8
  | .forgetting => 2 * unvisited l.consumerTags [] + 2 * unvisited l.ownedQueues [] + 7
  | .cancelling _ met => 2 * unvisited l.consumerTags met + 2 * unvisited l.ownedQueues [] + 5
  | .basicCancel _ _ _ met => 2 * unvisited l.consumerTags met + 2 * unvisited l.ownedQueues [] + 6
  | .deleting _ met => 2 * unvisited l.ownedQueues met + 2
  | .queueDelete _ _ met => 2 * unvisited l.ownedQueues met + 3
  | .ended => 0

theorem unvisited_cons {table : ConcurrentDictionary String ReceiveChannel} {met : List String} {name : String}
    (listed : (table.lookup name).isSome = true) (new : name ∉ met) :
    unvisited table (name :: met) < unvisited table met := by
  have mem : name ∈ table.keys := AList.lookup_isSome.mp listed
  have split : table.keys.filter (fun n => n ∉ name :: met) =
      (table.keys.filter fun n => n ∉ met).filter fun n => n ≠ name := by
    rw [List.filter_filter]
    apply List.filter_congr
    intro n _
    simp [not_or]
  have gone : name ∈ table.keys.filter fun n => n ∉ met := List.mem_filter.mpr ⟨mem, by simpa using new⟩
  unfold unvisited
  rw [split]
  apply List.length_filter_lt_length_iff_exists.mpr
  exact ⟨name, gone, by simp⟩

variable {hosts : Hosts} {m : MediatorRef} {x x' : MultiplexerLife} {l l' : MediatorLife} {e : Event}
  {closes : Option ReceiveChannel}

theorem EnsureReceiver.left_of_next {t : SentType} {s s' : MediatorState} {r r' : EnsureReceiver} {o : Occurrence}
    (h : r.next hosts m t s o = some (s', r')) : r'.left < r.left := by
  unfold next at h
  split at h
  next =>
    split at h
    · cases h; simp [left]
    · split at h <;> cases h <;> simp [left]
  next => cases h; split <;> simp [left]
  next => cases h; split <;> simp [left]
  next => split at h <;> cases h; simp [left]
  next => cases h; simp [left]
  next => cases h; split <;> simp [left, ReceiverOperation.left]
  next operation _ =>
    cases h
    cases operation <;> simp [ReceiverOperation.after, left, ReceiverOperation.left]
  next => cases h; simp [left]
  next => cases h; simp [left]
  next => cases h; simp [left]
  next => cases h

theorem ReceiverRun.left_of_follow {run run' : ReceiverRun} {o : Occurrence}
    (h : run.follow hosts m l o = some (l', run')) : run'.left < run.left := by
  obtain ⟨⟨s, r⟩, hs, he⟩ := Option.map_eq_some_iff.mp h
  cases he
  have fewer := EnsureReceiver.left_of_next hs
  simp only [left, goesTo, Bool.false_eq_true, if_false]
  omega

theorem ReceiverRun.left_of_perform {run run' : ReceiverRun} {closed : ReceiveChannel → Bool}
    {operation : ReceiverOperation} (h : run.perform hosts m closed l operation e = some (l', run', closes)) :
    run'.left < run.left := by
  have follows {k : MediatorLife} {o : Occurrence} {c : Option ReceiveChannel}
      (hf : ((run.follow hosts m k o).map fun p => (p.1, p.2, c)) = some (l', run', closes)) :
      run'.left < run.left := by
    obtain ⟨⟨l₁, run₁⟩, hp, he⟩ := Option.map_eq_some_iff.mp hf
    cases he
    exact left_of_follow hp
  unfold perform at h
  split at h
  next =>
    split at h
    next => split at h <;> first | exact follows h | cases h
    next => cases h
  next =>
    split at h
    next =>
      split at h
      next => cases h
      next untaken =>
        obtain ⟨b, _, he⟩ := Option.map_eq_some_iff.mp h
        cases he
        simp [left, untaken]
    next => cases h
  next =>
    split at h
    next => split at h <;> first | exact follows h | cases h
    next => split at h <;> first | exact follows h | cases h
  next => split at h <;> first | exact follows h | cases h
  next => split at h <;> first | exact follows h | cases h
  next => cases h

/-- Each step of a call of `EnsureReceiver` brings it nearer to its end. -/
theorem ReceiverRun.left_of_next {run run' : ReceiverRun} {closed : ReceiveChannel → Bool}
    (h : run.next hosts m closed l e = some (l', run', closes)) : run'.left < run.left := by
  unfold next at h
  split at h
  next => exact left_of_perform h
  next =>
    split at h
    next =>
      obtain ⟨⟨l₁, run₁⟩, hf, he⟩ := Option.map_eq_some_iff.mp h
      cases he
      exact left_of_follow hf
    next => cases h
  next =>
    obtain ⟨⟨l₁, run₁⟩, hf, he⟩ := Option.map_eq_some_iff.mp h
    cases he
    exact left_of_follow hf
  next =>
    obtain ⟨⟨l₁, run₁⟩, hf, he⟩ := Option.map_eq_some_iff.mp h
    cases he
    exact left_of_follow hf
  next => cases h

theorem MediatorCall.left_configured (n : Nat) (call : MediatorCall) : call.configured.left n ≤ 1 := by
  unfold configured
  split <;> simp [left, goesTo]

theorem MediatorCall.left_of_ensure {call call' : MediatorCall} {run : ReceiverRun}
    {remaining : List (ConsumerType × SentType)} (n : Nat) (before : call.phase = .ensuring run remaining)
    (h : call.ensure hosts m x l run remaining e = some (x', l', call', closes)) : call'.left n < call.left n := by
  unfold ensure at h
  split at h
  next =>
    cases h
    simp only [left, goesTo, before]
    omega
  next =>
    cases h
    simp only [left, goesTo, before]
    omega
  next =>
    obtain ⟨⟨l₁, run₁, closes₁⟩, hn, he⟩ := Option.map_eq_some_iff.mp h
    cases he
    have fewer := ReceiverRun.left_of_next hn
    simp only [left, goesTo, before]
    omega

/-- Each step of a call of `EnsureConfigured` brings it nearer to its end. -/
theorem MediatorCall.left_of_next {call call' : MediatorCall}
    (h : call.next hosts m x l e = some (x', l', call', closes)) :
    call'.left l.configuration.receivers.length < call.left l.configuration.receivers.length := by
  have ended (n : Nat) := call.left_configured n
  unfold next at h
  split at h
  next before =>
    have := ended l.configuration.receivers.length
    cases h
    split
    · simp only [left, before] at this ⊢
      omega
    · simp [left, goesTo, before]
  next before => split at h <;> cases h; simp [left, goesTo, before]
  next before => cases h; split <;> simp [left, goesTo, before]
  next before => cases h; simp [left, goesTo, before]
  next before => split at h <;> cases h; simp [left, goesTo, before]
  next before => cases h; simp [left, goesTo, before]
  next before => cases h; split <;> simp [left, goesTo, before]
  next before => cases h; simp [left, goesTo, before]
  next before =>
    cases h
    simp only [left, goesTo, before, List.length_cons, ReceiverRun.left, ReceiverRun.entered, EnsureReceiver.left]
    simp only [Bool.false_eq_true, if_false]
    omega
  next before => exact left_of_ensure _ before h
  next before => cases h; simp [left, goesTo, before]
  next before => cases h; simp [left, goesTo, before]
  next outcome before =>
    have := ended l.configuration.receivers.length
    cases h
    cases outcome with
    | ok =>
      simp only [left, before] at this ⊢
      omega
    | error => simp [left, goesTo, before]
  next before => cases h; split <;> simp [left, goesTo, before]
  next => cases h

theorem Delivery.left_of_next {d d' : Delivery} (h : d.next hosts m x l e = some d') : d'.left < d.left := by
  unfold next at h
  split at h
  next =>
    split at h
    next before =>
      cases h
      split <;> simp [left, goesTo, before]
    next => cases h
  next =>
    split at h
    next before => cases h; simp [left, goesTo, before]
    next before => cases h; simp [left, goesTo, before]
    next => cases h
  next => cases h

/-- Each step of a teardown does, and it leaves the tables alone. -/
theorem Teardown.left_of_next {t t' : Teardown} (h : t.next hosts m x l e = some (x', l', t')) :
    t'.left l' < t.left l ∧ l'.consumerTags = l.consumerTags ∧ l'.ownedQueues = l.ownedQueues := by
  unfold next at h
  split at h
  next =>
    cases h
    exact ⟨by simp [left], rfl, rfl⟩
  next =>
    split at h
    · cases h
      refine ⟨?_, rfl, rfl⟩
      simp only [left]
      omega
    · cases h
      exact ⟨by simp [left], rfl, rfl⟩
  next started met consumerTag =>
    split at h
    next channel listed =>
      split at h <;> cases h
      next new =>
        have fewer := unvisited_cons (Option.isSome_of_eq_some listed) new
        refine ⟨?_, rfl, rfl⟩
        simp only [left]
        omega
    next => cases h
  next =>
    split at h <;> cases h
    refine ⟨?_, rfl, rfl⟩
    simp only [left]
    omega
  next =>
    cases h
    refine ⟨?_, rfl, rfl⟩
    simp only [left]
    omega
  next =>
    cases h
    exact ⟨by simp [left], rfl, rfl⟩
  next started met queue =>
    split at h <;> cases h
    next open_ =>
      obtain ⟨listed, new⟩ := not_or.mp (by simpa only [Bool.or_eq_true, decide_eq_true_eq] using open_)
      have listed : (l.ownedQueues.lookup queue).isSome = true := by
        rw [Option.isSome_iff_ne_none]
        intro none
        simp [none] at listed
      have fewer := unvisited_cons listed new
      refine ⟨?_, rfl, rfl⟩
      simp only [left]
      omega
  next =>
    split at h <;> cases h
    exact ⟨by simp [left], rfl, rfl⟩
  next =>
    cases h
    refine ⟨?_, rfl, rfl⟩
    simp only [left]
    omega
  next =>
    cases h
    exact ⟨by simp [left], rfl, rfl⟩
  next => cases h

theorem Teardown.left_congr {t : Teardown} (consumerTags : l'.consumerTags = l.consumerTags)
    (ownedQueues : l'.ownedQueues = l.ownedQueues) : t.left l' = t.left l := by
  cases t <;> simp only [left, consumerTags, ownedQueues]

end Left

section Lessens

/-- What a thread has to do by itself, and what a teardown has to visit. -/
def MediatorThread.callLeft (s : Lifecycle) (t : MediatorThread) : Nat :=
  match t.activity with
  | .call call => call.left (s.mediators t.mediator).configuration.receivers.length
  | .receiver run => run.left
  | .teardown _ => 0
  | .delivery d => d.left

def MediatorThread.visitsLeft (s : Lifecycle) (t : MediatorThread) : Nat :=
  match t.activity with
  | .teardown td => td.left (s.mediators t.mediator)
  | _ => 0

variable {hosts : Hosts} {s s' : Lifecycle} {t t' : MediatorThread} {e : Event}

theorem MediatorThread.callLeft_of_next (h : t.next hosts s e = some (s', t')) (u : MediatorThread) :
    u.callLeft s' = u.callLeft s := by
  have receivers := (next_extends h u.mediator).receivers
  unfold callLeft
  rw [receivers]

theorem MediatorThread.lessens (h : t.next hosts s e = some (s', t')) : Lessens callLeft visitsLeft s t s' t' := by
  refine ⟨fun u => (callLeft_of_next h u).le, ?_⟩
  rw [callLeft_of_next h t']
  obtain ⟨⟨x, l, a, closes⟩, hp, he⟩ := Option.map_eq_some_iff.mp h
  cases he
  obtain ⟨m, activity⟩ := t
  cases activity with
  | call call =>
    obtain ⟨⟨x₁, l₁, call₁, closes₁⟩, hn, he⟩ := Option.map_eq_some_iff.mp hp
    cases he
    exact Or.inl (MediatorCall.left_of_next hn)
  | receiver run =>
    obtain ⟨⟨l₁, run₁, closes₁⟩, hn, he⟩ := Option.map_eq_some_iff.mp hp
    cases he
    exact Or.inl (ReceiverRun.left_of_next hn)
  | delivery d =>
    obtain ⟨d₁, hn, he⟩ := Option.map_eq_some_iff.mp hp
    cases he
    exact Or.inl (Delivery.left_of_next hn)
  | teardown td =>
    obtain ⟨⟨x₁, l₁, td₁⟩, hn, he⟩ := Option.map_eq_some_iff.mp hp
    cases he
    obtain ⟨fewer, consumerTags, ownedQueues⟩ := Teardown.left_of_next hn
    have here : (s.after m x₁ l₁ none).mediators m = l₁ := Lifecycle.mediators_after s m x₁ l₁ none
    refine Or.inr ⟨le_rfl, ?_, fun u => ?_⟩
    · simpa only [visitsLeft, here] using fewer
    · -- the tables of all mediators are as they were
      have same : ∀ td : Teardown, td.left ((s.after m x₁ l₁ none).mediators u.mediator) =
          td.left (s.mediators u.mediator) := by
        intro td
        by_cases own : u.mediator = m
        · rw [own, here]
          exact Teardown.left_congr consumerTags ownedQueues
        · have other : (s.after m x₁ l₁ none).mediators u.mediator = _ :=
            Lifecycle.mediators_after_other own x₁ l₁ none
          rw [ite_self] at other
          rw [other]
          rfl
      unfold visitsLeft
      split
      · exact (same _).le
      · exact le_rfl

end Lessens

section Steady

/-- A call that is past its `ExchangeDeclare` has a topology to declare. -/
def ReceiverRun.Addressed (mediator : Mediator) (run : ReceiverRun) : Prop :=
  run.control = .adding ∨ (∃ operation, run.control = .performing operation ∧ operation.left ≤ 4) →
    ∃ p, receiverOf mediator run.sentObjectType = .ok p

/-- What the loops of a teardown have started with is still in the tables. -/
def Teardown.Listed (l : MediatorLife) : Teardown → Prop
  | .cancelling started _ | .basicCancel _ _ started _ =>
    ∀ name ∈ started, (l.consumerTags.lookup name).isSome = true
  | .deleting started _ | .queueDelete _ started _ => ∀ name ∈ started, (l.ownedQueues.lookup name).isSome = true
  | _ => True

structure MediatorLife.TablesGrow (l l' : MediatorLife) : Prop where
  consumerTags : ∀ name, (l.consumerTags.lookup name).isSome = true → (l'.consumerTags.lookup name).isSome = true
  ownedQueues : ∀ name, (l.ownedQueues.lookup name).isSome = true → (l'.ownedQueues.lookup name).isSome = true

variable {hosts : Hosts} {m : MediatorRef} {x x' : MultiplexerLife} {l l' : MediatorLife} {e : Event}
  {closes : Option ReceiveChannel} {s s' : Lifecycle} {t t' : MediatorThread}

theorem MediatorLife.Keeps.tablesGrow (h : l.Keeps l') : l.TablesGrow l' := by
  constructor
  · intro name old
    rwa [h.consumerTags]
  · intro name old
    rwa [h.ownedQueues]

theorem MediatorLife.TablesGrow.trans {k : MediatorLife} (h : k.TablesGrow l) (h' : l.TablesGrow l') :
    k.TablesGrow l' :=
  ⟨fun name old => h'.consumerTags name (h.consumerTags name old),
    fun name old => h'.ownedQueues name (h.ownedQueues name old)⟩

theorem ReceiverRun.Records.tablesGrow {mediator : Mediator} {run : ReceiverRun} (h : run.Records mediator l l') :
    l.TablesGrow l' := by
  refine ⟨fun name old => ?_, fun name old => h.ownedQueues old⟩
  cases h with
  | nothing consumerTags => rwa [consumerTags]
  | declares | consumes => exact old
  | owns =>
    simp only [remember]
    split <;> exact old
  | lists => exact ConcurrentDictionary.isSome_tryAdd (Or.inr old)

theorem Activity.Seen.tablesGrow {closed : ReceiveChannel → Bool} {a a' : Activity}
    (h : Activity.Seen hosts m closed l a e l' a' closes) : l.TablesGrow l' := by
  cases h with
  | run _ _ step => exact step.records.tablesGrow
  | teardown step => exact step.keeps.1.tablesGrow
  | aside _ _ _ keeps => exact keeps.tablesGrow

theorem MediatorThread.tablesGrow (h : t.next hosts s e = some (s', t')) (m : MediatorRef) :
    (s.mediators m).TablesGrow (s'.mediators m) := by
  by_cases own : t.mediator = m
  · obtain ⟨_, l, closes, hl, seen⟩ := next_own h own
    rw [hl]
    exact seen.tablesGrow.trans (l.keeps_closing closes).tablesGrow
  · obtain ⟨_, closes, hl, _⟩ := next_other h own
    rw [hl]
    exact ((s.mediators m).keeps_closing closes).tablesGrow

theorem Teardown.Listed.grow {td : Teardown} (h : td.Listed l) (grow : l.TablesGrow l') : td.Listed l' := by
  cases td with
  | cancelling | basicCancel => exact fun name hn => grow.consumerTags name (h name hn)
  | deleting | queueDelete => exact fun name hn => grow.ownedQueues name (h name hn)
  | _ => trivial

theorem Teardown.Step.listed {td td' : Teardown} (h : Teardown.Step hosts m x l td e x' l' td')
    (listed : td.Listed l) : td'.Listed l' := by
  have keys {table : ConcurrentDictionary String ReceiveChannel} :
      ∀ name ∈ table.keys, (table.lookup name).isSome = true := fun _ hn => AList.lookup_isSome.mpr hn
  cases h with
  | forgot | cancelledAll => exact keys
  | visited | met | cancelled | deleted => exact listed
  | entered | gone | deletedAll | gaveUp => trivial

theorem ReceiverRun.Step.addressed {closed : ReceiveChannel → Bool} {run run' : ReceiverRun}
    (h : run.Step hosts m closed l e l' run' closes) (before : run.Addressed (hosts.mediator m)) :
    run'.Addressed (hosts.mediator m) := by
  have outside {control : EnsureReceiver} (out : (run.goesTo control).inside = false) :
      (run.goesTo control).Addressed (hosts.mediator m) := by
    rintro (here | ⟨operation, here, _⟩) <;> simp [inside, here] at out
  cases h with
  | outside _ out => exact outside out
  | failed | refused | released => exact outside rfl
  | acquired | found | listed => rintro (here | ⟨_, here, _⟩) <;> cases here
  | began =>
    rintro (here | ⟨_, here, near⟩) <;> cases here
    simp [ReceiverOperation.left] at near
  | took _ _ receiver => exact fun _ => ⟨_, receiver⟩
  | proceeded _ _ _ _ receiver => exact fun _ => ⟨_, receiver⟩
  | @prepared operation next _ quiet after =>
    rintro (here | ⟨_, here, near⟩) <;> cases here
    cases operation with
    | addTypeIfMissing | topologyChannel =>
      cases after
      simp [ReceiverOperation.left] at near
    | registered => cases after
    | _ => cases quiet
  | registered control =>
    exact fun _ => before (Or.inr ⟨_, control, by decide⟩)

theorem steady_sound (hosts : Hosts) (m : MediatorRef) :
    Sound (lifecycle hosts) (fun _ _ _ _ => True) (fun _ => True)
      (fun s _ t => t.mediator = m → (∀ run, t.activity.run? = some run → run.Addressed (hosts.mediator m)) ∧
        ∀ td, t.activity = .teardown td → td.Listed (s.mediators m))
      (fun _ s s' => (s.mediators m).TablesGrow (s'.mediators m)) := by
  refine ⟨?_, ?_, ?_⟩
  · intro s i t _ hs _
    refine ⟨fun run hr => ?_, fun td ht => ?_⟩
    · rw [Activity.run?_of_start hs hr]
      rintro (here | ⟨_, here, _⟩) <;> cases here
    · replace hs : t.activity.start = true := hs
      rw [ht] at hs
      cases td <;> trivial
  · intro s s' i t t' e _ before _ hn
    refine ⟨trivial, fun own' => ?_, MediatorThread.tablesGrow hn m⟩
    have own : t.mediator = m := by
      by_contra other
      exact (MediatorThread.next_other hn other).1 own'
    obtain ⟨addressed, listed⟩ := before own
    obtain ⟨_, l, closes, hl, seen⟩ := MediatorThread.next_own hn own
    rw [hl]
    generalize t.activity = a at addressed listed seen
    generalize t'.activity = a' at seen
    cases seen with
    | run before after step =>
      refine ⟨fun run hr => ?_, fun td ht => ?_⟩
      · cases after.symm.trans hr
        exact step.addressed (addressed _ before)
      · subst ht
        cases after
    | teardown step =>
      refine ⟨fun run hr => (by cases hr), fun td ht => ?_⟩
      cases ht
      exact step.listed (listed _ rfl)
    | aside _ after other =>
      refine ⟨fun run hr => ?_, fun td ht => absurd ht (other td)⟩
      obtain ⟨_, rfl⟩ := after run hr
      rintro (here | ⟨_, here, _⟩) <;> cases here
  · intro s s' i j u _ grow _ before own
    obtain ⟨addressed, listed⟩ := before own
    exact ⟨addressed, fun td ht => (listed td ht).grow grow⟩

theorem steady_of_reachable {allowed : Config Lifecycle MediatorThread → Action MediatorThread Event → Prop}
    {init : Lifecycle} {c : Config Lifecycle MediatorThread} {i : Nat}
    (h : ReachableWhere (lifecycle hosts) allowed ⟨init, []⟩ c) (ht : c.pool[i]? = some t) :
    (∀ run, t.activity.run? = some run → run.Addressed (hosts.mediator t.mediator)) ∧
      ∀ td, t.activity = .teardown td → td.Listed (c.shared.mediators t.mediator) :=
  ((steady_sound hosts t.mediator).always trivial rfl h).2 i t ht rfl

end Steady

section Ends

/-- The call has returned or thrown. A `Request` or `Send` is past `EnsureConfigured` by then. -/
def Activity.ended : Activity → Bool
  | .call c => match c.phase with
    | .proceeding | .returned | .threw _ => true
    | _ => false
  | .receiver run => match run.control with
    | .returned | .threw _ => true
    | _ => false
  | .teardown td => match td with
    | .ended => true
    | _ => false
  | .delivery d => match d.handling with
    | .settled _ => true
    | _ => false

/-- The broker cannot carry out the command that the call awaits. -/
def ReceiverRun.Refused (mediator : Mediator) (closed : ReceiveChannel → Bool) (l : MediatorLife) (run : ReceiverRun) :
    Prop :=
  ∃ operation p, run.control = .performing operation ∧ operation.atBroker = true ∧ run.taken = false ∧
    receiverOf mediator run.sentObjectType = .ok p ∧
    command mediator closed l.topology run.sentObjectType p operation = none

def Event.fails : Event → Bool
  | .ended (.error _) | .refused _ => true
  | _ => false

/-- Nothing fails that need not, and nobody gives up waiting: an awaited operation fails only where it is a
command the broker cannot carry out. -/
def Served (hosts : Hosts) (s : Lifecycle) (_ : Nat) (t : MediatorThread) (e : Event) : Prop :=
  e.fails = true → ∃ run, t.activity.run? = some run ∧ run.Refused (hosts.mediator t.mediator)
    (s.multiplexers t.mediator.multiplexer).closed (s.mediators t.mediator)

/-- The call can take such a step. -/
def ReceiverRun.Moves (hosts : Hosts) (m : MediatorRef) (closed : ReceiveChannel → Bool) (l : MediatorLife)
    (run : ReceiverRun) : Prop :=
  ∃ e : Event, (e.fails = true → run.Refused (hosts.mediator m) closed l) ∧ (run.next hosts m closed l e).isSome = true

/-- The locks of a mediator: `_configureLock`, and `EnsureReceiverSemaphore` which is taken inside it. -/
inductive MediatorLock
  | configureLock (m : MediatorRef)
  | ensureReceiverSemaphore (m : MediatorRef)

def MediatorLock.lock : MediatorLock → Lock Lifecycle MediatorThread
  | .configureLock m => mediatorConfigureLock m
  | .ensureReceiverSemaphore m => semaphore m

def MediatorLock.depth : MediatorLock → Nat
  | .configureLock _ => 1
  | .ensureReceiverSemaphore _ => 0

/-- The lock a thread is waiting for. -/
def MediatorThread.waits (t : MediatorThread) : Option MediatorLock :=
  match t.activity.run? with
  | some run => match run.control with
    | .acquiring => some (.ensureReceiverSemaphore t.mediator)
    | _ => none
  | none => match t.activity with
    | .call ⟨_, .acquiring⟩ => some (.configureLock t.mediator)
    | _ => none

variable {hosts : Hosts} {m : MediatorRef} {x : MultiplexerLife} {l : MediatorLife}
  {closed : ReceiveChannel → Bool} {run : ReceiverRun} {e : Event}

theorem ReceiverRun.isSome_follow {o : Occurrence}
    (h : (run.control.next hosts m run.sentObjectType l.toMediatorState o).isSome = true) :
    (run.follow hosts m l o).isSome = true := by
  unfold follow
  rw [Option.isSome_map]
  exact h

/-- An awaited operation can end either way. -/
theorem ReceiverRun.isSome_follow_performing {operation : ReceiverOperation} {outcome : Except Exception Unit}
    (before : run.control = .performing operation) : (run.follow hosts m l (.ended outcome)).isSome = true := by
  apply isSome_follow
  rw [before]
  cases outcome <;> rfl

theorem ReceiverRun.next_performing {operation : ReceiverOperation} (before : run.control = .performing operation) :
    run.next hosts m closed l e = run.perform hosts m closed l operation e := by
  unfold next
  rw [before]

theorem ReceiverRun.next_adding {p : ReceiveTopology} (before : run.control = .adding)
    (receiver : receiverOf (hosts.mediator m) run.sentObjectType = .ok p) :
    run.next hosts m closed l .go =
      (run.follow hosts m (list (hosts.mediator m) l run.sentObjectType p) .go).map fun r => (r.1, r.2, none) := by
  unfold next
  rw [before]
  dsimp only
  rw [receiver]

/-- A command is carried out, and then the call learns of it; or it is refused. -/
theorem ReceiverRun.performs {operation : ReceiverOperation} {p : ReceiveTopology}
    (before : run.control = .performing operation) (receiver : receiverOf (hosts.mediator m) run.sentObjectType = .ok p) :
    run.Moves hosts m closed l := by
  cases quiet : operation.atBroker && !run.taken with
  | false =>
    refine ⟨.ended (.ok ()), nofun, ?_⟩
    rw [next_performing before]
    unfold perform
    rw [receiver]
    dsimp only
    rw [quiet, if_neg Bool.false_ne_true, Option.isSome_map]
    exact isSome_follow_performing before
  | true =>
    obtain ⟨atBroker, untaken⟩ := Bool.and_eq_true_iff.mp quiet
    replace untaken : run.taken = false := by simpa using untaken
    cases done : command (hosts.mediator m) closed l.topology run.sentObjectType p operation with
    | some b =>
      refine ⟨.took, nofun, ?_⟩
      rw [next_performing before]
      unfold perform
      rw [receiver]
      dsimp only
      rw [untaken, if_neg Bool.false_ne_true, Option.isSome_map, done]
      rfl
    | none =>
      refine ⟨.ended (.error objectDisposed), fun _ => ⟨operation, p, before, atBroker, untaken, receiver, done⟩, ?_⟩
      have last : operation ≠ .registered := by
        rintro rfl
        cases atBroker
      rw [next_performing before]
      unfold perform
      dsimp only
      rw [if_neg last, Option.isSome_map]
      exact isSome_follow_performing before

/-- Past the wait for the semaphore a call of `EnsureReceiver` can always go on. -/
theorem ReceiverRun.onward (addressed : run.Addressed (hosts.mediator m)) (waits : run.control ≠ .acquiring)
    (open_ : (Activity.receiver run).ended = false) : run.Moves hosts m closed l := by
  obtain ⟨sentObjectType, control, taken⟩ := run
  have goes (h : (next hosts m closed l ⟨sentObjectType, control, taken⟩ .go).isSome = true) :
      Moves hosts m closed l ⟨sentObjectType, control, taken⟩ :=
    ⟨.go, by simp [Event.fails], h⟩
  cases control with
  | acquiring => exact absurd rfl waits
  | returned | threw => cases open_
  | entered =>
    apply goes
    show (Option.map _ (follow hosts m l ⟨sentObjectType, .entered, taken⟩ .go)).isSome = true
    rw [Option.isSome_map]
    apply isSome_follow
    show (if l.disposed = true then some _ else _).isSome = true
    cases l.disposed with
    | true => rfl
    | false => cases RabbitNaming.typeName sentObjectType <;> rfl
  | looking | checking | rechecking | releasing => exact goes rfl
  | adding =>
    obtain ⟨p, receiver⟩ := addressed (Or.inl rfl)
    apply goes
    rw [next_adding rfl receiver, Option.isSome_map]
    exact isSome_follow rfl
  | performing operation =>
    cases receiver : receiverOf (hosts.mediator m) sentObjectType with
    | ok p => exact performs rfl receiver
    | error exception =>
      cases operation with
      | addTypeIfMissing | topologyChannel | registered =>
        refine ⟨.ended (.ok ()), by simp [Event.fails], ?_⟩
        rw [next_performing rfl]
        unfold perform
        rw [receiver]
        rfl
      | exchangeDeclare =>
        apply goes
        rw [next_performing rfl]
        unfold perform
        rw [receiver]
        rfl
      | queueDeclare | queueBind | basicConsume =>
        -- the exchange was declared before
        obtain ⟨p, other⟩ := addressed (Or.inr ⟨_, rfl, by decide⟩)
        cases receiver.symm.trans other

theorem ReceiverRun.acquires (control : run.control = .acquiring) (untaken : l.semaphoreTaken = false) :
    run.Moves hosts m closed l := by
  refine ⟨.ended (.ok ()), nofun, ?_⟩
  obtain ⟨sentObjectType, _, taken⟩ := run
  cases control
  show (Option.map _ (follow hosts m l ⟨sentObjectType, .acquiring, taken⟩ (.ended (.ok ())))).isSome = true
  rw [Option.isSome_map]
  apply isSome_follow
  show (if l.semaphoreTaken = true then none else some _).isSome = true
  rw [untaken]
  rfl

/-- The thread can take a step at which nothing fails that need not. -/
def MediatorThread.Moves (hosts : Hosts) (s : Lifecycle) (t : MediatorThread) : Prop :=
  ∃ e, Served hosts s 0 t e ∧ (t.next hosts s e).isSome = true

variable {s : Lifecycle} {t : MediatorThread}

theorem MediatorThread.isSome_next :
    (t.next hosts s e).isSome = (t.activity.next hosts t.mediator (s.multiplexers t.mediator.multiplexer)
      (s.mediators t.mediator) e).isSome := by
  simp only [next, Option.isSome_map]

/-- A thread in `EnsureReceiver` moves as the call does. -/
theorem MediatorThread.moves_of_run (hr : t.activity.run? = some run)
    (moves : run.Moves hosts t.mediator (s.multiplexers t.mediator.multiplexer).closed (s.mediators t.mediator)) :
    t.Moves hosts s := by
  obtain ⟨e, served, some⟩ := moves
  refine ⟨e, fun fails => ⟨run, hr, served fails⟩, ?_⟩
  rw [isSome_next]
  generalize t.activity = a at hr
  cases a with
  | receiver r =>
    cases hr
    exact Option.isSome_map.trans some
  | call call =>
    obtain ⟨caller, phase⟩ := call
    cases phase with
    | ensuring r remaining =>
      cases hr
      apply Option.isSome_map.trans
      show (MediatorCall.ensure hosts _ _ _ ⟨caller, .ensuring run remaining⟩ run remaining e).isSome = true
      unfold MediatorCall.ensure
      split
      next => rfl
      next => rfl
      next => exact Option.isSome_map.trans some
    | _ => cases hr
  | _ => cases hr

theorem Delivery.moves {d : Delivery} (open_ : (Activity.delivery d).ended = false) :
    ∃ e : Event, e.fails = false ∧ (d.next hosts m x l e).isSome = true := by
  obtain ⟨channel, deliveryTag, phase⟩ := d
  cases phase with
  | received => exact ⟨.go, rfl, rfl⟩
  | delaying => exact ⟨.handled (testEnvironment (.request testRequest)), rfl, rfl⟩
  | handling => exact ⟨.handled (testEnvironment (.request testRequest)), rfl, rfl⟩
  | settled => cases open_

theorem Teardown.moves {td : Teardown} (listed : td.Listed l) (open_ : (Activity.teardown td).ended = false) :
    ∃ e : Event, e.fails = false ∧ (td.next hosts m x l e).isSome = true := by
  cases td with
  | entered => exact ⟨.go, rfl, rfl⟩
  | forgetting =>
    refine ⟨.go, rfl, ?_⟩
    show (if l.registered = true then some _ else some _).isSome = true
    cases l.registered <;> rfl
  | cancelling started met =>
    -- either all of the table has been visited, or there is an entry left
    cases all : started.all fun name => name ∈ met with
    | true =>
      refine ⟨.visited none, rfl, ?_⟩
      show (if (started.all fun name => name ∈ met) = true then some _ else none).isSome = true
      rw [if_pos all]
      rfl
    | false =>
      obtain ⟨name, hn, new⟩ := List.all_eq_false.mp all
      obtain ⟨channel, found⟩ := Option.isSome_iff_exists.mp (listed name hn)
      refine ⟨.visited (some name), rfl, ?_⟩
      unfold next
      dsimp only
      rw [found]
      dsimp only
      rw [if_neg (by simpa using new)]
      rfl
  | basicCancel => exact ⟨.ended (.ok ()), rfl, rfl⟩
  | deleting started met =>
    cases all : started.all fun name => name ∈ met with
    | true =>
      refine ⟨.visited none, rfl, ?_⟩
      show (if (started.all fun name => name ∈ met) = true then some _ else none).isSome = true
      rw [if_pos all]
      rfl
    | false =>
      obtain ⟨name, hn, new⟩ := List.all_eq_false.mp all
      obtain ⟨channel, found⟩ := Option.isSome_iff_exists.mp (listed name hn)
      refine ⟨.visited (some name), rfl, ?_⟩
      show (if ((l.ownedQueues.lookup name).isNone || name ∈ met) = true then none else some _).isSome = true
      rw [found, if_neg (by simpa using new)]
      rfl
  | queueDelete => exact ⟨.ended (.ok ()), rfl, rfl⟩
  | ended => cases open_

/-- Outside of `EnsureReceiver` a call of `EnsureConfigured` waits for its lock only. -/
theorem MediatorCall.moves {call : MediatorCall} (idle : call.run? = none) (open_ : (Activity.call call).ended = false)
    (free : call.phase = .acquiring → l.configureLocked = false) :
    ∃ e : Event, e.fails = false ∧ (call.next hosts m x l e).isSome = true := by
  obtain ⟨caller, phase⟩ := call
  cases phase with
  | acquiring =>
    refine ⟨.go, rfl, ?_⟩
    show (if l.configureLocked = true then none else some _).isSome = true
    rw [free rfl]
    rfl
  | connecting => exact ⟨.ended (.ok ()), rfl, rfl⟩
  | configuring remaining => cases remaining <;> exact ⟨.go, rfl, rfl⟩
  | ensuring => cases idle
  | proceeding | returned | threw => cases open_
  | _ => exact ⟨.go, rfl, rfl⟩

theorem MediatorThread.moves_of_quiet
    (h : ∃ e : Event, e.fails = false ∧ (t.activity.next hosts t.mediator (s.multiplexers t.mediator.multiplexer)
      (s.mediators t.mediator) e).isSome = true) : t.Moves hosts s := by
  obtain ⟨e, quiet, some⟩ := h
  refine ⟨e, fun fails => ?_, isSome_next.trans some⟩
  rw [quiet] at fails
  cases fails

theorem inside_mediatorConfigureLock : (mediatorConfigureLock m).inside t = true ↔
    t.mediator = m ∧ ∃ call, t.activity = .call call ∧ call.inside = true := by
  obtain ⟨k, a⟩ := t
  cases a <;> simp [mediatorConfigureLock, mediatorLock]

/-- `EnsureReceiverSemaphore` is the inner one of the two locks. -/
theorem MediatorThread.lockOrder : LockOrder MediatorLock.lock (fun j k => j.depth < k.depth) waits := by
  refine ⟨(measure MediatorLock.depth).wf, fun {t k j} inside hw => ?_⟩
  unfold waits at hw
  cases k with
  | configureLock m =>
    obtain ⟨_, call, ha, within⟩ := inside_mediatorConfigureLock.mp inside
    split at hw
    next =>
      split at hw <;> cases hw
      exact Nat.zero_lt_one
    next =>
      -- who waits for the lock is not inside
      split at hw
      next caller he =>
        cases ha.symm.trans he
        cases within
      next => cases hw
  | ensureReceiverSemaphore m =>
    obtain ⟨_, run, hr, within⟩ := inside_semaphore.mp inside
    rw [hr] at hw
    dsimp only at hw
    split at hw
    next control =>
      rw [ReceiverRun.inside, control] at within
      cases within
    next => cases hw

theorem MediatorThread.open_of_inside {k : MediatorLock} (inside : k.lock.inside t = true) : t.activity.ended = false := by
  cases k with
  | configureLock m =>
    obtain ⟨_, call, ha, within⟩ := inside_mediatorConfigureLock.mp inside
    rw [ha]
    obtain ⟨caller, phase⟩ := call
    cases phase <;> first | rfl | cases within
  | ensureReceiverSemaphore m =>
    obtain ⟨_, run, hr, within⟩ := inside_semaphore.mp inside
    generalize t.activity = a at hr
    cases a with
    | receiver r =>
      cases hr
      obtain ⟨sentObjectType, control, taken⟩ := run
      cases control <;> first | rfl | cases within
    | call call =>
      obtain ⟨caller, phase⟩ := call
      cases phase <;> first | rfl | cases hr
    | _ => cases hr

theorem MediatorThread.moves_of_free {k : MediatorLock} (hw : t.waits = some k) (untaken : k.lock.taken s = false) :
    t.Moves hosts s := by
  unfold waits at hw
  split at hw
  next run hr =>
    split at hw
    next control =>
      cases hw
      exact moves_of_run hr (ReceiverRun.acquires control untaken)
    next => cases hw
  next =>
    split at hw
    next ha =>
      cases hw
      apply moves_of_quiet
      rw [ha]
      replace untaken : (s.mediators t.mediator).configureLocked = false := untaken
      refine ⟨.go, rfl, ?_⟩
      apply Option.isSome_map.trans
      show (if (s.mediators t.mediator).configureLocked = true then none else some _).isSome = true
      rw [untaken]
      rfl
    next => cases hw

/-- `ConfigureAllReceivers` goes on when its `EnsureReceiver` has ended. -/
theorem MediatorThread.moves_of_ended (hr : t.activity.run? = some run) (ended : (Activity.receiver run).ended = true)
    (open_ : t.activity.ended = false) : t.Moves hosts s := by
  apply moves_of_quiet
  refine ⟨.go, rfl, ?_⟩
  generalize t.activity = a at hr open_
  cases a with
  | call call =>
    obtain ⟨caller, phase⟩ := call
    cases phase with
    | ensuring r remaining =>
      cases hr
      obtain ⟨sentObjectType, control, taken⟩ := run
      cases control <;> first | rfl | cases ended
    | _ => cases hr
  | receiver r =>
    cases hr
    rw [ended] at open_
    cases open_
  | _ => cases hr

theorem MediatorThread.moves_of_unlocked
    (addressed : ∀ run, t.activity.run? = some run → run.Addressed (hosts.mediator t.mediator))
    (listed : ∀ td, t.activity = .teardown td → td.Listed (s.mediators t.mediator)) (hw : t.waits = none)
    (open_ : t.activity.ended = false) : t.Moves hosts s := by
  cases hr : t.activity.run? with
  | some run =>
    have waits : run.control ≠ .acquiring := by
      intro control
      simp [MediatorThread.waits, hr, control] at hw
    cases ended : (Activity.receiver run).ended with
    | true => exact moves_of_ended hr ended open_
    | false => exact moves_of_run hr (ReceiverRun.onward (addressed run hr) waits ended)
  | none =>
    apply moves_of_quiet
    unfold MediatorThread.waits at hw
    generalize t.activity = a at hr hw open_ listed
    cases a with
    | call call =>
      have waits : call.phase ≠ .acquiring := by
        obtain ⟨caller, phase⟩ := call
        rintro rfl
        cases hw
      obtain ⟨e, quiet, some⟩ : ∃ e : Event, e.fails = false ∧ (call.next hosts t.mediator
          (s.multiplexers t.mediator.multiplexer) (s.mediators t.mediator) e).isSome = true :=
        MediatorCall.moves hr open_ fun h => absurd h waits
      exact ⟨e, quiet, Option.isSome_map.trans some⟩
    | receiver => cases hr
    | teardown td =>
      obtain ⟨e, quiet, some⟩ : ∃ e : Event, e.fails = false ∧ (td.next hosts t.mediator
          (s.multiplexers t.mediator.multiplexer) (s.mediators t.mediator) e).isSome = true :=
        Teardown.moves (listed td rfl) open_
      exact ⟨e, quiet, Option.isSome_map.trans some⟩
    | delivery d =>
      obtain ⟨e, quiet, some⟩ : ∃ e : Event, e.fails = false ∧ (d.next hosts t.mediator
          (s.multiplexers t.mediator.multiplexer) (s.mediators t.mediator) e).isSome = true :=
        Delivery.moves open_
      exact ⟨e, quiet, Option.isSome_map.trans some⟩

/-- All calls have ended, and no lock is taken. -/
structure AllEnded (c : Config Lifecycle MediatorThread) : Prop where
  ended : ∀ (i : Nat) (t : MediatorThread), c.pool[i]? = some t → t.activity.ended = true
  configureLocked : ∀ m, (c.shared.mediators m).configureLocked = false
  semaphoreTaken : ∀ m, (c.shared.mediators m).semaphoreTaken = false

theorem MediatorLock.held {allowed : Config Lifecycle MediatorThread → Action MediatorThread Event → Prop}
    {configuration : MediatorRef → RabbitMultiplexerMediatorConfiguration} {c : Config Lifecycle MediatorThread}
    (h : ReachableWhere (lifecycle hosts) allowed ⟨.created configuration, []⟩ c) (k : MediatorLock) :
    k.lock.Held c := by
  cases k with
  | configureLock m => exact (mediatorConfigureLock_guards hosts m).held rfl rfl h
  | ensureReceiverSemaphore m => exact (semaphore_guards hosts m).held rfl rfl h

/-- From every state that a run reaches, all calls of `EnsureConfigured`, `EnsureReceiver` and `DisposeAsync`
and all deliveries come to their end, in whatever order they move and whatever fails. Until then one of them
can move, without anything failing that the broker could do, and no lock stays taken. -/
theorem calls_end {configuration : MediatorRef → RabbitMultiplexerMediatorConfiguration}
    {c : Config Lifecycle MediatorThread} (h : Reachable (lifecycle hosts) ⟨.created configuration, []⟩ c) :
    Inevitable (lifecycle hosts) (fun _ _ => True) (Served hosts) AllEnded c := by
  refine inevitable_of_lessens MediatorThread.callLeft MediatorThread.visitsLeft
    (fun _ _ hn => MediatorThread.lessens hn) ?_ h
  intro c hc unended
  have held := MediatorLock.held hc
  have moves {t : MediatorThread} (i : Nat) (h : t.Moves hosts c.shared) :
      CanMove (lifecycle hosts) (fun _ _ => True) (Served hosts) c i t := by
    obtain ⟨e, served, some⟩ := h
    exact ⟨e, trivial, served, some⟩
  have onward {i : Nat} {t : MediatorThread} (ht : c.pool[i]? = some t) (hw : t.waits = none)
      (open_ : t.activity.ended = false) : CanMove (lifecycle hosts) (fun _ _ => True) (Served hosts) c i t := by
    obtain ⟨addressed, listed⟩ := steady_of_reachable hc ht
    exact moves i (MediatorThread.moves_of_unlocked addressed listed hw open_)
  have able {i : Nat} {t : MediatorThread} (ht : c.pool[i]? = some t) (open_ : t.activity.ended = false) :
      Able (lifecycle hosts) (fun _ _ => True) (Served hosts) c := by
    cases hw : t.waits with
    | none => exact ⟨i, t, ht, onward ht hw open_⟩
    | some k =>
      apply MediatorThread.lockOrder.able held ?_ ?_ ht hw
      · intro i t k _ hw untaken
        exact moves i (MediatorThread.moves_of_free hw untaken)
      · intro i t k ht hw inside
        exact onward ht hw (MediatorThread.open_of_inside inside)
  by_contra stuck
  have ended : ∀ (i : Nat) (t : MediatorThread), c.pool[i]? = some t → t.activity.ended = true := by
    intro i t ht
    by_contra open_
    exact stuck (able ht (by simpa using open_))
  have untaken (k : MediatorLock) : k.lock.taken c.shared = false := by
    apply (held k).elim id
    intro i t ht inside
    have open_ := MediatorThread.open_of_inside inside
    exact absurd ((ended i t ht).symm.trans open_) (by simp)
  exact unended ⟨ended, fun m => untaken (.configureLock m), fun m => untaken (.ensureReceiverSemaphore m)⟩

/-- One call has both locks, another one waits, and the mediator is being disposed. -/
def testContended : List (Action MediatorThread Event) :=
  testConfigureCall 0 [.go, .go, .go, .ended (.ok ()), .go, .go, .go, .go, .go, .go, .ended (.ok ())] ++
    testConfigureCall 1 [.go] ++ testTeardown 2 [.go]

theorem testContended_ends :
    ∃ c, (lifecycle testHosts).run (fun _ _ => true) ⟨.created fun _ => testMediatorConfiguration, []⟩ testContended =
        some c ∧
      (c.shared.mediators ⟨0, 0⟩).configureLocked = true ∧ (c.shared.mediators ⟨0, 0⟩).semaphoreTaken = true ∧
      (c.pool.all fun t => !t.activity.ended) = true ∧
      Inevitable (lifecycle testHosts) (fun _ _ => True) (Served testHosts) AllEnded c := by
  have h : ((lifecycle testHosts).run (fun _ _ => true) ⟨.created fun _ => testMediatorConfiguration, []⟩
      testContended).any (fun c => (c.shared.mediators ⟨0, 0⟩).configureLocked &&
        (c.shared.mediators ⟨0, 0⟩).semaphoreTaken && c.pool.all fun t => !t.activity.ended) = true := by decide +kernel
  obtain ⟨c, hc, facts⟩ := (Option.any_eq_true _ _).mp h
  obtain ⟨locks, unended⟩ := Bool.and_eq_true_iff.mp facts
  obtain ⟨configureLocked, semaphoreTaken⟩ := Bool.and_eq_true_iff.mp locks
  exact ⟨c, hc, configureLocked, semaphoreTaken, unended, calls_end (.of_run .start (fun _ _ _ => trivial) hc)⟩

end Ends
end RabbitMediator
