import RabbitMediator.Lifecycle
import RabbitMediator.Mutex

namespace RabbitMediator

open Interleaving

/-- A mediator when the broker has closed a channel of its multiplexer. -/
def MediatorLife.closing (l : MediatorLife) : Option ReceiveChannel → MediatorLife
  | none => l
  | some channel => { l with topology := l.topology.closeChannel channel }

def MultiplexerLife.closing (x : MultiplexerLife) : Option ReceiveChannel → MultiplexerLife
  | none => x
  | some channel => { x with closed := Function.update x.closed channel true }

/-- The fields that only calls of `EnsureReceiver` write are as they were. -/
structure MediatorLife.Keeps (l l' : MediatorLife) : Prop where
  registeredConsumerTypes : l'.registeredConsumerTypes = l.registeredConsumerTypes
  semaphoreTaken : l'.semaphoreTaken = l.semaphoreTaken
  ownedQueues : l'.ownedQueues = l.ownedQueues
  queueToExchangeBindings : l'.queueToExchangeBindings = l.queueToExchangeBindings
  consumerTags : l'.consumerTags = l.consumerTags

theorem MediatorLife.Keeps.trans {l l' l'' : MediatorLife} (h : l.Keeps l') (h' : l'.Keeps l'') : l.Keeps l'' :=
  ⟨h'.registeredConsumerTypes.trans h.registeredConsumerTypes, h'.semaphoreTaken.trans h.semaphoreTaken,
    h'.ownedQueues.trans h.ownedQueues, h'.queueToExchangeBindings.trans h.queueToExchangeBindings,
    h'.consumerTags.trans h.consumerTags⟩

theorem MediatorLife.keeps_closing (l : MediatorLife) (closes : Option ReceiveChannel) :
    l.Keeps (l.closing closes) := by
  cases closes <;> exact ⟨rfl, rfl, rfl, rfl, rfl⟩

/-- A step as a call of `EnsureReceiver` of the same mediator sees it. -/
inductive Activity.Seen (hosts : Hosts) (m : MediatorRef) (closed : ReceiveChannel → Bool)
    (l : MediatorLife) :
    Activity → Event → MediatorLife → Activity → Option ReceiveChannel → Prop
  | run {a e l' a' closes run run'} (before : a.run? = some run) (after : a'.run? = some run')
      (h : run.Step hosts m closed l e l' run' closes) : Seen hosts m closed l a e l' a' closes
  | teardown {t e x x' l' t'} (h : Teardown.Step hosts m x l t e x' l' t') :
      Seen hosts m closed l (.teardown t) e l' (.teardown t') none
  | aside {a e l' a'} (before : ∀ run, a.run? = some run → run.control = .returned ∨ ∃ e, run.control = .threw e)
      (after : ∀ run, a'.run? = some run → ∃ s, run = .entered s) (other : ∀ t, a' ≠ .teardown t)
      (keeps : l.Keeps l')
      (topology : l'.topology = l.topology) (disposed : l'.disposed = l.disposed)
      (registered : l'.registered = l.registered) : Seen hosts m closed l a e l' a' none

section Seen

variable {hosts : Hosts} {m : MediatorRef} {x x' : MultiplexerLife} {l l' : MediatorLife} {e : Event}
  {closes : Option ReceiveChannel}

/-- A thread starts outside of `EnsureReceiver`, or at its very beginning. -/
theorem Activity.run?_of_start {a : Activity} {run : ReceiverRun} (h : a.start = true)
    (hr : a.run? = some run) : run = .entered run.sentObjectType := by
  cases a with
  | call c =>
    obtain ⟨caller, phase⟩ := c
    cases phase with
    | ensuring => cases h
    | _ => cases hr
  | receiver r =>
    cases hr
    obtain ⟨sentObjectType, control, taken⟩ := run
    cases control <;> first | cases h | skip
    cases taken with
    | false => rfl
    | true => cases h
  | teardown => cases hr
  | delivery => cases hr

theorem MediatorCall.run?_configured (call : MediatorCall) : call.configured.run? = none := by
  unfold configured
  split <;> rfl

theorem MediatorCall.Step.seen {call call' : MediatorCall}
    (h : call.Step hosts m x l e x' l' call' closes) :
    Activity.Seen hosts m x.closed l (.call call) e l' (.call call') closes := by
  have none_of : ∀ {a : Activity} {p : ReceiverRun → Prop}, a.run? = none →
      ∀ run, a.run? = some run → p run := by
    intro a p none run hr
    rw [none] at hr
    cases hr
  have idle : ∀ {phase : EnsureConfigured}, call.phase = phase →
      (∀ run remaining, phase ≠ .ensuring run remaining) → (Activity.call call).run? = none := by
    intro phase hc other
    simp only [Activity.run?, run?]
    split
    next hr => exact absurd (hc.symm.trans hr) (other _ _)
    next => rfl
  have keeps : l.Keeps l := ⟨rfl, rfl, rfl, rfl, rfl⟩
  cases h with
  | ensured before h =>
    exact .run (by simp [Activity.run?, run?, before]) (by simp [Activity.run?, run?, goesTo]) h
  | mapped before =>
    exact .aside (none_of (idle before (by simp))) (fun run hr => ⟨_, (Option.some.inj hr).symm⟩) (by simp)
      ⟨rfl, rfl, rfl, rfl, rfl⟩ rfl rfl rfl
  | continued before done =>
    refine .aside (fun run hr => Or.inl ?_) (none_of (by rfl)) (by simp) keeps rfl rfl rfl
    simp only [Activity.run?, run?, before, Option.some.injEq] at hr
    exact hr ▸ done
  | failed before done =>
    refine .aside (fun run hr => Or.inr ?_) (none_of (by rfl)) (by simp) keeps rfl rfl rfl
    simp only [Activity.run?, run?, before, Option.some.injEq] at hr
    exact ⟨_, hr ▸ done⟩
  | passed before =>
    exact .aside (none_of (idle before (by simp))) (none_of (run?_configured call)) (by simp) keeps
      rfl rfl rfl
  | released before =>
    exact .aside (none_of (idle before (by simp))) (none_of (run?_configured call)) (by simp)
      ⟨rfl, rfl, rfl, rfl, rfl⟩ rfl rfl rfl
  | _ before =>
    exact .aside (none_of (idle before (by simp))) (none_of (by rfl)) (by simp) ⟨rfl, rfl, rfl, rfl, rfl⟩
      rfl rfl rfl

theorem MediatorLife.registered_closing (l : MediatorLife) (closes : Option ReceiveChannel) :
    (l.closing closes).registered = l.registered := by
  cases closes <;> rfl

theorem Activity.Step.seen {a a' : Activity} (h : a.Step hosts m x l e x' l' a' closes) :
    Activity.Seen hosts m x.closed l a e l' a' closes := by
  cases h with
  | call h => exact h.seen
  | receiver h => exact .run rfl rfl h
  | teardown h => exact .teardown h
  | delivery h =>
    exact .aside (by simp [Activity.run?]) (by simp [Activity.run?]) (by simp) ⟨rfl, rfl, rfl, rfl, rfl⟩
      rfl rfl rfl

/-- Only a `BasicConsume` that is refused takes a channel along. -/
theorem Activity.Seen.of_closes {closed : ReceiveChannel → Bool} {a a' : Activity}
    {channel : ReceiveChannel} (h : Activity.Seen hosts m closed l a e l' a' (some channel)) :
    ∃ run e', a.run? = some run ∧ run.control = .performing .basicConsume ∧ run.taken = false ∧
      e = .refused e' ∧ channel = (receiveChannelFor run.sentObjectType).1 := by
  cases h with
  | run before after h =>
    cases h with
    | refused control untaken => exact ⟨_, _, before, control, untaken, rfl, rfl⟩

end Seen

section Threads

variable {hosts : Hosts} {m : MediatorRef} {s s' : Lifecycle} {t t' : MediatorThread} {e : Event}

theorem Lifecycle.mediators_after (s : Lifecycle) (m : MediatorRef) (x : MultiplexerLife)
    (l : MediatorLife) (closes : Option ReceiveChannel) :
    (s.after m x l closes).mediators m = l.closing closes := by
  cases closes <;> simp [after, set, closeChannel, MediatorLife.closing]

theorem Lifecycle.mediators_after_other {s : Lifecycle} {m k : MediatorRef} (h : k ≠ m)
    (x : MultiplexerLife) (l : MediatorLife) (closes : Option ReceiveChannel) :
    (s.after m x l closes).mediators k =
      (s.mediators k).closing (if k.multiplexer = m.multiplexer then closes else none) := by
  cases closes with
  | none => simp [after, set, MediatorLife.closing, Function.update_of_ne h]
  | some channel =>
    simp only [after, set, closeChannel, Function.update_of_ne h]
    split <;> rfl

theorem Lifecycle.multiplexers_after (s : Lifecycle) (m : MediatorRef) (x : MultiplexerLife)
    (l : MediatorLife) (closes : Option ReceiveChannel) :
    (s.after m x l closes).multiplexers m.multiplexer = x.closing closes := by
  cases closes <;> simp [after, set, closeChannel, MultiplexerLife.closing]

/-- What a thread leaves of its own mediator. -/
theorem MediatorThread.next_own (h : t.next hosts s e = some (s', t')) (own : t.mediator = m) :
    t'.mediator = m ∧ ∃ l closes, s'.mediators m = l.closing closes ∧
      Activity.Seen hosts m (s.multiplexers m.multiplexer).closed (s.mediators m) t.activity e l t'.activity
        closes := by
  obtain ⟨x, l, a, closes, rfl, rfl, hs⟩ := MediatorThread.step_of_next h
  subst own
  exact ⟨rfl, l, closes, Lifecycle.mediators_after _ _ _ _ _, hs.seen⟩

/-- What it leaves of another one. -/
theorem MediatorThread.next_other (h : t.next hosts s e = some (s', t')) (other : t.mediator ≠ m) :
    t'.mediator ≠ m ∧ ∃ closes, s'.mediators m = (s.mediators m).closing closes ∧
      ∀ channel, closes = some channel → m.multiplexer = t.mediator.multiplexer ∧
        ∃ run e', t.activity.run? = some run ∧ run.control = .performing .basicConsume ∧
          run.taken = false ∧ e = .refused e' ∧ channel = (receiveChannelFor run.sentObjectType).1 := by
  obtain ⟨x, l, a, closes, rfl, rfl, hs⟩ := MediatorThread.step_of_next h
  refine ⟨other, _, Lifecycle.mediators_after_other (Ne.symm other) _ _ _, ?_⟩
  intro channel hc
  split at hc
  next same =>
    subst hc
    exact ⟨same, hs.seen.of_closes⟩
  next => cases hc

/-- A lock of one mediator. -/
def mediatorLock (m : MediatorRef) (taken : MediatorLife → Bool) (inside : Activity → Bool) :
    Lock Lifecycle MediatorThread where
  taken s := taken (s.mediators m)
  inside t := t.mediator = m && inside t.activity

/-- A lock that the threads of its mediator keep to, and that closing a channel leaves alone. -/
theorem mediatorLock_guards {taken : MediatorLife → Bool} {inside : Activity → Bool}
    (closing : ∀ l closes, taken (MediatorLife.closing l closes) = taken l)
    (start : ∀ a : Activity, a.start = true → inside a = false)
    (step : ∀ {x x' l l' a a' e closes}, Activity.Step hosts m x l a e x' l' a' closes →
      (inside a = false → inside a' = true → taken l = false ∧ taken l' = true) ∧
      (inside a = false → inside a' = false → taken l' = taken l) ∧
      (inside a = true → taken l = true → taken l' = inside a')) :
    (mediatorLock m taken inside).Guards (lifecycle hosts) := by
  have effect : ∀ {s s' : Lifecycle} {i : Nat} {t t' : MediatorThread} {e : Event},
      (lifecycle hosts).next s i t e = some (s', t') →
      let L := mediatorLock m taken inside
      (L.inside t = false → L.inside t' = true → L.taken s = false ∧ L.taken s' = true) ∧
      (L.inside t = false → L.inside t' = false → L.taken s' = L.taken s) ∧
      (L.inside t = true → L.taken s = true → L.taken s' = L.inside t') := by
    intro s s' i t t' e h
    by_cases own : t.mediator = m
    · obtain ⟨x, l, a, closes, rfl, rfl, hs⟩ := MediatorThread.step_of_next h
      subst own
      simpa [mediatorLock, Lifecycle.mediators_after, closing] using step hs
    · obtain ⟨other, closes, hl, _⟩ := MediatorThread.next_other h own
      have same : taken (s'.mediators m) = taken (s.mediators m) := (congrArg taken hl).trans (closing _ _)
      simp [mediatorLock, own, other, same]
  refine ⟨fun hs => ?_, fun h => (effect h).1, fun h => (effect h).2.1, fun h => (effect h).2.2⟩
  simp [mediatorLock, start _ hs]

/-- `EnsureReceiverSemaphore`. -/
def semaphore (m : MediatorRef) : Lock Lifecycle MediatorThread :=
  mediatorLock m (·.semaphoreTaken) fun a => a.run?.any (·.inside)

theorem inside_semaphore {t : MediatorThread} :
    (semaphore m).inside t = true ↔
      t.mediator = m ∧ ∃ run, t.activity.run? = some run ∧ run.inside = true := by
  simp [semaphore, mediatorLock, Option.any_eq_true]

theorem ReceiverRun.Step.semaphore {closed : ReceiveChannel → Bool} {l l' : MediatorLife}
    {run run' : ReceiverRun} {closes : Option ReceiveChannel}
    (h : run.Step hosts m closed l e l' run' closes) :
    (run.inside = false → run'.inside = true → l.semaphoreTaken = false ∧ l'.semaphoreTaken = true) ∧
    (run.inside = false → run'.inside = false → l'.semaphoreTaken = l.semaphoreTaken) ∧
    (run.inside = true → l.semaphoreTaken = true → l'.semaphoreTaken = run'.inside) := by
  cases h with
  | outside before after => simp [before, after]
  | acquired before free => simp [inside, before, goesTo, free]
  | listed before | proceeded before =>
    simp [inside, goesTo, before, list, toMediatorState_remember]
  | _ before => simp_all [inside, goesTo]

theorem semaphore_guards (hosts : Hosts) (m : MediatorRef) :
    (semaphore m).Guards (lifecycle hosts) := by
  refine mediatorLock_guards (fun l closes => (l.keeps_closing closes).semaphoreTaken) ?_ ?_
  · intro a hs
    refine Bool.eq_false_iff.mpr fun inside => ?_
    obtain ⟨run, hr, inside⟩ := (Option.any_eq_true _ _).mp inside
    rw [Activity.run?_of_start hs hr] at inside
    cases inside
  · intro x x' l l' a a' e closes h
    cases h.seen with
    | run before after step => simpa [before, after] using step.semaphore
    | teardown step =>
      have keeps : l'.semaphoreTaken = l.semaphoreTaken := by cases step <;> rfl
      simp [Activity.run?, keeps]
    | aside before after _ keeps =>
      have out : (a.run?.any (·.inside)) = false := by
        refine Bool.eq_false_iff.mpr fun inside => ?_
        obtain ⟨run, hr, inside⟩ := (Option.any_eq_true _ _).mp inside
        rcases before run hr with control | ⟨_, control⟩ <;> simp [ReceiverRun.inside, control] at inside
      have out' : (a'.run?.any (·.inside)) = false := by
        refine Bool.eq_false_iff.mpr fun inside => ?_
        obtain ⟨run, hr, inside⟩ := (Option.any_eq_true _ _).mp inside
        obtain ⟨_, rfl⟩ := after run hr
        cases inside
      rw [out, out', keeps.semaphoreTaken]
      simp

/-- What no step takes back from a mediator. -/
structure MediatorLife.Grows (l l' : MediatorLife) : Prop where
  registeredConsumerTypes : ∀ s ∈ l.registeredConsumerTypes, s ∈ l'.registeredConsumerTypes
  disposed : l.disposed = true → l'.disposed = true

theorem ReceiverRun.Step.grows {closed : ReceiveChannel → Bool} {l l' : MediatorLife}
    {run run' : ReceiverRun} {closes : Option ReceiveChannel}
    (h : run.Step hosts m closed l e l' run' closes) : l.Grows l' := by
  cases h with
  | listed => exact ⟨fun s hs => List.mem_cons_of_mem _ hs, id⟩
  | proceeded =>
    constructor
    · rw [toMediatorState_remember]
      exact fun s hs => hs
    · rw [toMediatorState_remember]
      exact id
  | _ => exact ⟨fun s hs => hs, id⟩

theorem ReceiverRun.Step.registered_eq {closed : ReceiveChannel → Bool} {l l' : MediatorLife}
    {run run' : ReceiverRun} {closes : Option ReceiveChannel}
    (h : run.Step hosts m closed l e l' run' closes) : l'.registered = l.registered := by
  cases h with
  | proceeded => exact congrArg (·.registered) (toMediatorState_remember _ _ _ _)
  | _ => rfl

theorem Teardown.Step.keeps {x x' : MultiplexerLife} {l l' : MediatorLife} {td td' : Teardown}
    (h : Teardown.Step hosts m x l td e x' l' td') :
    l.Keeps l' ∧ l.topology.Shrinks l'.topology ∧ (l.disposed = true → l'.disposed = true) := by
  cases h with
  | entered => exact ⟨⟨rfl, rfl, rfl, rfl, rfl⟩, .refl _, fun _ => rfl⟩
  | cancelled => exact ⟨⟨rfl, rfl, rfl, rfl, rfl⟩, ConsumingBroker.shrinks_drop _ _, id⟩
  | deleted => exact ⟨⟨rfl, rfl, rfl, rfl, rfl⟩, ConsumingBroker.shrinks_queueDelete _ _, id⟩
  | _ => exact ⟨⟨rfl, rfl, rfl, rfl, rfl⟩, .refl _, id⟩

theorem Activity.Seen.grows {closed : ReceiveChannel → Bool} {l l' : MediatorLife} {a a' : Activity}
    {closes : Option ReceiveChannel} (h : Activity.Seen hosts m closed l a e l' a' closes) : l.Grows l' := by
  cases h with
  | run _ _ h => exact h.grows
  | teardown h =>
    obtain ⟨keeps, _, disposed⟩ := h.keeps
    exact ⟨fun s hs => keeps.registeredConsumerTypes ▸ hs, disposed⟩
  | aside _ _ _ keeps _ disposed =>
    exact ⟨fun s hs => keeps.registeredConsumerTypes ▸ hs, fun h => disposed.trans h⟩

theorem MediatorThread.next_grows (h : t.next hosts s e = some (s', t')) :
    (s.mediators m).Grows (s'.mediators m) := by
  have closing : ∀ (l : MediatorLife) (closes : Option ReceiveChannel), l.Grows (l.closing closes) := by
    intro l closes
    cases closes <;> exact ⟨fun s hs => hs, id⟩
  by_cases own : t.mediator = m
  · obtain ⟨_, l, closes, hl, seen⟩ := next_own h own
    obtain ⟨types, disposed⟩ := seen.grows
    obtain ⟨types', disposed'⟩ := closing l closes
    exact hl ▸ ⟨fun s hs => types' s (types s hs), fun h => disposed' (disposed h)⟩
  · obtain ⟨_, closes, hl, _⟩ := next_other h own
    exact hl ▸ closing _ closes

/-- A mediator that is forgotten stays so. -/
theorem MediatorThread.next_unregistered (h : t.next hosts s e = some (s', t'))
    (gone : (s.mediators m).registered = false) : (s'.mediators m).registered = false := by
  by_cases own : t.mediator = m
  · obtain ⟨_, l, closes, hl, seen⟩ := next_own h own
    rw [hl, MediatorLife.registered_closing]
    generalize t.activity = a at seen
    generalize t'.activity = a' at seen
    cases seen with
    | run _ _ h => exact h.registered_eq.trans gone
    | teardown h =>
      cases h with
      | forgot => rfl
      | _ => exact gone
    | aside _ _ _ _ _ _ registered => exact registered.trans gone
  · obtain ⟨_, closes, hl, _⟩ := next_other h own
    rw [hl, MediatorLife.registered_closing]
    exact gone

/-- A call of `EnsureReceiver` that has returned has its type registered or its mediator disposed, and so
does one that is about to return. A teardown that has begun has its mediator disposed. -/
structure MediatorThread.Settled (m : MediatorRef) (s : Lifecycle) (t : MediatorThread) : Prop where
  releasing : ∀ run, t.activity.run? = some run → run.control = .releasing →
    run.sentObjectType ∈ (s.mediators m).registeredConsumerTypes
  returned : ∀ run, t.activity.run? = some run → run.control = .returned →
    (s.mediators m).disposed = true ∨ run.sentObjectType ∈ (s.mediators m).registeredConsumerTypes
  teardown : ∀ td, t.activity = .teardown td → td ≠ .entered → (s.mediators m).disposed = true

theorem Activity.Seen.releasing {closed : ReceiveChannel → Bool} {l l' : MediatorLife} {a a' : Activity}
    {closes : Option ReceiveChannel} {run' : ReceiverRun}
    (h : Activity.Seen hosts m closed l a e l' a' closes) (hr : a'.run? = some run')
    (hc : run'.control = .releasing) : run'.sentObjectType ∈ l'.registeredConsumerTypes := by
  cases h with
  | run _ after h =>
    cases after.symm.trans hr
    cases h with
    | @outside _ control _ out =>
      replace hc : control = .releasing := hc
      subst hc
      cases out
    | found _ old => exact old
    | listed => exact List.mem_cons_self
    | took before => exact absurd (hc.symm.trans before) (by simp)
    | _ => cases hc
  | teardown => cases hr
  | aside _ after =>
    obtain ⟨_, rfl⟩ := after run' hr
    cases hc

theorem Activity.Seen.returned {closed : ReceiveChannel → Bool} {l l' : MediatorLife} {a a' : Activity}
    {closes : Option ReceiveChannel} {run' : ReceiverRun}
    (h : Activity.Seen hosts m closed l a e l' a' closes)
    (releasing : ∀ run, a.run? = some run → run.control = .releasing →
      run.sentObjectType ∈ l.registeredConsumerTypes)
    (hr : a'.run? = some run') (hc : run'.control = .returned) :
    l'.disposed = true ∨ run'.sentObjectType ∈ l'.registeredConsumerTypes := by
  cases h with
  | run before after h =>
    cases after.symm.trans hr
    cases h with
    | outside _ _ _ _ why => exact why hc
    | released control =>
      have mine := releasing _ before control
      exact Or.inr mine
    | took control => exact absurd (hc.symm.trans control) (by simp)
    | _ => cases hc
  | teardown => cases hr
  | aside _ after =>
    obtain ⟨_, rfl⟩ := after run' hr
    cases hc

theorem Activity.Seen.disposing {closed : ReceiveChannel → Bool} {l l' : MediatorLife} {a : Activity}
    {closes : Option ReceiveChannel} {td' : Teardown}
    (h : Activity.Seen hosts m closed l a e l' (.teardown td') closes)
    (disposing : ∀ td, a = .teardown td → td ≠ .entered → l.disposed = true) (begun : td' ≠ .entered) :
    l'.disposed = true := by
  cases h with
  | run _ after => cases after
  | @teardown td _ _ _ _ _ h =>
    by_cases first : td = .entered
    · subst first
      cases h with
      | entered => rfl
      | gaveUp past => cases past
    · exact h.keeps.2.2 (disposing td rfl first)
  | aside _ _ other => exact absurd rfl (other td')

theorem settled_sound (hosts : Hosts) (m : MediatorRef) :
    Sound (lifecycle hosts) (fun _ _ _ _ => True) (fun _ => True)
      (fun s _ t => t.mediator = m → t.Settled m s)
      (fun _ s s' => (s.mediators m).Grows (s'.mediators m)) := by
  refine ⟨?_, ?_, ?_⟩
  · intro s i t _ hs _
    refine ⟨fun run hr hc => ?_, fun run hr hc => ?_, fun td ht begun => ?_⟩
    · rw [Activity.run?_of_start hs hr] at hc
      cases hc
    · rw [Activity.run?_of_start hs hr] at hc
      cases hc
    · replace hs : t.activity.start = true := hs
      rw [ht] at hs
      cases td <;> first | exact absurd rfl begun | cases hs
  · intro s s' i t t' e _ settled _ hn
    refine ⟨trivial, fun own' => ?_, MediatorThread.next_grows hn⟩
    have own : t.mediator = m := by
      by_contra other
      exact (MediatorThread.next_other hn other).1 own'
    obtain ⟨releasing, returned, teardown⟩ := settled own
    obtain ⟨_, l, closes, hl, seen⟩ := MediatorThread.next_own hn own
    have types : (s'.mediators m).registeredConsumerTypes = l.registeredConsumerTypes := by
      rw [hl, (l.keeps_closing closes).registeredConsumerTypes]
    have disposed : (s'.mediators m).disposed = l.disposed := by
      rw [hl]
      cases closes <;> rfl
    constructor
    · intro run' hr' hc'
      rw [types]
      exact seen.releasing hr' hc'
    · intro run' hr' hc'
      rw [types, disposed]
      exact seen.returned releasing hr' hc'
    · intro td ht begun
      rw [disposed]
      exact (ht ▸ seen).disposing teardown begun
  · intro s s' i j u _ grows _ settled own
    obtain ⟨releasing, returned, teardown⟩ := settled own
    exact ⟨fun run hr hc => grows.registeredConsumerTypes _ (releasing run hr hc),
      fun run hr hc => (returned run hr hc).imp grows.disposed (grows.registeredConsumerTypes _),
      fun td ht hp => grows.disposed (teardown td ht hp)⟩

theorem settled_of_reachable {allowed : Config Lifecycle MediatorThread → Action MediatorThread Event → Prop}
    {init : Lifecycle} {c : Config Lifecycle MediatorThread} {i : Nat}
    (h : ReachableWhere (lifecycle hosts) allowed ⟨init, []⟩ c) (ht : c.pool[i]? = some t) (own : t.mediator = m) :
    t.Settled m c.shared :=
  ((settled_sound hosts m).always trivial rfl h).2 i t ht own

end Threads
end RabbitMediator
