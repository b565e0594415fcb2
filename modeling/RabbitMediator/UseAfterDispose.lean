import RabbitMediator.Bookkeeping
import RabbitMediator.System

namespace RabbitMediator

open Interleaving

/-- A mediator in `_rabbitMediatorInstances` has its entry in `_rabbitMultiplexerMediatorConfigurations`. -/
def RegistriesAgree (hosts : Hosts) (s : Lifecycle) : Prop :=
  ∀ n key m, (s.multiplexers n).rabbitMediatorInstances.lookup key = some m →
    m.multiplexer = n ∧ (hosts.scopeId m).value = key ∧ (s.mediators m).registered = true

/-- A `DisposeAsync` of the mediator has completed. -/
def Disposed (m : MediatorRef) (c : Config Lifecycle MediatorThread) : Prop :=
  ∃ (i : Nat) (t : MediatorThread), c.pool[i]? = some t ∧ t.mediator = m ∧ t.activity = .teardown .ended

/-- A call that comes too late changes nothing but `_configureLock`, and what it throws is
`ObjectDisposedException`. -/
structure Rejected (hosts : Hosts) (m : MediatorRef) (d : Config Lifecycle MediatorThread) (i : Nat)
    (call : MediatorCall) : Prop where
  unchanged : ∀ e s' t', (lifecycle hosts).next d.shared i ⟨m, .call call⟩ e = some (s', t') →
    s'.multiplexers = d.shared.multiplexers ∧
    ∀ k, s'.mediators k = { d.shared.mediators k with configureLocked := (s'.mediators k).configureLocked }
  returned : call.phase = .returned → call.caller = .ensureConfigured
  stops : call.phase ≠ .proceeding
  threw : ∀ e, call.phase = .threw e → e = objectDisposed

/-- A call that puts its mediator into `_rabbitMediatorInstances` finds it registered. -/
def JoinsInTime (s : Lifecycle) (_ : Nat) (t : MediatorThread) (_ : Event) : Prop :=
  ∀ call, t.activity = .call call → call.phase = .joining → (s.mediators t.mediator).registered = true

/-- A call for the mediator that started after `late` threads finds `ConfigureDone` inside the lock. -/
def FindsConfigureDone (m : MediatorRef) (late : Nat) (s : Lifecycle) (i : Nat) (t : MediatorThread)
    (_ : Event) : Prop :=
  late ≤ i → t.mediator = m → ∀ call, t.activity = .call call → call.phase = .rechecking →
    (s.mediators m).configureDone = true

section Registries

variable {hosts : Hosts} {m : MediatorRef} {x x' : MultiplexerLife} {l l' : MediatorLife} {a a' : Activity}
  {e : Event} {closes : Option ReceiveChannel}

/-- What a step does to the two registries of the multiplexer. -/
theorem Activity.Step.registries (h : a.Step hosts m x l e x' l' a' closes) :
    l'.registered = l.registered ∧ (x'.rabbitMediatorInstances = x.rabbitMediatorInstances ∨
        (∃ call, a = .call call ∧ call.phase = .joining) ∧ x'.rabbitMediatorInstances =
          ConcurrentDictionary.tryAdd x.rabbitMediatorInstances (hosts.scopeId m).value m) ∨
      l'.registered = false ∧
        x'.rabbitMediatorInstances = x.rabbitMediatorInstances.erase (hosts.scopeId m).value := by
  cases h with
  | @call call _ _ _ _ _ h =>
    left
    cases h with
    | joined before => exact ⟨rfl, Or.inr ⟨⟨call, rfl, before⟩, rfl⟩⟩
    | ensured _ h => exact ⟨h.registered_eq, Or.inl rfl⟩
    | _ => exact ⟨rfl, Or.inl rfl⟩
  | receiver h => exact Or.inl ⟨h.registered_eq, Or.inl rfl⟩
  | teardown h =>
    cases h with
    | forgot => exact Or.inr ⟨rfl, rfl⟩
    | _ => exact Or.inl ⟨rfl, Or.inl rfl⟩
  | delivery => exact Or.inl ⟨rfl, Or.inl rfl⟩

end Registries

section Runs

variable {hosts : Hosts} {m : MediatorRef} {s s' : Lifecycle} {t t' : MediatorThread} {e : Event}
  {c d : Config Lifecycle MediatorThread}
  {configuration : MediatorRef → RabbitMultiplexerMediatorConfiguration}

theorem Lifecycle.multiplexers_after_other {n : Nat} (h : n ≠ m.multiplexer) (x : MultiplexerLife)
    (l : MediatorLife) (closes : Option ReceiveChannel) :
    (s.after m x l closes).multiplexers n = s.multiplexers n := by
  cases closes <;> simp [after, set, closeChannel, Function.update_of_ne h]

/-- What `RegistriesAgree` says of one mediator. -/
def RegistriesAgreeOn (hosts : Hosts) (m : MediatorRef) (s : Lifecycle) : Prop :=
  ∀ n key, (s.multiplexers n).rabbitMediatorInstances.lookup key = some m →
    m.multiplexer = n ∧ (hosts.scopeId m).value = key ∧ (s.mediators m).registered = true

theorem RegistriesAgreeOn.step (agree : RegistriesAgreeOn hosts m s) (hn : t.next hosts s e = some (s', t'))
    (joins : t.mediator = m → JoinsInTime s i t e) : RegistriesAgreeOn hosts m s' := by
  obtain ⟨x, l, a, closes, rfl, rfl, step⟩ := MediatorThread.step_of_next hn
  have instances : (x.closing closes).rabbitMediatorInstances = x.rabbitMediatorInstances := by
    cases closes <;> rfl
  have others : m ≠ t.mediator →
      ((s.after t.mediator x l closes).mediators m).registered = (s.mediators m).registered := by
    intro other
    rw [Lifecycle.mediators_after_other other, MediatorLife.registered_closing]
  have own : ((s.after t.mediator x l closes).mediators t.mediator).registered = l.registered := by
    rw [Lifecycle.mediators_after, MediatorLife.registered_closing]
  intro n key hm
  by_cases here : n = t.mediator.multiplexer
  · subst here
    rw [Lifecycle.multiplexers_after, instances] at hm
    rcases step.registries with ⟨registered, added⟩ | ⟨_, erased⟩
    · have same : ((s.after t.mediator x l closes).mediators m).registered = (s.mediators m).registered := by
        by_cases mine : m = t.mediator
        · rw [mine, own, registered]
        · exact others mine
      rw [same]
      rcases added with added | ⟨⟨call, hc, joining⟩, added⟩
      · exact agree _ key (added ▸ hm)
      · rw [added] at hm
        rcases ConcurrentDictionary.lookup_tryAdd_cases hm with hm | ⟨rfl, rfl, _⟩
        · exact agree _ key hm
        · exact ⟨rfl, rfl, joins rfl call hc joining⟩
    · rw [erased] at hm
      obtain ⟨other, hm⟩ := ConcurrentDictionary.lookup_of_lookup_erase hm
      obtain ⟨multiplexer, rfl, registered⟩ := agree _ key hm
      refine ⟨multiplexer, rfl, (others ?_).trans registered⟩
      rintro rfl
      exact other rfl
  · rw [Lifecycle.multiplexers_after_other here] at hm
    obtain ⟨multiplexer, scope, registered⟩ := agree n key hm
    refine ⟨multiplexer, scope, (others ?_).trans registered⟩
    rintro rfl
    exact here multiplexer.symm

theorem RegistriesAgree.step (agree : RegistriesAgree hosts s) (hn : t.next hosts s e = some (s', t'))
    (joins : JoinsInTime s i t e) : RegistriesAgree hosts s' := by
  intro n key k hk
  have before : RegistriesAgreeOn hosts k s := fun n key => agree n key k
  exact before.step hn (fun _ => joins) n key hk

theorem registries_agree
    (h : ReachableWhere (lifecycle hosts) (StepsWhere JoinsInTime) ⟨.created configuration, []⟩ c) :
    RegistriesAgree hosts c.shared := by
  refine h.invariant (P := fun c => RegistriesAgree hosts c.shared) (fun n key k hk => ?_) ?_
  · simp [Lifecycle.created] at hk
  · intro c d a _ agree joins hd
    cases a with
    | start t =>
      obtain ⟨_, rfl⟩ := act_start hd
      exact agree
    | step i e =>
      obtain ⟨t, s', t', ht, hn, rfl⟩ := act_step hd
      exact agree.step hn (joins i e t rfl ht)

/-- A teardown that is past forgetting its mediator leaves it unregistered. -/
theorem unregistered_sound (hosts : Hosts) (m : MediatorRef) :
    Sound (lifecycle hosts) (fun _ _ _ _ => True) (fun _ => True)
      (fun s _ t => t.mediator = m → ∀ td, t.activity = .teardown td → td.past = true →
        (s.mediators m).registered = false)
      (fun _ s s' => (s.mediators m).registered = false → (s'.mediators m).registered = false) := by
  refine ⟨?_, ?_, fun _ mono _ before own td ht past => mono (before own td ht past)⟩
  · intro s i t _ hs _ td ht past
    replace hs : t.activity.start = true := hs
    rw [ht] at hs
    cases td with
    | entered => cases past
    | _ => cases hs
  · intro s s' i t t' e _ before _ hn
    refine ⟨trivial, fun own' td ht past => ?_, MediatorThread.next_unregistered hn⟩
    have own : t.mediator = m := by
      by_contra other
      exact (MediatorThread.next_other hn other).1 own'
    have after := MediatorThread.next_unregistered (m := m) hn
    obtain ⟨x, l, a, closes, rfl, rfl, step⟩ := MediatorThread.step_of_next hn
    subst own
    generalize ha : t.activity = b at step
    replace ht : a = .teardown td := ht
    subst ht
    cases step with
    | @teardown td₀ _ _ _ _ h =>
      by_cases began : td₀.past = true
      · exact after (before rfl td₀ ha began)
      · cases h with
        | entered => cases past
        | forgot => rw [Lifecycle.mediators_after]; rfl
        | gone unregistered => exact after unregistered
        | gaveUp before => exact absurd before began
        | _ => exact absurd rfl began

/-- Where a call may stand that came too late. -/
def MediatorCall.Late (call : MediatorCall) : Prop :=
  match call.phase with
  | .entered | .acquiring | .rechecking | .checking | .releasing (.ok _) => True
  | .returned => call.caller = .ensureConfigured
  | .threw e => e = objectDisposed
  | _ => False

theorem MediatorCall.late_configured (call : MediatorCall) : call.configured.Late := by
  unfold configured
  split
  next asked => exact asked
  next => trivial

theorem MediatorCall.Step.late {x x' : MultiplexerLife} {l l' : MediatorLife} {call call' : MediatorCall}
    {closes : Option ReceiveChannel} (h : call.Step hosts m x l e x' l' call' closes) (late : call.Late)
    (disposed : l.disposed = true) :
    ((call.phase = .rechecking → l.configureDone = true) → call'.Late) ∧
      x' = x ∧ l' = { l with configureLocked := l'.configureLocked } ∧ closes = none := by
  cases h with
  | passed | released => exact ⟨fun _ => call.late_configured, rfl, rfl, rfl⟩
  | waits | acquired | found => exact ⟨fun _ => trivial, rfl, rfl, rfl⟩
  | began before undone =>
    refine ⟨fun done => ?_, rfl, rfl, rfl⟩
    rw [done before] at undone
    cases undone
  | disposed => exact ⟨fun _ => rfl, rfl, rfl, rfl⟩
  | proceeded _ live =>
    rw [disposed] at live
    cases live
  | _ before => simp [Late, before] at late

theorem MediatorThread.call_before {call' : MediatorCall} (hn : t.next hosts s e = some (s', t'))
    (hc' : t'.activity = .call call') : ∃ call, t.activity = .call call := by
  obtain ⟨x, l, a, closes, rfl, rfl, step⟩ := step_of_next hn
  generalize t.activity = b at step
  cases step with
  | call => exact ⟨_, rfl⟩
  | _ => cases hc'

/-- A step of a call that came too late. -/
theorem MediatorThread.next_late {call : MediatorCall} (hn : t.next hosts s e = some (s', t'))
    (hc : t.activity = .call call) (late : call.Late) (disposed : (s.mediators t.mediator).disposed = true) :
    ((call.phase = .rechecking → (s.mediators t.mediator).configureDone = true) →
      ∃ call', t'.activity = .call call' ∧ call'.Late) ∧ s'.multiplexers = s.multiplexers ∧
      ∀ k, s'.mediators k = { s.mediators k with configureLocked := (s'.mediators k).configureLocked } := by
  obtain ⟨x, l, a, closes, rfl, rfl, step⟩ := step_of_next hn
  rw [hc] at step
  cases step with
  | call h =>
    obtain ⟨late', rfl, hl, rfl⟩ := h.late late disposed
    refine ⟨fun done => ⟨_, rfl, late' done⟩, Function.update_eq_self _ _, fun k => ?_⟩
    by_cases mine : k = t.mediator
    · subst mine
      rw [Lifecycle.mediators_after]
      exact hl
    · rw [Lifecycle.mediators_after_other mine]
      split <;> rfl

theorem late_of_reachable {late : Nat} (first : late = c.pool.length)
    (disposed : (c.shared.mediators m).disposed = true)
    (h : ReachableWhere (lifecycle hosts) (StepsWhere (FindsConfigureDone m late)) c d) :
    (d.shared.mediators m).disposed = true ∧ ∀ (j : Nat) (t : MediatorThread) (call : MediatorCall),
      late ≤ j → d.pool[j]? = some t → t.mediator = m → t.activity = .call call → call.Late := by
  refine h.invariant (P := fun d => (d.shared.mediators m).disposed = true ∧
    ∀ (j : Nat) (t : MediatorThread) (call : MediatorCall), late ≤ j → d.pool[j]? = some t →
      t.mediator = m → t.activity = .call call → call.Late) ⟨disposed, ?_⟩ ?_
  · intro j t call hj ht
    rw [List.getElem?_eq_none (by omega)] at ht
    cases ht
  · intro c d a _ ih allowed hd
    obtain ⟨disposed, before⟩ := ih
    cases a with
    | start t =>
      obtain ⟨hs, rfl⟩ := act_start hd
      refine ⟨disposed, fun j u call hj hu own hc => ?_⟩
      rcases pool_append_cases hu with hu | ⟨_, rfl⟩
      · exact before j u call hj hu own hc
      · replace hs : u.activity.start = true := hs
        rw [hc] at hs
        obtain ⟨caller, phase⟩ := call
        cases phase <;> trivial
    | step i e =>
      obtain ⟨t, s', t', ht, hn, rfl⟩ := act_step hd
      refine ⟨(MediatorThread.next_grows hn).disposed disposed, fun j u call hj hu own hc => ?_⟩
      rcases pool_set_cases ht hu with ⟨rfl, rfl⟩ | ⟨_, hu⟩
      · have mine : t.mediator = m := by
          by_contra other
          exact (MediatorThread.next_other hn other).1 own
        obtain ⟨call₀, hc₀⟩ := MediatorThread.call_before hn hc
        obtain ⟨call', same, late'⟩ := (MediatorThread.next_late hn hc₀ (before j t call₀ hj ht mine hc₀)
          (mine ▸ disposed)).1 fun rechecking => mine ▸ allowed j e t rfl ht hj mine call₀ hc₀ rechecking
        cases hc.symm.trans same
        exact late'
      · exact before j u call hj hu own hc

theorem disposed_of_disposed (h : Reachable (lifecycle hosts) ⟨.created configuration, []⟩ c)
    (disposed : Disposed m c) :
    (c.shared.mediators m).disposed = true ∧ (c.shared.mediators m).registered = false := by
  obtain ⟨i, t, ht, own, ended⟩ := disposed
  have settled := settled_of_reachable h ht own
  have gone := ((unregistered_sound hosts m).always trivial rfl h).2 i t ht own
  exact ⟨settled.teardown _ ended (by simp), gone _ ended rfl⟩

/-- Use after dispose is rejected: by the registries, by `EnsureConfigured` and the check behind it, and by
`Request` and `Send`, which touch neither table of awaiters. -/
theorem use_after_dispose (hosts : Hosts)
    (configuration : MediatorRef → RabbitMultiplexerMediatorConfiguration) :
    (∀ c, ReachableWhere (lifecycle hosts) (StepsWhere JoinsInTime) ⟨.created configuration, []⟩ c →
      RegistriesAgree hosts c.shared) ∧
    (∀ m c d, Reachable (lifecycle hosts) ⟨.created configuration, []⟩ c → Disposed m c →
      ReachableWhere (lifecycle hosts) (StepsWhere (FindsConfigureDone m c.pool.length)) c d →
      ∀ (j : Nat) (call : MediatorCall), c.pool.length ≤ j → d.pool[j]? = some ⟨m, .call call⟩ →
      Rejected hosts m d j call) ∧
    (∀ w call cancelled (r : RequestCall), (w.mediators r.mediator).disposed = true → r.phase = .entered →
      r.next hosts w call (.checked cancelled) = some (w, r.throws none objectDisposed)) ∧
    ∀ w call cancelled (r : SendCall), (w.mediators r.mediator).disposed = true → r.phase = .entered →
      r.next hosts w call (.checked cancelled) = some (w, r.throws none objectDisposed) := by
  refine ⟨fun c h => ?_, fun m c d hc disposed hd j call hj ht => ?_, fun w call cancelled r gone entered => ?_,
    fun w call cancelled r gone entered => ?_⟩
  · exact registries_agree h
  · have gone := (disposed_of_disposed hc disposed).1
    obtain ⟨gone', late⟩ := late_of_reachable rfl gone hd
    have mine := late j _ call hj ht rfl rfl
    refine ⟨fun e s' t' hn => (MediatorThread.next_late hn rfl mine gone').2, fun returned => ?_,
      fun proceeding => ?_, fun e threw => ?_⟩
    · simpa [MediatorCall.Late, returned] using mine
    · simp [MediatorCall.Late, proceeding] at mine
    · simpa [MediatorCall.Late, threw] using mine
  · simp [RequestCall.next, entered, RequestCall.enter, gone]
  · simp [SendCall.next, SendCall.nextWith, entered, SendCall.enter, gone]

end Runs

def testNoConsumers : RabbitMultiplexerMediatorConfiguration where
  configuration := ⟨[], [], tenSeconds, tenSeconds⟩
  allConsumerTypes := []
  validated := by decide
  sentTypeToConsumerMapping := ∅
  mapped := by simp

/-- The whole of `DisposeAsync` for a mediator that has declared nothing. -/
def testDisposes : List Event := [.go, .go, .visited none, .visited none]

/-- The tag of the consumer of a sent-object type. -/
def testTag (sentObjectType : SentType) : Option String :=
  (receiverOf (testHosts.mediator ⟨0, 0⟩) sentObjectType).toOption.map fun p =>
    (consumerOf (testHosts.mediator ⟨0, 0⟩) sentObjectType p).consumerTag

/-- The same for a mediator that `testConfigures` has configured. -/
def testConsumersDispose : List Event :=
  [.go, .go, .visited (testTag testAnyTargetedMessage), .ended (.ok ()),
    .visited (testTag testAnyTargetedRequest), .ended (.ok ()), .visited none, .visited none]

/-- A check of the condition on late calls. -/
def findsConfigureDone (m : MediatorRef) (c : Config Lifecycle MediatorThread) :
    Action MediatorThread Event → Bool
  | .start _ => true
  | .step i _ => c.pool[i]?.all fun t => match t.activity with
    | .call ⟨_, .rechecking⟩ => (c.shared.mediators m).configureDone
    | _ => true

theorem finds_of_check {m : MediatorRef} {late : Nat} {c : Config Lifecycle MediatorThread}
    {a : Action MediatorThread Event} (h : findsConfigureDone m c a = true) :
    StepsWhere (FindsConfigureDone m late) c a := by
  rintro i e t rfl ht _ _ ⟨caller, phase⟩ hc rechecking
  subst rechecking
  simpa [findsConfigureDone, ht, hc] using h

def MediatorThread.ended : MediatorThread → Bool
  | ⟨_, .teardown .ended⟩ => true
  | _ => false

def MediatorThread.exception : MediatorThread → Option Exception
  | ⟨_, .call ⟨_, .threw e⟩⟩ => some e
  | _ => none

/-- A mediator with two consumers is configured and disposed, and then a request comes. -/
theorem testLate_rejected :
    ∃ c d call, (lifecycle testHosts).run (fun _ _ => true) ⟨.created fun _ => testUnconfigured, []⟩
        (testConfigureCall 0 testConfigures ++
          testTeardown 1 testConsumersDispose) = some c ∧
      (lifecycle testHosts).run (findsConfigureDone ⟨0, 0⟩) c
        [.start ⟨⟨0, 0⟩, .call ⟨.request, .entered⟩⟩, .step 2 .go, .step 2 .go] = some d ∧
      d.pool[2]? = some ⟨⟨0, 0⟩, .call call⟩ ∧ call.phase = .threw objectDisposed := by
  have h : ((lifecycle testHosts).run (fun _ _ => true) ⟨.created fun _ => testUnconfigured, []⟩
      (testConfigureCall 0 testConfigures ++
        testTeardown 1 testConsumersDispose)).any (fun c =>
      decide (c.pool.length = 2) && c.pool[1]?.any (fun t => decide (t.mediator = ⟨0, 0⟩) && t.ended) &&
      ((lifecycle testHosts).run (findsConfigureDone ⟨0, 0⟩) c
        [.start ⟨⟨0, 0⟩, .call ⟨.request, .entered⟩⟩, .step 2 .go, .step 2 .go]).any fun d =>
          d.pool[2]?.any fun t => decide (t.mediator = ⟨0, 0⟩) && t.exception.isSome) = true := by decide +kernel
  obtain ⟨c, hc, found⟩ := (Option.any_eq_true _ _).mp h
  simp only [Bool.and_eq_true, decide_eq_true_eq, Option.any_eq_true] at found
  obtain ⟨⟨two, ⟨m, a⟩, ht, rfl, ended⟩, d, hd, ⟨k, b⟩, hu, rfl, threw⟩ := found
  have disposed : Disposed ⟨0, 0⟩ c := by
    refine ⟨1, _, ht, rfl, ?_⟩
    unfold MediatorThread.ended at ended
    split at ended
    next he => exact (MediatorThread.mk.inj he).2
    next => cases ended
  unfold MediatorThread.exception at threw
  split at threw
  next caller e he =>
    cases he
    have rejected := (use_after_dispose testHosts fun _ => testUnconfigured).2.1 ⟨0, 0⟩ c d
      (.of_run .start (fun _ _ _ => trivial) hc) disposed (.of_run .start (fun _ _ => finds_of_check) hd) 2
      ⟨caller, .threw e⟩ (by omega) hu
    exact ⟨c, d, _, hc, hd, hu, congrArg _ (rejected.threw e rfl)⟩
  next => cases threw

/-- A mediator is disposed before anybody has configured it. `EnsureConfigured` then puts it back into
`_rabbitMediatorInstances`. -/
theorem use_after_dispose_returns :
    ¬∀ hosts configuration,
      (∀ c, Reachable (lifecycle hosts) ⟨.created configuration, []⟩ c → RegistriesAgree hosts c.shared) ∧
      ∀ m c d, Reachable (lifecycle hosts) ⟨.created configuration, []⟩ c → Disposed m c →
        Reachable (lifecycle hosts) c d → ∀ (j : Nat) (call : MediatorCall), c.pool.length ≤ j →
        d.pool[j]? = some ⟨m, .call call⟩ → Rejected hosts m d j call := by
  intro claim
  have h : ((lifecycle testHosts).run (fun _ _ => true) ⟨.created fun _ => testNoConsumers, []⟩
      (testTeardown 0 testDisposes ++
        testConfigureCall 1 [.go, .go, .go, .ended (.ok ()), .go])).any (fun c =>
      decide ((c.shared.multiplexers 0).rabbitMediatorInstances.lookup
        (testHosts.scopeId ⟨0, 0⟩).value = some ⟨0, 0⟩) &&
      !(c.shared.mediators ⟨0, 0⟩).registered) = true := by decide
  obtain ⟨c, hc, found⟩ := (Option.any_eq_true _ _).mp h
  obtain ⟨there, gone⟩ := Bool.and_eq_true_iff.mp found
  have agree := (claim testHosts fun _ => testNoConsumers).1 c (.of_run .start (fun _ _ _ => trivial) hc)
  obtain ⟨_, _, registered⟩ := agree 0 _ _ (of_decide_eq_true there)
  rw [registered] at gone
  cases gone

end RabbitMediator
