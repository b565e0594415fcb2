import RabbitMediator.LeftBehind
import RabbitMediator.Resolution

namespace RabbitMediator

open Interleaving

/-- The mediator is registered in its multiplexer, or consumes from the broker. -/
def Present (m : MediatorRef) (c : Config Resolutions ResolutionThread) : Prop :=
  c.shared.created m = true ∧ ((c.shared.life.mediators m).registered = true ∨
    (∃ n key, (c.shared.life.multiplexers n).rabbitMediatorInstances.lookup key = some m) ∨
    (c.shared.life.mediators m).topology.consumers ≠ [])

/-- No `DisposeAsync` of the mediator has completed, or one is still going on. -/
def NotDisposed (m : MediatorRef) (c : Config Resolutions ResolutionThread) : Prop :=
  (∀ i : Nat, c.pool[i]? ≠ some (.activity ⟨m, .teardown .ended⟩)) ∨
    ∃ (i : Nat) (td : Teardown), c.pool[i]? = some (.activity ⟨m, .teardown td⟩) ∧ td ≠ .entered ∧ td ≠ .ended

/-- The resolution that has created the mediator still waits for it. -/
def BeingResolved (m : MediatorRef) (c : Config Resolutions ResolutionThread) : Prop :=
  ∃ (i : Nat) (n : Nat) (phase : Resolution), c.pool[i]? = some (.resolution n phase) ∧
    (phase = .created m ∨ phase = .waiting m)

structure NothingLeftBehind (c : Config Resolutions ResolutionThread) : Prop where
  present : ∀ m, Present m c → c.shared.returned m = true ∧ NotDisposed m c ∨ BeingResolved m c
  failed : ∀ (i : Nat) n m e, c.pool[i]? = some (.resolution n (.threw m e)) → ¬Present m c

/-- No command of a disposal fails, and the calls of `EnsureReceiver` can be retried. -/
def CleanStep (hosts : Hosts) (c : Config Resolutions ResolutionThread) (a : Action ResolutionThread ResolutionInput) :
    Prop :=
  ∀ i e t, a = .step i (.event e) → c.pool[i]? = some (.activity t) →
    (∀ m, Retryable hosts m c.shared.life t e) ∧ ∀ td, t.activity = .teardown td → ∀ e', e ≠ .ended (.error e')

/-- No `WaitReady` runs out of time. -/
def ReadyInTime (a : Action ResolutionThread ResolutionInput) : Prop := ∀ i, a ≠ .step i .timedOut

namespace Teardown

/-- The loop of the teardown has started with everything that is in its table. -/
def Covers (l : MediatorLife) : Teardown → Prop
  | .cancelling started _ | .basicCancel _ _ started _ =>
    ∀ consumerTag, (l.consumerTags.lookup consumerTag).isSome = true → consumerTag ∈ started
  | .deleting started _ | .queueDelete _ started _ =>
    ∀ queue, (l.ownedQueues.lookup queue).isSome = true → queue ∈ started
  | _ => True

variable {hosts : Hosts} {m : MediatorRef} {x x' : MultiplexerLife} {l l' : MediatorLife} {td td' : Teardown} {e : Event}

theorem Covers.keeps (h : td.Covers l) (keeps : l.Keeps l') : td.Covers l' := by
  unfold Covers
  rw [keeps.consumerTags, keeps.ownedQueues]
  exact h

theorem Step.covers (h : Teardown.Step hosts m x l td e x' l' td') (covers : td.Covers l) : td'.Covers l' := by
  cases h with
  | forgot => exact fun tag listed => AList.lookup_isSome.mp listed
  | cancelledAll => exact fun queue listed => AList.lookup_isSome.mp listed
  | entered | gone | deletedAll | gaveUp => trivial
  | _ => exact covers

end Teardown

section Disposals

variable {hosts : Hosts} {c d : Config Resolutions ResolutionThread} {i : Nat} {m : MediatorRef} {s s' : Lifecycle}
  {t t' : MediatorThread} {e : Event} {configuration : MediatorRef → RabbitMultiplexerMediatorConfiguration}

/-- A thread outside of `EnsureReceiver` leaves its tables alone. -/
theorem MediatorThread.next_keeps (hn : t.next hosts s e = some (s', t'))
    (idle : t.mediator = m → t.activity.run? = none) : (s.mediators m).Keeps (s'.mediators m) := by
  by_cases own : t.mediator = m
  · obtain ⟨_, l, closes, hl, seen⟩ := next_own hn own
    rw [hl]
    refine MediatorLife.Keeps.trans ?_ (l.keeps_closing closes)
    generalize t.activity = a at seen idle
    generalize t'.activity = a' at seen
    cases seen with
    | run before => exact absurd (before.symm.trans (idle own)) (by simp)
    | teardown h => exact h.keeps.1
    | aside _ _ _ keeps => exact keeps
  · obtain ⟨_, closes, hl, _⟩ := next_other hn own
    rw [hl]
    exact (s.mediators m).keeps_closing closes

theorem MediatorThread.next_teardown {td' : Teardown} (hn : t.next hosts s e = some (s', ⟨m, .teardown td'⟩)) :
    ∃ td x', t = ⟨m, .teardown td⟩ ∧
      Teardown.Step hosts m (s.multiplexers m.multiplexer) (s.mediators m) td e x' (s'.mediators m) td' := by
  obtain ⟨x, l, a, closes, he, rfl, step⟩ := step_of_next hn
  obtain ⟨k, b⟩ := t
  cases he
  cases step with
  | teardown h => exact ⟨_, x, rfl, by rwa [Lifecycle.mediators_after]⟩

theorem idle_of_teardown {td : Teardown} (h : Reachable (resolving hosts) ⟨.init configuration, []⟩ c)
    (hi : c.pool[i]? = some (.activity ⟨m, .teardown td⟩)) (run : ReceiverRun) : ¬Running m (shown c) run :=
  (idle_of_returned h ((managed_of_reachable h).disposals i m td hi)).1 run

theorem covers_of_reachable (h : Reachable (resolving hosts) ⟨.init configuration, []⟩ c) :
    ∀ (i : Nat) m td, c.pool[i]? = some (.activity ⟨m, .teardown td⟩) → td.Covers (c.shared.life.mediators m) := by
  refine h.invariant (P := fun c => ∀ (i : Nat) m td, c.pool[i]? = some (.activity ⟨m, .teardown td⟩) →
    td.Covers (c.shared.life.mediators m)) (fun i m td hi => ?_) fun c d a hc covers _ hd => ?_
  · cases hi
  · cases a with
    | start u =>
      obtain ⟨hs, rfl⟩ := act_start hd
      intro i m td hi
      rcases pool_append_cases hi with hi | ⟨_, rfl⟩
      · exact covers i m td hi
      · cases td with
        | entered => trivial
        | _ => cases hs
    | step j x =>
      obtain ⟨u, s', u', hu, hn, rfl⟩ := act_step hd
      intro i m td hi
      cases ResolutionThread.step_of_next hn with
      | resolution step =>
        have life : s'.life = c.shared.life := by cases step <;> rfl
        rcases pool_set_cases hu hi with ⟨_, he⟩ | ⟨_, hi⟩
        · cases he
        · exact life ▸ covers i m td hi
      | @activity t e life t' step =>
        rcases pool_set_cases hu hi with ⟨rfl, he⟩ | ⟨_, hi⟩
        · cases he
          obtain ⟨td, x', rfl, h⟩ := MediatorThread.next_teardown step
          exact h.covers (covers i m td hu)
        · refine (covers i m td hi).keeps (MediatorThread.next_keeps step fun own => ?_)
          cases hr : t.activity.run? with
          | none => rfl
          | some run => exact absurd ⟨j, t, shown_pool hu, own, hr⟩ (idle_of_teardown hc hi run)

/-- A mediator is only disposed when nobody declares or consumes for it any more. -/
theorem tearsDown_of_reachable (h : Reachable (resolving hosts) ⟨.init configuration, []⟩ c)
    (hi : c.pool[i]? = some (.activity t)) (hn : t.next hosts c.shared.life e = some (s', t')) :
    TearsDown hosts m (shown c) t e := by
  have covered {td : Teardown} (own : t.mediator = m) (ha : t.activity = .teardown td) :
      t = ⟨m, .teardown td⟩ ∧ td.Covers (c.shared.life.mediators m) ∧ ∀ run, ¬Declaring m (shown c) run := by
    obtain ⟨k, a⟩ := t
    cases own
    cases ha
    exact ⟨rfl, covers_of_reachable h i _ td hi, fun run declaring => idle_of_teardown h hi run declaring.1⟩
  refine ⟨fun own started met ha he s p _ _ => ?_, fun own started met ha he => ?_, ?_⟩
  · obtain ⟨rfl, covers, idle⟩ := covered own ha
    subst he
    obtain ⟨_, _, _, _, _, _, step⟩ := MediatorThread.step_of_next hn
    cases step with
    | teardown h =>
      cases h with
      | cancelledAll all => exact ⟨fun listed => all _ (covers _ listed), fun run declaring => absurd declaring (idle run)⟩
  · obtain ⟨rfl, covers, idle⟩ := covered own ha
    subst he
    obtain ⟨_, _, _, _, _, _, step⟩ := MediatorThread.step_of_next hn
    cases step with
    | teardown h =>
      cases h with
      | deletedAll all => exact ⟨fun queue listed => all _ (covers _ listed), fun run declaring => absurd declaring (idle run)⟩
  · rintro name ⟨own, run, _, hr, _⟩ j td hj
    obtain ⟨u, hu, he⟩ := Option.map_eq_some_iff.mp ((List.getElem?_map ..).symm.trans hj)
    cases u with
    | resolution => cases he
    | activity u =>
      cases he
      exact absurd ⟨i, t, shown_pool hi, own, hr⟩ (idle_of_teardown h hu run)

/-- What is known of the steps of the mediators when the steps of the resolutions are clean. -/
def CleanLife (hosts : Hosts) (c : Config Lifecycle MediatorThread) (a : Action MediatorThread Event) : Prop :=
  ∀ i e t, a = .step i e → c.pool[i]? = some t → (∀ m, Retryable hosts m c.shared t e) ∧
    (∀ td, t.activity = .teardown td → ∀ e', e ≠ .ended (.error e')) ∧ (∀ m, TearsDown hosts m c t e) ∧
    JoinsInTime c.shared i t e

theorem joinsInTime_of_reachable (h : Reachable (resolving hosts) ⟨.init configuration, []⟩ c)
    (hi : c.pool[i]? = some (.activity t)) : JoinsInTime c.shared.life i t e := by
  obtain ⟨m, a⟩ := t
  rintro call rfl joining
  by_contra gone
  have returned := (managed_of_reachable h).forgotten m (by simpa using gone)
  have quiet := (idle_of_returned h returned).2 i call hi
  simp [MediatorCall.quiet, joining] at quiet

theorem cleanLife_of_reachable
    (h : ReachableWhere (resolving hosts) (CleanStep hosts) ⟨.init configuration, []⟩ c) :
    ReachableWhere (lifecycle hosts) (CleanLife hosts) ⟨.created configuration, []⟩ (shown c) := by
  refine h.simulation (f := shown) fun c d a hc clean hd => ?_
  rcases shown_act hd with same | ⟨t, _, begun⟩ | ⟨i, t, e, life, t', rfl, hi, hn, moved⟩
  · exact Or.inl same
  · exact Or.inr ⟨_, by rintro i e t ⟨⟩, begun⟩
  · refine Or.inr ⟨_, ?_, moved⟩
    rintro j e' u he hj
    cases he
    cases (shown_pool hi).symm.trans hj
    obtain ⟨retryable, succeeds⟩ := clean i e t rfl hi
    exact ⟨retryable, succeeds, fun m => tearsDown_of_reachable hc.reachable hi hn, joinsInTime_of_reachable hc.reachable hi⟩

theorem tornDown_of_clean
    (h : ReachableWhere (resolving hosts) (CleanStep hosts) ⟨.init configuration, []⟩ c) (m : MediatorRef) :
    TornDown hosts m (fun _ => False) (shown c) := by
  refine tornDown_of_reachable (fun d hd => ?_) (fun c i e t ha ht _ => (ha i e t rfl ht).2.1)
    (fun c i e t _ ha ht => (ha i e t rfl ht).2.2.1 m) (cleanLife_of_reachable h)
  obtain ⟨ownListed, owns⟩ := (ownListed_sound hosts m).always (by rintro k ⟨⟩) rfl hd
  refine ⟨tabled_of_reachable (hd.mono fun c a ha i e t he ht => (ha i e t he ht).1 m), ownListed,
    fun run ⟨i, t, ht, own, hr⟩ => owns i t ht own run hr, fun name none => none.elim⟩

end Disposals

section Resolving

variable {hosts : Hosts} {c d : Config Resolutions ResolutionThread} {m : MediatorRef}
  {configuration : MediatorRef → RabbitMultiplexerMediatorConfiguration}

/-- A mediator that was disposed is not there any more. -/
theorem absent_of_disposed (h : ReachableWhere (resolving hosts) (CleanStep hosts) ⟨.init configuration, []⟩ c)
    (disposed : ¬NotDisposed m c) : ¬Present m c := by
  obtain ⟨ended, idle⟩ := not_or.mp disposed
  obtain ⟨i, hi⟩ := not_forall_not.mp ended
  have begun (j : Nat) (td : Teardown) (hj : c.pool[j]? = some (.activity ⟨m, .teardown td⟩)) :
      td = .entered ∨ td = .ended := by
    by_contra other
    exact idle ⟨j, td, hj, not_or.mp other⟩
  have clean := cleanLife_of_reachable h
  have completed : Disposed m (shown c) := ⟨i, _, shown_pool hi, rfl, rfl⟩
  obtain ⟨_, forgotten⟩ := disposed_of_disposed clean.reachable completed
  have gone : Gone hosts m (fun _ => False) (shown c) := by
    cases tornDown_of_clean h m with
    | registered registered =>
      rw [forgotten] at registered
      cases registered
    | @tearing j td _ there clears =>
      obtain ⟨u, hu, he⟩ := Option.map_eq_some_iff.mp ((List.getElem?_map ..).symm.trans there)
      cases u with
      | resolution => cases he
      | activity u =>
        cases he
        rcases begun j td hu with rfl | rfl <;> exact clears.elim
    | gone _ gone => exact gone
  rintro ⟨_, registered | ⟨n, key, there⟩ | consumes⟩
  · exact absurd (registered.symm.trans forgotten) (by simp)
  · have agree := registries_agree (clean.mono fun c a ha i e t he ht => (ha i e t he ht).2.2.2)
    obtain ⟨_, _, registered⟩ := agree n key m there
    exact absurd (registered.symm.trans forgotten) (by simp)
  · exact consumes gone.consumers

/-- A resolution that has thrown is over. -/
theorem threw_kept {a : Action ResolutionThread ResolutionInput} {i n : Nat} {e : Exception}
    (hd : (resolving hosts).act c a = some d) (hi : c.pool[i]? = some (.resolution n (.threw m e))) :
    d.pool[i]? = some (.resolution n (.threw m e)) := by
  cases a with
  | start u =>
    obtain ⟨_, rfl⟩ := act_start hd
    exact pool_append_of_old hi
  | step j x =>
    obtain ⟨u, s', u', hu, hn, rfl⟩ := act_step hd
    have other : i ≠ j := by
      rintro rfl
      cases hu.symm.trans hi
      cases ResolutionThread.step_of_next hn with
      | resolution step => cases step
    exact (pool_set_other other).trans hi

/-- A resolution throws when it runs out of time. -/
theorem threw_of_act {a : Action ResolutionThread ResolutionInput} {i n : Nat} {e : Exception}
    (hd : (resolving hosts).act c a = some d) (hi : d.pool[i]? = some (.resolution n (.threw m e))) :
    c.pool[i]? = some (.resolution n (.threw m e)) ∨ a = .step i .timedOut := by
  cases a with
  | start u =>
    obtain ⟨hs, rfl⟩ := act_start hd
    rcases pool_append_cases hi with hi | ⟨_, rfl⟩
    · exact Or.inl hi
    · cases hs
  | step j x =>
    obtain ⟨u, s', u', hu, hn, rfl⟩ := act_step hd
    rcases pool_set_cases hu hi with ⟨rfl, rfl⟩ | ⟨_, hi⟩
    · cases ResolutionThread.step_of_next hn with
      | resolution step =>
        cases step
        exact Or.inr rfl
    · exact Or.inl hi

theorem threw_or_ready (h : ReachableWhere (resolving hosts) (CleanStep hosts) ⟨.init configuration, []⟩ c) :
    (∃ (i : Nat) (n : Nat) (m : MediatorRef) (e : Exception), c.pool[i]? = some (.resolution n (.threw m e))) ∨
      ReachableWhere (resolving hosts) (fun c a => CleanStep hosts c a ∧ ReadyInTime a) ⟨.init configuration, []⟩ c := by
  induction h with
  | start => exact Or.inr .start
  | @next c d a _ clean hd ih =>
    rcases ih with ⟨i, n, m, e, hi⟩ | ready
    · exact Or.inl ⟨i, n, m, e, threw_kept hd hi⟩
    · by_cases late : ∃ i, a = .step i .timedOut
      · obtain ⟨i, rfl⟩ := late
        obtain ⟨u, s', u', hu, hn, rfl⟩ := act_step hd
        cases ResolutionThread.step_of_next hn with
        | resolution step =>
          cases step
          exact Or.inl ⟨i, _, _, _, pool_set_self hu⟩
      · exact Or.inr (.next ready ⟨clean, not_exists.mp late⟩ hd)

theorem unthrown_of_ready {i n : Nat} {e : Exception} (h : ReachableWhere (resolving hosts)
      (fun c a => CleanStep hosts c a ∧ ReadyInTime a) ⟨.init configuration, []⟩ c) :
    c.pool[i]? ≠ some (.resolution n (.threw m e)) := by
  refine h.invariant (P := fun c => c.pool[i]? ≠ some (.resolution n (.threw m e))) (by simp) ?_
  rintro c d a _ unthrown ⟨_, inTime⟩ hd hi
  rcases threw_of_act hd hi with old | late
  · exact unthrown old
  · exact inTime i late

/-- No mediator is left behind just as long as all of them were ready in time. -/
theorem nothing_left_behind_iff
    (h : ReachableWhere (resolving hosts) (CleanStep hosts) ⟨.init configuration, []⟩ c) :
    NothingLeftBehind c ↔ ReachableWhere (resolving hosts) (fun c a => CleanStep hosts c a ∧ ReadyInTime a)
      ⟨.init configuration, []⟩ c := by
  have origins := originates_of_reachable h.reachable
  have managed := managed_of_reachable h.reachable
  constructor
  · intro nothing
    refine (threw_or_ready h).resolve_left ?_
    rintro ⟨i, n, m, e, hi⟩
    refine nothing.failed i n m e hi ⟨origins.known i n _ m hi rfl, Or.inl ?_⟩
    by_contra gone
    obtain ⟨j, n', hj⟩ := origins.returned m (managed.forgotten m (by simpa using gone))
    cases origins.alone i j n n' _ _ m hi hj rfl rfl
    cases hi.symm.trans hj
  · intro ready
    refine ⟨fun m present => ?_, fun i n m e hi => absurd hi (unthrown_of_ready ready)⟩
    obtain ⟨i, n, phase, hi, created⟩ := origins.created m present.1
    cases phase with
    | entered => cases created
    | created | waiting =>
      cases created
      exact Or.inr ⟨i, n, _, hi, by simp⟩
    | returned =>
      cases created
      refine Or.inl ⟨managed.returns i n m hi, ?_⟩
      by_contra disposed
      exact absent_of_disposed h disposed present
    | threw => exact absurd hi (unthrown_of_ready ready)

end Resolving
/-- A check that no registered type has the exchange of the call, when the call is about to find out whether its
type is registered. -/
def ReceiverRun.apart (mediator : Mediator) (l : MediatorLife) (run : ReceiverRun) : Bool :=
  match run.control with
  | .rechecking =>
    (l.registeredConsumerTypes.filterMap fun s => (receiverOf mediator s).toOption).all fun p =>
      (receiverOf mediator run.sentObjectType).toOption.all fun p' => p.exchangeName ≠ p'.exchangeName
  | _ => true

theorem ReceiverRun.fresh_of_apart {mediator : Mediator} {l : MediatorLife} {run : ReceiverRun}
    (h : run.apart mediator l = true) (rechecking : run.control = .rechecking) :
    l.Fresh mediator run.sentObjectType := by
  intro s hs p p' receiver receiver'
  rw [apart, rechecking, receiver'] at h
  have there : p ∈ l.registeredConsumerTypes.filterMap fun s => (receiverOf mediator s).toOption :=
    List.mem_filterMap.mpr ⟨s, hs, by rw [receiver, Except.toOption]⟩
  simpa [Except.toOption] using List.all_eq_true.mp h p there

/-- A check of the conditions. -/
def cleanStep (hosts : Hosts) (c : Config Resolutions ResolutionThread) :
    Action ResolutionThread ResolutionInput → Bool
  | .step i (.event e) => e.succeeds && c.pool[i]?.all fun u => u.shown.activity.run?.all fun run =>
      run.apart (hosts.mediator u.shown.mediator) (c.shared.life.mediators u.shown.mediator)
  | _ => true

def readyInTime : Action ResolutionThread ResolutionInput → Bool
  | .step _ .timedOut => false
  | _ => true

theorem cleanStep_of_check {hosts : Hosts} {c : Config Resolutions ResolutionThread}
    {a : Action ResolutionThread ResolutionInput} (h : cleanStep hosts c a = true) : CleanStep hosts c a := by
  rintro i e t rfl hi
  obtain ⟨succeeds, apart⟩ := Bool.and_eq_true_iff.mp h
  have succeeds := succeeds_of_check (t := t) succeeds
  refine ⟨fun m => ⟨fun _ run hr control _ e' => ?_, fun _ run hr control e' he => ?_, ?_⟩, succeeds.teardowns⟩
  · exact (succeeds.receivers run hr _ control rfl e').1
  · exact absurd he (succeeds.receivers run hr _ control rfl e').2
  · rintro rfl run hr rechecking _
    refine ReceiverRun.fresh_of_apart ?_ rechecking
    simpa only [hi, Option.all_some, ResolutionThread.shown, hr] using apart

theorem readyInTime_of_check {a : Action ResolutionThread ResolutionInput} (h : readyInTime a = true) :
    ReadyInTime a := by
  rintro i rfl
  cases h

def testResolution : List (Action ResolutionThread ResolutionInput) :=
  [.start (.resolution 0 .entered), .step 0 (.creates ⟨0, 0⟩), .step 0 .go]

def testBackground (i : Nat) : List (Action ResolutionThread ResolutionInput) :=
  .start (.activity ⟨⟨0, 0⟩, .call ⟨.ensureConfigured, .entered⟩⟩) :: testConfigures.map fun e => .step i (.event e)

/-- A mediator with two consumers is resolved in time, and disposed. -/
theorem testResolution_nothing_left_behind :
    ∃ c, (resolving testHosts).run (fun c a => cleanStep testHosts c a && readyInTime a)
        ⟨.init fun _ => testUnconfigured, []⟩
        (testResolution ++ testBackground 1 ++ .step 0 .go :: .start (.activity ⟨⟨0, 0⟩, .teardown .entered⟩) ::
          testConsumersDispose.map fun e => .step 2 (.event e)) = some c ∧
      c.shared.returned ⟨0, 0⟩ = true ∧ (c.shared.life.mediators ⟨0, 0⟩).registered = false ∧ NothingLeftBehind c := by
  have h : ((resolving testHosts).run (fun c a => cleanStep testHosts c a && readyInTime a)
      ⟨.init fun _ => testUnconfigured, []⟩
      (testResolution ++ testBackground 1 ++ .step 0 .go :: .start (.activity ⟨⟨0, 0⟩, .teardown .entered⟩) ::
        testConsumersDispose.map fun e => .step 2 (.event e))).any
      (fun c => c.shared.returned ⟨0, 0⟩ && !(c.shared.life.mediators ⟨0, 0⟩).registered) = true := by decide +kernel
  obtain ⟨c, hc, found⟩ := (Option.any_eq_true _ _).mp h
  obtain ⟨returned, forgotten⟩ := Bool.and_eq_true_iff.mp found
  have ready : ReachableWhere (resolving testHosts) (fun c a => CleanStep testHosts c a ∧ ReadyInTime a)
      ⟨.init fun _ => testUnconfigured, []⟩ c := by
    refine .of_run .start (fun c a ha => ?_) hc
    obtain ⟨clean, inTime⟩ := Bool.and_eq_true_iff.mp ha
    exact ⟨cleanStep_of_check clean, readyInTime_of_check inTime⟩
  exact ⟨c, hc, returned, by simpa using forgotten, (nothing_left_behind_iff (ready.mono fun _ _ => And.left)).mpr ready⟩

/-- A resolution runs out of time, and only then is its mediator configured. It stays, and nobody has it. -/
theorem resolution_leaves_mediator :
    ¬∀ hosts configuration c, ReachableWhere (resolving hosts) (CleanStep hosts) ⟨.init configuration, []⟩ c →
      NothingLeftBehind c := by
  intro claim
  have h : ((resolving testHosts).run (cleanStep testHosts) ⟨.init fun _ => testUnconfigured, []⟩
      (testResolution ++ .step 0 .timedOut :: testBackground 1)).any
      (fun c => c.shared.created ⟨0, 0⟩ && (c.shared.life.mediators ⟨0, 0⟩).configureDone &&
        (c.shared.life.mediators ⟨0, 0⟩).registered && !c.shared.returned ⟨0, 0⟩ && c.pool[0]?.any fun u =>
          match u with
          | .resolution _ (.threw m _) => decide (m = ⟨0, 0⟩)
          | _ => false) = true := by decide +kernel
  obtain ⟨c, hc, found⟩ := (Option.any_eq_true _ _).mp h
  simp only [Bool.and_eq_true, Option.any_eq_true] at found
  obtain ⟨⟨⟨⟨created, _⟩, registered⟩, _⟩, u, hu, threw⟩ := found
  have nothing := claim testHosts _ c (.of_run .start (fun _ _ => cleanStep_of_check) hc)
  split at threw
  next n m e =>
    cases of_decide_eq_true threw
    exact nothing.failed 0 n _ e hu ⟨created, Or.inl registered⟩
  next => cases threw

end RabbitMediator
