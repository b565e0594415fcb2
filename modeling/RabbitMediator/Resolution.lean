import RabbitMediator.QuietCalls
import RabbitMediator.UseAfterDispose

namespace RabbitMediator

open Interleaving

/-- Where a resolution of `IRabbitMediator` stands: a call of the factory of its descriptor. -/
inductive Resolution
  | entered
  | created (newMediator : MediatorRef)
  | waiting (newMediator : MediatorRef)
  | returned (newMediator : MediatorRef)
  | threw (newMediator : MediatorRef) (e : Exception)

/-- The multiplexers and mediators, and how far the factory has come with each mediator. One that is not
created yet is shown as `CreateRabbitMediator` will leave it. -/
structure Resolutions where
  life : Lifecycle
  created : MediatorRef → Bool
  handed : MediatorRef → Bool
  returned : MediatorRef → Bool

def Resolutions.init (configuration : MediatorRef → RabbitMultiplexerMediatorConfiguration) : Resolutions where
  life := .created configuration
  created _ := false
  handed _ := false
  returned _ := false

/-- Beside the resolutions run the calls of `EnsureConfigured` they have started, and the disposals of the
mediators they have returned. -/
inductive ResolutionThread
  | resolution (multiplexer : Nat) (phase : Resolution)
  | activity (t : MediatorThread)

inductive ResolutionInput
  | creates (newMediator : MediatorRef)
  | go
  /-- `WaitReadyTimeOut` has passed. -/
  | timedOut
  | event (e : Event)

def notReady : Exception := .new .timeout "Could not created mediator within time!"

namespace Resolution

def next (s : Resolutions) (multiplexer : Nat) : Resolution → ResolutionInput → Option (Resolutions × Resolution)
  | .entered, .creates newMediator =>
    if newMediator.multiplexer = multiplexer && !s.created newMediator then
      some ({ s with created := Function.update s.created newMediator true }, .created newMediator)
    else none
  -- the worker gets the mediator, and `Task.Run` starts to configure it
  | .created newMediator, .go =>
    some ({ s with handed := Function.update s.handed newMediator true }, .waiting newMediator)
  | .waiting newMediator, .go =>
    if (s.life.mediators newMediator).configureEvent then
      some ({ s with returned := Function.update s.returned newMediator true }, .returned newMediator)
    else none
  | .waiting newMediator, .timedOut =>
    if (s.life.mediators newMediator).configureEvent then none else some (s, .threw newMediator notReady)
  | _, _ => none

/-- The mediator that the resolution has created. -/
def mediator? : Resolution → Option MediatorRef
  | .entered => none
  | .created newMediator | .waiting newMediator | .returned newMediator | .threw newMediator _ => some newMediator

end Resolution

def resolving (hosts : Hosts) : Threads Resolutions ResolutionThread ResolutionInput where
  start s
    | .resolution _ .entered => true
    | .activity ⟨m, .call ⟨.ensureConfigured, .entered⟩⟩ => s.handed m
    | .activity ⟨m, .teardown .entered⟩ => s.returned m
    | _ => false
  next s _ t x := match t, x with
    | .resolution multiplexer phase, x =>
      (phase.next s multiplexer x).map fun p => (p.1, .resolution multiplexer p.2)
    | .activity t, .event e => (t.next hosts s.life e).map fun p => ({ s with life := p.1 }, .activity p.2)
    | .activity _, _ => none

/-- Everything a resolution can do in one step. -/
inductive Resolution.Step (s : Resolutions) (multiplexer : Nat) :
    Resolution → ResolutionInput → Resolutions → Resolution → Prop
  | creates {newMediator} (here : newMediator.multiplexer = multiplexer) (new : s.created newMediator = false) :
      Step s multiplexer .entered (.creates newMediator)
        { s with created := Function.update s.created newMediator true } (.created newMediator)
  | hands {newMediator} : Step s multiplexer (.created newMediator) .go
      { s with handed := Function.update s.handed newMediator true } (.waiting newMediator)
  | returns {newMediator} (ready : (s.life.mediators newMediator).configureEvent = true) :
      Step s multiplexer (.waiting newMediator) .go
        { s with returned := Function.update s.returned newMediator true } (.returned newMediator)
  | throws {newMediator} : Step s multiplexer (.waiting newMediator) .timedOut s (.threw newMediator notReady)

/-- Everything a thread can do in one step. -/
inductive ResolutionThread.Step (hosts : Hosts) (s : Resolutions) :
    ResolutionThread → ResolutionInput → Resolutions → ResolutionThread → Prop
  | resolution {multiplexer phase x s' phase'} (h : Resolution.Step s multiplexer phase x s' phase') :
      Step hosts s (.resolution multiplexer phase) x s' (.resolution multiplexer phase')
  | activity {t e life t'} (h : t.next hosts s.life e = some (life, t')) :
      Step hosts s (.activity t) (.event e) { s with life := life } (.activity t')

section Steps

variable {hosts : Hosts} {s s' : Resolutions} {t t' : ResolutionThread} {x : ResolutionInput} {i : Nat}
  {phase phase' : Resolution} {multiplexer : Nat}

theorem Resolution.step_of_next (h : phase.next s multiplexer x = some (s', phase')) :
    Step s multiplexer phase x s' phase' := by
  unfold next at h
  split at h
  next =>
    split at h <;> cases h
    next free =>
      obtain ⟨here, new⟩ := Bool.and_eq_true_iff.mp free
      exact .creates (of_decide_eq_true here) (by simpa using new)
  next => cases h; exact .hands
  next =>
    split at h <;> cases h
    next ready => exact .returns ready
  next =>
    split at h <;> cases h
    exact .throws
  next => cases h

theorem ResolutionThread.step_of_next (h : (resolving hosts).next s i t x = some (s', t')) : t.Step hosts s x s' t' := by
  cases t with
  | resolution multiplexer phase =>
    obtain ⟨p, hp, he⟩ := Option.map_eq_some_iff.mp h
    cases he
    exact .resolution (Resolution.step_of_next hp)
  | activity t =>
    cases x with
    | event e =>
      obtain ⟨p, hp, he⟩ := Option.map_eq_some_iff.mp h
      cases he
      exact .activity hp
    | _ => cases h

end Steps

/-- A resolution is shown as a call that has not begun. -/
def ResolutionThread.shown : ResolutionThread → MediatorThread
  | .resolution multiplexer _ => ⟨⟨multiplexer, 0⟩, .call ⟨.ensureConfigured, .entered⟩⟩
  | .activity t => t

/-- A run of resolutions, as a run of their mediators. -/
def shown (c : Config Resolutions ResolutionThread) : Config Lifecycle MediatorThread :=
  ⟨c.shared.life, c.pool.map (·.shown)⟩

section Shown

variable {hosts : Hosts} {c d : Config Resolutions ResolutionThread} {t : ResolutionThread} {s : Resolutions} {i : Nat}

theorem shown_pool (ht : c.pool[i]? = some t) : (shown c).pool[i]? = some t.shown := by
  simp [shown, ht]

theorem shown_start (hs : (resolving hosts).start s t = true) : t.shown.activity.start = true := by
  cases t with
  | resolution => rfl
  | activity t =>
    obtain ⟨m, a⟩ := t
    cases a with
    | call call =>
      obtain ⟨caller, phase⟩ := call
      cases phase <;> first | rfl | (cases caller <;> cases hs)
    | teardown td => cases td <;> first | rfl | cases hs
    | _ => cases hs

/-- A step of the resolutions, as the mediators see it. -/
theorem shown_act {a : Action ResolutionThread ResolutionInput} (hd : (resolving hosts).act c a = some d) :
    shown d = shown c ∨ (∃ t, a = .start t ∧ (lifecycle hosts).act (shown c) (.start t.shown) = some (shown d)) ∨
    ∃ i t e life t', a = .step i (.event e) ∧ c.pool[i]? = some (.activity t) ∧
      t.next hosts c.shared.life e = some (life, t') ∧
      (lifecycle hosts).act (shown c) (.step i e) = some (shown d) := by
  cases a with
  | start t =>
    obtain ⟨hs, rfl⟩ := act_start hd
    refine Or.inr (Or.inl ⟨t, rfl, ?_⟩)
    have begins := shown_start hs
    simp [Threads.act, lifecycle, begins, shown]
  | step i x =>
    obtain ⟨t, s', t', ht, hn, rfl⟩ := act_step hd
    cases ResolutionThread.step_of_next hn with
    | resolution h =>
      left
      have same : s'.life = c.shared.life := by cases h <;> rfl
      unfold shown
      rw [same]
      exact congrArg _ (map_set_same ResolutionThread.shown ht rfl)
    | @activity t e life t' h =>
      refine Or.inr (Or.inr ⟨i, t, e, life, t', rfl, ht, h, ?_⟩)
      have there := shown_pool ht
      simp only [Threads.act, there]
      simp [lifecycle, ResolutionThread.shown, shown, h, List.map_set]

end Shown
/-- A mediator comes from one resolution, which knows whether it was returned. -/
structure Originates (c : Config Resolutions ResolutionThread) : Prop where
  alone : ∀ (i j : Nat) n n' p p' m, c.pool[i]? = some (.resolution n p) → c.pool[j]? = some (.resolution n' p') →
    p.mediator? = some m → p'.mediator? = some m → i = j
  created : ∀ m, c.shared.created m = true →
    ∃ (i : Nat) (n : Nat) (p : Resolution), c.pool[i]? = some (.resolution n p) ∧ p.mediator? = some m
  known : ∀ (i : Nat) n p m, c.pool[i]? = some (.resolution n p) → p.mediator? = some m → c.shared.created m = true
  returned : ∀ m, c.shared.returned m = true → ∃ (i : Nat) (n : Nat), c.pool[i]? = some (.resolution n (.returned m))

section Origins

variable {hosts : Hosts} {c : Config Resolutions ResolutionThread} {s s' : Resolutions} {n : Nat} {x : ResolutionInput}
  {phase phase' : Resolution} {i : Nat} {life : Lifecycle} {t t' : MediatorThread} {u : ResolutionThread}

theorem Resolution.Step.created (h : Step s n phase x s' phase') :
    phase'.mediator? = phase.mediator? ∧ s'.created = s.created ∨ ∃ newMediator, phase.mediator? = none ∧
      phase'.mediator? = some newMediator ∧ s.created newMediator = false ∧
      s'.created = Function.update s.created newMediator true := by
  cases h with
  | creates _ new => exact Or.inr ⟨_, rfl, rfl, new, rfl⟩
  | _ => exact Or.inl ⟨rfl, rfl⟩

theorem Resolution.Step.returned (h : Step s n phase x s' phase') :
    s'.returned = s.returned ∨ ∃ newMediator, phase' = .returned newMediator ∧
      (s.life.mediators newMediator).configureEvent = true ∧
      s'.returned = Function.update s.returned newMediator true := by
  cases h with
  | returns ready => exact Or.inr ⟨_, rfl, ready, rfl⟩
  | _ => exact Or.inl rfl

theorem Originates.started (h : Originates c) (hs : (resolving hosts).start c.shared u = true) :
    Originates ⟨c.shared, c.pool ++ [u]⟩ := by
  have old {j n : Nat} {p : Resolution} {m : MediatorRef} (hj : (c.pool ++ [u])[j]? = some (.resolution n p)) (hp : p.mediator? = some m) :
      c.pool[j]? = some (.resolution n p) := by
    rcases pool_append_cases hj with hj | ⟨_, rfl⟩
    · exact hj
    · cases p with
      | entered => cases hp
      | _ => cases hs
  refine ⟨fun i j n n' p p' m hi hj hp hp' => h.alone i j n n' p p' m (old hi hp) (old hj hp') hp hp', fun m hm => ?_,
    fun i n p m hi hp => h.known i n p m (old hi hp) hp, fun m hm => ?_⟩
  · obtain ⟨i, n, p, hi, hp⟩ := h.created m hm
    exact ⟨i, n, p, pool_append_of_old hi, hp⟩
  · obtain ⟨i, n, hi⟩ := h.returned m hm
    exact ⟨i, n, pool_append_of_old hi⟩

theorem Originates.resolved (h : Originates c) (hi : c.pool[i]? = some (.resolution n phase))
    (step : Resolution.Step c.shared n phase x s' phase') :
    Originates ⟨s', c.pool.set i (.resolution n phase')⟩ := by
  have kept {m : MediatorRef} (hm : c.shared.created m = true) : s'.created m = true := by
    rcases step.created with ⟨_, created⟩ | ⟨m', _, _, _, created⟩
    · rw [created]
      exact hm
    · by_cases same : m = m'
      · simp [created, same]
      · rw [created, Function.update_of_ne same]
        exact hm
  -- A mediator of the new pool is an old one, or the one that has just been created.
  have before {j n' : Nat} {p : Resolution} {m : MediatorRef}
      (hj : (c.pool.set i (.resolution n phase'))[j]? = some (.resolution n' p)) (hp : p.mediator? = some m) :
      (∃ p₀, c.pool[j]? = some (.resolution n' p₀) ∧ p₀.mediator? = some m) ∨
        j = i ∧ c.shared.created m = false ∧ s'.created m = true := by
    rcases pool_set_cases hi hj with ⟨rfl, he⟩ | ⟨_, hj⟩
    · cases he
      rcases step.created with ⟨same, _⟩ | ⟨m', _, hm', new, created⟩
      · exact Or.inl ⟨phase, hi, same ▸ hp⟩
      · cases hp.symm.trans hm'
        exact Or.inr ⟨rfl, new, by simp [created]⟩
    · exact Or.inl ⟨p, hj, hp⟩
  refine ⟨fun j k n₁ n₂ p q m hj hk hp hq => ?_, fun m hm => ?_, fun j n' p m hj hp => ?_, fun m hm => ?_⟩
  · rcases before hj hp with ⟨p₀, hj, hp⟩ | ⟨rfl, new, _⟩
    · rcases before hk hq with ⟨q₀, hk, hq⟩ | ⟨_, new, _⟩
      · exact h.alone j k n₁ n₂ p₀ q₀ m hj hk hp hq
      · exact absurd ((h.known j n₁ p₀ m hj hp).symm.trans new) (by simp)
    · rcases before hk hq with ⟨q₀, hk, hq⟩ | ⟨rfl, _⟩
      · exact absurd ((h.known k n₂ q₀ m hk hq).symm.trans new) (by simp)
      · rfl
  · have old (hm : c.shared.created m = true) (other : ∀ m', phase.mediator? ≠ some m' ∨ phase'.mediator? = some m') :
        ∃ (j : Nat) (n' : Nat) (p : Resolution),
          (c.pool.set i (.resolution n phase'))[j]? = some (.resolution n' p) ∧ p.mediator? = some m := by
      obtain ⟨j, n', p, hj, hp⟩ := h.created m hm
      by_cases same : j = i
      · subst same
        cases hi.symm.trans hj
        exact ⟨j, n, phase', pool_set_self hi, (other m).resolve_left fun no => no hp⟩
      · exact ⟨j, n', p, (pool_set_other same).trans hj, hp⟩
    rcases step.created with ⟨same, created⟩ | ⟨m', first, hm', _, created⟩
    · refine old (created ▸ hm) fun m' => ?_
      rw [same]
      exact (em _).symm
    · by_cases mine : m = m'
      · exact ⟨i, n, phase', pool_set_self hi, mine ▸ hm'⟩
      · rw [created, Function.update_of_ne mine] at hm
        exact old hm fun _ => Or.inl (by simp [first])
  · rcases before hj hp with ⟨p₀, hj, hp⟩ | ⟨_, _, now⟩
    · exact kept (h.known j n' p₀ m hj hp)
    · exact now
  · have old (hm : c.shared.returned m = true) :
        ∃ (j : Nat) (n' : Nat), (c.pool.set i (.resolution n phase'))[j]? = some (.resolution n' (.returned m)) := by
      obtain ⟨j, n', hj⟩ := h.returned m hm
      have other : j ≠ i := by
        rintro rfl
        cases hi.symm.trans hj
        cases step
      exact ⟨j, n', (pool_set_other other).trans hj⟩
    rcases step.returned with same | ⟨m', rfl, _, now⟩
    · exact old (same ▸ hm)
    · by_cases mine : m = m'
      · exact ⟨i, n, mine ▸ pool_set_self hi⟩
      · rw [now, Function.update_of_ne mine] at hm
        exact old hm

theorem Originates.acted (h : Originates c) (hi : c.pool[i]? = some (.activity t)) :
    Originates ⟨{ c.shared with life := life }, c.pool.set i (.activity t')⟩ := by
  have old {j n : Nat} {p : Resolution} (hj : (c.pool.set i (.activity t'))[j]? = some (.resolution n p)) :
      c.pool[j]? = some (.resolution n p) := by
    rcases pool_set_cases hi hj with ⟨_, he⟩ | ⟨_, hj⟩
    · cases he
    · exact hj
  have kept {j n : Nat} {p : Resolution} (hj : c.pool[j]? = some (.resolution n p)) :
      (c.pool.set i (.activity t'))[j]? = some (.resolution n p) := by
    have other : j ≠ i := by
      rintro rfl
      cases hi.symm.trans hj
    exact (pool_set_other other).trans hj
  refine ⟨fun i j n n' p p' m hi hj => h.alone i j n n' p p' m (old hi) (old hj), fun m hm => ?_,
    fun i n p m hi => h.known i n p m (old hi), fun m hm => ?_⟩
  · obtain ⟨i, n, p, hi, hp⟩ := h.created m hm
    exact ⟨i, n, p, kept hi, hp⟩
  · obtain ⟨i, n, hi⟩ := h.returned m hm
    exact ⟨i, n, kept hi⟩

theorem originates_of_reachable {configuration : MediatorRef → RabbitMultiplexerMediatorConfiguration}
    (h : Reachable (resolving hosts) ⟨.init configuration, []⟩ c) : Originates c := by
  refine h.invariant ⟨?_, ?_, ?_, ?_⟩ fun c d a _ originates _ hd => ?_
  · intro i j n n' p p' m hi
    cases hi
  · intro m hm
    cases hm
  · intro i n p m hi
    cases hi
  · intro m hm
    cases hm
  · cases a with
    | start u =>
      obtain ⟨hs, rfl⟩ := act_start hd
      exact originates.started hs
    | step i x =>
      obtain ⟨u, s', u', hu, hn, rfl⟩ := act_step hd
      cases ResolutionThread.step_of_next hn with
      | resolution step => exact originates.resolved hu step
      | activity => exact originates.acted hu

end Origins

/-- Only mediators that were returned are disposed, and those are configured. -/
structure Managed (c : Config Resolutions ResolutionThread) : Prop where
  returns : ∀ (i : Nat) n m, c.pool[i]? = some (.resolution n (.returned m)) → c.shared.returned m = true
  configured : ∀ m, c.shared.returned m = true → (c.shared.life.mediators m).configureEvent = true
  disposals : ∀ (i : Nat) m td, c.pool[i]? = some (.activity ⟨m, .teardown td⟩) → c.shared.returned m = true
  kinds : ∀ (i : Nat) t, c.pool[i]? = some (.activity t) →
    (∃ td, t.activity = .teardown td) ∨ ∃ call, t.activity = .call call
  forgotten : ∀ m, (c.shared.life.mediators m).registered = false → c.shared.returned m = true

section Management

variable {hosts : Hosts} {c d : Config Resolutions ResolutionThread} {s' : Resolutions} {n : Nat} {x : ResolutionInput}
  {phase phase' : Resolution} {i : Nat} {life : Lifecycle} {t t' : MediatorThread} {u : ResolutionThread} {e : Event}
  {m : MediatorRef} {configuration : MediatorRef → RabbitMultiplexerMediatorConfiguration}

theorem Managed.started (h : Managed c) (hs : (resolving hosts).start c.shared u = true) :
    Managed ⟨c.shared, c.pool ++ [u]⟩ := by
  refine ⟨fun i n m hi => ?_, h.configured, fun i m td hi => ?_, fun i t hi => ?_, h.forgotten⟩
  · rcases pool_append_cases hi with hi | ⟨_, rfl⟩
    · exact h.returns i n m hi
    · cases hs
  · rcases pool_append_cases hi with hi | ⟨_, rfl⟩
    · exact h.disposals i m td hi
    · cases td with
      | entered => exact hs
      | _ => cases hs
  · rcases pool_append_cases hi with hi | ⟨_, rfl⟩
    · exact h.kinds i t hi
    · obtain ⟨m, a⟩ := t
      cases a with
      | call => exact Or.inr ⟨_, rfl⟩
      | teardown => exact Or.inl ⟨_, rfl⟩
      | _ => cases hs

theorem Managed.resolved (h : Managed c) (hi : c.pool[i]? = some (.resolution n phase))
    (step : Resolution.Step c.shared n phase x s' phase') : Managed ⟨s', c.pool.set i (.resolution n phase')⟩ := by
  have life : s'.life = c.shared.life := by cases step <;> rfl
  have kept {m : MediatorRef} (hm : c.shared.returned m = true) : s'.returned m = true := by
    rcases step.returned with same | ⟨m', _, _, now⟩
    · exact same ▸ hm
    · by_cases mine : m = m'
      · simp [now, mine]
      · rwa [now, Function.update_of_ne mine]
  have old {j : Nat} {t : MediatorThread}
      (hj : (c.pool.set i (.resolution n phase'))[j]? = some (.activity t)) : c.pool[j]? = some (.activity t) := by
    rcases pool_set_cases hi hj with ⟨_, he⟩ | ⟨_, hj⟩
    · cases he
    · exact hj
  refine ⟨fun j n' m hj => ?_, fun m hm => ?_, fun j m td hj => kept (h.disposals j m td (old hj)),
    fun j t hj => h.kinds j t (old hj), fun m hm => kept (h.forgotten m ?_)⟩
  · rcases pool_set_cases hi hj with ⟨_, he⟩ | ⟨_, hj⟩
    · cases he
      cases step with
      | returns => simp
    · exact kept (h.returns j n' m hj)
  · rw [life]
    rcases step.returned with same | ⟨m', _, ready, now⟩
    · exact h.configured m (same ▸ hm)
    · by_cases mine : m = m'
      · exact mine ▸ ready
      · rw [now, Function.update_of_ne mine] at hm
        exact h.configured m hm
  · exact life ▸ hm

/-- A thread stays of its kind. -/
theorem MediatorThread.next_kind {s s' : Lifecycle} (hn : t.next hosts s e = some (s', t')) :
    t'.mediator = t.mediator ∧ ((∃ td, t'.activity = .teardown td) → ∃ td, t.activity = .teardown td) ∧
      ((∃ td, t.activity = .teardown td) ∨ (∃ call, t.activity = .call call) →
        (∃ td, t'.activity = .teardown td) ∨ ∃ call, t'.activity = .call call) := by
  obtain ⟨x, l, a, closes, rfl, rfl, step⟩ := step_of_next hn
  generalize t.activity = b at step
  cases step with
  | call => exact ⟨rfl, by simp, fun _ => Or.inr ⟨_, rfl⟩⟩
  | teardown => exact ⟨rfl, fun _ => ⟨_, rfl⟩, fun _ => Or.inl ⟨_, rfl⟩⟩
  | _ => exact ⟨rfl, by simp, by simp⟩

theorem Managed.acted (h : Managed c) (hi : c.pool[i]? = some (.activity t))
    (hn : t.next hosts c.shared.life e = some (life, t')) :
    Managed ⟨{ c.shared with life := life }, c.pool.set i (.activity t')⟩ := by
  obtain ⟨own, teardown, kind⟩ := MediatorThread.next_kind hn
  have disposed {m : MediatorRef} {td' : Teardown} (ht' : t' = ⟨m, .teardown td'⟩) : c.shared.returned m = true := by
    subst ht'
    obtain ⟨td, ha⟩ := teardown ⟨td', rfl⟩
    obtain ⟨k, a⟩ := t
    cases own
    cases ha
    exact h.disposals i m td hi
  refine ⟨fun j n m hj => ?_, fun m hm => MediatorThread.configureEvent_kept hn (h.configured m hm),
    fun j m td hj => ?_, fun j u hj => ?_, fun m gone => ?_⟩
  · rcases pool_set_cases hi hj with ⟨_, he⟩ | ⟨_, hj⟩
    · cases he
    · exact h.returns j n m hj
  · rcases pool_set_cases hi hj with ⟨_, he⟩ | ⟨_, hj⟩
    · cases he
      exact disposed rfl
    · exact h.disposals j m td hj
  · rcases pool_set_cases hi hj with ⟨_, he⟩ | ⟨_, hj⟩
    · cases he
      exact kind (h.kinds i t hi)
    · exact h.kinds j u hj
  · cases before : (c.shared.life.mediators m).registered with
    | false => exact h.forgotten m before
    | true =>
      obtain ⟨started, rfl⟩ := forgotten_of_next (c := shown c) hn before gone
      exact disposed rfl

theorem managed_of_reachable (h : Reachable (resolving hosts) ⟨.init configuration, []⟩ c) : Managed c := by
  refine h.invariant ⟨?_, ?_, ?_, ?_, ?_⟩ fun c d a _ managed _ hd => ?_
  · intro i n m hi
    cases hi
  · intro m hm
    cases hm
  · intro i m td hi
    cases hi
  · intro i t hi
    cases hi
  · intro m hm
    cases hm
  · cases a with
    | start u =>
      obtain ⟨hs, rfl⟩ := act_start hd
      exact managed.started hs
    | step i x =>
      obtain ⟨u, s', u', hu, hn, rfl⟩ := act_step hd
      cases ResolutionThread.step_of_next hn with
      | resolution step => exact managed.resolved hu step
      | activity step => exact managed.acted hu step

theorem shown_reachable (h : Reachable (resolving hosts) ⟨.init configuration, []⟩ c) :
    Reachable (lifecycle hosts) ⟨.created configuration, []⟩ (shown c) := by
  refine h.simulation (f := shown) fun c d a _ _ hd => ?_
  rcases shown_act hd with same | ⟨t, _, begun⟩ | ⟨i, t, e, _, _, _, _, _, moved⟩
  · exact Or.inl same
  · exact Or.inr ⟨_, trivial, begun⟩
  · exact Or.inr ⟨_, trivial, moved⟩

/-- A mediator that was returned is configured, and nobody configures it any more. -/
theorem idle_of_returned (h : Reachable (resolving hosts) ⟨.init configuration, []⟩ c)
    (returned : c.shared.returned m = true) : (∀ run, ¬Running m (shown c) run) ∧
      ∀ (j : Nat) call, c.pool[j]? = some (.activity ⟨m, .call call⟩) → call.quiet = true := by
  have managed := managed_of_reachable h
  have configured : Configured m (shown c) := configured_of_reachable (shown_reachable h)
  have done := configured.event (managed.configured m returned)
  refine ⟨?_, fun j call hj => configured.quiet done j _ call (shown_pool hj) rfl rfl⟩
  rintro run ⟨j, t, hj, own, hr⟩
  obtain ⟨u, hu, rfl⟩ := Option.map_eq_some_iff.mp ((List.getElem?_map ..).symm.trans hj)
  cases u with
  | resolution => cases hr
  | activity t =>
    have quiet := configured.quiet done j t
    obtain ⟨k, a⟩ := t
    rcases managed.kinds j _ hu with ⟨_, rfl⟩ | ⟨call, rfl⟩
    · cases hr
    · have quiet := quiet call (shown_pool hu) own rfl
      simp only [ResolutionThread.shown, Activity.run?, MediatorCall.run?] at hr
      split at hr
      next phase => simp [MediatorCall.quiet, phase] at quiet
      next => cases hr

end Management
end RabbitMediator
