import RabbitMediator.TearingDown

namespace RabbitMediator

open Interleaving

/-- The call does not configure its mediator, or has done so. -/
def MediatorCall.quiet (call : MediatorCall) : Bool :=
  match call.phase with
  | .connecting | .joining | .listing | .configuring _ | .ensuring _ _ | .finishing => false
  | _ => true

section Calls

variable {hosts : Hosts} {m : MediatorRef} {x x' : MultiplexerLife} {l l' : MediatorLife} {call call' : MediatorCall}
  {e : Event} {closes : Option ReceiveChannel}

theorem MediatorCall.quiet_configured (call : MediatorCall) : call.configured.quiet = true := by
  unfold configured
  split <;> rfl

theorem MediatorCall.quiet_of_outside (h : call.inside = false) : call.quiet = true := by
  unfold inside at h
  unfold quiet
  split at h <;> simp_all

/-- Once `ConfigureDone` is set, no call configures. -/
theorem MediatorCall.Step.quiet (h : call.Step hosts m x l e x' l' call' closes) (before : call.quiet = true)
    (done : l.configureDone = true) : call'.quiet = true := by
  cases h with
  | passed | released => exact call.quiet_configured
  | began _ undone => exact absurd (done.symm.trans undone) (by simp)
  | waits | acquired | found | announced | threw | disposed | proceeded => rfl
  | _ control => simp [MediatorCall.quiet, control] at before

/-- What the flags of a mediator say of its configuration. -/
structure MediatorLife.SameFlags (l l' : MediatorLife) : Prop where
  configureDone : l'.configureDone = l.configureDone
  configureEvent : l'.configureEvent = l.configureEvent

theorem MediatorLife.sameFlags_closing (l : MediatorLife) (closes : Option ReceiveChannel) :
    l.SameFlags (l.closing closes) := by
  cases closes <;> exact ⟨rfl, rfl⟩

/-- The flags are set by a call that has configured everything. -/
theorem MediatorCall.Step.flags (h : call.Step hosts m x l e x' l' call' closes) :
    l.SameFlags l' ∨ call.phase = .finishing ∧ call'.phase = .announcing ∧ l' = { l with configureDone := true } ∨
      call.phase = .announcing ∧ l' = { l with configureEvent := true } := by
  cases h with
  | finished before => exact Or.inr (Or.inl ⟨before, rfl, rfl⟩)
  | announced before => exact Or.inr (Or.inr ⟨before, rfl⟩)
  | ensured _ h => exact Or.inl ⟨h.frame.2.2.2.1, h.frame.2.2.2.2.1⟩
  | _ => exact Or.inl ⟨rfl, rfl⟩

end Calls

section Flags

variable {hosts : Hosts} {m : MediatorRef} {s s' : Lifecycle} {t t' : MediatorThread} {e : Event} {i : Nat}
  {c : Config Lifecycle MediatorThread} {configuration : MediatorRef → RabbitMultiplexerMediatorConfiguration}

/-- What a step of a thread does to the flags of a mediator. -/
inductive MediatorThread.Flags (m : MediatorRef) (t : MediatorThread) (l : MediatorLife) : MediatorLife → MediatorThread → Prop
  | same {l' t'} (same : l.SameFlags l') : Flags m t l l' t'
  | finished {l' t' call call'} (own : t.mediator = m) (before : t.activity = .call call) (at_ : call.phase = .finishing)
      (after : t'.activity = .call call') (next : call'.phase = .announcing) (done : l'.configureDone = true)
      (event : l'.configureEvent = l.configureEvent) : Flags m t l l' t'
  | announced {l' t' call} (own : t.mediator = m) (before : t.activity = .call call) (at_ : call.phase = .announcing)
      (done : l'.configureDone = l.configureDone) (event : l'.configureEvent = true) : Flags m t l l' t'

theorem MediatorThread.flags_of_next (hn : t.next hosts s e = some (s', t')) :
    t.Flags m (s.mediators m) (s'.mediators m) t' := by
  by_cases own : t.mediator = m
  · obtain ⟨x, l, a, closes, rfl, rfl, step⟩ := step_of_next hn
    subst own
    rw [Lifecycle.mediators_after]
    obtain ⟨done, event⟩ := l.sameFlags_closing closes
    have same (h : (s.mediators t.mediator).SameFlags l) : (s.mediators t.mediator).SameFlags (l.closing closes) :=
      ⟨done.trans h.configureDone, event.trans h.configureEvent⟩
    generalize ha : t.activity = b at step
    cases step with
    | call step =>
      rcases step.flags with h | ⟨before, after, rfl⟩ | ⟨before, rfl⟩
      · exact .same (same h)
      · exact .finished rfl ha before rfl after done event
      · exact .announced rfl ha before done event
    | receiver step => exact .same (same ⟨step.frame.2.2.2.1, step.frame.2.2.2.2.1⟩)
    | teardown step => exact .same (same (by cases step <;> exact ⟨rfl, rfl⟩))
    | delivery => exact .same (same ⟨rfl, rfl⟩)
  · obtain ⟨_, closes, hl, _⟩ := next_other hn own
    rw [hl]
    exact .same ((s.mediators m).sameFlags_closing closes)

theorem MediatorThread.configureEvent_kept (hn : t.next hosts s e = some (s', t'))
    (event : (s.mediators m).configureEvent = true) : (s'.mediators m).configureEvent = true := by
  cases flags_of_next (m := m) hn with
  | same same => exact same.configureEvent.trans event
  | finished _ _ _ _ _ _ same => exact same.trans event
  | announced _ _ _ _ event => exact event

theorem MediatorThread.next_call {call' : MediatorCall} (hn : t.next hosts s e = some (s', t'))
    (own : t'.mediator = m) (hc : t'.activity = .call call') : t.mediator = m ∧ ∃ call x l closes,
      t.activity = .call call ∧ s'.mediators m = l.closing closes ∧
      call.Step hosts m (s.multiplexers m.multiplexer) (s.mediators m) e x l call' closes := by
  obtain ⟨x, l, a, closes, rfl, rfl, step⟩ := step_of_next hn
  replace hc : a = .call call' := hc
  subst hc
  replace own : t.mediator = m := own
  subst own
  generalize t.activity = b at step
  cases step with
  | call step => exact ⟨rfl, _, x, l, closes, rfl, Lifecycle.mediators_after _ _ _ _ _, step⟩

/-- The event is set after `ConfigureDone`, and once that is set all calls are quiet. -/
structure Configured (m : MediatorRef) (c : Config Lifecycle MediatorThread) : Prop where
  event : (c.shared.mediators m).configureEvent = true → (c.shared.mediators m).configureDone = true
  announcing : ∀ (i : Nat) t call, c.pool[i]? = some t → t.mediator = m → t.activity = .call call →
    call.phase = .announcing → (c.shared.mediators m).configureDone = true
  quiet : (c.shared.mediators m).configureDone = true → ∀ (i : Nat) t call, c.pool[i]? = some t → t.mediator = m →
    t.activity = .call call → call.quiet = true

theorem Configured.started (h : Configured m c) (hs : t.activity.start = true) :
    Configured m ⟨c.shared, c.pool ++ [t]⟩ := by
  have entered {call : MediatorCall} (hc : t.activity = .call call) : call.phase = .entered := by
    obtain ⟨caller, phase⟩ := call
    rw [hc] at hs
    cases phase <;> first | rfl | cases hs
  refine ⟨h.event, fun i u call hu own hc at_ => ?_, fun done i u call hu own hc => ?_⟩
  · rcases pool_append_cases hu with hu | ⟨_, rfl⟩
    · exact h.announcing i u call hu own hc at_
    · exact absurd ((entered hc).symm.trans at_) (by simp)
  · rcases pool_append_cases hu with hu | ⟨_, rfl⟩
    · exact h.quiet done i u call hu own hc
    · simp [MediatorCall.quiet, entered hc]

theorem Configured.next (h : Configured m c) (held : (mediatorConfigureLock m).Held c) (ht : c.pool[i]? = some t)
    (hn : t.next hosts c.shared e = some (s', t')) : Configured m ⟨s', c.pool.set i t'⟩ := by
  have kept := MediatorThread.configureDone_kept (m := m) hn
  have flags := MediatorThread.flags_of_next (m := m) hn
  refine ⟨fun event => ?_, fun j u call hu own hc at_ => ?_, fun done j u call hu own hc => ?_⟩
  · cases flags with
    | same same => exact same.configureDone.trans (h.event (same.configureEvent.symm.trans event))
    | finished _ _ _ _ _ done => exact done
    | announced own before at_ same => exact same.trans (h.announcing i t _ ht own before at_)
  · rcases pool_set_cases ht hu with ⟨rfl, rfl⟩ | ⟨_, hu⟩
    · obtain ⟨_, _, x, l, closes, _, hl, step⟩ := MediatorThread.next_call hn own hc
      have done : l.configureDone = true := by
        cases step with
        | finished => rfl
        | passed | released =>
          unfold MediatorCall.configured at at_
          split at at_ <;> cases at_
        | _ => cases at_
      exact (congrArg (·.configureDone) hl).trans ((l.sameFlags_closing closes).configureDone.trans done)
    · exact kept (h.announcing j u call hu own hc at_)
  · cases before : (c.shared.mediators m).configureDone with
    | true =>
      rcases pool_set_cases ht hu with ⟨rfl, rfl⟩ | ⟨_, hu⟩
      · obtain ⟨mine, _, _, _, _, hb, _, step⟩ := MediatorThread.next_call hn own hc
        exact step.quiet (h.quiet before j t _ ht mine hb) before
      · exact h.quiet before j u call hu own hc
    | false =>
      -- The call that sets it is inside the lock, and so all others are outside.
      cases flags with
      | same same => exact absurd (before.symm.trans (same.configureDone.symm.trans done)) (by simp)
      | announced _ _ _ same => exact absurd (before.symm.trans (same.symm.trans done)) (by simp)
      | finished mine hb at_ after next =>
        rcases pool_set_cases ht hu with ⟨rfl, rfl⟩ | ⟨other, hu⟩
        · cases hc.symm.trans after
          simp [MediatorCall.quiet, next]
        · refine MediatorCall.quiet_of_outside (Bool.eq_false_iff.mpr fun inside => other ?_)
          refine held.alone hu ht ?_ ?_
          · simp [mediatorConfigureLock, mediatorLock, own, hc, inside]
          · simp [mediatorConfigureLock, mediatorLock, mine, hb, MediatorCall.inside, at_]

theorem configured_of_reachable (h : Reachable (lifecycle hosts) ⟨.created configuration, []⟩ c) : Configured m c := by
  refine h.invariant ⟨?_, ?_, ?_⟩ fun c d a hc configured _ hd => ?_
  · simp [Lifecycle.created, MediatorLife.created]
  · intro i t call ht
    cases ht
  · intro _ i t call ht
    cases ht
  · cases a with
    | start t =>
      obtain ⟨hs, rfl⟩ := act_start hd
      exact configured.started hs
    | step i e =>
      obtain ⟨t, s', t', ht, hn, rfl⟩ := act_step hd
      exact configured.next ((mediatorConfigureLock_guards hosts m).held rfl rfl hc) ht hn

end Flags
end RabbitMediator
