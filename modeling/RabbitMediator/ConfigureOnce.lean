import RabbitMediator.Configure

namespace RabbitMediator

open Interleaving

variable {prefetchCount : Nat} {custom : Bool}

section Done

variable {s s' : ConnectionState} {t t' : Configure} {x : ConfigureInput}

/-- The call has found `_configureDone` unset, inside the lock, and has not failed yet. -/
def Configure.works : Configure → Bool
  | .connecting | .registering | .creating _ | .limiting _ _ | .creatingAck | .declaring _ | .consuming _
  | .completing => true
  | _ => false

theorem Configure.configureDone_closing (s : ConnectionState) (channel : Nat) (closes : Bool) :
    (closing s channel closes).configureDone = s.configureDone := by
  cases closes <;> rfl

/-- Only the last step of the work sets `_configureDone`, and nothing takes it back. -/
theorem Configure.next_done (h : t.next prefetchCount s x = some (s', t')) :
    s'.configureDone = s.configureDone ∧ t'.completes = t.completes ∧
        (t'.works = true → t.works = true ∨ s.configureDone = false) ∨
      t.works = true ∧ t.completes = false ∧ s'.configureDone = true ∧ t'.completes = true := by
  unfold next at h
  split at h
  next =>
    cases h
    cases s.configureDone <;> simp [works, completes]
  next =>
    split at h <;> cases h
    exact Or.inl ⟨rfl, rfl, by simp [works]⟩
  next =>
    cases h
    cases s.configureDone <;> simp [works, completes]
  next => split at h <;> cases h; simp [works, completes]
  next => split at h <;> cases h; simp [works, completes]
  next => split at h <;> cases h; simp [works, completes]
  next => cases h; exact Or.inl ⟨rfl, rfl, fun _ => Or.inl rfl⟩
  next role =>
    split at h <;> cases h
    · exact Or.inl ⟨rfl, rfl, fun _ => Or.inl rfl⟩
    · exact Or.inl ⟨rfl, by cases role <;> rfl, fun _ => Or.inl rfl⟩
  next =>
    cases h
    split <;> exact Or.inl ⟨rfl, rfl, by simp [works]⟩
  next role _ => cases h; exact Or.inl ⟨rfl, by cases role <;> rfl, fun _ => Or.inl rfl⟩
  next => cases h; exact Or.inl ⟨configureDone_closing _ _ _, rfl, by simp [works]⟩
  next => cases h; exact Or.inl ⟨rfl, rfl, fun _ => Or.inl rfl⟩
  next =>
    cases h
    split <;> exact Or.inl ⟨rfl, rfl, by simp [works]⟩
  next => cases h; exact Or.inl ⟨rfl, rfl, fun _ => Or.inl rfl⟩
  next => cases h; exact Or.inl ⟨configureDone_closing _ _ _, rfl, by simp [works]⟩
  next => cases h; exact Or.inl ⟨rfl, rfl, fun _ => Or.inl rfl⟩
  next => cases h; exact Or.inl ⟨configureDone_closing _ _ _, rfl, by simp [works]⟩
  next => cases h; exact Or.inr ⟨rfl, rfl, rfl, rfl⟩
  next outcome => cases h; exact Or.inl ⟨rfl, by cases outcome <;> rfl, by simp [works]⟩
  next => cases h

theorem Configure.inside_of_works (h : t.works = true) : t.inside = true := by
  cases t <;> first | rfl | cases h

theorem Configure.completes_of_works (h : t.works = true) : t.completes = false := by
  cases t <;> first | rfl | cases h

/-- Whoever works inside the lock finds `_configureDone` unset. -/
theorem undone_of_works {c : Config ConnectionState Configure}
    (h : Reachable (configureCalls prefetchCount) ⟨.created custom, []⟩ c) {i : Nat}
    (hi : c.pool[i]? = some t) (works : t.works = true) : c.shared.configureDone = false := by
  refine ((configureLock_guards prefetchCount).invariant (fun _ => True)
    (fun s t => t.works = true → s.configureDone = false) rfl rfl trivial ?_ h).2 i t hi
    (Configure.inside_of_works works) works
  intro c i x t s' t' _ _ _ hn
  constructor
  · intro before after
    rw [Configure.same_of_outside hn before after]
    exact ⟨id, fun _ _ => id⟩
  · intro before after _ works
    rw [(Configure.entered_of_enter hn before after).1] at works
    cases works
  · intro _ _ held works
    rcases Configure.next_done hn with ⟨same, _, late⟩ | ⟨_, _, _, completes⟩
    · rcases late works with early | undone
      · exact same.trans (held early)
      · exact same.trans undone
    · exact absurd (completes.symm.trans (Configure.completes_of_works works)) (by simp)
  · exact fun _ _ _ => trivial

/-- The call is over, or about to be, and has not failed. -/
def Configure.returns : Configure → Bool
  | .releasing .alreadyDone | .releasing .completed | .ended .alreadyDone | .ended .completed => true
  | _ => false

theorem Configure.next_returns (h : t.next prefetchCount s x = some (s', t')) (returns : t'.returns = true) :
    t.returns = true ∨ s'.configureDone = true := by
  unfold next at h
  split at h
  next =>
    cases h
    cases hd : s.configureDone with
    | true => exact Or.inr rfl
    | false => simp [hd, Configure.returns] at returns
  next => split at h <;> cases h; cases returns
  next =>
    cases h
    cases hd : s.configureDone with
    | true => exact Or.inr rfl
    | false => simp [hd, Configure.returns] at returns
  next => split at h <;> cases h; cases returns
  next => split at h <;> cases h; cases returns
  next => split at h <;> cases h; cases returns
  next => cases h; cases returns
  next role => split at h <;> cases h <;> cases role <;> cases returns
  next => cases h; cases returns
  next role _ => cases h; cases role <;> cases returns
  next => cases h; cases returns
  next => cases h; cases returns
  next => cases h; cases returns
  next => cases h; cases returns
  next => cases h; cases returns
  next => cases h; cases returns
  next => cases h; cases returns
  next => cases h; exact Or.inr rfl
  next outcome => cases h; cases outcome <;> first | exact Or.inl rfl | cases returns
  next => cases h

/-- A call of `Configure` that returns leaves the multiplexer configured. -/
theorem configured_of_returns {c : Config ConnectionState Configure}
    (h : Reachable (configureCalls prefetchCount) ⟨.created custom, []⟩ c) {i : Nat}
    (hi : c.pool[i]? = some t) (returns : t.returns = true) : c.shared.configureDone = true := by
  revert i t
  refine h.invariant (P := fun c => ∀ {i : Nat} {t : Configure}, c.pool[i]? = some t →
    t.returns = true → c.shared.configureDone = true) (by simp) ?_
  intro c d a _ ih _ hd i t hi returns
  cases a with
  | start u =>
    obtain ⟨hs, rfl⟩ := act_start hd
    rcases pool_append_cases hi with hi | ⟨_, rfl⟩
    · exact ih hi returns
    · have fresh : t = .entered := by cases t <;> first | rfl | cases hs
      rw [fresh] at returns
      cases returns
  | step j x =>
    obtain ⟨u, s', u', hu, hn, rfl⟩ := act_step hd
    have stays : c.shared.configureDone = true → s'.configureDone = true := by
      intro done
      rcases Configure.next_done hn with ⟨same, _, _⟩ | ⟨_, _, done, _⟩
      · exact same.trans done
      · exact done
    rcases pool_set_cases hu hi with ⟨rfl, rfl⟩ | ⟨_, hi⟩
    · rcases Configure.next_returns hn returns with before | done
      · exact stays (ih hu before)
      · exact done
    · exact stays (ih hi returns)

/-- `_configureDone` is set just when one call has done the work. -/
structure DoneOnce (c : Config ConnectionState Configure) : Prop where
  done : c.shared.configureDone = true → ∃ (i : Nat) (t : Configure), c.pool[i]? = some t ∧ t.completes = true
  set : ∀ (i : Nat) (t : Configure), c.pool[i]? = some t → t.completes = true → c.shared.configureDone = true
  once : ∀ (i j : Nat) (t u : Configure), c.pool[i]? = some t → c.pool[j]? = some u → t.completes = true →
    u.completes = true → i = j

theorem doneOnce_of_reachable {c : Config ConnectionState Configure}
    (h : Reachable (configureCalls prefetchCount) ⟨.created custom, []⟩ c) : DoneOnce c := by
  refine h.invariant (P := DoneOnce) ⟨by simp [ConnectionState.created], by simp, by simp⟩ ?_
  intro c d a hc ih _ hd
  cases a with
  | start t =>
    obtain ⟨hs, rfl⟩ := act_start hd
    have early : t.completes = false := by
      cases t <;> first | rfl | cases hs
    have old : ∀ {i : Nat} {u : Configure}, (c.pool ++ [t])[i]? = some u → u.completes = true →
        c.pool[i]? = some u := by
      intro i u hu completes
      rcases pool_append_cases hu with hu | ⟨_, rfl⟩
      · exact hu
      · rw [early] at completes
        cases completes
    refine ⟨fun done => ?_, fun i u hu completes => ih.set i u (old hu completes) completes,
      fun i j u v hu hv completes completes' => ih.once i j u v (old hu completes) (old hv completes')
        completes completes'⟩
    obtain ⟨i, u, hu, completes⟩ := ih.done done
    exact ⟨i, u, pool_append_of_old hu, completes⟩
  | step i x =>
    obtain ⟨t, s', t', ht, hn, rfl⟩ := act_step hd
    rcases Configure.next_done hn with ⟨same, completes, _⟩ | ⟨works, _, done, completes⟩
    · have old : ∀ {j : Nat} {u : Configure}, (c.pool.set i t')[j]? = some u → u.completes = true →
          ∃ v, c.pool[j]? = some v ∧ v.completes = true := by
        intro j u hu hcu
        rcases pool_set_cases ht hu with ⟨rfl, rfl⟩ | ⟨_, hu⟩
        · exact ⟨t, ht, completes ▸ hcu⟩
        · exact ⟨u, hu, hcu⟩
      refine ⟨fun done => ?_, fun j u hu hcu => ?_, fun j k u v hu hv hcu hcv => ?_⟩
      · obtain ⟨j, u, hu, hcu⟩ := ih.done (same ▸ done)
        by_cases hj : j = i
        · subst hj
          cases hu.symm.trans ht
          exact ⟨j, t', pool_set_self ht, completes.trans hcu⟩
        · exact ⟨j, u, (pool_set_other hj).trans hu, hcu⟩
      · obtain ⟨v, hv, hcv⟩ := old hu hcu
        exact same.trans (ih.set j v hv hcv)
      · obtain ⟨u', hu', hcu'⟩ := old hu hcu
        obtain ⟨v', hv', hcv'⟩ := old hv hcv
        exact ih.once j k u' v' hu' hv' hcu' hcv'
    · have fresh : ∀ {j : Nat} {u : Configure}, (c.pool.set i t')[j]? = some u → u.completes = true →
          j = i := by
        intro j u hu hcu
        rcases pool_set_cases ht hu with ⟨hj, _⟩ | ⟨_, hu⟩
        · exact hj
        · have undone := undone_of_works hc.reachable ht works
          rw [ih.set j u hu hcu] at undone
          cases undone
      exact ⟨fun _ => ⟨i, t', pool_set_self ht, completes⟩, fun _ _ _ _ => done,
        fun j k u v hu hv hcu hcv => (fresh hu hcu).trans (fresh hv hcv).symm⟩

end Done

section Work

variable {s s' : ConnectionState} {t t' : Configure} {x : ConfigureInput}

/-- The channel a successful attempt opens for `role`. -/
def firstChannel : ReceiveChannel → Nat
  | .message => 0
  | .request => 1
  | .response => 2

/-- One set of handlers is registered, `n` channels were opened, and the first `k` of them are received on. -/
structure Opened (s : ConnectionState) (n k : Nat) : Prop where
  undone : s.configureDone = false
  handlers : s.handlers = ConnectionState.connectionEvents
  opened : s.opened = n
  receiving : ∀ role, firstChannel role < k → s.receiveChannel role = some (firstChannel role)
  ackConsumers : s.ackConsumers = []

/-- All that `Configure` sets up is there once. -/
structure Ready (s : ConnectionState) : Prop where
  handlers : s.handlers = ConnectionState.connectionEvents
  opened : s.opened = 4
  receiving : ∀ role, s.receiveChannel role = some (firstChannel role)
  receivingAcks : s.receiveAckChannel = some 3
  ackQueue : s.ackQueue = true
  ackConsumers : s.ackConsumers = [3]

theorem Ready.flagged (h : Ready s) (done locked : Bool) :
    Ready { s with configureDone := done, configureLocked := locked } :=
  ⟨h.handlers, h.opened, h.receiving, h.receivingAcks, h.ackQueue, h.ackConsumers⟩

/-- What holds while nobody is inside the lock. -/
structure Settled (s : ConnectionState) : Prop where
  untouched : s.handlers = [] → s.opened = 0 ∧ s.ackConsumers = []
  ready : s.configureDone = true → Ready s

/-- What the call inside the lock has set up where it stands. -/
def Configure.HasSetUp (s : ConnectionState) : Configure → Prop
  | .rechecking => Settled s
  | .connecting | .registering => Settled s ∧ s.configureDone = false
  | .creating role => Opened s (firstChannel role) (firstChannel role)
  | .limiting role channel => channel = firstChannel role ∧ Opened s (firstChannel role + 1) (firstChannel role)
  | .creatingAck => Opened s 3 3
  | .declaring channel => channel = 3 ∧ s.receiveAckChannel = some 3 ∧ Opened s 4 3
  | .consuming channel => channel = 3 ∧ s.receiveAckChannel = some 3 ∧ s.ackQueue = true ∧ Opened s 4 3
  | .completing => Ready s
  | .releasing _ => Settled s
  | _ => True

theorem Settled.of_handlers {e : ConnectionEvent} (h : e ∈ s.handlers) (undone : s.configureDone = false) :
    Settled s :=
  ⟨fun none => by simp [none] at h, fun done => absurd (done.symm.trans undone) (by simp)⟩

theorem Opened.settled {n k : Nat} (h : Opened s n k) : Settled s :=
  .of_handlers (e := .recoverySucceeded) (by rw [h.handlers]; decide) h.undone

theorem Opened.openChannel {n k : Nat} (h : Opened s n k) : Opened s.openChannel (n + 1) k :=
  ⟨h.undone, h.handlers, congrArg (· + 1) h.opened, h.receiving, h.ackConsumers⟩

theorem Opened.failed {n k : Nat} (h : Opened s n k) (taken : Bool) :
    Settled (if taken then s.openChannel else s) := by
  cases taken with
  | true => exact h.openChannel.settled
  | false => exact h.settled

theorem Opened.assigned {role : ReceiveChannel}
    (h : Opened s (firstChannel role + 1) (firstChannel role)) :
    Opened (s.setReceiveChannel role (firstChannel role)) (firstChannel role + 1) (firstChannel role + 1) := by
  refine ⟨h.undone, h.handlers, h.opened, fun r hr => ?_, h.ackConsumers⟩
  by_cases same : r = role
  · subst same
    simp [ConnectionState.setReceiveChannel]
  · have earlier : firstChannel r < firstChannel role := by
      cases r <;> cases role <;> simp_all [firstChannel]
    simpa [ConnectionState.setReceiveChannel, same] using h.receiving r earlier

theorem Opened.after {role : ReceiveChannel} (h : Opened s (firstChannel role + 1) (firstChannel role + 1)) :
    (Configure.after role).HasSetUp s := by
  cases role <;> exact h

theorem Settled.closing {channel : Nat} {closes : Bool}
    (handlers : s.handlers = ConnectionState.connectionEvents) (undone : s.configureDone = false) :
    Settled (Configure.closing s channel closes) := by
  have same : (Configure.closing s channel closes).handlers = s.handlers := by cases closes <;> rfl
  refine .of_handlers (e := .recoverySucceeded) ?_ ((Configure.configureDone_closing _ _ _).trans undone)
  rw [same, handlers]
  decide

/-- A step inside the lock, which registers no second set of handlers, goes on setting up. -/
theorem Configure.HasSetUp.step (h : t.HasSetUp s) (hn : t.next prefetchCount s x = some (s', t'))
    (first : t = .registering → s.handlers = []) (inside : t.inside = true) (stays : t'.inside = true) :
    t'.HasSetUp s' := by
  unfold next at hn
  split at hn
  next => cases inside
  next => cases inside
  next =>
    cases hn
    cases hd : s.configureDone with
    | true => exact h
    | false => exact ⟨h, hd⟩
  next => split at hn <;> cases hn; exact h
  next =>
    split at hn <;> cases hn
    exact ⟨⟨h.1.untouched, fun done => absurd (done.symm.trans h.2) (by simp)⟩, h.2⟩
  next => split at hn <;> cases hn; exact h.1
  next =>
    cases hn
    have fresh := first rfl
    obtain ⟨none, quiet⟩ := h.1.untouched fresh
    refine ⟨h.2, by simp [ConnectionState.registerConnectionEventHandlers, fresh], none, ?_, quiet⟩
    intro role hr
    cases hr
  next role =>
    have h : Opened s (firstChannel role) (firstChannel role) := h
    split at hn <;> cases hn
    · exact ⟨h.opened, h.openChannel⟩
    · rw [h.opened]
      exact h.openChannel.assigned.after
  next => cases hn; exact Opened.failed h _
  next =>
    cases hn
    obtain ⟨rfl, h⟩ := h
    exact h.assigned.after
  next => cases hn; exact .closing h.2.handlers h.2.undone
  next =>
    cases hn
    have h : Opened s 3 3 := h
    obtain ⟨undone, handlers, opened, receiving, ackConsumers⟩ := h.openChannel
    exact ⟨h.opened, congrArg some h.opened, undone, handlers, opened, receiving, ackConsumers⟩
  next => cases hn; exact Opened.failed h _
  next =>
    cases hn
    obtain ⟨hc, ha, h⟩ := h
    exact ⟨hc, ha, rfl, h.undone, h.handlers, h.opened, h.receiving, h.ackConsumers⟩
  next => cases hn; exact .closing h.2.2.handlers h.2.2.undone
  next =>
    cases hn
    obtain ⟨rfl, ha, hq, h⟩ := h
    refine ⟨h.handlers, h.opened, fun role => h.receiving role ?_, ha, hq, by rw [h.ackConsumers]⟩
    cases role <;> decide
  next => cases hn; exact .closing h.2.2.2.handlers h.2.2.2.undone
  next =>
    cases hn
    have h : Ready s := h
    refine ⟨fun none => ?_, fun _ => h.flagged true _⟩
    have some := h.handlers
    rw [show s.handlers = [] from none] at some
    cases some
  next => cases hn; cases stays
  next => cases hn

theorem Configure.HasSetUp.settled (h : t.HasSetUp s) (inside : t.inside = true) (idle : t.works = false) :
    Settled s := by
  cases t with
  | rechecking | releasing => exact h
  | entered | acquiring | ended => cases inside
  | _ => cases idle

/-- Whenever an attempt gets to its handlers, the connection has none of them yet. -/
def RegistersFirst (c : Config ConnectionState Configure) (a : Action Configure ConfigureInput) : Prop :=
  ∀ i x, a = .step i x → c.pool[i]? = some .registering → c.shared.handlers = []

theorem settled_passes {c : Config ConnectionState Configure} {i : Nat} {t t' : Configure}
    {s' : ConnectionState} {x : ConfigureInput} (allowed : RegistersFirst c (.step i x))
    (ht : c.pool[i]? = some t) (hn : t.next prefetchCount c.shared x = some (s', t')) :
    configureLock.Passes Settled (fun s t => t.HasSetUp s) c.shared t s' t' := by
  constructor
  · intro before after
    rw [Configure.same_of_outside hn before after]
    exact ⟨id, fun _ _ => id⟩
  · intro before after settled
    obtain ⟨rfl, rfl⟩ := Configure.entered_of_enter hn before after
    exact ⟨settled.untouched, fun done => (settled.ready done).flagged _ true⟩
  · intro inside stays held
    exact held.step hn (fun registering => allowed i x rfl (registering ▸ ht)) inside stays
  · intro before after held
    obtain ⟨⟨outcome, rfl⟩, rfl⟩ := Configure.left_of_leave hn before after
    have held : Settled c.shared := held
    exact ⟨held.untouched, fun done => (held.ready done).flagged _ false⟩

end Work
/-- What a `Configure` that is safe to retry leaves behind. -/
structure SafelyConfigured (c : Config ConnectionState Configure) : Prop where
  once : ∀ (i j : Nat) (t u : Configure), c.pool[i]? = some t → c.pool[j]? = some u →
    t.completes = true → u.completes = true → i = j
  done : c.shared.configureDone = true → ∃ (i : Nat) (t : Configure), c.pool[i]? = some t ∧ t.completes = true
  handlers : c.shared.configureDone = true → ∀ e, c.shared.handlers.count e = 1
  rebindRuns : c.shared.configureDone = true → c.shared.rebindRuns = 1
  ackConsumer : c.shared.configureDone = true →
    ∃ channel, c.shared.receiveAckChannel = some channel ∧ c.shared.ackConsumers = [channel]
  channels : c.shared.configureDone = true →
    ∀ channel, channel < c.shared.opened → channel ∈ c.shared.closed ∨ c.shared.inUse channel

theorem Ready.inUse {s : ConnectionState} (h : Ready s) {channel : Nat} (opened : channel < s.opened) :
    s.inUse channel := by
  rw [h.opened] at opened
  rcases (by omega : channel = 0 ∨ channel = 1 ∨ channel = 2 ∨ channel = 3) with rfl | rfl | rfl | rfl
  · exact Or.inl ⟨.message, h.receiving .message⟩
  · exact Or.inl ⟨.request, h.receiving .request⟩
  · exact Or.inl ⟨.response, h.receiving .response⟩
  · exact Or.inr h.receivingAcks

/-- `Configure` is safe to retry as long as no attempt comes to handlers that are registered already. -/
theorem configure_retry {prefetchCount : Nat} {custom : Bool} {c : Config ConnectionState Configure}
    (h : ReachableWhere (configureCalls prefetchCount) RegistersFirst ⟨.created custom, []⟩ c) :
    SafelyConfigured c := by
  have done := doneOnce_of_reachable h.reachable
  have held := (configureLock_guards prefetchCount).held rfl rfl h
  have protects := (configureLock_guards prefetchCount).invariant Settled (fun s t => t.HasSetUp s)
    rfl rfl ⟨fun _ => ⟨rfl, rfl⟩, by simp [ConnectionState.created]⟩
    (fun _ allowed ht hn => settled_passes allowed ht hn) h
  have ready : c.shared.configureDone = true → Ready c.shared := by
    intro set
    refine held.elim (fun taken => (protects.1 taken).ready set) fun {i t} ht inside => ?_
    cases works : t.works with
    | true => exact absurd (set.symm.trans (undone_of_works h.reachable ht works)) (by simp)
    | false => exact ((protects.2 i t ht inside).settled inside works).ready set
  refine ⟨done.once, done.done, fun set e => ?_, fun set => ?_, fun set => ?_, fun set channel opened =>
    Or.inr ((ready set).inUse opened)⟩
  · rw [(ready set).handlers]
    cases e <;> decide
  · rw [ConnectionState.rebindRuns, (ready set).handlers]
    decide
  · exact ⟨3, (ready set).receivingAcks, (ready set).ackConsumers⟩


def registersFirst (c : Config ConnectionState Configure) : Action Configure ConfigureInput → Bool
  | .start _ => true
  | .step i _ => match c.pool[i]? with
    | some .registering => c.shared.handlers = []
    | _ => true

theorem registersFirst_of_check {c : Config ConnectionState Configure} {a : Action Configure ConfigureInput}
    (h : registersFirst c a = true) : RegistersFirst c a := by
  rintro i x rfl registering
  simpa [registersFirst, registering] using h

def testAttempt (i : Nat) (xs : List ConfigureInput) : List (Action Configure ConfigureInput) :=
  .start .entered :: xs.map (.step i)

/-- All that follows the handlers, if nothing fails. -/
def testSetUp : List ConfigureInput :=
  [.ended, .ended, .ended, .ended, .ended, .ended, .ended, .ended, .ended, .go, .go]

/-- Opening the connection fails at first; the second attempt succeeds. -/
theorem testConfigure_retry :
    ∃ c, (configureCalls 10).run registersFirst ⟨.created false, []⟩
        (testAttempt 0 [.go, .go, .go, .failed brokerUnreachable false false, .go] ++
          testAttempt 1 ([.go, .go, .go, .ended, .go] ++ testSetUp)) = some c ∧
      c.shared.configureDone = true ∧ SafelyConfigured c := by
  have h : ((configureCalls 10).run registersFirst ⟨.created false, []⟩
      (testAttempt 0 [.go, .go, .go, .failed brokerUnreachable false false, .go] ++
        testAttempt 1 ([.go, .go, .go, .ended, .go] ++ testSetUp))).any (·.shared.configureDone) = true := by
    decide
  obtain ⟨c, hc, done⟩ := (Option.any_eq_true _ _).mp h
  exact ⟨c, hc, done, configure_retry (.of_run .start (fun _ _ => registersFirst_of_check) hc)⟩

/-- The connection is there, and the prefetch limit of the first channel fails: the retry registers its
handlers beside those of the first attempt, and the first channel stays open. -/
theorem configure_retry_leaks :
    ¬∀ prefetchCount custom c, Reachable (configureCalls prefetchCount) ⟨.created custom, []⟩ c →
      SafelyConfigured c := by
  intro claim
  have h : ((configureCalls 10).run (fun _ _ => true) ⟨.created true, []⟩
      (testAttempt 0 [.go, .go, .go, .go, .go, .ended, .failed brokerUnreachable false false, .go] ++
        testAttempt 1 ([.go, .go, .go, .go, .go] ++ testSetUp))).any
      (fun c => c.shared.configureDone && decide (c.shared.rebindRuns = 2)) = true := by decide
  obtain ⟨c, hc, found⟩ := (Option.any_eq_true _ _).mp h
  obtain ⟨done, twice⟩ := Bool.and_eq_true_iff.mp found
  have safe := claim 10 true c (.of_run .start (fun _ _ _ => trivial) hc)
  exact absurd (safe.rebindRuns done) (by simp [of_decide_eq_true twice])

end RabbitMediator
