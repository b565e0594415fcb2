import RabbitMediator.ChannelDisposal
import RabbitMediator.Progress

namespace RabbitMediator

open Interleaving

/-- A step that disposes `_replaceLock` finds no call waiting for it. -/
def LeavesNoWaiter (c : Config PublishChannel ChannelActivity) (a : Action ChannelActivity ChannelInput) : Prop :=
  ∀ d, publishChannel.act c a = some d → c.shared.lockDisposed = false → d.shared.lockDisposed = true →
    ∀ i : Nat, c.pool[i]? ≠ some (.getAsync .waiting)

/-- Nothing fails, and nobody gives up waiting. -/
def Smooth (_ : PublishChannel) (_ : Nat) (_ : ChannelActivity) (x : ChannelInput) : Prop :=
  ∀ e, x ≠ .ended (.error e)

/-- Call number `i` is not cancelled. -/
def NotCancelled (i : Nat) (_ : Config PublishChannel ChannelActivity) (a : Action ChannelActivity ChannelInput) :
    Prop :=
  ∀ e, a ≠ .step i (.ended (.error e))

section Left

def GetAsync.left : GetAsync → Nat
  | .entered => 5
  | .waiting => 4
  | .rechecking => 3
  | .creating _ => 2
  | .replacing => 1
  | .returned _ | .threw _ => 0

def DisposeChannel.left : DisposeChannel → Nat
  | .entered => 2
  | .disposing _ => 1
  | .ended | .threw _ => 0

def ChannelActivity.left : ChannelActivity → Nat
  | .getAsync phase => phase.left
  | .disposeAsync phase => phase.left
  | .closing _ => 1
  | .closed => 0

variable {s s' : PublishChannel} {t t' : ChannelActivity} {x : ChannelInput}

theorem GetAsync.left_outcome (s : PublishChannel) {ends : GetAsync} (h : ends.left = 0) :
    (s.outcome ends).left = 0 := by
  unfold PublishChannel.outcome
  split
  · rfl
  · exact h

theorem GetAsync.Step.left_lt {g g' : GetAsync} (h : Step s g x s' g') : g'.left < g.left := by
  cases h with
  | replaced | created | failed =>
    rw [left_outcome s rfl]
    exact Nat.zero_lt_succ _
  | left why =>
    rw [left_outcome s (by rcases why with rfl | ⟨_, rfl⟩ <;> rfl)]
    exact Nat.zero_lt_one
  | _ => simp [GetAsync.left]

theorem DisposeChannel.left_of_next {p p' : DisposeChannel} (h : p.next s x = some (s', p')) : p'.left < p.left := by
  unfold next at h
  split at h
  next => split at h <;> cases h <;> simp [left]
  next => cases h; simp [left]
  next => cases h; simp [left]
  next => cases h

/-- Each step brings its call nearer to its end. -/
theorem ChannelActivity.left_of_next (h : t.next s x = some (s', t')) : t'.left < t.left := by
  cases t with
  | getAsync phase =>
    obtain ⟨⟨s₁, phase'⟩, hn, he⟩ := Option.map_eq_some_iff.mp h
    cases he
    exact (GetAsync.step_of_next hn).left_lt
  | disposeAsync phase =>
    obtain ⟨⟨s₁, phase'⟩, hn, he⟩ := Option.map_eq_some_iff.mp h
    cases he
    exact DisposeChannel.left_of_next hn
  | closing channel =>
    cases x <;> cases h
    exact Nat.zero_lt_one
  | closed => cases x <;> cases h

end Left

section Lock

variable {s s' : PublishChannel} {t t' : ChannelActivity} {x : ChannelInput}
  {c d e : Config PublishChannel ChannelActivity} {a : Action ChannelActivity ChannelInput} {i : Nat}

/-- Only a disposal disposes the lock, and none restores it. -/
theorem ChannelActivity.lockDisposed_of_next (h : t.next s x = some (s', t')) :
    (s.lockDisposed = true → s'.lockDisposed = true) ∧
      (s.lockDisposed = false → s'.lockDisposed = true → ∃ phase, t' = .disposeAsync phase) := by
  cases t with
  | getAsync phase =>
    obtain ⟨⟨s₁, phase'⟩, hn, he⟩ := Option.map_eq_some_iff.mp h
    cases he
    have same : s₁.lockDisposed = s.lockDisposed := by
      cases GetAsync.step_of_next hn <;> rfl
    exact ⟨fun old => same.trans old, fun old new => absurd ((same.symm.trans new).symm.trans old) (by simp)⟩
  | disposeAsync phase =>
    obtain ⟨⟨s₁, phase'⟩, hn, he⟩ := Option.map_eq_some_iff.mp h
    cases he
    exact ⟨(DisposeChannel.next_disposed hn).2.2.2.2.1, fun _ _ => ⟨phase', rfl⟩⟩
  | closing channel =>
    cases x <;> cases h
    exact ⟨id, fun old new => absurd (old.symm.trans new) (by simp)⟩
  | closed => cases x <;> cases h

/-- A call comes to wait only for a lock that is not disposed. -/
theorem ChannelActivity.undisposed_of_waiting (h : t.next s x = some (s', .getAsync .waiting)) :
    s'.lockDisposed = false := by
  obtain ⟨g, rfl, hn⟩ := before_call h
  generalize hg : GetAsync.waiting = g' at hn
  cases GetAsync.step_of_next hn with
  | waits _ lock => exact lock
  | replaced | created | failed =>
    unfold PublishChannel.outcome at hg
    split at hg <;> cases hg
  | left why =>
    unfold PublishChannel.outcome at hg
    rcases why with rfl | ⟨_, rfl⟩ <;> split at hg <;> cases hg
  | _ => cases hg

/-- As long as no step leaves a waiter behind, nobody waits for a lock that is disposed. -/
theorem noneStranded_of_reachable (h : ReachableWhere publishChannel LeavesNoWaiter ⟨.unused, []⟩ c) :
    c.shared.lockDisposed = true → ∀ i : Nat, c.pool[i]? ≠ some (.getAsync .waiting) := by
  refine h.invariant (P := fun c => c.shared.lockDisposed = true → ∀ i : Nat, c.pool[i]? ≠ some (.getAsync .waiting))
    (by simp) ?_
  intro c d a _ none leaves hd disposed j hj
  cases a with
  | start t =>
    obtain ⟨hs, rfl⟩ := act_start hd
    rcases pool_append_cases hj with hj | ⟨_, rfl⟩
    · exact none disposed j hj
    · cases hs
  | step i x =>
    obtain ⟨t, s', t', ht, hn, rfl⟩ := act_step hd
    rcases pool_set_cases ht hj with ⟨_, rfl⟩ | ⟨_, hj⟩
    · have open_ := ChannelActivity.undisposed_of_waiting hn
      exact absurd (open_.symm.trans disposed) (by simp)
    · cases before : c.shared.lockDisposed with
      | true => exact none before j hj
      | false => exact leaves _ hd before disposed j hj

/-- A call that waits for a disposed lock waits for good. -/
theorem stranded_waits (waits : c.pool[i]? = some (.getAsync .waiting)) (disposed : c.shared.lockDisposed = true)
    (h : ReachableWhere publishChannel (NotCancelled i) c d) :
    d.pool[i]? = some (.getAsync .waiting) ∧ d.shared.lockDisposed = true := by
  induction h with
  | start => exact ⟨waits, disposed⟩
  | @next d e a _ patient hd ih =>
    obtain ⟨waits, disposed⟩ := ih
    cases a with
    | start t =>
      obtain ⟨_, rfl⟩ := act_start hd
      exact ⟨pool_append_of_old waits, disposed⟩
    | step j x =>
      obtain ⟨t, s', t', ht, hn, rfl⟩ := act_step hd
      have lock := (ChannelActivity.lockDisposed_of_next hn).1 disposed
      refine ⟨?_, lock⟩
      by_cases same : j = i
      · -- neither can it have the lock nor is it cancelled
        subst same
        cases ht.symm.trans waits
        obtain ⟨⟨s₁, g'⟩, hg, _⟩ := Option.map_eq_some_iff.mp hn
        cases GetAsync.step_of_next hg with
        | acquired _ open_ => exact absurd (open_.symm.trans disposed) (by simp)
        | cancelled => exact absurd rfl (patient _)
      · exact (pool_set_other (Ne.symm same)).trans waits

end Lock

section Ends

/-- The call has returned or thrown, or the channel is closed. -/
def ChannelActivity.isOver : ChannelActivity → Bool
  | .getAsync phase => phase.hasEnded
  | .disposeAsync .ended | .disposeAsync (.threw _) | .closed => true
  | _ => false

def ChannelActivity.waits : ChannelActivity → Option Unit
  | .getAsync .waiting => some ()
  | _ => none

theorem replaceLock_order : LockOrder (fun _ => replaceLock) (fun _ _ : Unit => False) ChannelActivity.waits := by
  refine ⟨⟨fun _ => ⟨_, fun _ h => h.elim⟩⟩, fun {t k j} inside hw => ?_⟩
  unfold ChannelActivity.waits at hw
  split at hw
  next => cases inside
  next => cases hw

variable {c : Config PublishChannel ChannelActivity} {i : Nat} {t : ChannelActivity}

theorem leavesNoWaiter_of_next {x : ChannelInput} {s' : PublishChannel} {t' : ChannelActivity} (ht : c.pool[i]? = some t)
    (hn : t.next c.shared x = some (s', t')) (other : ∀ phase, t' ≠ .disposeAsync phase) :
    LeavesNoWaiter c (.step i x) := by
  intro d hd before after
  obtain ⟨u, s, u', hu, hm, rfl⟩ := act_step hd
  cases ht.symm.trans hu
  cases hn.symm.trans hm
  obtain ⟨phase, rfl⟩ := (ChannelActivity.lockDisposed_of_next hn).2 before after
  exact absurd rfl (other phase)

/-- A step of `GetAsync` at which nothing fails. -/
theorem GetAsync.canMove {g : GetAsync} (ht : c.pool[i]? = some (.getAsync g)) (open_ : g.hasEnded = false)
    (free : g = .waiting → c.shared.replaceLocked = false ∧ c.shared.lockDisposed = false) :
    CanMove publishChannel LeavesNoWaiter Smooth c i (.getAsync g) := by
  have moves {x : ChannelInput} (smooth : ∀ e, x ≠ .ended (.error e)) (h : (g.next c.shared x).isSome = true) :
      CanMove publishChannel LeavesNoWaiter Smooth c i (.getAsync g) := by
    obtain ⟨⟨s', g'⟩, hn⟩ := Option.isSome_iff_exists.mp h
    have step : publishChannel.next c.shared i (.getAsync g) x = some (s', .getAsync g') := by
      show (g.next c.shared x).map _ = _
      rw [hn]
      rfl
    exact ⟨x, leavesNoWaiter_of_next ht step (by simp), smooth, by rw [step]; rfl⟩
  cases g with
  | entered =>
    apply moves (x := .go) (by simp)
    simp only [GetAsync.next]
    split <;> rfl
  | waiting =>
    obtain ⟨untaken, lock⟩ := free rfl
    apply moves (x := .ended (.ok ())) (by simp)
    simp [GetAsync.next, untaken, lock]
  | rechecking =>
    apply moves (x := .go) (by simp)
    simp only [GetAsync.next]
    split <;> rfl
  | creating broken =>
    apply moves (x := .ended (.ok ())) (by simp)
    cases broken <;> rfl
  | replacing => exact moves (x := .ended (.ok ())) (by simp) rfl
  | returned | threw => cases open_

/-- Where nobody waits, every call can go on. -/
theorem ChannelActivity.canMove (nobody : ∀ j : Nat, c.pool[j]? ≠ some (.getAsync .waiting)) (ht : c.pool[i]? = some t)
    (open_ : t.isOver = false) : CanMove publishChannel LeavesNoWaiter Smooth c i t := by
  have leaves (a : Action ChannelActivity ChannelInput) : LeavesNoWaiter c a := fun _ _ _ _ => nobody
  cases t with
  | getAsync g => exact GetAsync.canMove ht open_ fun hg => absurd (hg ▸ ht) (nobody i)
  | disposeAsync phase =>
    cases phase with
    | entered =>
      refine ⟨.go, leaves _, by simp [Smooth], ?_⟩
      show ((DisposeChannel.next c.shared .entered .go).map _).isSome = true
      rw [Option.isSome_map]
      simp only [DisposeChannel.next]
      split <;> rfl
    | disposing channel => exact ⟨.ended (.ok ()), leaves _, by simp [Smooth], rfl⟩
    | ended | threw => cases open_
  | closing channel => exact ⟨.go, leaves _, by simp [Smooth], rfl⟩
  | closed => cases open_

theorem able_of_open (h : ReachableWhere publishChannel LeavesNoWaiter ⟨.unused, []⟩ c) (ht : c.pool[i]? = some t)
    (open_ : t.isOver = false) : Able publishChannel LeavesNoWaiter Smooth c := by
  by_cases waiting : ∃ j : Nat, c.pool[j]? = some (.getAsync .waiting)
  · obtain ⟨j, hj⟩ := waiting
    have lock : c.shared.lockDisposed = false := by
      rw [Bool.eq_false_iff]
      exact fun disposed => noneStranded_of_reachable h disposed j hj
    apply replaceLock_order.able (fun _ => replaceLock_guards.held rfl rfl h) ?_ ?_ hj rfl
    · intro k u _ hu hw untaken
      unfold ChannelActivity.waits at hw
      split at hw
      next => exact GetAsync.canMove hu rfl fun _ => ⟨untaken, lock⟩
      next => cases hw
    · intro k u _ hu _ inside
      cases u with
      | getAsync g => exact GetAsync.canMove hu (by cases g <;> first | rfl | cases inside) (by rintro rfl; cases inside)
      | _ => cases inside
  · exact ⟨i, t, ht, ChannelActivity.canMove (fun j hj => waiting ⟨j, hj⟩) ht open_⟩

/-- All calls of `GetAsync` and `DisposeAsync` come to their end, in whatever order they move and whatever
fails, as long as `_replaceLock` is not disposed while a call waits for it. If it is, that call never ends. -/
theorem channel_calls_end (h : ReachableWhere publishChannel LeavesNoWaiter ⟨.unused, []⟩ c) :
    Inevitable publishChannel LeavesNoWaiter Smooth (fun d => ∀ (i : Nat) t, d.pool[i]? = some t → t.isOver = true) c ∧
      ∀ a d, publishChannel.act c a = some d → ¬LeavesNoWaiter c a →
        ∃ i : Nat, ∀ e, ReachableWhere publishChannel (NotCancelled i) d e → e.pool[i]? = some (.getAsync .waiting) := by
  constructor
  · refine inevitable_of_lessens (fun _ t => t.left) (fun _ _ => 0)
      (fun _ _ hn => ⟨fun _ => le_rfl, Or.inl (ChannelActivity.left_of_next hn)⟩) ?_ h
    intro c hc unended
    simp only [not_forall] at unended
    obtain ⟨i, t, ht, open_⟩ := unended
    exact able_of_open hc ht (by simpa using open_)
  · intro a d hd leaves
    simp only [LeavesNoWaiter, not_forall, not_not] at leaves
    obtain ⟨d', hd', before, after, i, hi⟩ := leaves
    cases hd.symm.trans hd'
    refine ⟨i, fun e he => (stranded_waits ?_ after he).1⟩
    cases a with
    | start t =>
      obtain ⟨_, rfl⟩ := act_start hd
      exact pool_append_of_old hi
    | step j x =>
      obtain ⟨t, s', t', ht, hn, rfl⟩ := act_step hd
      refine (pool_set_other ?_).trans hi
      rintro rfl
      cases ht.symm.trans hi
      replace hn : ChannelActivity.next c.shared (.getAsync .waiting) x = some (s', t') := hn
      obtain ⟨_, rfl⟩ := (ChannelActivity.lockDisposed_of_next hn).2 before after
      obtain ⟨_, hp, _⟩ := ChannelActivity.before_disposal hn
      cases hp

def leavesNoWaiter (c : Config PublishChannel ChannelActivity) (a : Action ChannelActivity ChannelInput) : Bool :=
  (publishChannel.act c a).all fun d =>
    c.shared.lockDisposed || !d.shared.lockDisposed || c.pool.all (· ≠ .getAsync .waiting)

theorem leavesNoWaiter_of_check {a : Action ChannelActivity ChannelInput} (h : leavesNoWaiter c a = true) :
    LeavesNoWaiter c a := by
  intro d hd before after i hi
  simp only [leavesNoWaiter, hd, Option.all_some, before, after, Bool.not_true, Bool.false_or] at h
  have other := List.all_eq_true.mp h _ (List.mem_of_getElem? hi)
  simp at other

/-- One call awaits the factory, another one the lock, and a disposal is about to begin. -/
def testWaiting : List (Action ChannelActivity ChannelInput) :=
  [.start (.getAsync .entered), .step 0 .go, .step 0 (.ended (.ok ())), .step 0 .go,
    .start (.getAsync .entered), .step 1 .go, .start (.disposeAsync .entered)]

theorem testWaiting_ends :
    ∃ c d, publishChannel.run leavesNoWaiter ⟨.unused, []⟩ testWaiting = some c ∧
      Inevitable publishChannel LeavesNoWaiter Smooth (fun d => ∀ (i : Nat) t, d.pool[i]? = some t → t.isOver = true) c ∧
      publishChannel.act c (.step 2 .go) = some d ∧
      ∃ i : Nat, ∀ e, ReachableWhere publishChannel (NotCancelled i) d e → e.pool[i]? = some (.getAsync .waiting) := by
  have h : (publishChannel.run leavesNoWaiter ⟨.unused, []⟩ testWaiting).any (fun c =>
      decide (c.pool[1]? = some (.getAsync .waiting)) && !c.shared.lockDisposed &&
        (publishChannel.act c (.step 2 .go)).any fun d => d.shared.lockDisposed) = true := by decide
  obtain ⟨c, hc, found⟩ := (Option.any_eq_true _ _).mp h
  simp only [Bool.and_eq_true, decide_eq_true_eq, Option.any_eq_true, Bool.not_eq_true'] at found
  obtain ⟨⟨waits, before⟩, d, hd, after⟩ := found
  obtain ⟨ends, strands⟩ := channel_calls_end (.of_run .start (fun _ _ => leavesNoWaiter_of_check) hc)
  exact ⟨c, d, hc, ends, hd, strands _ d hd fun leaves => leaves d hd before after 1 waits⟩

end Ends
end RabbitMediator
