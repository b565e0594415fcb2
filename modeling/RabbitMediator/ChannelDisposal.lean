import RabbitMediator.ChannelReplacement

namespace RabbitMediator

open Interleaving

/-- A `DisposeAsync` of the `PublishChannel` has read `_channel`. -/
def Begun (c : Config PublishChannel ChannelActivity) : Prop :=
  ∃ (i : Nat) (phase : DisposeChannel), c.pool[i]? = some (.disposeAsync phase) ∧ phase ≠ .entered

/-- A `DisposeAsync` of the `PublishChannel` has completed. -/
def Completed (c : Config PublishChannel ChannelActivity) : Prop :=
  ∃ i : Nat, c.pool[i]? = some (.disposeAsync .ended)

/-- A `DisposeAsync` has begun, and it and all calls of `GetAsync` are over. -/
structure AllOver (c : Config PublishChannel ChannelActivity) : Prop where
  begun : Begun c
  disposals : ∀ (i : Nat) phase, c.pool[i]? = some (.disposeAsync phase) →
    phase = .ended ∨ ∃ e, phase = .threw e
  calls : ∀ (i : Nat) phase, c.pool[i]? = some (.getAsync phase) → phase.hasEnded = true

/-- Every channel the factory has created was disposed. -/
def NoneLeft (c : Config PublishChannel ChannelActivity) : Prop :=
  ∀ channel < c.shared.created.length, channel ∈ c.shared.disposed

/-- The call hands out no channel and creates none. -/
def GetAsync.handsNothing : GetAsync → Bool
  | .creating _ | .replacing | .returned _ => false
  | _ => true

/-- There is one `DisposeAsync` at most. -/
def OneDisposal (c : Config PublishChannel ChannelActivity) (a : Action ChannelActivity ChannelInput) : Prop :=
  ∀ phase (i : Nat) phase', a = .start (.disposeAsync phase) → c.pool[i]? ≠ some (.disposeAsync phase')

/-- A factory that comes with a channel finds no disposal begun. -/
def CreatesInTime (c : Config PublishChannel ChannelActivity) (a : Action ChannelActivity ChannelInput) : Prop :=
  ∀ (i : Nat) broken, a = .step i (.ended (.ok ())) → c.pool[i]? = some (.getAsync (.creating broken)) → ¬Begun c

section Steps

variable {s s' : PublishChannel} {g g' : GetAsync} {t t' : ChannelActivity} {x : ChannelInput}

/-- Only a factory that comes with a channel changes what is there. -/
theorem GetAsync.Step.keeps (h : Step s g x s' g')
    (other : ∀ broken, g = .creating broken → x ≠ .ended (.ok ())) :
    s'.created = s.created ∧ s'.disposed = s.disposed ∧ s'.channel = s.channel ∧
      s'.lockDisposed = s.lockDisposed := by
  cases h with
  | created => exact absurd rfl (other none rfl)
  | replaces => exact absurd rfl (other _ rfl)
  | _ => exact ⟨rfl, rfl, rfl, rfl⟩

theorem DisposeChannel.next_disposed {p p' : DisposeChannel} (h : p.next s x = some (s', p')) :
    s'.created = s.created ∧ (∀ channel ∈ s.disposed, channel ∈ s'.disposed) ∧ p' ≠ .entered ∧
      (s.channel = none → s'.channel = none) ∧ (s.lockDisposed = true → s'.lockDisposed = true) ∧
      (p' = .ended → s'.channel = none ∧ s'.lockDisposed = true) := by
  unfold next at h
  split at h
  next =>
    split at h
    next current =>
      cases h
      exact ⟨rfl, fun k hk => List.mem_cons_of_mem _ hk, by simp, id, id, by simp⟩
    next none =>
      cases h
      exact ⟨rfl, fun _ hk => hk, by simp, id, fun _ => rfl, fun _ => ⟨none, rfl⟩⟩
  next =>
    cases h
    exact ⟨rfl, fun _ hk => hk, by simp, fun _ => rfl, fun _ => rfl, fun _ => ⟨rfl, rfl⟩⟩
  next => cases h; exact ⟨rfl, fun _ hk => hk, by simp, id, id, by simp⟩
  next => cases h

/-- While no factory comes with a channel, no channel comes and nothing disposed is forgotten. -/
structure PublishChannel.Winds (s s' : PublishChannel) : Prop where
  created : s'.created = s.created
  disposed : ∀ channel ∈ s.disposed, channel ∈ s'.disposed
  channel : s.channel = none → s'.channel = none
  lock : s.lockDisposed = true → s'.lockDisposed = true

theorem ChannelActivity.winds (h : t.next s x = some (s', t'))
    (other : ∀ broken, t = .getAsync (.creating broken) → x ≠ .ended (.ok ())) : s.Winds s' := by
  cases t with
  | getAsync phase =>
    obtain ⟨⟨s₁, phase'⟩, hn, he⟩ := Option.map_eq_some_iff.mp h
    cases he
    obtain ⟨created, disposed, channel, lock⟩ :=
      (GetAsync.step_of_next hn).keeps fun broken hb => other broken (hb ▸ rfl)
    exact ⟨created, fun k hk => disposed ▸ hk, fun none => channel.trans none, fun taken => lock.trans taken⟩
  | disposeAsync phase =>
    obtain ⟨⟨s₁, phase'⟩, hn, he⟩ := Option.map_eq_some_iff.mp h
    cases he
    obtain ⟨created, disposed, _, channel, lock, _⟩ := DisposeChannel.next_disposed hn
    exact ⟨created, disposed, channel, lock⟩
  | closing channel =>
    cases x <;> cases h
    exact ⟨rfl, fun _ hk => hk, id, id⟩
  | closed => cases x <;> cases h

/-- A step leaves a call a call and a disposal a disposal. -/
theorem ChannelActivity.before_disposal {p' : DisposeChannel} (h : t.next s x = some (s', .disposeAsync p')) :
    ∃ p, t = .disposeAsync p ∧ p.next s x = some (s', p') := by
  cases t with
  | getAsync phase =>
    obtain ⟨_, _, he⟩ := Option.map_eq_some_iff.mp h
    cases he
  | disposeAsync phase =>
    obtain ⟨⟨s₁, phase'⟩, hn, he⟩ := Option.map_eq_some_iff.mp h
    cases he
    exact ⟨phase, rfl, hn⟩
  | closing channel => cases x <;> cases h
  | closed => cases x <;> cases h

theorem ChannelActivity.before_call (h : t.next s x = some (s', .getAsync g')) :
    ∃ g, t = .getAsync g ∧ g.next s x = some (s', g') := by
  cases t with
  | getAsync phase =>
    obtain ⟨⟨s₁, phase'⟩, hn, he⟩ := Option.map_eq_some_iff.mp h
    cases he
    exact ⟨phase, rfl, hn⟩
  | disposeAsync phase =>
    obtain ⟨_, _, he⟩ := Option.map_eq_some_iff.mp h
    cases he
  | closing channel => cases x <;> cases h
  | closed => cases x <;> cases h

end Steps

section Runs

variable {c d : Config PublishChannel ChannelActivity} {a : Action ChannelActivity ChannelInput}

theorem Begun.act (h : Begun c) (hd : publishChannel.act c a = some d) : Begun d := by
  obtain ⟨j, p, hj, begun⟩ := h
  cases a with
  | start t =>
    obtain ⟨_, rfl⟩ := act_start hd
    exact ⟨j, p, pool_append_of_old hj, begun⟩
  | step i x =>
    obtain ⟨t, s', t', ht, hn, rfl⟩ := act_step hd
    by_cases same : j = i
    · subst same
      cases ht.symm.trans hj
      obtain ⟨⟨s₁, p'⟩, hp, he⟩ := Option.map_eq_some_iff.mp hn
      cases he
      exact ⟨j, p', pool_set_self hj, (DisposeChannel.next_disposed hp).2.2.1⟩
    · exact ⟨j, p, (pool_set_other same).trans hj, begun⟩

/-- A disposal has begun: there are no channels left, and after a completed one there will be none. -/
structure Disposing (c : Config PublishChannel ChannelActivity) : Prop where
  begun : Begun c
  noneLeft : NoneLeft c
  completed : Completed c → c.shared.channel = none ∧ c.shared.lockDisposed = true

theorem Disposing.act (h : Disposing c) (intime : CreatesInTime c a) (hd : publishChannel.act c a = some d) :
    Disposing d := by
  refine ⟨h.begun.act hd, ?_, ?_⟩
  all_goals cases a with
  | start t =>
    obtain ⟨hs, rfl⟩ := act_start hd
    first
    | exact h.noneLeft
    | rintro ⟨j, hj⟩
      rcases pool_append_cases hj with hj | ⟨_, rfl⟩
      · exact h.completed ⟨j, hj⟩
      · cases hs
  | step i x =>
    obtain ⟨t, s', t', ht, hn, rfl⟩ := act_step hd
    have winds : c.shared.Winds s' := by
      refine ChannelActivity.winds hn fun broken he hx => ?_
      subst he hx
      exact intime i broken rfl ht h.begun
    first
    | intro k hk
      have old : k < c.shared.created.length := winds.created ▸ hk
      exact winds.disposed k (h.noneLeft k old)
    | rintro ⟨j, hj⟩
      rcases pool_set_cases ht hj with ⟨rfl, rfl⟩ | ⟨_, hj⟩
      · obtain ⟨p, rfl, hp⟩ := ChannelActivity.before_disposal hn
        exact (DisposeChannel.next_disposed hp).2.2.2.2.2 rfl
      · obtain ⟨channel, lock⟩ := h.completed ⟨j, hj⟩
        exact ⟨winds.channel channel, winds.lock lock⟩

/-- As long as no disposal has begun, the run is one of `GetAsync` alone. -/
theorem disposing_of_reachable (h : ReachableWhere publishChannel CreatesInTime ⟨.unused, []⟩ c) :
    (∀ (j : Nat) p, c.pool[j]? = some (.disposeAsync p) → p = .entered) ∧
        ReachableWhere publishChannel Undisposed ⟨.unused, []⟩ c ∨ Disposing c := by
  refine h.invariant (P := fun c => (∀ (j : Nat) p, c.pool[j]? = some (.disposeAsync p) → p = .entered) ∧
    ReachableWhere publishChannel Undisposed ⟨.unused, []⟩ c ∨ Disposing c) (Or.inl ⟨by simp, .start⟩) ?_
  intro c d a _ ih intime hd
  rcases ih with ⟨entered, alone⟩ | disposing
  · cases a with
    | start t =>
      have alone' := alone.next (a := .start t) (fun i x phase h => by cases h) hd
      obtain ⟨hs, rfl⟩ := act_start hd
      refine Or.inl ⟨fun j p hj => ?_, alone'⟩
      rcases pool_append_cases hj with hj | ⟨_, rfl⟩
      · exact entered j p hj
      · cases p with
        | entered => rfl
        | _ => cases hs
    | step i x =>
      obtain ⟨t, s', t', ht, hn, he⟩ := act_step hd
      replace hn : t.next c.shared x = some (s', t') := hn
      cases t with
      | disposeAsync p =>
        right
        obtain rfl := entered i p ht
        subst he
        obtain ⟨⟨s₁, p'⟩, hp, he⟩ := Option.map_eq_some_iff.mp hn
        cases he
        obtain ⟨created, disposed, begun, _, _, ended⟩ := DisposeChannel.next_disposed hp
        have tidy := (tidy_of_reachable alone).1
        refine ⟨⟨i, p', pool_set_self ht, begun⟩, fun k hk => ?_, ?_⟩
        · have old : k < c.shared.created.length := created ▸ hk
          rcases tidy.owned k old with gone | current
          · exact disposed k gone
          · cases x <;> simp [DisposeChannel.next, current] at hp
            obtain ⟨rfl, rfl⟩ := hp
            exact List.mem_cons_self
        · rintro ⟨j, hj⟩
          rcases pool_set_cases ht hj with ⟨_, hp'⟩ | ⟨_, hj⟩
          · cases hp'
            exact ended rfl
          · cases entered j _ hj
      | getAsync phase | closing channel | closed =>
        left
        refine ⟨fun j p hj => ?_, alone.next (a := .step i x) ?_ hd⟩
        · subst he
          rcases pool_set_cases ht hj with ⟨_, rfl⟩ | ⟨_, hj⟩
          · obtain ⟨p₀, he, _⟩ := ChannelActivity.before_disposal hn
            cases he
          · exact entered j p hj
        · rintro j y p he hj
          cases he
          cases ht.symm.trans hj
  · exact Or.inr (disposing.act intime hd)

/-- A call that came after a completed disposal. -/
theorem handsNothing_of_reachable (disposing : Disposing c) (completed : Completed c)
    (h : ReachableWhere publishChannel CreatesInTime c d) :
    Disposing d ∧ Completed d ∧ ∀ (j : Nat) g, c.pool.length ≤ j → d.pool[j]? = some (.getAsync g) →
      g = .entered ∨ ∃ e, g = .threw e := by
  refine h.invariant (P := fun d => Disposing d ∧ Completed d ∧ ∀ (j : Nat) g, c.pool.length ≤ j →
    d.pool[j]? = some (.getAsync g) → g = .entered ∨ ∃ e, g = .threw e) ⟨disposing, completed, ?_⟩ ?_
  · intro j g hj hg
    rw [List.getElem?_eq_none hj] at hg
    cases hg
  · rintro d e a _ ⟨disposing, ⟨k, hk⟩, late⟩ intime hd
    refine ⟨disposing.act intime hd, ?_⟩
    cases a with
    | start t =>
      obtain ⟨hs, rfl⟩ := act_start hd
      refine ⟨⟨k, pool_append_of_old hk⟩, fun j g hj hg => ?_⟩
      rcases pool_append_cases hg with hg | ⟨_, rfl⟩
      · exact late j g hj hg
      · cases g with
        | entered => exact Or.inl rfl
        | _ => cases hs
    | step i x =>
      obtain ⟨t, s', t', ht, hn, rfl⟩ := act_step hd
      replace hn : t.next d.shared x = some (s', t') := hn
      obtain ⟨gone, lock⟩ := disposing.completed ⟨k, hk⟩
      refine ⟨⟨k, ?_⟩, fun j g hj hg => ?_⟩
      · have other : k ≠ i := by
          rintro rfl
          cases ht.symm.trans hk
          cases x <;> cases hn
        exact (pool_set_other other).trans hk
      · rcases pool_set_cases ht hg with ⟨rfl, rfl⟩ | ⟨_, hg⟩
        · obtain ⟨g₀, rfl, hg₀⟩ := ChannelActivity.before_call hn
          have none : d.shared.openChannel = none := by simp [PublishChannel.openChannel, gone]
          rcases late j g₀ hj ht with rfl | ⟨_, rfl⟩
          · cases x <;> simp [GetAsync.next, none, lock] at hg₀
            exact Or.inr ⟨_, hg₀.2.symm⟩
          · cases x <;> cases hg₀
        · exact late j g hj hg

/-- When a disposal and all calls are over, no channel is left, and calls after it get none. -/
theorem channel_disposed (h : ReachableWhere publishChannel CreatesInTime ⟨.unused, []⟩ c) :
    (AllOver c → NoneLeft c) ∧
    ∀ d, Completed c → ReachableWhere publishChannel CreatesInTime c d → ∀ (j : Nat) g, c.pool.length ≤ j →
      d.pool[j]? = some (.getAsync g) → g.handsNothing = true := by
  have begun : Begun c → Disposing c := by
    rintro ⟨i, p, hi, started⟩
    rcases disposing_of_reachable h with ⟨entered, _⟩ | disposing
    · exact absurd (entered i p hi) started
    · exact disposing
  refine ⟨fun ended => (begun ended.begun).noneLeft, fun d completed hd j g hj hg => ?_⟩
  obtain ⟨i, hi⟩ := completed
  have disposing := begun ⟨i, _, hi, by simp⟩
  rcases (handsNothing_of_reachable disposing ⟨i, hi⟩ hd).2.2 j g hj hg with rfl | ⟨_, rfl⟩ <;> rfl

end Runs

section Checks

variable {c : Config PublishChannel ChannelActivity} {a : Action ChannelActivity ChannelInput}

def DisposeChannel.begun : DisposeChannel → Bool
  | .entered => false
  | _ => true

namespace ChannelActivity

def begun : ChannelActivity → Bool
  | .disposeAsync phase => phase.begun
  | _ => false

def isDisposal : ChannelActivity → Bool
  | .disposeAsync _ => true
  | _ => false

def hasEnded : ChannelActivity → Bool
  | .getAsync phase => phase.hasEnded
  | .disposeAsync .ended | .disposeAsync (.threw _) => true
  | .disposeAsync _ => false
  | _ => true

end ChannelActivity

def createsInTime (c : Config PublishChannel ChannelActivity) : Action ChannelActivity ChannelInput → Bool
  | .start _ => true
  | .step i _ => match c.pool[i]? with
    | some (.getAsync (.creating _)) => c.pool.all fun t => !t.begun
    | _ => true

theorem createsInTime_of_check (h : createsInTime c a = true) : CreatesInTime c a := by
  rintro i broken rfl hi ⟨j, p, hj, begun⟩
  simp only [createsInTime, hi] at h
  have early := List.all_eq_true.mp h _ (List.mem_of_getElem? hj)
  cases p with
  | entered => exact begun rfl
  | _ => cases early

def oneDisposal (c : Config PublishChannel ChannelActivity) : Action ChannelActivity ChannelInput → Bool
  | .start (.disposeAsync _) => c.pool.all fun t => !t.isDisposal
  | _ => true

theorem oneDisposal_of_check (h : oneDisposal c a = true) : OneDisposal c a := by
  rintro phase i phase' rfl hi
  have other := List.all_eq_true.mp h _ (List.mem_of_getElem? hi)
  cases other

theorem allOver_of_check (begun : c.pool.any (·.begun) = true) (ended : c.pool.all (·.hasEnded) = true) :
    AllOver c := by
  have finished : ∀ (i : Nat) t, c.pool[i]? = some t → t.hasEnded = true :=
    fun i t hi => List.all_eq_true.mp ended t (List.mem_of_getElem? hi)
  refine ⟨?_, fun i phase hi => ?_, fun i phase hi => finished i _ hi⟩
  · obtain ⟨t, ht, begun⟩ := List.any_eq_true.mp begun
    obtain ⟨i, hi⟩ := List.mem_iff_getElem?.mp ht
    cases t with
    | disposeAsync phase =>
      refine ⟨i, phase, hi, ?_⟩
      rintro rfl
      cases begun
    | _ => cases begun
  · have hp := finished i _ hi
    cases phase with
    | ended => exact Or.inl rfl
    | threw e => exact Or.inr ⟨e, rfl⟩
    | _ => cases hp

/-- A channel is created and disposed, and a call that comes later is turned away. -/
theorem testChannel_disposed :
    ∃ c d g, publishChannel.run createsInTime ⟨.unused, []⟩
        (testCreates 0 ++ [.start (.disposeAsync .entered), .step 1 .go, .step 1 (.ended (.ok ()))]) = some c ∧
      c.shared.created = [none] ∧ NoneLeft c ∧
      publishChannel.run createsInTime c [.start (.getAsync .entered), .step 2 .go] = some d ∧
      d.pool[2]? = some (.getAsync g) ∧ g.handsNothing = true := by
  have h : (publishChannel.run createsInTime ⟨.unused, []⟩
      (testCreates 0 ++ [.start (.disposeAsync .entered), .step 1 .go, .step 1 (.ended (.ok ()))])).any
      (fun c => decide (c.pool.length = 2) && decide (c.pool[1]? = some (.disposeAsync .ended)) &&
        c.pool.any (·.begun) && c.pool.all (·.hasEnded) && decide (c.shared.created = [none]) &&
        (publishChannel.run createsInTime c [.start (.getAsync .entered), .step 2 .go]).any fun d =>
          decide (d.pool[2]? = some (.getAsync (.threw semaphoreDisposed)))) = true := by decide
  obtain ⟨c, hc, found⟩ := (Option.any_eq_true _ _).mp h
  simp only [Bool.and_eq_true, decide_eq_true_eq, Option.any_eq_true] at found
  obtain ⟨⟨⟨⟨⟨two, completed⟩, begun⟩, ended⟩, created⟩, d, hd, late⟩ := found
  have reached : ReachableWhere publishChannel CreatesInTime ⟨.unused, []⟩ c :=
    .of_run .start (fun _ _ => createsInTime_of_check) hc
  refine ⟨c, d, _, hc, created, (channel_disposed reached).1 (allOver_of_check begun ended), hd, late, ?_⟩
  exact (channel_disposed reached).2 d ⟨1, completed⟩ (.of_run .start (fun _ _ => createsInTime_of_check) hd) 2 _
    (by omega) late

/-- The disposal comes while the factory is at work. The channel it comes with is stored, and nobody
disposes it. -/
theorem disposal_leaks_channel :
    ¬((∀ c, ReachableWhere publishChannel OneDisposal ⟨.unused, []⟩ c → AllOver c → NoneLeft c) ∧
      ∀ c d, ReachableWhere publishChannel OneDisposal ⟨.unused, []⟩ c → Completed c →
        ReachableWhere publishChannel OneDisposal c d → ∀ (j : Nat) g, c.pool.length ≤ j →
        d.pool[j]? = some (.getAsync g) → g.handsNothing = true) := by
  intro claim
  have h : (publishChannel.run oneDisposal ⟨.unused, []⟩
      [.start (.getAsync .entered), .step 0 .go, .step 0 (.ended (.ok ())), .step 0 .go,
        .start (.disposeAsync .entered), .step 1 .go, .step 0 (.ended (.ok ()))]).any
      (fun c => c.pool.any (·.begun) && c.pool.all (·.hasEnded) &&
        decide (c.shared.created = [none] ∧ c.shared.disposed = [])) = true := by decide
  obtain ⟨c, hc, found⟩ := (Option.any_eq_true _ _).mp h
  simp only [Bool.and_eq_true, decide_eq_true_eq] at found
  obtain ⟨⟨begun, ended⟩, created, disposed⟩ := found
  have none := claim.1 c (.of_run .start (fun _ _ => oneDisposal_of_check) hc) (allOver_of_check begun ended) 0
    (by simp [created])
  simp [disposed] at none

end Checks
end RabbitMediator
