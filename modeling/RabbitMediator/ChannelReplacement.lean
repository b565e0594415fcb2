import RabbitMediator.PublishChannel

namespace RabbitMediator

open Interleaving

/-- Only a call of `GetAsync` with the number `i` starts and goes on. -/
def OneCall (i : Nat) (_ : Config PublishChannel ChannelActivity) : Action ChannelActivity ChannelInput → Prop
  | .start t => t = .getAsync .entered
  | .step j _ => j = i

/-- What the calls of `GetAsync` on one `PublishChannel` come to. -/
structure ReplacesOnce (c : Config PublishChannel ChannelActivity) : Prop where
  oneFactory : ∀ (i j : Nat) broken broken', c.pool[i]? = some (.getAsync (.creating broken)) →
    c.pool[j]? = some (.getAsync (.creating broken')) → i = j
  /-- No two channels were created in place of the same. -/
  oneSuccessor : c.shared.created.Nodup
  undisposed : ∀ channel < c.shared.created.length, channel ∉ c.shared.disposed →
    c.shared.channel = some channel
  /-- A call that has created no channel hands out the current one, which it has found open. -/
  hands : ∀ (i : Nat) phase x s' handed, c.pool[i]? = some (.getAsync phase) →
    phase = .entered ∨ phase = .rechecking → phase.next c.shared x = some (s', .returned handed) →
    ∃ channel, handed = some channel ∧ c.shared.channel = some channel ∧ c.shared.isOpen channel = true
  broken : ∀ channel ∈ c.shared.disposed, c.shared.isOpen channel = false
  failure : ∀ (i : Nat) broken e, c.pool[i]? = some (.getAsync (.creating broken)) →
    ∃ s', GetAsync.next c.shared (.creating broken) (.ended (.error e)) = some (s', .threw e) ∧
      s'.channel = c.shared.channel ∧ s'.replaceLocked = false
  /-- While the lock is free, a new call can come to an open channel by itself. -/
  later : c.shared.replaceLocked = false → ∃ d channel,
    ReachableWhere publishChannel (OneCall c.pool.length) c d ∧
    d.pool[c.pool.length]? = some (.getAsync (.returned (some channel))) ∧ d.shared.isOpen channel = true

/-- No step of a `DisposeAsync` of the `PublishChannel`. -/
def Undisposed (c : Config PublishChannel ChannelActivity) (a : Action ChannelActivity ChannelInput) : Prop :=
  ∀ (i : Nat) x phase, a = .step i x → c.pool[i]? ≠ some (.disposeAsync phase)

/-- What `_replaceLock` protects: each channel was replaced once at most, and those that were replaced are
closed and disposed. -/
structure PublishChannel.Tidy (s : PublishChannel) : Prop where
  lock : s.lockDisposed = false
  current : ∀ channel, s.channel = some channel → channel < s.created.length
  replaced : ∀ channel, some channel ∈ s.created → channel < s.created.length
  fresh : s.channel ∉ s.created
  nodup : s.created.Nodup
  owned : ∀ channel < s.created.length, channel ∈ s.disposed ∨ s.channel = some channel
  closed : ∀ channel ∈ s.disposed, channel < s.created.length ∧ s.isOpen channel = false

/-- What the call inside the lock knows. -/
def ChannelActivity.Holds (s : PublishChannel) (t : ChannelActivity) : Prop :=
  s.Tidy ∧ ∀ broken, t = .getAsync (.creating broken) →
    s.channel = broken ∧ ∀ channel, broken = some channel → s.isOpen channel = false

section Steps

variable {s s' : PublishChannel} {t t' : ChannelActivity} {x : ChannelInput} {channel : Nat}

theorem PublishChannel.openChannel_some (h : s.openChannel = some channel) :
    s.channel = some channel ∧ s.isOpen channel = true :=
  Option.filter_eq_some_iff.mp h

theorem PublishChannel.openChannel_none (h : s.openChannel = none) (hc : s.channel = some channel) :
    s.isOpen channel = false := by
  have closed := Option.filter_eq_none_iff.mp h channel hc
  simpa using closed

theorem PublishChannel.isOpen_close {k : Nat} (h : s.isOpen k = false) : (s.close channel).isOpen k = false := by
  unfold close
  by_cases hk : k = channel
  · subst hk
    simp
  · simpa [Function.update_of_ne hk] using h

theorem PublishChannel.Tidy.close (h : s.Tidy) (channel : Nat) : (s.close channel).Tidy :=
  ⟨h.lock, h.current, h.replaced, h.fresh, h.nodup, h.owned,
    fun k hk => ⟨(h.closed k hk).1, isOpen_close (h.closed k hk).2⟩⟩

theorem PublishChannel.Tidy.locked (h : s.Tidy) (locked : Bool) :
    PublishChannel.Tidy { s with replaceLocked := locked } :=
  ⟨h.lock, h.current, h.replaced, h.fresh, h.nodup, h.owned, h.closed⟩

/-- The current channel is closed, and a new one takes its place. -/
theorem PublishChannel.Tidy.create (h : s.Tidy) (disposed : List Nat)
    (old : ∀ k ∈ disposed, k ∈ s.disposed ∨ s.channel = some k)
    (kept : ∀ k ∈ s.disposed, k ∈ disposed) (gone : ∀ k, s.channel = some k → k ∈ disposed)
    (broken : ∀ k, s.channel = some k → s.isOpen k = false) :
    PublishChannel.Tidy { s.create s.channel with disposed := disposed } := by
  have new : ∀ k, k < s.created.length → k ≠ s.created.length := fun k hk => by omega
  refine ⟨h.lock, ?_, ?_, ?_, ?_, ?_, ?_⟩
  · intro k hk
    cases hk
    simp [PublishChannel.create]
  · intro k hk
    simp only [PublishChannel.create, List.mem_append, List.mem_singleton, List.length_append,
      List.length_singleton] at hk ⊢
    rcases hk with hk | hk
    · have := h.replaced k hk
      omega
    · have := h.current k hk.symm
      omega
  · simp only [PublishChannel.create, List.mem_append, List.mem_singleton, not_or]
    exact ⟨fun hm => absurd (h.replaced _ hm) (by omega), fun hm => absurd (h.current _ hm.symm) (by omega)⟩
  · exact List.nodup_append'.mpr ⟨h.nodup, List.nodup_singleton _, by simpa using h.fresh⟩
  · intro k hk
    simp only [PublishChannel.create, List.length_append, List.length_singleton] at hk ⊢
    by_cases last : k = s.created.length
    · exact Or.inr (by rw [last])
    · rcases h.owned k (by omega) with hd | hc
      · exact Or.inl (kept k hd)
      · exact Or.inl (gone k hc)
  · intro k hk
    have there : k < s.created.length ∧ s.isOpen k = false := by
      rcases old k hk with hd | hc
      · exact h.closed k hd
      · exact ⟨h.current k hc, broken k hc⟩
    simp only [PublishChannel.create, List.length_append, List.length_singleton,
      Function.update_of_ne (new k there.1)]
    exact ⟨by omega, there.2⟩

theorem replaceLock_guards : replaceLock.Guards publishChannel := by
  have effect : ∀ {s s' : PublishChannel} {i : Nat} {t t' : ChannelActivity} {x : ChannelInput},
      publishChannel.next s i t x = some (s', t') →
      (replaceLock.inside t = false → replaceLock.inside t' = true →
        s.replaceLocked = false ∧ s'.replaceLocked = true) ∧
      (replaceLock.inside t = false → replaceLock.inside t' = false → s'.replaceLocked = s.replaceLocked) ∧
      (replaceLock.inside t = true → s.replaceLocked = true → s'.replaceLocked = replaceLock.inside t') := by
    intro s s' i t t' x h
    cases t with
    | getAsync phase =>
      obtain ⟨⟨s₁, phase'⟩, hn, he⟩ := Option.map_eq_some_iff.mp h
      cases he
      obtain ⟨enter, outside, within⟩ := (GetAsync.step_of_next hn).lock
      exact ⟨enter, fun before after => congrArg (·.replaceLocked) (outside before after), within⟩
    | disposeAsync phase =>
      obtain ⟨⟨s₁, phase'⟩, hn, he⟩ := Option.map_eq_some_iff.mp h
      cases he
      have same : s₁.replaceLocked = s.replaceLocked := by
        unfold DisposeChannel.next at hn
        split at hn
        next => split at hn <;> cases hn <;> rfl
        next => cases hn; rfl
        next => cases hn; rfl
        next => cases hn
      simp [replaceLock, same]
    | closing channel =>
      cases x <;> cases h
      simp [replaceLock, PublishChannel.close]
    | closed => cases x <;> cases h
  refine ⟨?_, fun h => (effect h).1, fun h => (effect h).2.1, fun h => (effect h).2.2⟩
  intro s t h
  cases t with
  | getAsync phase =>
    cases phase with
    | entered => rfl
    | _ => cases h
  | _ => rfl

/-- What a step makes of what `_replaceLock` protects. -/
theorem ChannelActivity.passes (h : t.next s x = some (s', t')) (other : ∀ phase, t ≠ .disposeAsync phase) :
    replaceLock.Passes PublishChannel.Tidy Holds s t s' t' := by
  cases t with
  | getAsync phase =>
    obtain ⟨⟨s₁, phase'⟩, hn, he⟩ := Option.map_eq_some_iff.mp h
    cases he
    replace hn := GetAsync.step_of_next hn
    constructor
    · intro before after
      rw [hn.lock.2.1 before after]
      exact ⟨id, fun _ _ => id⟩
    · intro before after tidy
      cases hn with
      | acquired => exact ⟨tidy.locked true, by simp⟩
      | found | waits | rejected | cancelled => cases after
      | _ => cases before
    · rintro before after ⟨tidy, held⟩
      cases hn with
      | creates broken =>
        refine ⟨tidy, fun b hb => ?_⟩
        cases hb
        exact ⟨rfl, fun channel => PublishChannel.openChannel_none broken⟩
      | @replaces b =>
        obtain ⟨current, broken⟩ := held (some b) rfl
        refine ⟨?_, by simp⟩
        have next := tidy.create (b :: s.disposed)
        rw [current] at next
        exact next (by simp [eq_comm]; tauto) (fun k hk => by simp [hk]) (fun k hk => by simp_all)
          (fun k hk => broken k hk)
      | replaced | created | failed =>
        have out : (s.outcome _).inside = true := after
        cases GetAsync.inside_of_outcome out
      | left why =>
        have out : (s.outcome _).inside = true := after
        replace out := GetAsync.inside_of_outcome out
        rcases why with rfl | ⟨_, rfl⟩ <;> cases out
      | _ => cases before
    · rintro before after ⟨tidy, held⟩
      cases hn with
      | created =>
        obtain ⟨current, _⟩ := held none rfl
        have next := tidy.create s.disposed
        rw [current] at next
        exact (next (fun k hk => Or.inl hk) (fun k hk => hk) (by simp) (by simp)).locked false
      | replaced | failed | left => exact tidy.locked false
      | creates | replaces => cases after
      | _ => cases before
  | disposeAsync phase => exact absurd rfl (other phase)
  | closing channel =>
    cases x <;> cases h
    refine ⟨fun _ _ => ⟨fun tidy => tidy.close channel, ?_⟩, by simp [replaceLock], by simp [replaceLock],
      by simp [replaceLock]⟩
    rintro u _ ⟨tidy, held⟩
    refine ⟨tidy.close channel, fun broken hu => ⟨(held broken hu).1, fun k hk => ?_⟩⟩
    exact PublishChannel.isOpen_close ((held broken hu).2 k hk)
  | closed => cases x <;> cases h

end Steps

section Runs

variable {c : Config PublishChannel ChannelActivity}

theorem tidy_of_reachable (h : ReachableWhere publishChannel Undisposed ⟨.unused, []⟩ c) :
    c.shared.Tidy ∧ ∀ (i : Nat) (t : ChannelActivity), c.pool[i]? = some t → replaceLock.inside t = true →
      t.Holds c.shared := by
  have first : PublishChannel.unused.Tidy := by
    refine ⟨rfl, ?_, ?_, ?_, List.nodup_nil, ?_, ?_⟩ <;> simp [PublishChannel.unused]
  obtain ⟨whenFree, whenHeld⟩ := replaceLock_guards.invariant PublishChannel.Tidy ChannelActivity.Holds
    rfl rfl first (fun _ allowed ht hn => ChannelActivity.passes hn fun phase other =>
      allowed _ _ phase rfl (other ▸ ht)) h
  have held := replaceLock_guards.held rfl rfl h
  exact ⟨held.elim whenFree fun ht inside => (whenHeld _ _ ht inside).1, whenHeld⟩

theorem PublishChannel.outcome_of_lock {s : PublishChannel} (h : s.lockDisposed = false) (ends : GetAsync) :
    s.outcome ends = ends := by
  simp [outcome, h]

/-- A call that is alone comes to an open channel. -/
theorem PublishChannel.Tidy.later (tidy : c.shared.Tidy) (free : c.shared.replaceLocked = false) :
    ∃ d channel, ReachableWhere publishChannel (OneCall c.pool.length) c d ∧
      d.pool[c.pool.length]? = some (.getAsync (.returned (some channel))) ∧ d.shared.isOpen channel = true := by
  obtain ⟨s, pool⟩ := c
  replace free : s.replaceLocked = false := free
  replace tidy : s.Tidy := tidy
  have go : ∀ {k s' : PublishChannel} {g g' : GetAsync} {x : ChannelInput}, g.next k x = some (s', g') →
      ReachableWhere publishChannel (OneCall pool.length) ⟨s, pool⟩ ⟨k, pool ++ [.getAsync g]⟩ →
      ReachableWhere publishChannel (OneCall pool.length) ⟨s, pool⟩ ⟨s', pool ++ [.getAsync g']⟩ := by
    intro k s' g g' x hn h
    refine .next h (show OneCall pool.length _ (.step pool.length x) from rfl) (act_last ?_)
    simp [publishChannel, ChannelActivity.next, hn]
  have began : ReachableWhere publishChannel (OneCall pool.length) ⟨s, pool⟩ ⟨s, pool ++ [.getAsync .entered]⟩ :=
    .next .start (a := .start (.getAsync .entered)) rfl rfl
  -- whatever the call has found broken, the factory gives it a channel
  have ends : ∀ (k : PublishChannel) (broken : Option Nat), k.lockDisposed = false →
      ReachableWhere publishChannel (OneCall pool.length) ⟨s, pool⟩ ⟨k, pool ++ [.getAsync (.creating broken)]⟩ →
      ∃ d channel, ReachableWhere publishChannel (OneCall pool.length) ⟨s, pool⟩ d ∧
        d.pool[pool.length]? = some (.getAsync (.returned (some channel))) ∧ d.shared.isOpen channel = true := by
    intro k broken lock creating
    cases broken with
    | none =>
      have created : (GetAsync.creating none).next k (.ended (.ok ())) =
          some ((k.create none).release, .returned (some k.created.length)) := by
        simp [GetAsync.next, outcome, PublishChannel.create, lock]
      exact ⟨_, k.created.length, go created creating, by simp, by simp [PublishChannel.create, release]⟩
    | some old =>
      have replaces : (GetAsync.creating (some old)).next k (.ended (.ok ())) =
          some ((k.create (some old)).dispose old, .replacing) := rfl
      have left : GetAsync.replacing.next ((k.create (some old)).dispose old) (.ended (.ok ())) =
          some (((k.create (some old)).dispose old).release, .returned (some k.created.length)) := by
        simp [GetAsync.next, outcome, PublishChannel.create, dispose, lock]
      exact ⟨_, k.created.length, go left (go replaces creating), by simp,
        by simp [PublishChannel.create, dispose, release]⟩
  cases current : s.openChannel with
  | some channel =>
    have found : GetAsync.entered.next s .go = some (s, .returned (some channel)) := by
      simp [GetAsync.next, current]
    exact ⟨_, channel, go found began, by simp, (openChannel_some current).2⟩
  | none =>
    have waits : GetAsync.entered.next s .go = some (s, .waiting) := by
      simp [GetAsync.next, current, tidy.lock]
    have acquired : GetAsync.waiting.next s (.ended (.ok ())) =
        some ({ s with replaceLocked := true }, .rechecking) := by
      simp [GetAsync.next, free, tidy.lock]
    have creates : GetAsync.rechecking.next { s with replaceLocked := true } .go =
        some ({ s with replaceLocked := true }, .creating s.channel) := by
      have same : PublishChannel.openChannel { s with replaceLocked := true } = none := current
      simp [GetAsync.next, same]
    exact ends { s with replaceLocked := true } s.channel tidy.lock (go creates (go acquired (go waits began)))

/-- However calls of `GetAsync` come, wait, are cancelled or fail, a broken channel is replaced once. -/
theorem getAsync_replaces_once (h : ReachableWhere publishChannel Undisposed ⟨.unused, []⟩ c) :
    ReplacesOnce c := by
  obtain ⟨tidy, holds⟩ := tidy_of_reachable h
  refine ⟨?_, tidy.nodup, ?_, ?_, fun k hk => (tidy.closed k hk).2, ?_, tidy.later⟩
  · intro i j broken broken' hi hj
    exact (replaceLock_guards.held rfl rfl h).alone hi hj rfl rfl
  · intro k hk kept
    exact (tidy.owned k hk).resolve_left kept
  · intro i phase x s' handed _ early hn
    have step := GetAsync.step_of_next hn
    generalize he : GetAsync.returned handed = g' at step
    cases step with
    | found current =>
      cases he
      exact ⟨_, rfl, PublishChannel.openChannel_some current⟩
    | replaced current =>
      rw [PublishChannel.outcome_of_lock tidy.lock] at he
      cases he
      exact ⟨_, rfl, PublishChannel.openChannel_some current⟩
    | created | replaces | failed | left => rcases early with early | early <;> cases early
    | _ => cases he
  · intro i broken e hi
    refine ⟨c.shared.release, ?_, rfl, rfl⟩
    simp only [GetAsync.next, PublishChannel.outcome_of_lock tidy.lock]

def undisposed (c : Config PublishChannel ChannelActivity) : Action ChannelActivity ChannelInput → Bool
  | .start _ => true
  | .step i _ => match c.pool[i]? with
    | some (.disposeAsync _) => false
    | _ => true

theorem undisposed_of_check {a : Action ChannelActivity ChannelInput} (h : undisposed c a = true) :
    Undisposed c a := by
  rintro i x phase rfl ht
  simp [undisposed, ht] at h

/-- A call of `GetAsync` that creates the channel. -/
def testCreates (i : Nat) : List (Action ChannelActivity ChannelInput) :=
  [.start (.getAsync .entered), .step i .go, .step i (.ended (.ok ())), .step i .go, .step i (.ended (.ok ()))]

/-- The first channel is closed, and two calls come for it at once. -/
theorem testChannel_replaced_once :
    ∃ c, publishChannel.run undisposed ⟨.unused, []⟩
        (testCreates 0 ++ [.start (.closing 0), .step 1 .go, .start (.getAsync .entered), .step 2 .go] ++
          testCreates 3 ++ [.step 3 (.ended (.ok ())), .step 2 (.ended (.ok ())), .step 2 .go]) = some c ∧
      c.shared.created = [none, some 0] ∧ c.shared.disposed = [0] ∧ ReplacesOnce c := by
  have h : (publishChannel.run undisposed ⟨.unused, []⟩
      (testCreates 0 ++ [.start (.closing 0), .step 1 .go, .start (.getAsync .entered), .step 2 .go] ++
        testCreates 3 ++ [.step 3 (.ended (.ok ())), .step 2 (.ended (.ok ())), .step 2 .go])).any
      (fun c => c.shared.created = [none, some 0] ∧ c.shared.disposed = [0]) = true := by decide
  obtain ⟨c, hc, found⟩ := (Option.any_eq_true _ _).mp h
  obtain ⟨created, disposed⟩ := of_decide_eq_true found
  exact ⟨c, hc, created, disposed, getAsync_replaces_once (.of_run .start (fun _ _ => undisposed_of_check) hc)⟩

end Runs
end RabbitMediator
