import Mathlib.Data.List.Basic

namespace Interleaving

/-- Threads over a shared state. `next s i t x` is the atomic step of thread number `i`, standing at
`t`, when the environment answers `x`; `none` when the thread cannot take that step. -/
structure Threads (σ τ ι : Type) where
  start : σ → τ → Bool
  next : σ → Nat → τ → ι → Option (σ × τ)

structure Config (σ τ : Type) where
  shared : σ
  pool : List τ

inductive Action (τ ι : Type)
  | start (thread : τ)
  | step (index : Nat) (input : ι)

variable {σ τ ι : Type} {T : Threads σ τ ι}

/-- A thread joins the pool at the end and keeps its number for good. -/
def Threads.act (T : Threads σ τ ι) (c : Config σ τ) : Action τ ι → Option (Config σ τ)
  | .start t => if T.start c.shared t then some ⟨c.shared, c.pool ++ [t]⟩ else none
  | .step i x =>
    match c.pool[i]? with
    | none => none
    | some t => (T.next c.shared i t x).map fun r => ⟨r.1, c.pool.set i r.2⟩

/-- Runs a list of actions, each of which has to pass the check where it is taken. -/
def Threads.run (T : Threads σ τ ι) (check : Config σ τ → Action τ ι → Bool) (c : Config σ τ) :
    List (Action τ ι) → Option (Config σ τ)
  | [] => some c
  | a :: rest => if check c a then (T.act c a).bind fun d => T.run check d rest else none

/-- Configurations reached by actions each of which was allowed where it was taken. -/
inductive ReachableWhere (T : Threads σ τ ι) (allowed : Config σ τ → Action τ ι → Prop)
    (init : Config σ τ) : Config σ τ → Prop
  | start : ReachableWhere T allowed init init
  | next {c d a} : ReachableWhere T allowed init c → allowed c a → T.act c a = some d →
      ReachableWhere T allowed init d

abbrev Reachable (T : Threads σ τ ι) (init : Config σ τ) : Config σ τ → Prop :=
  ReachableWhere T (fun _ _ => True) init

theorem act_start {c d : Config σ τ} {t : τ} (h : T.act c (.start t) = some d) :
    T.start c.shared t = true ∧ d = ⟨c.shared, c.pool ++ [t]⟩ := by
  simp only [Threads.act] at h
  split at h
  next hs => exact ⟨hs, (Option.some.inj h).symm⟩
  next => simp at h

theorem act_step {c d : Config σ τ} {i : Nat} {x : ι} (h : T.act c (.step i x) = some d) :
    ∃ t s t', c.pool[i]? = some t ∧ T.next c.shared i t x = some (s, t') ∧
      d = ⟨s, c.pool.set i t'⟩ := by
  simp only [Threads.act] at h
  split at h
  next => simp at h
  next t ht =>
    obtain ⟨⟨s, t'⟩, hn, he⟩ := Option.map_eq_some_iff.mp h
    exact ⟨t, s, t', ht, hn, he.symm⟩

theorem pool_set_self {pool : List τ} {i : Nat} {t t' : τ} (h : pool[i]? = some t) :
    (pool.set i t')[i]? = some t' := by
  obtain ⟨hi, _⟩ := List.getElem?_eq_some_iff.mp h
  simp [hi]

theorem pool_set_other {pool : List τ} {i j : Nat} {t' : τ} (h : j ≠ i) :
    (pool.set i t')[j]? = pool[j]? :=
  List.getElem?_set_ne (Ne.symm h)

theorem pool_set_cases {pool : List τ} {i j : Nat} {t t' u : τ} (h : pool[i]? = some t)
    (hu : (pool.set i t')[j]? = some u) : j = i ∧ u = t' ∨ j ≠ i ∧ pool[j]? = some u := by
  by_cases hj : j = i
  · subst hj
    rw [pool_set_self h] at hu
    exact Or.inl ⟨rfl, (Option.some.inj hu).symm⟩
  · exact Or.inr ⟨hj, by rwa [pool_set_other hj] at hu⟩

/-- A map that shows nothing of a move shows the same pool. -/
theorem map_set_same {α : Type} {pool : List τ} {i : Nat} {t t' : τ} (f : τ → α) (h : pool[i]? = some t)
    (same : f t' = f t) : (pool.set i t').map f = pool.map f := by
  apply List.ext_getElem?
  intro j
  by_cases hj : j = i
  · subst hj
    rw [List.getElem?_map, List.getElem?_map, pool_set_self h, h, Option.map_some, Option.map_some, same]
  · rw [List.getElem?_map, List.getElem?_map, pool_set_other hj]

theorem pool_append_cases {pool : List τ} {i : Nat} {t u : τ} (h : (pool ++ [t])[i]? = some u) :
    pool[i]? = some u ∨ i = pool.length ∧ u = t := by
  by_cases hi : i < pool.length
  · exact Or.inl (by simpa [List.getElem?_append_left hi] using h)
  · rw [List.getElem?_append_right (by omega)] at h
    obtain ⟨hj, he⟩ := List.getElem?_eq_some_iff.mp h
    simp only [List.length_singleton] at hj
    exact Or.inr ⟨by omega, by simpa [show i - pool.length = 0 by omega] using he.symm⟩

theorem pool_append_of_old {pool : List τ} {i : Nat} {t u : τ} (h : pool[i]? = some u) :
    (pool ++ [t])[i]? = some u := by
  obtain ⟨hi, _⟩ := List.getElem?_eq_some_iff.mp h
  rw [List.getElem?_append_left hi, h]

/-- A step of the thread that has joined last. -/
theorem act_last {s s' : σ} {pool : List τ} {t t' : τ} {x : ι} (h : T.next s pool.length t x = some (s', t')) :
    T.act ⟨s, pool ++ [t]⟩ (.step pool.length x) = some ⟨s', pool ++ [t']⟩ := by
  simp [Threads.act, h]

theorem ReachableWhere.mono {allowed weaker : Config σ τ → Action τ ι → Prop}
    {init c : Config σ τ} (imp : ∀ c a, allowed c a → weaker c a)
    (h : ReachableWhere T allowed init c) : ReachableWhere T weaker init c := by
  induction h with
  | start => exact .start
  | next _ ha hd ih => exact .next ih (imp _ _ ha) hd

theorem ReachableWhere.reachable {allowed : Config σ τ → Action τ ι → Prop}
    {init c : Config σ τ} (h : ReachableWhere T allowed init c) : Reachable T init c :=
  h.mono fun _ _ _ => trivial

theorem ReachableWhere.trans {allowed : Config σ τ → Action τ ι → Prop} {init c d : Config σ τ}
    (h : ReachableWhere T allowed init c) (h' : ReachableWhere T allowed c d) :
    ReachableWhere T allowed init d := by
  induction h' with
  | start => exact h
  | next _ ha hd ih => exact .next ih ha hd

theorem ReachableWhere.of_run {allowed : Config σ τ → Action τ ι → Prop}
    {check : Config σ τ → Action τ ι → Bool} {init c d : Config σ τ}
    (h : ReachableWhere T allowed init c) (sound : ∀ c a, check c a = true → allowed c a)
    {actions : List (Action τ ι)} (hr : T.run check c actions = some d) :
    ReachableWhere T allowed init d := by
  induction actions generalizing c with
  | nil => exact Option.some.inj hr ▸ h
  | cons a rest ih =>
    simp only [Threads.run] at hr
    split at hr
    next ha =>
      obtain ⟨e, he, hr⟩ := Option.bind_eq_some_iff.mp hr
      exact ih (.next h (sound c a ha) he) hr
    next => cases hr

/-- A property of configurations which every allowed action keeps holds in every run. -/
theorem ReachableWhere.invariant {allowed : Config σ τ → Action τ ι → Prop}
    {init c : Config σ τ} {P : Config σ τ → Prop} (first : P init)
    (keep : ∀ c d a, ReachableWhere T allowed init c → P c → allowed c a → T.act c a = some d → P d)
    (h : ReachableWhere T allowed init c) : P c := by
  induction h with
  | start => exact first
  | next hc ha hd ih => exact keep _ _ _ hc ih ha hd

/-- Forward simulation along a map of configurations. An action is matched by one of the other threads,
or leaves what the map shows as it is. -/
theorem ReachableWhere.simulation {σ' τ' ι' : Type} {T' : Threads σ' τ' ι'}
    {allowed : Config σ τ → Action τ ι → Prop} {allowed' : Config σ' τ' → Action τ' ι' → Prop}
    {init c : Config σ τ} {f : Config σ τ → Config σ' τ'}
    (simulates : ∀ c d a, ReachableWhere T allowed init c → allowed c a → T.act c a = some d →
      f d = f c ∨ ∃ a', allowed' (f c) a' ∧ T'.act (f c) a' = some (f d))
    (h : ReachableWhere T allowed init c) : ReachableWhere T' allowed' (f init) (f c) := by
  induction h with
  | start => exact .start
  | next hc ha hd ih =>
    rcases simulates _ _ _ hc ha hd with he | ⟨a', ha', hd'⟩
    · exact he ▸ ih
    · exact .next ih ha' hd'

/-- Forward simulation along maps of the shared state and of the threads. A step of a thread is one of the
thread it is mapped to, or shows nothing. -/
theorem ReachableWhere.view {σ' τ' ι' : Type} {T' : Threads σ' τ' ι'}
    {allowed : Config σ τ → Action τ ι → Prop} {allowed' : Config σ' τ' → Action τ' ι' → Prop}
    {init c : Config σ τ} (shared : σ → σ') (part : τ → τ')
    (starting : ∀ s t, T.start s t = true → T'.start (shared s) (part t) = true)
    (starts : ∀ c t, allowed' c (.start t))
    (steps : ∀ {c i x t s t'}, ReachableWhere T allowed init c → allowed c (.step i x) →
      c.pool[i]? = some t → T.next c.shared i t x = some (s, t') →
      (shared s = shared c.shared ∧ part t' = part t) ∨
        ∃ y, T'.next (shared c.shared) i (part t) y = some (shared s, part t') ∧
          allowed' ⟨shared c.shared, c.pool.map part⟩ (.step i y))
    (h : ReachableWhere T allowed init c) :
    ReachableWhere T' allowed' ⟨shared init.shared, init.pool.map part⟩
      ⟨shared c.shared, c.pool.map part⟩ := by
  refine ReachableWhere.simulation (f := fun c => ⟨shared c.shared, c.pool.map part⟩) ?_ h
  intro c d a hc ha hd
  cases a with
  | start t =>
    obtain ⟨hs, rfl⟩ := act_start hd
    refine Or.inr ⟨.start (part t), starts _ _, ?_⟩
    simp [Threads.act, starting _ _ hs]
  | step i x =>
    obtain ⟨t, s, t', ht, hn, rfl⟩ := act_step hd
    rcases steps hc ha ht hn with ⟨same, still⟩ | ⟨y, hy, hay⟩
    · left
      simp only [same, map_set_same part ht still]
    · refine Or.inr ⟨.step i y, hay, ?_⟩
      simp [Threads.act, ht, hy, List.map_set]

/-- The steps thread `i` takes in a run, each with the thread as it stood before. -/
def Threads.trail (T : Threads σ τ ι) (i : Nat) (c : Config σ τ) : List (Action τ ι) → List (τ × ι)
  | [] => []
  | a :: rest =>
    match T.act c a with
    | none => []
    | some d =>
      match a, c.pool[i]? with
      | .step j x, some t => if j = i then (t, x) :: T.trail i d rest else T.trail i d rest
      | _, _ => T.trail i d rest

/-- Consecutive steps of one thread. The shared state may change in any way between them. -/
inductive Path (T : Threads σ τ ι) (i : Nat) : τ → List (τ × ι) → τ → Prop
  | stay (t : τ) : Path T i t [] t
  | step {s s' : σ} {t t' t'' : τ} {x : ι} {trail : List (τ × ι)} (first : T.next s i t x = some (s', t'))
      (rest : Path T i t' trail t'') : Path T i t ((t, x) :: trail) t''

/-- In a run a thread follows one path, from where it stood at first or from where it was started. -/
theorem path_of_run {check : Config σ τ → Action τ ι → Bool} {actions : List (Action τ ι)} {i : Nat}
    {c d : Config σ τ} (hr : T.run check c actions = some d) {t' : τ} (ht' : d.pool[i]? = some t') :
    ∃ t, (c.pool[i]? = some t ∨ c.pool[i]? = none ∧ ∃ s, T.start s t = true) ∧
      Path T i t (T.trail i c actions) t' := by
  induction actions generalizing c with
  | nil =>
    cases hr
    exact ⟨t', Or.inl ht', .stay t'⟩
  | cons a rest ih =>
    simp only [Threads.run] at hr
    split at hr
    next =>
      obtain ⟨e, he, hr⟩ := Option.bind_eq_some_iff.mp hr
      obtain ⟨t, ht, path⟩ := ih hr
      simp only [Threads.trail, he]
      cases a with
      | start u =>
        obtain ⟨hs, rfl⟩ := act_start he
        refine ⟨t, ?_, path⟩
        rcases ht with ht | ⟨ht, hst⟩
        · rcases pool_append_cases ht with ht | ⟨hi, rfl⟩
          · exact Or.inl ht
          · exact Or.inr ⟨by simp [hi], _, hs⟩
        · have hi := List.getElem?_eq_none_iff.mp ht
          rw [List.length_append] at hi
          exact Or.inr ⟨List.getElem?_eq_none_iff.mpr (by omega), hst⟩
      | step j x =>
        obtain ⟨u, s, u', hu, hn, rfl⟩ := act_step he
        by_cases hj : j = i
        · subst hj
          simp only [pool_set_self hu, reduceCtorEq, false_and, or_false, Option.some.injEq] at ht
          subst ht
          exact ⟨u, Or.inl hu, by simpa only [hu, if_pos] using .step hn path⟩
        · simp only [pool_set_other (Ne.symm hj)] at ht
          refine ⟨t, ht, ?_⟩
          cases c.pool[i]? with
          | none => exact path
          | some v => simpa only [if_neg hj] using path
    next => cases hr

/-- Each step is one the thread may take where the shared state and the thread stand. -/
abbrev StepsWhere (ok : σ → Nat → τ → ι → Prop) (c : Config σ τ) (a : Action τ ι) : Prop :=
  ∀ i x t, a = .step i x → c.pool[i]? = some t → ok c.shared i t x

/-- Rely and guarantee, over steps of the kind `ok`. `inv` speaks of the shared state, `at_` of one thread
by its number, and `guar i s s'` is what the steps of thread `i` promise to all others. -/
structure Sound (T : Threads σ τ ι) (ok : σ → Nat → τ → ι → Prop) (inv : σ → Prop)
    (at_ : σ → Nat → τ → Prop) (guar : Nat → σ → σ → Prop) : Prop where
  start : ∀ {s i t}, inv s → T.start s t = true → at_ s i t
  step : ∀ {s s' i t t' x}, inv s → at_ s i t → ok s i t x → T.next s i t x = some (s', t') →
    inv s' ∧ at_ s' i t' ∧ guar i s s'
  stable : ∀ {s s' i j u}, inv s' → guar i s s' → j ≠ i → at_ s j u → at_ s' j u

theorem Sound.reachable {ok : σ → Nat → τ → ι → Prop} {inv : σ → Prop} {at_ : σ → Nat → τ → Prop}
    {guar : Nat → σ → σ → Prop} (sound : Sound T ok inv at_ guar) {init c : Config σ τ}
    (first : inv init.shared) (empty : init.pool = []) (h : ReachableWhere T (StepsWhere ok) init c) :
    inv c.shared ∧ ∀ i t, c.pool[i]? = some t → at_ c.shared i t := by
  induction h with
  | start => exact ⟨first, by simp [empty]⟩
  | @next c d a _ allowed hd ih =>
    obtain ⟨hi, hat⟩ := ih
    cases a with
    | start t =>
      obtain ⟨hs, rfl⟩ := act_start hd
      refine ⟨hi, fun i u hu => ?_⟩
      rcases pool_append_cases hu with hu | ⟨rfl, rfl⟩
      · exact hat i u hu
      · exact sound.start hi hs
    | step i x =>
      obtain ⟨t, s, t', ht, hn, rfl⟩ := act_step hd
      obtain ⟨hi', ht', hg⟩ := sound.step hi (hat i t ht) (allowed i x t rfl ht) hn
      refine ⟨hi', fun j u hu => ?_⟩
      rcases pool_set_cases ht hu with ⟨rfl, rfl⟩ | ⟨hj, hu⟩
      · exact ht'
      · exact sound.stable hi' hg hj (hat j u hu)

/-- What asks nothing of the steps holds in every run. -/
theorem Sound.always {inv : σ → Prop} {at_ : σ → Nat → τ → Prop} {guar : Nat → σ → σ → Prop}
    (sound : Sound T (fun _ _ _ _ => True) inv at_ guar) {allowed : Config σ τ → Action τ ι → Prop}
    {init c : Config σ τ} (first : inv init.shared) (empty : init.pool = []) (h : ReachableWhere T allowed init c) :
    inv c.shared ∧ ∀ i t, c.pool[i]? = some t → at_ c.shared i t :=
  sound.reachable first empty (h.mono fun _ _ _ _ _ _ _ _ => trivial)

end Interleaving
