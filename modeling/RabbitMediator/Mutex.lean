import RabbitMediator.Interleaving

namespace Interleaving

variable {σ τ ι : Type} {T : Threads σ τ ι}

/-- A lock: whether it is taken, and which threads are between its `Wait` and its `Release`. -/
structure Lock (σ τ : Type) where
  taken : σ → Bool
  inside : τ → Bool

namespace Lock

variable {L : Lock σ τ}

/-- The threads keep to the lock: they come in while it is free, and only the one inside frees it. -/
structure Guards (L : Lock σ τ) (T : Threads σ τ ι) : Prop where
  start : ∀ {s t}, T.start s t = true → L.inside t = false
  enter : ∀ {s s' i t t' x}, T.next s i t x = some (s', t') → L.inside t = false →
    L.inside t' = true → L.taken s = false ∧ L.taken s' = true
  outside : ∀ {s s' i t t' x}, T.next s i t x = some (s', t') → L.inside t = false →
    L.inside t' = false → L.taken s' = L.taken s
  within : ∀ {s s' i t t' x}, T.next s i t x = some (s', t') → L.inside t = true →
    L.taken s = true → L.taken s' = L.inside t'

/-- The lock is taken just while one thread is inside. -/
structure Held (L : Lock σ τ) (c : Config σ τ) : Prop where
  taken : ∀ {i : Nat} {t : τ}, c.pool[i]? = some t → L.inside t = true → L.taken c.shared = true
  someone : L.taken c.shared = true → ∃ (i : Nat) (t : τ), c.pool[i]? = some t ∧ L.inside t = true
  alone : ∀ {i j : Nat} {t u : τ}, c.pool[i]? = some t → c.pool[j]? = some u → L.inside t = true →
    L.inside u = true → i = j

/-- The lock is free, or a thread is inside. -/
theorem Held.elim {c : Config σ τ} {P : Prop} (h : L.Held c) (free : L.taken c.shared = false → P)
    (within : ∀ {i : Nat} {t : τ}, c.pool[i]? = some t → L.inside t = true → P) : P := by
  cases taken : L.taken c.shared with
  | false => exact free taken
  | true =>
    obtain ⟨i, t, ht, inside⟩ := h.someone taken
    exact within ht inside

theorem Held.started {c : Config σ τ} {t : τ} (h : L.Held c) (ht : L.inside t = false) :
    L.Held ⟨c.shared, c.pool ++ [t]⟩ := by
  have old : ∀ {i : Nat} {u : τ}, (c.pool ++ [t])[i]? = some u → L.inside u = true →
      c.pool[i]? = some u := by
    intro i u hu inside
    rcases pool_append_cases hu with hu | ⟨_, rfl⟩
    · exact hu
    · simp [ht] at inside
  refine ⟨fun hi hin => h.taken (old hi hin) hin, fun ht => ?_, fun hi hj hin hjn =>
    h.alone (old hi hin) (old hj hjn) hin hjn⟩
  obtain ⟨i, u, hu, inside⟩ := h.someone ht
  exact ⟨i, u, pool_append_of_old hu, inside⟩

theorem Held.stepped {c : Config σ τ} {i : Nat} {t t' : τ} {s' : σ} {x : ι} (h : L.Held c)
    (guards : L.Guards T) (ht : c.pool[i]? = some t) (hn : T.next c.shared i t x = some (s', t')) :
    L.Held ⟨s', c.pool.set i t'⟩ := by
  cases before : L.inside t with
  | true =>
    have after := guards.within hn before (h.taken ht before)
    have mine : ∀ {j : Nat} {u : τ}, (c.pool.set i t')[j]? = some u → L.inside u = true →
        j = i ∧ u = t' := by
      intro j u hu inside
      rcases pool_set_cases ht hu with hu | ⟨hj, hu⟩
      · exact hu
      · exact absurd (h.alone hu ht inside before) hj
    refine ⟨fun hu inside => ?_, fun taken => ⟨i, t', pool_set_self ht, after ▸ taken⟩,
      fun hu hv inside inside' => (mine hu inside).1.trans (mine hv inside').1.symm⟩
    obtain ⟨_, rfl⟩ := mine hu inside
    exact after.trans inside
  | false =>
    cases after : L.inside t' with
    | true =>
      obtain ⟨free, taken⟩ := guards.enter hn before after
      have mine : ∀ {j : Nat} {u : τ}, (c.pool.set i t')[j]? = some u → L.inside u = true → j = i := by
        intro j u hu inside
        rcases pool_set_cases ht hu with ⟨hj, _⟩ | ⟨_, hu⟩
        · exact hj
        · have held := h.taken hu inside
          rw [free] at held
          cases held
      exact ⟨fun _ _ => taken, fun _ => ⟨i, t', pool_set_self ht, after⟩, fun hu hv inside inside' =>
        (mine hu inside).trans (mine hv inside').symm⟩
    | false =>
      have same := guards.outside hn before after
      have old : ∀ {j : Nat} {u : τ}, (c.pool.set i t')[j]? = some u → L.inside u = true →
          c.pool[j]? = some u := by
        intro j u hu inside
        rcases pool_set_cases ht hu with ⟨_, rfl⟩ | ⟨_, hu⟩
        · rw [after] at inside
          cases inside
        · exact hu
      refine ⟨fun hu inside => same.trans (h.taken (old hu inside) inside), fun taken => ?_,
        fun hu hv inside inside' => h.alone (old hu inside) (old hv inside') inside inside'⟩
      obtain ⟨j, u, hu, inside⟩ := h.someone (same ▸ taken)
      refine ⟨j, u, ?_, inside⟩
      have other : j ≠ i := by
        rintro rfl
        cases hu.symm.trans ht
        rw [before] at inside
        cases inside
      exact (pool_set_other other).trans hu

theorem Guards.held {allowed : Config σ τ → Action τ ι → Prop} {init c : Config σ τ}
    (guards : L.Guards T) (free : L.taken init.shared = false) (empty : init.pool = [])
    (h : ReachableWhere T allowed init c) : L.Held c := by
  refine h.invariant (P := fun c => L.Held c) ⟨by simp [empty], by simp [free], by simp [empty]⟩ ?_
  intro c d a _ held _ hd
  cases a with
  | start t =>
    obtain ⟨hs, rfl⟩ := act_start hd
    exact held.started (guards.start hs)
  | step i x =>
    obtain ⟨t, s, t', ht, hn, rfl⟩ := act_step hd
    exact held.stepped guards ht hn

/-- What a step does to what the lock protects: `free` while nobody is inside, and `held` of the thread
that is. -/
structure Passes (L : Lock σ τ) (free : σ → Prop) (held : σ → τ → Prop) (s : σ) (t : τ) (s' : σ) (t' : τ) :
    Prop where
  outside : L.inside t = false → L.inside t' = false →
    (free s → free s') ∧ ∀ u, L.inside u = true → held s u → held s' u
  enter : L.inside t = false → L.inside t' = true → free s → held s' t'
  within : L.inside t = true → L.inside t' = true → held s t → held s' t'
  leave : L.inside t = true → L.inside t' = false → held s t → free s'

/-- The lock passes on what it protects, over any run. -/
theorem Guards.invariant {allowed : Config σ τ → Action τ ι → Prop} {init c : Config σ τ}
    (free : σ → Prop) (held : σ → τ → Prop) (guards : L.Guards T)
    (untaken : L.taken init.shared = false) (empty : init.pool = []) (first : free init.shared)
    (step : ∀ {c i x t s' t'}, ReachableWhere T allowed init c → allowed c (.step i x) →
      c.pool[i]? = some t → T.next c.shared i t x = some (s', t') → L.Passes free held c.shared t s' t')
    (h : ReachableWhere T allowed init c) :
    (L.taken c.shared = false → free c.shared) ∧
      ∀ (i : Nat) (t : τ), c.pool[i]? = some t → L.inside t = true → held c.shared t := by
  refine h.invariant (P := fun c => (L.taken c.shared = false → free c.shared) ∧
    ∀ (i : Nat) (t : τ), c.pool[i]? = some t → L.inside t = true → held c.shared t)
    ⟨fun _ => first, by simp [empty]⟩ ?_
  intro c d a hc ih ha hd
  obtain ⟨whenFree, whenHeld⟩ := ih
  have here := guards.held untaken empty hc
  cases a with
  | start t =>
    obtain ⟨hs, rfl⟩ := act_start hd
    refine ⟨whenFree, fun i u hu inside => ?_⟩
    rcases pool_append_cases hu with hu | ⟨_, rfl⟩
    · exact whenHeld i u hu inside
    · rw [guards.start hs] at inside
      cases inside
  | step i x =>
    obtain ⟨t, s', t', ht, hn, rfl⟩ := act_step hd
    have passes := step hc ha ht hn
    cases before : L.inside t with
    | true =>
      have after := guards.within hn before (here.taken ht before)
      refine ⟨fun untaken => passes.leave before (after ▸ untaken) (whenHeld i t ht before), ?_⟩
      intro j u hu inside
      rcases pool_set_cases ht hu with ⟨_, rfl⟩ | ⟨hj, hu⟩
      · exact passes.within before inside (whenHeld i t ht before)
      · exact absurd (here.alone hu ht inside before) hj
    | false =>
      cases after : L.inside t' with
      | true =>
        obtain ⟨untaken, taken⟩ := guards.enter hn before after
        refine ⟨fun free => absurd (free.symm.trans taken) (by simp), fun j u hu inside => ?_⟩
        rcases pool_set_cases ht hu with ⟨_, rfl⟩ | ⟨_, hu⟩
        · exact passes.enter before after (whenFree untaken)
        · have held := here.taken hu inside
          rw [untaken] at held
          cases held
      | false =>
        obtain ⟨free, held⟩ := passes.outside before after
        refine ⟨fun untaken => free (whenFree (guards.outside hn before after ▸ untaken)), ?_⟩
        intro j u hu inside
        rcases pool_set_cases ht hu with ⟨_, rfl⟩ | ⟨_, hu⟩
        · rw [after] at inside
          cases inside
        · exact held u inside (whenHeld j u hu inside)

end Lock
end Interleaving
