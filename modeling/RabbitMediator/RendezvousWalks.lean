import RabbitMediator.RendezvousRuns

namespace Rendezvous

open Interleaving Registry

variable {κ ω ρ ε : Type} [DecidableEq κ] {P : Protocol κ ρ} {r r' : Registry κ ω ρ ε}
  {p p' : Party κ ω ρ ε} {x : Input κ ω ρ ε} {mine : ω → Bool}

section Covering

/-- The ids among `pending` are all that the registry holds of these owners. -/
def Covers (mine : ω → Bool) (r : Registry κ ω ρ ε) (pending : List κ) : Prop :=
  ∀ (id : κ) (w : Nat) (a : Awaiter κ ω ρ ε), r.entries.lookup id = some w → r.awaiters[w]? = some a →
    mine a.owner = true → id ∈ pending

/-- Nobody of these owners has an entry. -/
abbrev Clear (mine : ω → Bool) (r : Registry κ ω ρ ε) : Prop := Covers mine r []

/-- What a walk has yet to look at. -/
def Aborter.pending : Aborter κ → List κ
  | .enumerating remaining => remaining
  | .visiting remaining id _ => id :: remaining
  | .removed remaining _ => remaining
  | .done => []

theorem covers_start (mine : ω → Bool) (r : Registry κ ω ρ ε) :
    Covers mine r (Aborter.start r).pending := by
  intro id w a h _ _
  exact AList.mem_keys.mpr (AList.lookup_isSome.mp (by rw [h]; rfl))

theorem Covers.remove {pending : List κ} (h : Covers mine r pending) (id : κ) :
    Covers mine (r.remove id) (pending.filter (· ≠ id)) := by
  intro id' w a hl ha hm
  obtain ⟨hne, hl⟩ := ConcurrentDictionary.lookup_of_lookup_erase hl
  exact List.mem_filter.mpr ⟨h id' w a hl ha hm, by simpa using hne⟩

/-- If the awaiter `w` is one of these owners' and has its entry, then under such an id. -/
def CoversAt (mine : ω → Bool) (r : Registry κ ω ρ ε) (w : Nat) (isOpen : κ → Prop) : Prop :=
  ∀ (id : κ) (a : Awaiter κ ω ρ ε), r.entries.lookup id = some w → r.awaiters[w]? = some a →
    mine a.owner = true → isOpen id

/-- Of the entries it has to remove, a walk keeps before it those that are left. -/
theorem Aborter.coversAt_next {e : ε} {choice : Option κ} {a a' : Aborter κ} (hv : r.Valid)
    (fits : (Party.aborter mine e a : Party κ ω ρ ε).Fits P r)
    (hn : a.next mine e r choice = some (r', a')) {w : Nat} (h : CoversAt mine r w (· ∈ a.pending)) :
    CoversAt mine r' w (· ∈ a'.pending) := by
  intro id b hl hb hm
  cases a with
  | enumerating remaining =>
    cases choice with
    | some id' =>
      obtain ⟨w', _, he⟩ := Option.map_eq_some_iff.mp hn
      cases he
      have hid : id ∈ remaining := h id b hl hb hm
      by_cases same : id = id'
      · exact same ▸ List.mem_cons_self
      · exact List.mem_cons_of_mem _ ((List.mem_erase_of_ne same).mpr hid)
    | none =>
      simp only [Aborter.next] at hn
      split at hn
      next gone =>
        cases hn
        have := List.all_eq_true.mp gone id (h id b hl hb hm)
        simp [hl] at this
      next => cases hn
  | visiting remaining id' w' =>
    obtain ⟨b', hb', he⟩ := Option.map_eq_some_iff.mp hn
    split at he
    next claimed =>
      cases he
      obtain ⟨hne, hl⟩ := ConcurrentDictionary.lookup_of_lookup_erase hl
      exact (List.mem_cons.mp (h id b hl hb hm)).resolve_left hne
    next passed =>
      cases he
      refine (List.mem_cons.mp (h id b hl hb hm)).resolve_left ?_
      rintro rfl
      obtain ⟨c, hc, hid⟩ := fits
      cases hb'.symm.trans hc
      cases hv.entry_unique hl hb' hid
      cases hb'.symm.trans hb
      simp [hm, hl] at passed
  | removed remaining w' =>
    cases hn
    obtain ⟨c, hc, ⟨_, rfl⟩ | ⟨_, rfl⟩⟩ := awaiters_modify_cases hb
    · refine h id c hl hc ?_
      cases hs : c.completion <;> simp only [hs] at hm <;> exact hm
    · exact h id _ hl hc hm
  | done => cases hn

/-- A walk loses sight of no entry it has to remove. -/
theorem Aborter.covers_next {e : ε} {choice : Option κ} {a a' : Aborter κ} (hv : r.Valid)
    (fits : (Party.aborter mine e a : Party κ ω ρ ε).Fits P r)
    (hn : a.next mine e r choice = some (r', a')) (h : Covers mine r a.pending) :
    Covers mine r' a'.pending :=
  fun id w => a.coversAt_next hv fits hn (fun id => h id w) id

/-- An awaiter gets its entry at once or never. -/
theorem CoversAt.evolves {isOpen : κ → Prop} {w : Nat} (h : CoversAt mine r w isOpen) (evolves : r.Evolves r')
    (old : w < r.awaiters.length) : CoversAt mine r' w isOpen := by
  intro id b hl hb hm
  obtain ⟨c, hc, becomes⟩ := evolves.keep (List.getElem?_eq_getElem old)
  cases hb.symm.trans hc
  have before := (evolves.entries hl).resolve_right (by omega)
  exact h id _ before (List.getElem?_eq_getElem old) (becomes.owner ▸ hm)

/-- Where these owners get no new entries, none is lost sight of. -/
theorem Covers.evolves {pending : List κ} (h : Covers mine r pending) (hv : r.Valid) (evolves : r.Evolves r')
    (old : ∀ id w b, r'.entries.lookup id = some w → r'.awaiters[w]? = some b → mine b.owner = true →
      r.entries.lookup id = some w) : Covers mine r' pending := by
  intro id w b hl hb hm
  have before := old id w b hl hb hm
  obtain ⟨a, ha, _⟩ := hv.entry before
  obtain ⟨c, hc, hac⟩ := evolves.keep ha
  cases hb.symm.trans hc
  exact h id w a before ha (hac.owner ▸ hm)

end Covering

section Sparing

/-- The awaiter a walk has taken out, and is about to fail, is one of its own. -/
def Party.Rightful (r : Registry κ ω ρ ε) : Party κ ω ρ ε → Prop
  | .aborter mine _ (.removed _ w) => ∃ a : Awaiter κ ω ρ ε, r.awaiters[w]? = some a ∧ mine a.owner = true
  | _ => True

theorem Party.Rightful.evolves (h : p.Rightful r) (evolves : r.Evolves r') : p.Rightful r' := by
  unfold Party.Rightful at h
  split at h
  next mine e remaining w =>
    obtain ⟨a, ha, hm⟩ := h
    obtain ⟨b, hb, hab⟩ := evolves.keep ha
    exact ⟨b, hb, hab.owner ▸ hm⟩
  next other =>
    unfold Party.Rightful
    split
    next mine e remaining w => exact absurd rfl (other mine e remaining w)
    next => trivial

theorem Aborter.rightful_next {e : ε} {choice : Option κ} {a a' : Aborter κ}
    (hn : a.next mine e r choice = some (r', a')) : (Party.aborter mine e a' : Party κ ω ρ ε).Rightful r' := by
  cases a with
  | enumerating remaining =>
    cases choice with
    | some id =>
      obtain ⟨w, _, he⟩ := Option.map_eq_some_iff.mp hn
      cases he
      trivial
    | none =>
      simp only [Aborter.next] at hn
      split at hn <;> cases hn
      trivial
  | visiting remaining id w =>
    obtain ⟨b, hb, he⟩ := Option.map_eq_some_iff.mp hn
    split at he
    next claimed =>
      cases he
      exact ⟨b, hb, (Bool.and_eq_true_iff.mp claimed).1⟩
    next => cases he; trivial
  | removed remaining w => cases hn; trivial
  | done => cases hn

theorem Party.rightful_next (hn : p.next P r x = some (r', p')) : p'.Rightful r' := by
  cases p with
  | aborter mine e a =>
    cases x with
    | advance choice =>
      obtain ⟨⟨s, a'⟩, hs, he⟩ := Option.map_eq_some_iff.mp hn
      cases he
      exact Aborter.rightful_next hs
    | finish =>
      cases a with
      | done => cases hn; trivial
      | _ => cases hn
    | _ => cases hn
  | _ =>
    cases Party.step_of_next hn <;> trivial

theorem rightful_of_reachable {c : Config (Registry κ ω ρ ε) (Party κ ω ρ ε)}
    (h : Reachable (parties P) start c) {i : Nat} (hp : c.pool[i]? = some p) : p.Rightful c.shared := by
  have sound : Sound (parties P : Threads (Registry κ ω ρ ε) _ _) (fun _ _ _ _ => True) (Kept P)
      (fun r _ p => p.Fits P r ∧ p.Rightful r) (fun _ r r' => Keeps P r r') :=
    { start := fun _ hs => by rcases idle_or_received hs with rfl | ⟨v, rfl⟩ <;> exact ⟨trivial, trivial⟩
      step := fun hk hf _ hn => by
        obtain ⟨keeps, fits⟩ := (Party.step_of_next hn).keeps hk hf.1
        exact ⟨keeps.kept, ⟨fits, Party.rightful_next hn⟩, keeps⟩
      stable := fun _ keeps _ hf => ⟨hf.1.evolves keeps.evolves keeps.kept.valid, hf.2.evolves keeps.evolves⟩ }
  exact ((sound.always (kept_empty P) rfl h).2 i p hp).2

/-- A walk leaves the awaiters of others as they are, and their entries where they are. -/
theorem Aborter.spares_others {e : ε} {choice : Option κ} {a a' : Aborter κ} (hv : r.Valid)
    (fits : (Party.aborter mine e a : Party κ ω ρ ε).Fits P r)
    (rightful : (Party.aborter mine e a : Party κ ω ρ ε).Rightful r)
    (hn : a.next mine e r choice = some (r', a')) {u : Nat} {b : Awaiter κ ω ρ ε}
    (hb : r.awaiters[u]? = some b) (other : mine b.owner = false) :
    r'.awaiters[u]? = some b ∧ ∀ id, r.entries.lookup id = some u → r'.entries.lookup id = some u := by
  cases a with
  | enumerating remaining =>
    cases choice with
    | some id =>
      obtain ⟨w, _, he⟩ := Option.map_eq_some_iff.mp hn
      cases he
      exact ⟨hb, fun _ h => h⟩
    | none =>
      simp only [Aborter.next] at hn
      split at hn <;> cases hn
      exact ⟨hb, fun _ h => h⟩
  | visiting remaining id w =>
    obtain ⟨d, hd, he⟩ := Option.map_eq_some_iff.mp hn
    split at he
    next claimed =>
      cases he
      refine ⟨hb, fun id' hl => ?_⟩
      have hne : id' ≠ id := by
        rintro rfl
        obtain ⟨c, hc, hid⟩ := fits
        cases hv.entry_unique hl hc hid
        cases hd.symm.trans hb
        simp [other] at claimed
      exact (AList.lookup_erase_ne hne).trans hl
    next => cases he; exact ⟨hb, fun _ h => h⟩
  | removed remaining w =>
    cases hn
    obtain ⟨d, hd, hm⟩ := rightful
    have hne : w ≠ u := by
      rintro rfl
      cases hd.symm.trans hb
      simp [other] at hm
    exact ⟨by simp [Registry.complete, hne, hb], fun _ h => h⟩
  | done => cases hn

end Sparing

section Serving

/-- The party has found the awaiter or taken it out, and is about to complete it. -/
def Party.serves (p : Party κ ω ρ ε) (u : Nat) : Prop :=
  p.holds u ∨ ∃ mine e remaining, p = .aborter mine e (.removed remaining u)

omit [DecidableEq κ] in
theorem completion_complete_self {w : Nat} {c : Completion ε} (hw : ∃ a, r.awaiters[w]? = some a)
    (hc : c ≠ .pending) : (r.complete w c).completion w ≠ .pending := by
  obtain ⟨a, ha⟩ := hw
  cases hs : a.completion with
  | pending => simpa [completion, complete, ha, hs] using hc
  | ranToCompletion => simp [completion, complete, ha, hs]
  | faulted e => simp [completion, complete, ha, hs]

/-- Whoever serves an awaiter goes on to, or has completed it. -/
theorem Party.Step.serving (hs : p.Step P r x r' p') (fits : p.Fits P r) {u : Nat} (h : p.serves u) :
    p'.serves u ∨ r'.completion u ≠ .pending := by
  rcases h with h | ⟨mine, e, remaining, rfl⟩
  · cases hs with
    | removed | taken | wrote => exact Or.inl (Or.inl h)
    | completed =>
      cases (show u = _ from h)
      obtain ⟨a, ha, _⟩ := fits.1
      exact Or.inr (completion_complete_self ⟨a, ha⟩ (by simp))
    | @answeredWith v w =>
      cases (show u = _ from h)
      obtain ⟨a, ha, _⟩ := fits.1.evolves (evolves_writeResult r u v)
      exact Or.inr (completion_complete_self ⟨a, ha⟩ (by simp))
    | faulted hp =>
      cases (show u = _ from h)
      exact Or.inr hp
    | _ => exact h.elim
  · cases hs with
    | aborted =>
      obtain ⟨id, ⟨a, ha, _⟩, _⟩ := fits
      exact Or.inr (completion_complete_self ⟨a, ha⟩ (by simp))

/-- An entry goes with its client, or into the hands of somebody who completes its awaiter. -/
theorem Party.Step.entry_kept (hs : p.Step P r x r' p') (hv : r.Valid) (fits : p.Fits P r) {id : κ} {w : Nat}
    (hl : r.entries.lookup id = some w) :
    r'.entries.lookup id = some w ∨ p'.serves w ∨ ∃ u, p = .client id u := by
  have removing : ∀ {id' : κ}, id' ≠ id → (r.remove id').entries.lookup id = some w := fun hne =>
    (AList.lookup_erase_ne (Ne.symm hne)).trans hl
  cases hs with
  | entered fresh =>
    obtain ⟨a, ha, hid⟩ := hv.entry hl
    exact Or.inl ((ConcurrentDictionary.lookup_tryAdd_ne (hid ▸ fresh ha)).trans hl)
  | @left id' u =>
    by_cases same : id' = id
    · exact Or.inr (Or.inr ⟨u, by rw [same]⟩)
    · exact Or.inl (removing same)
  | @removed v u =>
    by_cases same : P.key v = id
    · obtain ⟨a, ha, hid⟩ := fits
      exact Or.inr (Or.inl (Or.inl (hv.entry_unique (same ▸ hl) ha hid)))
    · exact Or.inl (removing same)
  | @taken v u =>
    by_cases same : P.key v = id
    · obtain ⟨a, ha, hid⟩ := fits
      exact Or.inr (Or.inl (Or.inl (hv.entry_unique (same ▸ hl) ha hid)))
    · exact Or.inl (removing same)
  | @claimed mine e remaining id' u =>
    by_cases same : id' = id
    · obtain ⟨a, ha, hid⟩ := fits
      cases hv.entry_unique (same ▸ hl) ha hid
      exact Or.inr (Or.inl (Or.inr ⟨mine, e, remaining, rfl⟩))
    · exact Or.inl (removing same)
  | _ => exact Or.inl hl

/-- No two clients share an id. -/
theorem client_unique {c : Config (Registry κ ω ρ ε) (Party κ ω ρ ε)} (h : Reachable (parties P) start c)
    {i j : Nat} {id : κ} {w u : Nat} (hi : c.pool[i]? = some (.client id w))
    (hj : c.pool[j]? = some (.client id u)) : i = j := by
  revert i j id w u
  refine h.invariant (P := fun c => ∀ {i j : Nat} {id : κ} {w u : Nat}, c.pool[i]? = some (.client id w) →
    c.pool[j]? = some (.client id u) → i = j) (by simp [start]) ?_
  intro c d a hc ih _ hd i j id w u hi hj
  cases a with
  | start t =>
    obtain ⟨ht, rfl⟩ := act_start hd
    have old : ∀ {k : Nat} {v : Nat}, (c.pool ++ [t])[k]? = some (.client id v) →
        c.pool[k]? = some (.client id v) := by
      intro k v hk
      rcases pool_append_cases hk with hk | ⟨_, rfl⟩
      · exact hk
      · rcases idle_or_received ht with he | ⟨_, he⟩ <;> cases he
    exact ih (old hi) (old hj)
  | step k x =>
    obtain ⟨p, s, p', hp, hn, rfl⟩ := act_step hd
    have known : ∀ {l : Nat} {v : Nat}, c.pool[l]? = some (.client id v) → Knows c.shared id v :=
      fun hl => (kept_of_reachable hc.reachable).2 _ _ hl
    -- a client that steps and stays one has just entered, under an id nobody knows
    have entered : ∀ {l v : Nat}, p' = .client id v → c.pool[l]? ≠ some (.client id u) ∧
        c.pool[l]? ≠ some (.client id w) := by
      rintro l v rfl
      cases Party.step_of_next hn with
      | entered fresh =>
        constructor <;> intro hl <;> obtain ⟨a, ha, hid⟩ := known hl <;> exact fresh ha hid
    rcases pool_set_cases hp hi with ⟨rfl, he⟩ | ⟨_, oldI⟩ <;>
      rcases pool_set_cases hp hj with ⟨rfl, he'⟩ | ⟨_, oldJ⟩
    · rfl
    · exact absurd oldJ (entered he.symm).1
    · exact absurd oldI (entered he'.symm).2
    · exact ih oldI oldJ

/-- A client that waits has its entry, or is completed, or somebody is about to complete it. -/
theorem client_served {c : Config (Registry κ ω ρ ε) (Party κ ω ρ ε)} (h : Reachable (parties P) start c)
    {i : Nat} {id : κ} {w : Nat} (hi : c.pool[i]? = some (.client id w)) :
    c.shared.entries.lookup id = some w ∨ c.shared.completion w ≠ .pending ∨
      ∃ (j : Nat) (p : Party κ ω ρ ε), c.pool[j]? = some p ∧ p.serves w := by
  revert i id w
  refine h.invariant (P := fun c => ∀ {i : Nat} {id : κ} {w : Nat}, c.pool[i]? = some (.client id w) →
    c.shared.entries.lookup id = some w ∨ c.shared.completion w ≠ .pending ∨
      ∃ (j : Nat) (p : Party κ ω ρ ε), c.pool[j]? = some p ∧ p.serves w) (by simp [start]) ?_
  intro c d a hc ih _ hd i id w hi
  obtain ⟨hk, fits⟩ := kept_of_reachable hc.reachable
  cases a with
  | start t =>
    obtain ⟨ht, rfl⟩ := act_start hd
    rcases pool_append_cases hi with hi | ⟨_, rfl⟩
    · rcases ih hi with entry | done | ⟨j, p, hj, serves⟩
      · exact Or.inl entry
      · exact Or.inr (Or.inl done)
      · exact Or.inr (Or.inr ⟨j, p, pool_append_of_old hj, serves⟩)
    · rcases idle_or_received ht with he | ⟨_, he⟩ <;> cases he
  | step k x =>
    obtain ⟨p, s, p', hp, hn, rfl⟩ := act_step hd
    have hs := Party.step_of_next hn
    rcases pool_set_cases hp hi with ⟨rfl, rfl⟩ | ⟨hik, hi⟩
    · cases hs with
      | entered fresh =>
        have absent : c.shared.entries.lookup id = none := by
          cases hl : c.shared.entries.lookup id with
          | none => rfl
          | some u =>
            obtain ⟨a, ha, hid⟩ := hk.valid.entry hl
            exact absurd hid (fresh ha)
        exact Or.inl (ConcurrentDictionary.lookup_tryAdd_self absent)
    · have evolves := (hs.keeps hk (fits k p hp)).1.evolves
      rcases ih hi with entry | done | ⟨j, q, hj, serves⟩
      · rcases hs.entry_kept hk.valid (fits k p hp) entry with entry | serves | ⟨u, rfl⟩
        · exact Or.inl entry
        · exact Or.inr (Or.inr ⟨k, p', pool_set_self hp, serves⟩)
        · exact absurd (client_unique hc.reachable hi hp) hik
      · exact Or.inr (Or.inl (by rwa [evolves.completion_eq done]))
      · by_cases hjk : j = k
        · subst hjk
          cases hp.symm.trans hj
          rcases hs.serving (fits j p hp) serves with serves | done
          · exact Or.inr (Or.inr ⟨j, p', pool_set_self hp, serves⟩)
          · exact Or.inr (Or.inl done)
        · exact Or.inr (Or.inr ⟨j, q, by rw [pool_set_other hjk, hj], serves⟩)

end Serving
end Rendezvous
