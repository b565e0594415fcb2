import RabbitMediator.RendezvousRuns

namespace Rendezvous

open Interleaving Registry

variable {κ ω ρ ε : Type} [DecidableEq κ] {P : Protocol κ ρ} {r r' : Registry κ ω ρ ε}
  {p p' : Party κ ω ρ ε}

/-- What a party does, or that a client goes with the entry under an id which may be another's. -/
inductive StrayInput (κ ω ρ ε : Type)
  | own (x : Input κ ω ρ ε)
  | stray (id : κ)

/-- The parties of one registry, when a client may have lost its own id. -/
def strays (P : Protocol κ ρ) : Threads (Registry κ ω ρ ε) (Party κ ω ρ ε) (StrayInput κ ω ρ ε) where
  start := (parties P).start
  next r _ p x := match p, x with
    | p, .own x => p.next P r x
    | .client _ _, .stray id => some (r.remove id, .idle)
    | _, .stray _ => none

inductive Party.StrayStep (P : Protocol κ ρ) (r : Registry κ ω ρ ε) :
    Party κ ω ρ ε → StrayInput κ ω ρ ε → Registry κ ω ρ ε → Party κ ω ρ ε → Prop
  | own {p x r' p'} (h : p.Step P r x r' p') : StrayStep P r p (.own x) r' p'
  | stray {own w id} : StrayStep P r (.client own w) (.stray id) (r.remove id) .idle

theorem Party.strayStep_of_next {i : Nat} {x : StrayInput κ ω ρ ε}
    (h : (strays P).next r i p x = some (r', p')) : p.StrayStep P r x r' p' := by
  cases x with
  | own x => exact .own (Party.step_of_next h)
  | stray id =>
    cases p <;> cases h
    exact .stray

theorem Party.StrayStep.keeps {x : StrayInput κ ω ρ ε} (hs : p.StrayStep P r x r' p') (hk : Kept P r)
    (hf : p.Fits P r) : Keeps P r r' ∧ p'.Fits P r' := by
  cases hs with
  | own h => exact h.keeps hk hf
  | stray => exact ⟨hk.removes _, trivial⟩

theorem strays_sound (P : Protocol κ ρ) : Sound (strays P : Threads (Registry κ ω ρ ε) _ _)
    (fun _ _ _ _ => True) (Kept P) (fun r _ p => p.Fits P r) (fun _ r r' => Keeps P r r') where
  start {r i p} _ hs := by
    have hs : (parties P).start r p = true := hs
    rcases idle_or_received hs with rfl | ⟨v, rfl⟩ <;> trivial
  step hk hf _ hn := by
    obtain ⟨keeps, fits⟩ := (Party.strayStep_of_next hn).keeps hk hf
    exact ⟨keeps.kept, fits, keeps⟩
  stable _ keeps _ hf := hf.evolves keeps.evolves keeps.kept.valid

theorem kept_of_strays {c : Config (Registry κ ω ρ ε) (Party κ ω ρ ε)} (h : Reachable (strays P) start c) :
    Kept P c.shared ∧ ∀ (i : Nat) (p : Party κ ω ρ ε), c.pool[i]? = some p → p.Fits P c.shared :=
  (strays_sound P).always (kept_empty P) rfl h

theorem Party.StrayStep.entry {x : StrayInput κ ω ρ ε} (hs : p.StrayStep P r x r' p') {id : κ} {w : Nat}
    (h : r'.entries.lookup id = some w) : r.entries.lookup id = some w ∨ p' = .client id w := by
  cases hs with
  | own hs => exact hs.entry h
  | stray => exact Or.inl (ConcurrentDictionary.lookup_of_lookup_erase h).2

/-- A client goes without its own entry only when that has gone already. -/
def StrayAttended (c : Config (Registry κ ω ρ ε) (Party κ ω ρ ε)) :
    Action (Party κ ω ρ ε) (StrayInput κ ω ρ ε) → Prop
  | .step i (.own .abandon) => ∀ id w, c.pool[i]? = some (.client id w) → c.shared.entries.lookup id = none
  | .step i (.stray id') => ∀ id w, c.pool[i]? = some (.client id w) →
      id = id' ∨ c.shared.entries.lookup id = none
  | _ => True

/-- While clients go only so, every entry has its client. -/
theorem client_of_stray_entry {c : Config (Registry κ ω ρ ε) (Party κ ω ρ ε)}
    (h : ReachableWhere (strays P) StrayAttended start c) {id : κ} {w : Nat}
    (he : c.shared.entries.lookup id = some w) : ∃ i : Nat, c.pool[i]? = some (.client id w) := by
  revert id w
  refine h.invariant (P := fun c => ∀ {id : κ} {w : Nat}, c.shared.entries.lookup id = some w →
    ∃ i : Nat, c.pool[i]? = some (.client id w)) (by simp [start, empty]) ?_
  intro c d a hc ih attended hd id w he
  obtain ⟨hk, fits⟩ := kept_of_strays hc.reachable
  cases a with
  | start t =>
    obtain ⟨_, rfl⟩ := act_start hd
    obtain ⟨i, hi⟩ := ih he
    exact ⟨i, pool_append_of_old hi⟩
  | step i x =>
    obtain ⟨p, s, p', hp, hn, rfl⟩ := act_step hd
    have hs := Party.strayStep_of_next hn
    rcases hs.entry he with hold | rfl
    · obtain ⟨j, hj⟩ := ih hold
      by_cases hji : j = i
      · -- the client itself moved: its entry has gone
        subst hji
        cases hp.symm.trans hj
        have gone : s.entries.lookup id = none := by
          cases hs with
          | own hs =>
            cases hs with
            | left => exact lookup_remove _ id
            | answered hc =>
              obtain ⟨b, hb, rfl⟩ := fits j _ hp
              exact hk.valid.closed hb (completion_of_awaiter hb ▸ hc)
            | abandoned => exact attended id w hp
          | @stray _ _ id' =>
            rcases attended id w hp with rfl | absent
            · exact lookup_remove _ id
            · exact ConcurrentDictionary.lookup_erase_none absent
        exact absurd (gone.symm.trans he) (by simp)
      · exact ⟨j, by rw [pool_set_other hji, hj]⟩
    · exact ⟨i, pool_set_self hp⟩

/-- A client goes without a look only when its entry has gone already. -/
def Attended (c : Config (Registry κ ω ρ ε) (Party κ ω ρ ε)) :
    Action (Party κ ω ρ ε) (Input κ ω ρ ε) → Prop
  | .step i .abandon => ∀ id w, c.pool[i]? = some (.client id w) → c.shared.entries.lookup id = none
  | _ => True

/-- Where no client loses its id, that is all there is to ask. -/
theorem client_of_entry {c : Config (Registry κ ω ρ ε) (Party κ ω ρ ε)}
    (h : ReachableWhere (parties P) Attended start c) {id : κ} {w : Nat}
    (he : c.shared.entries.lookup id = some w) : ∃ i : Nat, c.pool[i]? = some (.client id w) := by
  refine client_of_stray_entry (P := P) (h.simulation (f := fun c => c) ?_) he
  intro c d a _ attended hd
  cases a with
  | start p => exact Or.inr ⟨.start p, trivial, hd⟩
  | step i x =>
    refine Or.inr ⟨.step i (.own x), ?_, hd⟩
    cases x with
    | abandon => exact attended
    | _ => trivial

end Rendezvous
