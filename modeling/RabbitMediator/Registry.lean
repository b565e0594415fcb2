import RabbitMediator.ConcurrentDictionary

namespace Registry

/-- How a task completion source stands: open, or completed for good. -/
inductive Completion (ε : Type)
  | pending
  | ranToCompletion
  | faulted (e : ε)

instance {ε : Type} (c : Completion ε) : Decidable (c = .pending) :=
  match c with
  | .pending => isTrue rfl
  | .ranToCompletion => isFalse (fun h => nomatch h)
  | .faulted _ => isFalse (fun h => nomatch h)

/-- One caller waiting for a reply under its correlation id. -/
structure Awaiter (κ ω ρ ε : Type) where
  correlationId : κ
  owner : ω
  result : Option ρ
  completion : Completion ε

end Registry

/-- A dictionary from correlation ids to awaiters, and all awaiters ever made. An entry holds the
number of its awaiter, as a reference would. -/
structure Registry (κ ω ρ ε : Type) where
  entries : ConcurrentDictionary κ Nat
  awaiters : List (Registry.Awaiter κ ω ρ ε)

namespace Registry

variable {κ ω ρ ε : Type} [DecidableEq κ]

def empty : Registry κ ω ρ ε := ⟨∅, []⟩

/-- A new awaiter, added under its id. -/
def add (r : Registry κ ω ρ ε) (id : κ) (owner : ω) : Registry κ ω ρ ε :=
  ⟨ConcurrentDictionary.tryAdd r.entries id r.awaiters.length,
    r.awaiters ++ [⟨id, owner, none, .pending⟩]⟩

def remove (r : Registry κ ω ρ ε) (id : κ) : Registry κ ω ρ ε := ⟨r.entries.erase id, r.awaiters⟩

/-- The result is a plain field: writing it again overwrites it. -/
def writeResult (r : Registry κ ω ρ ε) (w : Nat) (v : ρ) : Registry κ ω ρ ε :=
  ⟨r.entries, r.awaiters.modify w fun a => { a with result := some v }⟩

/-- Completing a source takes effect once. -/
def complete (r : Registry κ ω ρ ε) (w : Nat) (c : Completion ε) : Registry κ ω ρ ε :=
  ⟨r.entries, r.awaiters.modify w fun a => match a.completion with
    | .pending => { a with completion := c }
    | _ => a⟩

/-- The completion of awaiter `w`, which counts as pending while there is no such awaiter. -/
def completion (r : Registry κ ω ρ ε) (w : Nat) : Completion ε :=
  (r.awaiters[w]?.map Awaiter.completion).getD .pending

/-- What an awaiter keeps for good, whoever works on it. -/
structure Awaiter.Becomes (a b : Awaiter κ ω ρ ε) : Prop where
  correlationId : b.correlationId = a.correlationId
  owner : b.owner = a.owner
  completion : a.completion ≠ .pending → b.completion = a.completion
  result : a.result.isSome → b.result.isSome

omit [DecidableEq κ] in
theorem Awaiter.Becomes.refl (a : Awaiter κ ω ρ ε) : a.Becomes a :=
  ⟨rfl, rfl, fun _ => rfl, id⟩

omit [DecidableEq κ] in
theorem Awaiter.Becomes.trans {a b c : Awaiter κ ω ρ ε} (h : a.Becomes b) (h' : b.Becomes c) :
    a.Becomes c :=
  ⟨h'.correlationId.trans h.correlationId, h'.owner.trans h.owner,
    fun ha => (h'.completion (h.completion ha ▸ ha)).trans (h.completion ha),
    fun ha => h'.result (h.result ha)⟩

structure Valid (r : Registry κ ω ρ ε) : Prop where
  entry : ∀ {id : κ} {w : Nat}, r.entries.lookup id = some w →
    ∃ a : Awaiter κ ω ρ ε, r.awaiters[w]? = some a ∧ a.correlationId = id
  distinct : ∀ {w w' : Nat} {a a' : Awaiter κ ω ρ ε}, r.awaiters[w]? = some a →
    r.awaiters[w']? = some a' → a.correlationId = a'.correlationId → w = w'
  closed : ∀ {w : Nat} {a : Awaiter κ ω ρ ε}, r.awaiters[w]? = some a →
    a.completion ≠ .pending → r.entries.lookup a.correlationId = none
  answered : ∀ {w : Nat} {a : Awaiter κ ω ρ ε}, r.awaiters[w]? = some a →
    a.completion = .ranToCompletion → a.result.isSome

/-- The later registry still has every awaiter, and only new awaiters got new entries. -/
structure Evolves (r r' : Registry κ ω ρ ε) : Prop where
  keep : ∀ {w : Nat} {a : Awaiter κ ω ρ ε}, r.awaiters[w]? = some a →
    ∃ b : Awaiter κ ω ρ ε, r'.awaiters[w]? = some b ∧ a.Becomes b
  entries : ∀ {id : κ} {w : Nat}, r'.entries.lookup id = some w →
    r.entries.lookup id = some w ∨ r.awaiters.length ≤ w

theorem valid_empty : Valid (empty : Registry κ ω ρ ε) := by
  constructor <;> simp [empty]

theorem Evolves.refl (r : Registry κ ω ρ ε) : r.Evolves r :=
  ⟨fun h => ⟨_, h, .refl _⟩, Or.inl⟩

theorem Evolves.trans {r r' r'' : Registry κ ω ρ ε} (h : r.Evolves r') (h' : r'.Evolves r'') :
    r.Evolves r'' := by
  refine ⟨fun ha => ?_, fun {id w} hl => ?_⟩
  · obtain ⟨b, hb, hab⟩ := h.keep ha
    obtain ⟨c, hc, hbc⟩ := h'.keep hb
    exact ⟨c, hc, hab.trans hbc⟩
  · rcases h'.entries hl with hl | hle
    · exact h.entries hl
    · by_cases hw : w < r.awaiters.length
      · obtain ⟨b, hb, _⟩ := h.keep (List.getElem?_eq_getElem hw)
        have := (List.getElem?_eq_some_iff.mp hb).1
        omega
      · exact Or.inr (by omega)

theorem Valid.entry_unique {r : Registry κ ω ρ ε} (hv : r.Valid) {id : κ} {w w' : Nat}
    {a : Awaiter κ ω ρ ε} (he : r.entries.lookup id = some w') (ha : r.awaiters[w]? = some a)
    (hid : a.correlationId = id) : w' = w := by
  obtain ⟨b, hb, hbid⟩ := hv.entry he
  exact hv.distinct hb ha (hbid.trans hid.symm)

/-- An entry that is gone stays gone: ids of old awaiters are never added again. -/
theorem Evolves.absent {r r' : Registry κ ω ρ ε} (he : r.Evolves r') (hv : r'.Valid) {w : Nat}
    {a : Awaiter κ ω ρ ε} (ha : r.awaiters[w]? = some a)
    (hn : r.entries.lookup a.correlationId = none) :
    r'.entries.lookup a.correlationId = none := by
  cases hl : r'.entries.lookup a.correlationId with
  | none => rfl
  | some x =>
    obtain ⟨b, hb, hab⟩ := he.keep ha
    have hx := hv.entry_unique hl hb hab.correlationId
    rcases he.entries hl with h | h
    · rw [hn] at h
      cases h
    · have hlt := (List.getElem?_eq_some_iff.mp ha).1
      omega

theorem awaiters_add_cases {r : Registry κ ω ρ ε} {id : κ} {owner : ω} {w : Nat}
    {a : Awaiter κ ω ρ ε} (h : (r.add id owner).awaiters[w]? = some a) :
    r.awaiters[w]? = some a ∨ w = r.awaiters.length ∧ a = ⟨id, owner, none, .pending⟩ := by
  simp only [add] at h
  by_cases hw : w < r.awaiters.length
  · exact Or.inl (by rwa [List.getElem?_append_left hw] at h)
  · rw [List.getElem?_append_right (by omega)] at h
    obtain ⟨hb, he⟩ := List.getElem?_eq_some_iff.mp h
    simp only [List.length_singleton] at hb
    exact Or.inr ⟨by omega, by simpa [show w - r.awaiters.length = 0 by omega] using he.symm⟩

theorem awaiters_add_new (r : Registry κ ω ρ ε) (id : κ) (owner : ω) :
    (r.add id owner).awaiters[r.awaiters.length]? = some ⟨id, owner, none, .pending⟩ := by
  simp [add]

theorem awaiters_add_old {r : Registry κ ω ρ ε} {id : κ} {owner : ω} {w : Nat}
    {a : Awaiter κ ω ρ ε} (h : r.awaiters[w]? = some a) :
    (r.add id owner).awaiters[w]? = some a := by
  have hw := (List.getElem?_eq_some_iff.mp h).1
  simpa [add, List.getElem?_append_left hw] using h

theorem evolves_add (r : Registry κ ω ρ ε) (id : κ) (owner : ω) : r.Evolves (r.add id owner) := by
  refine ⟨fun h => ⟨_, awaiters_add_old h, .refl _⟩, fun h => ?_⟩
  rcases ConcurrentDictionary.lookup_tryAdd_cases h with h | ⟨_, rfl, _⟩
  · exact Or.inl h
  · exact Or.inr le_rfl

theorem Valid.add {r : Registry κ ω ρ ε} (hv : r.Valid) {id : κ} {owner : ω}
    (fresh : ∀ {w : Nat} {a : Awaiter κ ω ρ ε}, r.awaiters[w]? = some a → a.correlationId ≠ id) :
    (r.add id owner).Valid := by
  constructor
  · intro id' w h
    rcases ConcurrentDictionary.lookup_tryAdd_cases h with h | ⟨rfl, rfl, _⟩
    · obtain ⟨a, ha, hid⟩ := hv.entry h
      exact ⟨a, awaiters_add_old ha, hid⟩
    · exact ⟨_, awaiters_add_new r id' owner, rfl⟩
  · intro w w' a a' h h' hid
    rcases awaiters_add_cases h with h | ⟨rfl, rfl⟩ <;>
      rcases awaiters_add_cases h' with h' | ⟨rfl, rfl⟩
    · exact hv.distinct h h' hid
    · exact absurd hid (fresh h)
    · exact absurd hid.symm (fresh h')
    · rfl
  · intro w a h hc
    rcases awaiters_add_cases h with h | ⟨rfl, rfl⟩
    · have hn := hv.closed h hc
      rw [Registry.add, ConcurrentDictionary.lookup_tryAdd_ne (fresh h), hn]
    · exact absurd rfl hc
  · intro w a h hc
    rcases awaiters_add_cases h with h | ⟨rfl, rfl⟩
    · exact hv.answered h hc
    · cases hc

theorem evolves_remove (r : Registry κ ω ρ ε) (id : κ) : r.Evolves (r.remove id) :=
  ⟨fun h => ⟨_, h, .refl _⟩, fun h => Or.inl (ConcurrentDictionary.lookup_of_lookup_erase h).2⟩

theorem Valid.remove {r : Registry κ ω ρ ε} (hv : r.Valid) (id : κ) : (r.remove id).Valid :=
  ⟨fun h => hv.entry (ConcurrentDictionary.lookup_of_lookup_erase h).2, hv.distinct,
    fun h hc => ConcurrentDictionary.lookup_erase_none (hv.closed h hc), hv.answered⟩

theorem lookup_remove (r : Registry κ ω ρ ε) (id : κ) : (r.remove id).entries.lookup id = none :=
  AList.lookup_erase id r.entries

omit [DecidableEq κ] in
/-- Both writes on an awaiter replace it in place. -/
theorem awaiters_modify_cases {xs : List (Awaiter κ ω ρ ε)} {w v : Nat} {b : Awaiter κ ω ρ ε}
    {f : Awaiter κ ω ρ ε → Awaiter κ ω ρ ε} (h : (xs.modify w f)[v]? = some b) :
    ∃ a, xs[v]? = some a ∧ (w = v ∧ b = f a ∨ w ≠ v ∧ b = a) := by
  rw [List.getElem?_modify] at h
  obtain ⟨a, ha, hb⟩ := Option.map_eq_some_iff.mp h
  refine ⟨a, ha, ?_⟩
  by_cases hw : w = v
  · exact Or.inl ⟨hw, by simpa [hw] using hb.symm⟩
  · exact Or.inr ⟨hw, by simpa [hw] using hb.symm⟩

theorem evolves_modify {r : Registry κ ω ρ ε} {w : Nat} {f : Awaiter κ ω ρ ε → Awaiter κ ω ρ ε}
    (hf : ∀ a : Awaiter κ ω ρ ε, a.Becomes (f a)) : r.Evolves ⟨r.entries, r.awaiters.modify w f⟩ := by
  refine ⟨fun {v a} h => ?_, Or.inl⟩
  by_cases hw : w = v
  · exact ⟨f a, by simp [h, hw], hf a⟩
  · exact ⟨a, by simp [h, hw], .refl a⟩

/-- Changing one awaiter in place keeps the registry valid when it keeps its id, is completed only
after its entry has gone, and has a result whenever it has run to completion. -/
theorem Valid.modify {r : Registry κ ω ρ ε} (hv : r.Valid) {w : Nat}
    {f : Awaiter κ ω ρ ε → Awaiter κ ω ρ ε} (hf : ∀ a, (f a).correlationId = a.correlationId)
    (closed : ∀ {a}, r.awaiters[w]? = some a → (f a).completion ≠ .pending →
      r.entries.lookup a.correlationId = none)
    (answered : ∀ {a}, r.awaiters[w]? = some a → (f a).completion = .ranToCompletion →
      (f a).result.isSome) :
    Valid ⟨r.entries, r.awaiters.modify w f⟩ := by
  constructor
  · intro id v h
    obtain ⟨a, ha, hid⟩ := hv.entry h
    by_cases hw : w = v
    · exact ⟨f a, by simp [ha, hw], (hf a).trans hid⟩
    · exact ⟨a, by simp [ha, hw], hid⟩
  · intro v v' b b' h h' hid
    obtain ⟨a, ha, hb⟩ := awaiters_modify_cases h
    obtain ⟨a', ha', hb'⟩ := awaiters_modify_cases h'
    have e : b.correlationId = a.correlationId := by
      rcases hb with ⟨_, rfl⟩ | ⟨_, rfl⟩
      · exact hf a
      · rfl
    have e' : b'.correlationId = a'.correlationId := by
      rcases hb' with ⟨_, rfl⟩ | ⟨_, rfl⟩
      · exact hf a'
      · rfl
    exact hv.distinct ha ha' (e.symm.trans (hid.trans e'))
  · intro v b h hc
    obtain ⟨a, ha, ⟨rfl, rfl⟩ | ⟨_, rfl⟩⟩ := awaiters_modify_cases h
    · exact (hf a).symm ▸ closed ha hc
    · exact hv.closed ha hc
  · intro v b h hc
    obtain ⟨a, ha, ⟨rfl, rfl⟩ | ⟨_, rfl⟩⟩ := awaiters_modify_cases h
    · exact answered ha hc
    · exact hv.answered ha hc

theorem evolves_writeResult (r : Registry κ ω ρ ε) (w : Nat) (v : ρ) :
    r.Evolves (r.writeResult w v) :=
  evolves_modify fun _ => ⟨rfl, rfl, fun _ => rfl, fun _ => rfl⟩

theorem Valid.writeResult {r : Registry κ ω ρ ε} (hv : r.Valid) (w : Nat) (v : ρ) :
    (r.writeResult w v).Valid :=
  hv.modify (fun _ => rfl) (fun h hc => hv.closed h hc) (fun _ _ => rfl)

theorem evolves_complete (r : Registry κ ω ρ ε) (w : Nat) (c : Completion ε) :
    r.Evolves (r.complete w c) := by
  refine evolves_modify fun a => ?_
  cases hc : a.completion with
  | pending => exact ⟨rfl, rfl, fun h => absurd rfl (hc ▸ h), id⟩
  | ranToCompletion => exact .refl a
  | faulted e => exact .refl a

/-- A source may be completed once its entry has gone, with a result in place if it succeeds. -/
theorem Valid.complete {r : Registry κ ω ρ ε} (hv : r.Valid) {w : Nat} {c : Completion ε}
    (gone : ∀ {a}, r.awaiters[w]? = some a → r.entries.lookup a.correlationId = none)
    (answered : ∀ {a}, r.awaiters[w]? = some a → c = .ranToCompletion → a.result.isSome) :
    (r.complete w c).Valid := by
  refine hv.modify (fun a => ?_) (fun h _ => gone h) (fun {a} h hc => ?_)
  · cases a.completion <;> rfl
  · cases hp : a.completion with
    | pending =>
      simp only [hp] at hc ⊢
      exact answered h hc
    | ranToCompletion => exact hv.answered h hp
    | faulted e => simp [hp] at hc

omit [DecidableEq κ] in
theorem completion_of_awaiter {r : Registry κ ω ρ ε} {w : Nat} {a : Awaiter κ ω ρ ε}
    (h : r.awaiters[w]? = some a) : r.completion w = a.completion := by
  simp [completion, h]

/-- A completed source keeps its outcome. -/
theorem Evolves.completion_eq {r r' : Registry κ ω ρ ε} (he : r.Evolves r') {w : Nat}
    (hc : r.completion w ≠ .pending) : r'.completion w = r.completion w := by
  cases ha : r.awaiters[w]? with
  | none => simp [completion, ha] at hc
  | some a =>
    obtain ⟨b, hb, hab⟩ := he.keep ha
    rw [completion_of_awaiter ha] at hc ⊢
    rw [completion_of_awaiter hb, hab.completion hc]

theorem completion_add (r : Registry κ ω ρ ε) (id : κ) (owner : ω) (w : Nat) :
    (r.add id owner).completion w = r.completion w := by
  cases ha : r.awaiters[w]? with
  | some a => rw [completion_of_awaiter ha, completion_of_awaiter (awaiters_add_old ha)]
  | none =>
    cases hb : (r.add id owner).awaiters[w]? with
    | none => simp [completion, ha, hb]
    | some b =>
      rcases awaiters_add_cases hb with h | ⟨_, rfl⟩
      · simp [ha] at h
      · simp [completion, ha, hb]

omit [DecidableEq κ] in
theorem completion_writeResult (r : Registry κ ω ρ ε) (w : Nat) (v : ρ) (u : Nat) :
    (r.writeResult w v).completion u = r.completion u := by
  simp only [completion, writeResult, List.getElem?_modify]
  cases r.awaiters[u]? with
  | none => rfl
  | some a => by_cases hw : w = u <;> simp [hw]

omit [DecidableEq κ] in
theorem completion_complete_ne (r : Registry κ ω ρ ε) {w u : Nat} (c : Completion ε) (h : w ≠ u) :
    (r.complete w c).completion u = r.completion u := by
  simp [completion, complete, h]

omit [DecidableEq κ] in
/-- Completing a source again changes nothing. -/
theorem complete_of_completed {r : Registry κ ω ρ ε} {w : Nat} (h : r.completion w ≠ .pending)
    (c : Completion ε) : r.complete w c = r := by
  have same : (r.complete w c).awaiters = r.awaiters := by
    apply List.ext_getElem?
    intro u
    simp only [complete, List.getElem?_modify]
    cases ha : r.awaiters[u]? with
    | none => rfl
    | some a =>
      by_cases hw : w = u
      · subst hw
        rw [completion_of_awaiter ha] at h
        cases hc : a.completion <;> simp_all
      · simp [hw]
  exact congrArg (Registry.mk r.entries) same

end Registry
