import Mathlib.Data.List.AList

/-- A dictionary whose single operations are atomic. `lookup` is `TryGetValue`, `erase` is the
removal whose result nobody reads. -/
abbrev ConcurrentDictionary (κ α : Type) := AList fun _ : κ => α

namespace ConcurrentDictionary

variable {κ α : Type} [DecidableEq κ]

def tryAdd (d : ConcurrentDictionary κ α) (k : κ) (v : α) : ConcurrentDictionary κ α :=
  if (d.lookup k).isSome then d else d.insert k v

theorem lookup_tryAdd_self {d : ConcurrentDictionary κ α} {k : κ} {v : α} (h : d.lookup k = none) :
    (tryAdd d k v).lookup k = some v := by
  simp [tryAdd, h, AList.lookup_insert]

theorem lookup_tryAdd_ne {d : ConcurrentDictionary κ α} {k k' : κ} {v : α} (h : k' ≠ k) :
    (tryAdd d k v).lookup k' = d.lookup k' := by
  unfold tryAdd
  split
  next => rfl
  next => exact AList.lookup_insert_ne h

theorem lookup_tryAdd_of_some {d : ConcurrentDictionary κ α} {k k' : κ} {v w : α} (h : d.lookup k' = some w) :
    (tryAdd d k v).lookup k' = some w := by
  by_cases hk : k' = k
  · subst hk
    simp [tryAdd, h]
  · rwa [lookup_tryAdd_ne hk]

theorem isSome_tryAdd {d : ConcurrentDictionary κ α} {k k' : κ} {v : α}
    (h : k' = k ∨ (d.lookup k').isSome = true) : ((tryAdd d k v).lookup k').isSome = true := by
  by_cases hk : k' = k
  · subst hk
    unfold tryAdd
    split
    next there => exact there
    next => simp [AList.lookup_insert]
  · rw [lookup_tryAdd_ne hk]
    exact h.resolve_left hk

theorem lookup_tryAdd_cases {d : ConcurrentDictionary κ α} {k k' : κ} {v w : α}
    (h : (tryAdd d k v).lookup k' = some w) :
    d.lookup k' = some w ∨ k' = k ∧ w = v ∧ d.lookup k = none := by
  by_cases hk : k' = k
  · subst hk
    cases hd : d.lookup k' with
    | none =>
      rw [lookup_tryAdd_self hd] at h
      exact Or.inr ⟨rfl, (Option.some.inj h).symm, rfl⟩
    | some x =>
      left
      rwa [tryAdd, hd, Option.isSome_some, if_pos rfl, hd] at h
  · exact Or.inl (by rwa [lookup_tryAdd_ne hk] at h)

theorem lookup_of_lookup_erase {d : ConcurrentDictionary κ α} {k k' : κ} {w : α}
    (h : (d.erase k).lookup k' = some w) : k' ≠ k ∧ d.lookup k' = some w := by
  have hne : k' ≠ k := by
    rintro rfl
    simp [AList.lookup_erase] at h
  exact ⟨hne, by rwa [AList.lookup_erase_ne hne] at h⟩

theorem lookup_erase_none {d : ConcurrentDictionary κ α} {k k' : κ}
    (h : d.lookup k' = none) : (d.erase k).lookup k' = none := by
  by_cases hk : k' = k
  · exact hk ▸ AList.lookup_erase k d
  · rw [AList.lookup_erase_ne hk, h]

end ConcurrentDictionary
