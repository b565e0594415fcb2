import RabbitMediator.ConcurrentDictionary

/-- Where a call of `GetOrAdd` with a factory stands. The factory runs outside of any lock, so that two calls
may both create a value for their key; the entry that is there first stays. -/
inductive GetOrAdd (α ε : Type)
  | looking
  | creating
  | adding (value : α)
  | returned (value : α)
  | threw (e : ε)

namespace GetOrAdd

variable {κ α ε : Type} [DecidableEq κ] {d d' : ConcurrentDictionary κ α} {key : κ} {p p' : GetOrAdd α ε}
  {x : Option (Except ε α)}

/-- One step; the input is the outcome of the factory. -/
def next (d : ConcurrentDictionary κ α) (key : κ) :
    GetOrAdd α ε → Option (Except ε α) → Option (ConcurrentDictionary κ α × GetOrAdd α ε)
  | .looking, none => some (d, match d.lookup key with
    | some value => .returned value
    | none => .creating)
  | .creating, some (.ok value) => some (d, .adding value)
  | .creating, some (.error e) => some (d, .threw e)
  | .adding value, none => match d.lookup key with
    | some present => some (d, .returned present)
    | none => some (d.insert key value, .returned value)
  | _, _ => none

/-- An entry stays as it is. -/
theorem kept_of_next (h : next d key p x = some (d', p')) {k : κ} {v : α} (old : d.lookup k = some v) :
    d'.lookup k = some v := by
  unfold next at h
  split at h
  next => cases h; exact old
  next => cases h; exact old
  next => cases h; exact old
  next value =>
    split at h
    next => cases h; exact old
    next absent =>
      cases h
      have other : k ≠ key := by
        rintro rfl
        rw [absent] at old
        cases old
      exact (AList.lookup_insert_ne other).trans old
  next => cases h

/-- An entry is as before, or the step has added the value of its call. -/
theorem entry_of_next (h : next d key p x = some (d', p')) {k : κ} {v : α} (entry : d'.lookup k = some v) :
    d.lookup k = some v ∨ k = key ∧ p = .adding v := by
  unfold next at h
  split at h
  next => cases h; exact Or.inl entry
  next => cases h; exact Or.inl entry
  next => cases h; exact Or.inl entry
  next value =>
    split at h
    next => cases h; exact Or.inl entry
    next absent =>
      cases h
      by_cases same : k = key
      · subst same
        rw [AList.lookup_insert] at entry
        exact Or.inr ⟨rfl, congrArg adding (Option.some.inj entry)⟩
      · exact Or.inl ((AList.lookup_insert_ne same).symm.trans entry)
  next => cases h

/-- A call returns what is in the dictionary then. -/
theorem returned_of_next {v : α} (h : next d key p x = some (d', .returned v)) : d'.lookup key = some v := by
  unfold next at h
  split at h
  next =>
    obtain ⟨rfl, he⟩ := Prod.mk.inj (Option.some.inj h)
    split at he
    next found => cases he; exact found
    next => cases he
  next => cases h
  next => cases h
  next value =>
    split at h
    next found => cases h; exact found
    next =>
      cases h
      exact AList.lookup_insert d
  next => cases h

/-- Its value or exception is what its factory came with. -/
theorem created_of_next (h : next d key p x = some (d', p')) :
    (∀ v, p' = .adding v → x = some (.ok v)) ∧ ∀ e, p' = .threw e → x = some (.error e) := by
  unfold next at h
  split at h
  next =>
    cases h
    split <;> simp
  next => cases h; simp
  next => cases h; simp
  next =>
    split at h <;> cases h <;> simp
  next => cases h

section Factories

variable {factory : κ → Except ε α}

/-- The dictionary is a part of the graph of the function. -/
def Agrees (factory : κ → Except ε α) (d : ConcurrentDictionary κ α) : Prop :=
  ∀ k v, d.lookup k = some v → factory k = .ok v

/-- What a call has or has come to is what the function has for its key. -/
def Computes (factory : κ → Except ε α) (key : κ) : GetOrAdd α ε → Prop
  | .adding v | .returned v => factory key = .ok v
  | .threw e => factory key = .error e
  | _ => True

theorem computes_of_next (agrees : Agrees factory d) (computes : p.Computes factory key)
    (outcome : ∀ r, x = some r → r = factory key) (h : next d key p x = some (d', p')) :
    Agrees factory d' ∧ p'.Computes factory key := by
  have entries : Agrees factory d' := by
    intro k v entry
    rcases entry_of_next h entry with old | ⟨rfl, rfl⟩
    · exact agrees k v old
    · exact computes
  refine ⟨entries, ?_⟩
  obtain ⟨value, exception⟩ := created_of_next h
  cases p' with
  | looking | creating => trivial
  | adding v => exact (outcome _ (value v rfl)).symm
  | returned v => exact entries key v (returned_of_next h)
  | threw e => exact (outcome _ (exception e rfl)).symm

end Factories
end GetOrAdd
