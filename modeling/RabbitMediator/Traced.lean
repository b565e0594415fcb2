import Mathlib.Data.List.Count
import Mathlib.Data.List.Basic

/-- A run of sequential code: the effects it had on the outside, in order, and the value it returned
or the exception it ended with. -/
structure Traced (ω ε α : Type) where
  effects : List ω
  result : Except ε α

namespace Traced

variable {ω ε α β : Type}

def emit (e : ω) : Traced ω ε Unit := ⟨[e], .ok ()⟩

/-- What runs after a failure is skipped, but the effects up to it stay. -/
def bind (x : Traced ω ε α) (f : α → Traced ω ε β) : Traced ω ε β :=
  match x.result with
  | .ok a => ⟨x.effects ++ (f a).effects, (f a).result⟩
  | .error e => ⟨x.effects, .error e⟩

def handle (x : Traced ω ε α) (f : ε → Traced ω ε α) : Traced ω ε α :=
  match x.result with
  | .ok _ => x
  | .error e => ⟨x.effects ++ (f e).effects, (f e).result⟩

instance : Monad (Traced ω ε) where
  pure a := ⟨[], .ok a⟩
  bind := bind

instance : MonadExceptOf ε (Traced ω ε) where
  throw e := ⟨[], .error e⟩
  tryCatch := handle

instance : MonadLift (Except ε) (Traced ω ε) where
  monadLift x := ⟨[], x⟩

@[simp] theorem pure_effects (a : α) : (pure a : Traced ω ε α).effects = [] := rfl

@[simp] theorem pure_result (a : α) : (pure a : Traced ω ε α).result = .ok a := rfl

@[simp] theorem throw_effects (e : ε) : (throw e : Traced ω ε α).effects = [] := rfl

@[simp] theorem throw_result (e : ε) : (throw e : Traced ω ε α).result = .error e := rfl

@[simp] theorem lift_effects (x : Except ε α) : (liftM x : Traced ω ε α).effects = [] := rfl

@[simp] theorem lift_result (x : Except ε α) : (liftM x : Traced ω ε α).result = x := rfl

@[simp] theorem emit_effects (e : ω) : (emit e : Traced ω ε Unit).effects = [e] := rfl

@[simp] theorem emit_result (e : ω) : (emit e : Traced ω ε Unit).result = .ok () := rfl

theorem bind_of_ok {x : Traced ω ε α} {a : α} (h : x.result = .ok a) (f : α → Traced ω ε β) :
    x >>= f = ⟨x.effects ++ (f a).effects, (f a).result⟩ := by
  simp only [Bind.bind, bind, h]

theorem bind_of_error {x : Traced ω ε α} {e : ε} (h : x.result = .error e)
    (f : α → Traced ω ε β) : x >>= f = ⟨x.effects, .error e⟩ := by
  simp only [Bind.bind, bind, h]

@[simp] theorem pure_bind (a : α) (f : α → Traced ω ε β) : (pure a : Traced ω ε α) >>= f = f a :=
  bind_of_ok rfl f

@[simp] theorem throw_bind (e : ε) (f : α → Traced ω ε β) :
    (throw e : Traced ω ε α) >>= f = throw e := rfl

@[simp] theorem lift_ok_bind (a : α) (f : α → Traced ω ε β) :
    (liftM (Except.ok a : Except ε α) : Traced ω ε α) >>= f = f a := rfl

@[simp] theorem lift_error_bind (e : ε) (f : α → Traced ω ε β) :
    (liftM (Except.error e : Except ε α) : Traced ω ε α) >>= f = throw e := rfl

@[simp] theorem emit_bind_effects (e : ω) (f : Unit → Traced ω ε β) :
    ((emit e : Traced ω ε Unit) >>= f).effects = e :: (f ()).effects := rfl

@[simp] theorem emit_bind_result (e : ω) (f : Unit → Traced ω ε β) :
    ((emit e : Traced ω ε Unit) >>= f).result = (f ()).result := rfl

theorem tryCatch_of_ok {x : Traced ω ε α} {a : α} (h : x.result = .ok a)
    (f : ε → Traced ω ε α) : tryCatch x f = x := by
  simp only [tryCatch, tryCatchThe, MonadExceptOf.tryCatch, handle, h]

theorem tryCatch_of_error {x : Traced ω ε α} {e : ε} (h : x.result = .error e)
    (f : ε → Traced ω ε α) :
    tryCatch x f = ⟨x.effects ++ (f e).effects, (f e).result⟩ := by
  simp only [tryCatch, tryCatchThe, MonadExceptOf.tryCatch, handle, h]

instance : LawfulMonad (Traced ω ε) := LawfulMonad.mk' (Traced ω ε)
  (by
    intro α x
    obtain ⟨w, r⟩ := x
    cases r <;> simp [Functor.map, bind])
  (by intro α β x f; rfl)
  (by
    intro α β γ x f g
    obtain ⟨w, r⟩ := x
    cases r with
    | error e => rfl
    | ok a =>
      simp only [Bind.bind, bind]
      cases (f a).result <;> simp)

/-- Every effect of the run satisfies `p`. -/
def Only (p : ω → Prop) (x : Traced ω ε α) : Prop := ∀ e ∈ x.effects, p e

theorem only_pure (p : ω → Prop) (a : α) : Only p (pure a : Traced ω ε α) := by simp [Only]

theorem only_lift (p : ω → Prop) (x : Except ε α) : Only p (liftM x : Traced ω ε α) := by
  simp [Only]

theorem only_emit {p : ω → Prop} {e : ω} (h : p e) : Only p (emit e : Traced ω ε Unit) := by
  simpa [Only] using h

theorem only_bind {p : ω → Prop} {x : Traced ω ε α} {f : α → Traced ω ε β} (hx : Only p x)
    (hf : ∀ a, x.result = .ok a → Only p (f a)) : Only p (x >>= f) := by
  cases hr : x.result with
  | error e => rw [bind_of_error hr]; exact hx
  | ok a =>
    rw [bind_of_ok hr]
    intro e he
    rcases List.mem_append.mp he with he | he
    · exact hx e he
    · exact hf a hr e he

theorem only_tryCatch {p : ω → Prop} {x : Traced ω ε α} {f : ε → Traced ω ε α} (hx : Only p x)
    (hf : ∀ e, x.result = .error e → Only p (f e)) : Only p (tryCatch x f) := by
  cases hr : x.result with
  | ok a => rw [tryCatch_of_ok hr]; exact hx
  | error e =>
    rw [tryCatch_of_error hr]
    intro o ho
    rcases List.mem_append.mp ho with ho | ho
    · exact hx o ho
    · exact hf e hr o ho

/-- At most `n` effects of the run satisfy `p`. -/
def AtMost (p : ω → Bool) (n : Nat) (x : Traced ω ε α) : Prop := x.effects.countP p ≤ n

theorem atMost_of_only {p : ω → Bool} {q : ω → Prop} {x : Traced ω ε α} (hx : Only q x)
    (hq : ∀ e, q e → p e = false) : AtMost p 0 x := by
  simp only [AtMost, Nat.le_zero, List.countP_eq_zero]
  intro e he
  simp [hq e (hx e he)]

theorem atMost_pure (p : ω → Bool) (a : α) : AtMost p 0 (pure a : Traced ω ε α) := by simp [AtMost]

theorem atMost_throw (p : ω → Bool) (e : ε) : AtMost p 0 (throw e : Traced ω ε α) := by
  simp [AtMost]

theorem atMost_lift (p : ω → Bool) (x : Except ε α) : AtMost p 0 (liftM x : Traced ω ε α) := by
  simp [AtMost]

theorem atMost_emit (p : ω → Bool) (e : ω) : AtMost p 1 (emit e : Traced ω ε Unit) := by
  simpa [AtMost] using List.countP_le_length (p := p) (l := [e])

theorem AtMost.mono {p : ω → Bool} {n m : Nat} {x : Traced ω ε α} (h : AtMost p n x) (hn : n ≤ m) :
    AtMost p m x :=
  Nat.le_trans h hn

theorem atMost_bind {p : ω → Bool} {n m : Nat} {x : Traced ω ε α} {f : α → Traced ω ε β}
    (hx : AtMost p n x) (hf : ∀ a, x.result = .ok a → AtMost p m (f a)) :
    AtMost p (n + m) (x >>= f) := by
  cases hr : x.result with
  | error e =>
    rw [bind_of_error hr]
    exact Nat.le_add_right_of_le hx
  | ok a =>
    rw [bind_of_ok hr]
    simp only [AtMost, List.countP_append]
    exact Nat.add_le_add hx (hf a hr)

theorem atMost_lift_bind {p : ω → Bool} {n : Nat} {x : Except ε α} {f : α → Traced ω ε β}
    (hf : ∀ a, x = .ok a → AtMost p n (f a)) : AtMost p n ((liftM x : Traced ω ε α) >>= f) := by
  simpa using atMost_bind (atMost_lift p x) hf

/-- What follows adds nothing to the count. -/
theorem atMost_bind_quiet {p : ω → Bool} {n : Nat} {x : Traced ω ε α} {f : α → Traced ω ε β}
    (hx : AtMost p n x) (hf : ∀ a, x.result = .ok a → AtMost p 0 (f a)) : AtMost p n (x >>= f) :=
  atMost_bind hx hf

theorem atMost_tryCatch {p : ω → Bool} {n m : Nat} {x : Traced ω ε α} {f : ε → Traced ω ε α}
    (hx : AtMost p n x) (hf : ∀ e, x.result = .error e → AtMost p m (f e)) :
    AtMost p (n + m) (tryCatch x f) := by
  cases hr : x.result with
  | ok a =>
    rw [tryCatch_of_ok hr]
    exact Nat.le_add_right_of_le hx
  | error e =>
    rw [tryCatch_of_error hr]
    simp only [AtMost, List.countP_append]
    exact Nat.add_le_add hx (hf e hr)

/-- A catch clause that only returns keeps the effects and leaves no failure. -/
theorem tryCatch_pure (x : Traced ω ε α) (a : α) :
    (tryCatch x fun _ => pure a).effects = x.effects ∧
      ∃ b, (tryCatch x fun _ => pure a).result = .ok b := by
  cases hr : x.result with
  | ok b =>
    rw [tryCatch_of_ok hr]
    exact ⟨rfl, b, hr⟩
  | error e =>
    rw [tryCatch_of_error hr]
    exact ⟨by simp, a, rfl⟩

end Traced
