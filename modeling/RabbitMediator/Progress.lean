import Mathlib.Algebra.Order.BigOperators.Group.List
import Mathlib.Algebra.Order.Group.Nat
import Mathlib.Algebra.Ring.Nat
import RabbitMediator.Mutex

namespace Interleaving

variable {σ τ ι : Type} {T : Threads σ τ ι}

/-- Thread `i` can take a step that is allowed and of the kind `ok`. -/
def CanMove (T : Threads σ τ ι) (allowed : Config σ τ → Action τ ι → Prop) (ok : σ → Nat → τ → ι → Prop)
    (c : Config σ τ) (i : Nat) (t : τ) : Prop :=
  ∃ x, allowed c (.step i x) ∧ ok c.shared i t x ∧ (T.next c.shared i t x).isSome = true

def Able (T : Threads σ τ ι) (allowed : Config σ τ → Action τ ι → Prop) (ok : σ → Nat → τ → ι → Prop)
    (c : Config σ τ) : Prop :=
  ∃ (i : Nat) (t : τ), c.pool[i]? = some t ∧ CanMove T allowed ok c i t

theorem act_of_next {c : Config σ τ} {i : Nat} {t t' : τ} {x : ι} {s' : σ} (ht : c.pool[i]? = some t)
    (hn : T.next c.shared i t x = some (s', t')) : T.act c (.step i x) = some ⟨s', c.pool.set i t'⟩ := by
  simp [Threads.act, ht, hn]

/-- `P` comes about in every run of the threads that are there, whichever of them moves and whatever the
environment answers, as long as each step is allowed. Until then one of them can take such a step, even one of
the kind `ok`. -/
inductive Inevitable (T : Threads σ τ ι) (allowed : Config σ τ → Action τ ι → Prop)
    (ok : σ → Nat → τ → ι → Prop) (P : Config σ τ → Prop) : Config σ τ → Prop
  | now {c} (h : P c) : Inevitable T allowed ok P c
  | later {c} (able : Able T allowed ok c)
      (every : ∀ i x d, allowed c (.step i x) → T.act c (.step i x) = some d → Inevitable T allowed ok P d) :
      Inevitable T allowed ok P c

/-- Locks that a thread takes one after another, always in the same order. -/
structure LockOrder {κ : Type} (lock : κ → Lock σ τ) (inner : κ → κ → Prop) (waits : τ → Option κ) : Prop where
  wellFounded : WellFounded inner
  ordered : ∀ {t k j}, (lock k).inside t = true → waits t = some j → inner j k

/-- No deadlock: while a thread waits for a lock, it or one inside a lock can move. -/
theorem LockOrder.able {κ : Type} {lock : κ → Lock σ τ} {inner : κ → κ → Prop} {waits : τ → Option κ}
    {allowed : Config σ τ → Action τ ι → Prop} {ok : σ → Nat → τ → ι → Prop} {c : Config σ τ}
    (order : LockOrder lock inner waits) (held : ∀ k, (lock k).Held c)
    (free : ∀ (i : Nat) (t : τ) (k : κ), c.pool[i]? = some t → waits t = some k → (lock k).taken c.shared = false →
      CanMove T allowed ok c i t)
    (onward : ∀ (i : Nat) (t : τ) (k : κ), c.pool[i]? = some t → waits t = none → (lock k).inside t = true →
      CanMove T allowed ok c i t)
    {i : Nat} {t : τ} {k : κ} (ht : c.pool[i]? = some t) (hw : waits t = some k) : Able T allowed ok c := by
  induction k using order.wellFounded.induction generalizing i t with
  | _ k ih =>
    -- who waits for a lock moves once it is free, or has the one inside wait for an inner lock
    apply (held k).elim
    · intro untaken
      exact ⟨i, t, ht, free i t k ht hw untaken⟩
    · intro j u hu inside
      cases hv : waits u with
      | some l => exact ih l (order.ordered inside hv) hu hv
      | none => exact ⟨j, u, hu, onward j u k hu hv inside⟩

/-- What all threads have left to do, each by its own count. -/
def work (left : σ → τ → Nat) (c : Config σ τ) : Nat := (c.pool.map (left c.shared)).sum

theorem sum_map_set {left left' : τ → Nat} {pool : List τ} {i : Nat} {t t' : τ} (ht : pool[i]? = some t)
    (fewer : ∀ u, left' u ≤ left u) :
    ((pool.set i t').map left').sum + left t ≤ (pool.map left).sum + left' t' := by
  induction pool generalizing i with
  | nil => cases ht
  | cons u pool ih =>
    cases i with
    | zero =>
      cases ht
      have rest : (pool.map left').sum ≤ (pool.map left).sum := List.sum_le_sum fun v _ => fewer v
      simp only [List.set_cons_zero, List.map_cons, List.sum_cons]
      omega
    | succ i =>
      have rest := ih ht
      have here := fewer u
      simp only [List.set_cons_succ, List.map_cons, List.sum_cons]
      omega

theorem work_set {left : σ → τ → Nat} {s' : σ} {c : Config σ τ} {i : Nat} {t t' : τ} (ht : c.pool[i]? = some t)
    (fewer : ∀ u, left s' u ≤ left c.shared u) :
    work left ⟨s', c.pool.set i t'⟩ + left c.shared t ≤ work left c + left s' t' :=
  sum_map_set ht fewer

/-- A step leaves its thread with less to do, of the first work or else of the second, and nobody with more. -/
structure Lessens (first second : σ → τ → Nat) (s : σ) (t : τ) (s' : σ) (t' : τ) : Prop where
  others : ∀ u, first s' u ≤ first s u
  own : first s' t' < first s t ∨
    first s' t' ≤ first s t ∧ second s' t' < second s t ∧ ∀ u, second s' u ≤ second s u

/-- Threads whose steps all lessen the work, and one of which can move as long as `P` does not hold, come to
`P` in the end. -/
theorem inevitable_of_lessens {ok : σ → Nat → τ → ι → Prop} {allowed : Config σ τ → Action τ ι → Prop}
    {init c : Config σ τ} {P : Config σ τ → Prop} (first second : σ → τ → Nat)
    (lessens : ∀ {c i x t s' t'}, ReachableWhere T allowed init c → c.pool[i]? = some t →
      T.next c.shared i t x = some (s', t') → Lessens first second c.shared t s' t')
    (able : ∀ {c}, ReachableWhere T allowed init c → ¬ P c → Able T allowed ok c)
    (h : ReachableWhere T allowed init c) : Inevitable T allowed ok P c := by
  -- by induction on the first work, and on the second as long as the first stays
  suffices hs : ∀ n m c, ReachableWhere T allowed init c → work first c ≤ n → work second c ≤ m →
      Inevitable T allowed ok P c from hs _ _ c h le_rfl le_rfl
  intro n
  induction n using Nat.strong_induction_on with
  | _ n outer =>
    intro m
    induction m using Nat.strong_induction_on with
    | _ m inner =>
      intro c hc hn hm
      by_cases hp : P c
      · exact .now hp
      · refine .later (able hc hp) fun i x d ha hd => ?_
        have reached : ReachableWhere T allowed init d := .next hc ha hd
        obtain ⟨t, s', t', ht, hx, rfl⟩ := act_step hd
        obtain ⟨others, own⟩ := lessens hc ht hx
        have hfirst : work first ⟨s', c.pool.set i t'⟩ + first c.shared t ≤ work first c + first s' t' :=
          work_set ht others
        rcases own with less | ⟨same, less, fewer⟩
        · exact outer _ (by omega) _ _ reached le_rfl le_rfl
        · have hsecond : work second ⟨s', c.pool.set i t'⟩ + second c.shared t ≤ work second c + second s' t' :=
            work_set ht fewer
          by_cases strict : work first ⟨s', c.pool.set i t'⟩ < n
          · exact outer _ strict _ _ reached le_rfl le_rfl
          · exact inner _ (by omega) _ reached (by omega) le_rfl

end Interleaving
