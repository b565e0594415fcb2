import Mathlib.Data.List.Basic

namespace Words

theorem append_inj_right {a b s t : String} (h : a ++ s = b ++ t)
    (len : s.toList.length = t.toList.length) : a = b ∧ s = t := by
  have hl := congrArg String.toList h
  rw [String.toList_append, String.toList_append] at hl
  obtain ⟨ha, hs⟩ := List.append_inj' hl len
  exact ⟨String.toList_inj.mp ha, String.toList_inj.mp hs⟩

/-- Words behind different first letters never agree. -/
theorem append_ne_of_head {a b : String} (ha : a.toList ≠ []) (hb : b.toList ≠ [])
    (hne : a.toList.head ha ≠ b.toList.head hb) (s t : String) : a ++ s ≠ b ++ t := by
  intro h
  have hl := congrArg String.toList h
  rw [String.toList_append, String.toList_append] at hl
  obtain ⟨x, xs, hx⟩ := List.exists_cons_of_ne_nil ha
  obtain ⟨y, ys, hy⟩ := List.exists_cons_of_ne_nil hb
  simp only [hx, hy, List.cons_append, List.cons.injEq, List.head_cons] at hl hne
  exact hne hl.1

/-- A letter that stands nowhere else splits a list in one way only. -/
theorem split_at_once {a b c d : List Char} {x : Char} (h : a ++ x :: b = c ++ x :: d)
    (hc : x ∉ c) (hd : x ∉ d) : a = c ∧ b = d := by
  rcases List.append_eq_append_iff.mp h with ⟨e, rfl, he⟩ | ⟨e, rfl, he⟩
  · cases e with
    | nil => simpa using he
    | cons y e =>
      simp only [List.cons_append, List.cons.injEq] at he
      simp [he.1] at hc
  · cases e with
    | nil => simpa using he.symm
    | cons y e =>
      simp only [List.cons_append, List.cons.injEq] at he
      simp [he.2] at hd

/-- So does one that stands there twice in a row. -/
theorem split_at_pair {a b c d : List Char} {x : Char} (h : a ++ x :: x :: b = c ++ x :: x :: d)
    (hc : x ∉ c) (hd : x ∉ d) : a = c ∧ b = d := by
  have count := congrArg (List.count x) h
  simp only [List.count_append, List.count_cons_self, List.count_eq_zero_of_not_mem hc,
    List.count_eq_zero_of_not_mem hd] at count
  have ha : x ∉ a := List.count_eq_zero.mp (by omega)
  rcases List.append_eq_append_iff.mp h with ⟨e, rfl, he⟩ | ⟨e, rfl, he⟩
  · cases e with
    | nil => simpa using he
    | cons y e =>
      simp only [List.cons_append, List.cons.injEq] at he
      simp [he.1] at hc
  · cases e with
    | nil => simpa using he.symm
    | cons y e =>
      simp only [List.cons_append, List.cons.injEq] at he
      simp [he.1] at ha

/-- The UTF-16 code units of a string. -/
def utf16Length (s : String) : Nat := s.toList.foldl (fun n c => n + if c.val < 0x10000 then 1 else 2) 0

/-- Every occurrence of `old`, searched from the left, gives way to `new`. The counter is what is
left to skip of the last one. -/
def replaceFrom (old new : List Char) : Nat → List Char → List Char
  | _, [] => []
  | skip + 1, _ :: rest => replaceFrom old new skip rest
  | 0, c :: rest =>
    if old.isPrefixOf (c :: rest) then new ++ replaceFrom old new (old.length - 1) rest
    else c :: replaceFrom old new 0 rest

def replace (s old new : String) : String :=
  String.ofList (replaceFrom old.toList new.toList 0 s.toList)

theorem toList_replace (s old new : String) :
    (replace s old new).toList = replaceFrom old.toList new.toList 0 s.toList :=
  String.toList_ofList

example : replace "A.B.Outer+A.B.Inner" "A.B" "ns" = "ns.Outer+ns.Inner" := by decide

theorem length_le_utf16Length (s : String) : s.toList.length ≤ utf16Length s := by
  have grows : ∀ (cs : List Char) (n : Nat),
      n + cs.length ≤ cs.foldl (fun n c => n + if c.val < 0x10000 then 1 else 2) n := by
    intro cs
    induction cs with
    | nil => exact fun n => Nat.le_refl n
    | cons c cs ih =>
      intro n
      rw [List.foldl_cons, List.length_cons]
      refine Nat.le_trans ?_ (ih _)
      split <;> omega
  simpa [utf16Length] using grows s.toList 0

theorem replaceFrom_skip (old new skipped rest : List Char) :
    replaceFrom old new skipped.length (skipped ++ rest) = replaceFrom old new 0 rest := by
  induction skipped with
  | nil => rfl
  | cons c skipped ih => exact ih

/-- An occurrence at the front gives way, and the search goes on behind it. -/
theorem replaceFrom_append {old : List Char} (some_ : old ≠ []) (new rest : List Char) :
    replaceFrom old new 0 (old ++ rest) = new ++ replaceFrom old new 0 rest := by
  obtain ⟨c, tail, rfl⟩ := List.exists_cons_of_ne_nil some_
  have front : (c :: tail).isPrefixOf (c :: (tail ++ rest)) = true := List.isPrefixOf_iff_prefix.mpr ⟨rest, rfl⟩
  rw [List.cons_append, replaceFrom, if_pos front]
  exact congrArg _ (replaceFrom_skip (c :: tail) new tail rest)

theorem replaceFrom_cons {old : List Char} {c : Char} (other : old.head? ≠ some c) (some_ : old ≠ [])
    (new rest : List Char) : replaceFrom old new 0 (c :: rest) = c :: replaceFrom old new 0 rest := by
  obtain ⟨d, tail, rfl⟩ := List.exists_cons_of_ne_nil some_
  have apart : ¬(d :: tail) <+: (c :: rest) := by
    intro h
    obtain ⟨rfl, _⟩ := List.cons_prefix_cons.mp h
    exact other rfl
  rw [replaceFrom, if_neg (by rwa [List.isPrefixOf_iff_prefix])]

/-- A word that is too short for an occurrence stays as it is. -/
theorem replaceFrom_short {old word : List Char} (short : word.length < old.length) (new : List Char) :
    replaceFrom old new 0 word = word := by
  induction word with
  | nil => rfl
  | cons c word ih =>
    have apart : ¬old <+: (c :: word) := fun h => absurd h.length_le (by omega)
    rw [replaceFrom, if_neg (by rwa [List.isPrefixOf_iff_prefix]), ih (by simp at short; omega)]

end Words
