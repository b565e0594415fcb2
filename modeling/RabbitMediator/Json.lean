import Mathlib.Data.Nat.Basic

/-- A JSON document. An object has its properties in the order of the text. `checked` says that the writer has
looked at its depth before each element, as it does not in an array or a `List` of primitives. -/
inductive Json
  | null
  | bool (b : Bool)
  | number (text : String)
  | string (text : String)
  | array (checked : Bool) (elements : List Json)
  | object (properties : List (String × Json))

namespace Json

def ofString : Option String → Json
  | none => .null
  | some text => .string text

mutual

/-- The objects and arrays inside each other, which is what a reader counts. -/
def nesting : Json → Nat
  | .array _ elements => nestingOfElements elements + 1
  | .object properties => nestingOfProperties properties + 1
  | _ => 0

def nestingOfElements : List Json → Nat
  | [] => 0
  | j :: js => max j.nesting (nestingOfElements js)

def nestingOfProperties : List (String × Json) → Nat
  | [] => 0
  | (_, j) :: properties => max j.nesting (nestingOfProperties properties)

end

mutual

/-- What a writer needs of its depth. A property that is null needs nothing, a checked element always does. -/
def height : Json → Nat
  | .null => 0
  | .bool _ | .number _ | .string _ => 1
  | .array true elements => heightOfElements elements + 1
  | .array false elements => nestingOfElements elements + 1
  | .object properties => heightOfProperties properties + 1

def heightOfElements : List Json → Nat
  | [] => 0
  | j :: js => max (max 1 j.height) (heightOfElements js)

def heightOfProperties : List (String × Json) → Nat
  | [] => 0
  | (_, j) :: properties => max j.height (heightOfProperties properties)

end

mutual

/-- What was written is not too deep for a reader with the same limit. -/
theorem nesting_le_height : ∀ j : Json, j.nesting ≤ j.height
  | .null | .bool _ | .number _ | .string _ => Nat.zero_le _
  | .array true elements => by
    have := nestingOfElements_le elements
    simp only [nesting, height]
    omega
  | .array false elements => by simp only [nesting, height, Nat.le_refl]
  | .object properties => by
    have := nestingOfProperties_le properties
    simp only [nesting, height]
    omega

theorem nestingOfElements_le : ∀ js : List Json, nestingOfElements js ≤ heightOfElements js
  | [] => Nat.zero_le _
  | j :: js => by
    have first := nesting_le_height j
    have rest := nestingOfElements_le js
    simp only [nestingOfElements, heightOfElements]
    omega

theorem nestingOfProperties_le : ∀ ps : List (String × Json), nestingOfProperties ps ≤ heightOfProperties ps
  | [] => Nat.zero_le _
  | (_, j) :: ps => by
    have first := nesting_le_height j
    have rest := nestingOfProperties_le ps
    simp only [nestingOfProperties, heightOfProperties]
    omega

end

theorem heightOfProperties_le_iff {ps : List (String × Json)} {n : Nat} :
    heightOfProperties ps ≤ n ↔ ∀ p ∈ ps, p.2.height ≤ n := by
  induction ps with
  | nil => simp [heightOfProperties]
  | cons p ps ih =>
    rw [List.forall_mem_cons, ← ih]
    simp only [heightOfProperties]
    omega

theorem height_ofString (text : Option String) : (ofString text).height ≤ 1 := by
  cases text with
  | none => exact Nat.zero_le 1
  | some => exact Nat.le_refl 1

end Json
