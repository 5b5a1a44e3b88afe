import FourFours.Calculator

/-!
# Superfluous brackets

A pair of brackets is superfluous if the text without it still has the same decimal
reading. Superfluous pairs are dropped one at a time, the pair that closes first before
the others, until none is left.
-/

namespace FourFours
namespace Brackets

/-- The pairs of matching brackets of a text as positions, in the order in which they
close. The text begins at position `i`, and the brackets at the given positions, the
innermost first, are still open. -/
def pairsFrom (i : Nat) (opened : List Nat) : List Char → List (Nat × Nat)
  | [] => []
  | '(' :: text => pairsFrom (i + 1) (i :: opened) text
  | ')' :: text =>
      match opened with
      | o :: opened => (o, i) :: pairsFrom (i + 1) opened text
      | [] => pairsFrom (i + 1) [] text
  | _ :: text => pairsFrom (i + 1) opened text

/-- The pairs of matching brackets of a text, in the order in which they close. -/
def pairs (text : List Char) : List (Nat × Nat) :=
  pairsFrom 0 [] text

/-- A text without the characters at the two positions of a pair. -/
def without (text : List Char) (pair : Nat × Nat) : List Char :=
  (text.eraseIdx pair.2).eraseIdx pair.1

/-- The decimal reading of a text with the standard settings. -/
def reading (text : List Char) : Except Fault String :=
  Calculator.evaluate .standard (String.ofList text)

/-- Whether a text has a given reading. -/
def hasReading (reference : String) (text : List Char) : Bool :=
  match reading text with
  | .ok result => result == reference
  | .error _ => false

/-- A text without its first superfluous pair of brackets. -/
def dropOne? (reference : String) (text : List Char) : Option (List Char) :=
  ((pairs text).map (without text)).find? (hasReading reference)

/-- The positions of a pair lie inside the text. -/
theorem snd_lt_of_mem_pairsFrom
    {i : Nat}
    {opened : List Nat}
    {text : List Char}
    {pair : Nat × Nat}
    (mem : pair ∈ pairsFrom i opened text) :
    pair.2 < i + text.length := by
  fun_induction pairsFrom i opened text with
  | case1 => simp at mem
  | case2 i opened text ih =>
      have := ih mem
      simp only [List.length_cons]
      omega
  | case3 i text o opened ih =>
      simp only [List.length_cons]
      rcases List.mem_cons.1 mem with rfl | mem
      · simp
      · have := ih mem
        omega
  | case4 i text ih =>
      have := ih mem
      simp only [List.length_cons]
      omega
  | case5 i opened c text _ _ ih =>
      have := ih mem
      simp only [List.length_cons]
      omega

/-- Dropping a pair shortens the text. -/
theorem length_lt_of_dropOne?
    {reference : String}
    {text shorter : List Char}
    (dropped : dropOne? reference text = some shorter) :
    shorter.length < text.length := by
  obtain ⟨pair, mem, rfl⟩ := List.mem_map.1 (List.mem_of_find?_eq_some dropped)
  have inside : pair.2 < text.length := by
    simpa using snd_lt_of_mem_pairsFrom mem
  have first : (text.eraseIdx pair.2).length = text.length - 1 :=
    List.length_eraseIdx_of_lt inside
  have second := List.length_eraseIdx_le (text.eraseIdx pair.2) pair.1
  simp only [without]
  omega

/-- A text without superfluous brackets. -/
def dropAll (reference : String) (text : List Char) : List Char :=
  match _ : dropOne? reference text with
  | some shorter => dropAll reference shorter
  | none => text
termination_by text.length
decreasing_by exact length_lt_of_dropOne? (by assumption)

/-- A typed text without its superfluous brackets. -/
def simplify (text : String) : Except Fault String := do
  let reference ← reading text.toList
  return String.ofList (dropAll reference text.toList)

end Brackets
end FourFours
