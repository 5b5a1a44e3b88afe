import FourFours.Integer.Digits
import FourFours.Radical.Tower

/-!
# Exact form

The text of an element over a tower: its terms with their signs, each a rational factor
and the square roots it multiplies, every root written with its radicand.
-/

namespace FourFours
namespace Radical

/-- A rational as an integer or as a fraction in lowest terms. -/
def rationalText (q : Rat) : String :=
  if q.den = 1 then Integer.text q.num
  else Integer.text q.num ++ "/" ++ Integer.text q.den

/-- The factors of a term with positive coefficient. A coefficient of 1 is left out when
a square root follows. -/
def factorTexts (coefficient : Rat) (roots : List String) : List String :=
  if roots.isEmpty || coefficient ≠ 1 then
    rationalText coefficient :: roots
  else
    roots

/-- A term without its sign. -/
def termText (coefficient : Rat) (roots : List String) : String :=
  "*".intercalate (factorTexts coefficient.abs roots)

/-- The terms after the first, each with its sign. -/
def laterTermTexts : List (Rat × List String) → String
  | [] => ""
  | (q, roots) :: terms =>
      (if q < 0 then "-" else "+") ++ termText q roots ++ laterTermTexts terms

/-- The sum of some terms; the sign of a positive first term is left out. -/
def sumText : List (Rat × List String) → String
  | [] => "0"
  | (q, roots) :: terms =>
      (if q < 0 then "-" else "") ++ termText q roots ++ laterTermTexts terms

namespace Tower

/-- The texts of the square roots of a tower. -/
def rootTexts : {n : Nat} → Tower n → Family String n
  | _, .base => .nil
  | _, .adjoin tower radicand _ =>
      let texts := tower.rootTexts
      .snoc texts ("sqrt(" ++ sumText (radicand.terms texts) ++ ")")

/-- The exact form of an element. -/
def text {n : Nat} (tower : Tower n) (x : Element n) : String :=
  sumText (x.terms tower.rootTexts)

end Tower
end Radical
end FourFours
