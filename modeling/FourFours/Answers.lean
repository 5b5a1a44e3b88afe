import FourFours.Answers.Table

/-!
# Known answers

The look-up of an expression with four fours for a target.
-/

namespace FourFours
namespace Answers

/-- The least target of the table. -/
def least : Int := 0

/-- The greatest target of the table. -/
def greatest : Int := 3000

/-- The entry of the table for a target in its range. -/
def entry (target : Nat) : String :=
  ((rows.getD (target / rowLength) "").splitOn " ").getD (target % rowLength) "?"

/-- A known expression for a target. -/
def known? (target : Int) : Option String :=
  if least ≤ target ∧ target ≤ greatest then
    let expression := entry target.toNat
    if expression = "?" then none else some expression
  else
    none

/-- The targets of the table without a known expression. -/
def missing : List Int :=
  [2227, 2379, 2459, 2587, 2617, 2669, 2867, 2879, 2933]

end Answers
end FourFours
