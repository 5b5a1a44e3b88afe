import FourFours.Integer.Root

/-!
# The search for a square root

The rounded root told one round at a time, with the divisions and the corrections that
`floorRoot` does without. The search runs over the integers and divides by its iterate, so
it could come to a zero divisor, and it could go on for ever. The first iterate that has not
fallen ends the iteration. It is raised while the square of its successor does not exceed
the number, and then lowered while its own square does.
-/

namespace FourFours
namespace Integer

/-- A moment of the search for a square root. -/
inductive RootSearch
  /-- The number is given, and nothing is done yet. -/
  | begun
  /-- The iteration has come to `y`. -/
  | falling (y : Int)
  /-- The iteration is over, and what it has left is raised. -/
  | raising (z : Int)
  /-- What the iteration has left is lowered. -/
  | lowering (z : Int)
  /-- The root is found. -/
  | found (root : Int)
  deriving DecidableEq, Repr

namespace RootSearch

/-- The next moment of the search for the square root of `x`. There is none after a root is
found, and there is none where the next step divides by zero. -/
def next? (x : Int) : RootSearch → Option RootSearch
  | .begun =>
      if x ≤ 0 then some (.found 0)
      else some (.falling (twoPow ((bitLength x.natAbs + 1) / 2)))
  | .falling y =>
      if y = 0 then none
      else
        let next := (y + x.tdiv y) / 2
        some (if next < y then .falling next else .raising next)
  | .raising z => some (if (z + 1) * (z + 1) ≤ x then .raising (z + 1) else .lowering z)
  | .lowering z => some (if x < z * z then .lowering (z - 1) else .found z)
  | .found _ => none

end RootSearch

end Integer
end FourFours
