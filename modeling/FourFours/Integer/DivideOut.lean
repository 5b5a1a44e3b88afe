/-!
# Dividing out a factor

A number divided by another as often as the division leaves no remainder.
-/

namespace FourFours
namespace Integer

/-- Divide `m` by `p` as often as possible: the number of divisions and the cofactor. -/
def divideOut (p m : Nat) : Nat × Nat :=
  if _ : 1 < p ∧ 0 < m ∧ m % p = 0 then
    let (count, cofactor) := divideOut p (m / p)
    (count + 1, cofactor)
  else
    (0, m)
termination_by m
decreasing_by exact Nat.div_lt_self (by omega) (by omega)

end Integer
end FourFours
