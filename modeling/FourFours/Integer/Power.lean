/-!
# Powers of two and ten

The powers that serve as limits and as decimal scales. A scale keeps its number of
decimals in 32 bits: beyond that many it counts modulo `2 ^ 32`.
-/

namespace FourFours
namespace Integer

/-- The power of two with a given exponent. -/
def twoPow (k : Nat) : Nat :=
  Nat.pow 2 k

/-- The power of ten with a given exponent, 1 followed by that many zeros. -/
def tenPow (k : Nat) : Nat :=
  Nat.pow 10 k

/-- The number of decimals that a scale keeps of the number asked for. -/
def keptDecimals (decimals : Nat) : Nat :=
  decimals % twoPow 32

/-- The number of units in one at the scale with a number of decimals. -/
def scaleUnit (decimals : Nat) : Nat :=
  tenPow (keptDecimals decimals)

theorem keptDecimals_le (decimals : Nat) : keptDecimals decimals ≤ decimals :=
  Nat.mod_le _ _

theorem scaleUnit_pos (decimals : Nat) : 0 < scaleUnit decimals :=
  Nat.pow_pos (by omega)

end Integer
end FourFours
