import FourFours.Integer.Power

/-!
# Integer square roots

The square root of a natural number rounded down, rounded up, and exactly. The rounded
root is found by Newton's iteration from a power of two above it; the iterates fall
until they reach the root.
-/

namespace FourFours
namespace Integer

/-- The number of binary digits of a natural number; zero has none. -/
def bitLength (n : Nat) : Nat :=
  if n = 0 then 0 else n.log2 + 1

/-- Newton's iteration for the square root of `x` from a start `y`, as long as it
falls. -/
def descend (x y : Nat) : Nat :=
  let next := (y + x / y) / 2
  if next < y then descend x next else y
termination_by y

/-- The square root of a natural number, rounded down. -/
def floorRoot (x : Nat) : Nat :=
  if x = 0 then 0 else descend x (twoPow ((bitLength x + 1) / 2))

/-- The square root of a natural number, rounded up. -/
def ceilRoot (x : Nat) : Nat :=
  let root := floorRoot x
  if root * root = x then root else root + 1

/-- The square root of a perfect square. -/
def exactRoot? (x : Nat) : Option Nat :=
  let root := floorRoot x
  if root * root = x then some root else none

end Integer
end FourFours
