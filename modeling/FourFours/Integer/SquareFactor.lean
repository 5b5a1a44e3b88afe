import FourFours.Integer.DivideOut
import FourFours.Integer.Root

/-!
# Square factors

A positive number is split into a square and a cofactor by trial division. The cofactor
has no square factor `p * p` with a prime `p` up to the last trial divisor, and it is 1
if the number is a perfect square; a square of a greater prime may remain in it.
-/

namespace FourFours
namespace Integer

/-- A number written as `root * root * rest`. -/
structure SquareSplit where
  root : Nat
  rest : Nat
  deriving DecidableEq, Repr

namespace SquareSplit

/-- The number that a split stands for. -/
def value (split : SquareSplit) : Nat :=
  split.root * split.root * split.rest

end SquareSplit

/-- The trial divisors: 2 and the odd numbers from 3 to 9999. -/
def trialDivisors : List Nat :=
  2 :: (List.range 4999).map fun i => 2 * i + 3

/-- Move the prime powers found by trial division from `m` into a split. The divisors
are tried in order while their square does not exceed what is left of `m`. How often one
divides is counted without a bound; 32 bits are enough unless `p ^ 2 ^ 32` divides `m`. -/
def sift : List Nat → SquareSplit → Nat → SquareSplit × Nat
  | [], split, m => (split, m)
  | p :: divisors, split, m =>
      if m < p * p then
        (split, m)
      else
        let (count, cofactor) := divideOut p m
        sift divisors
          ⟨split.root * Nat.pow p (count / 2), split.rest * Nat.pow p (count % 2)⟩ cofactor

/-- Put what trial division has left into a split. -/
def absorb (split : SquareSplit) (m : Nat) : SquareSplit :=
  match exactRoot? m with
  | some root => ⟨split.root * root, split.rest⟩
  | none => ⟨split.root, split.rest * m⟩

/-- Split a positive number into a square and a cofactor. -/
def splitSquare (m : Nat) : SquareSplit :=
  match exactRoot? m with
  | some root => ⟨root, 1⟩
  | none =>
      let (split, remaining) := sift trialDivisors ⟨1, 1⟩ m
      absorb split remaining

end Integer
end FourFours
