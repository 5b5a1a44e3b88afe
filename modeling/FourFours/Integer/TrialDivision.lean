import FourFours.Integer.SquareFactor

/-!
# Trial division round by round

The split of a number into a square and a cofactor, told one division at a time and one
divisor at a time. Nothing here bounds how often a divisor is divided out, so the division
of zero would go on for ever.
-/

namespace FourFours
namespace Integer

/-- A moment of the split of a number. -/
inductive TrialDivision
  /-- The number `m` is given, and nothing is done yet. -/
  | begun (m : Nat)
  /-- The divisor `p` is the next to be tried on what is left. -/
  | trying (p : Nat) (split : SquareSplit) (m : Nat)
  /-- The divisor `p` has been divided out a number of times, with `m` left. The count is
  not bounded here: one of 32 bits runs over only if `p ^ 2 ^ 32` divides what was given. -/
  | dividing (p count : Nat) (split : SquareSplit) (m : Nat)
  /-- The number is split. -/
  | ended (split : SquareSplit)
  deriving DecidableEq, Repr

namespace TrialDivision

/-- The greatest number that is tried as a divisor. -/
def limit : Nat :=
  10000

/-- The divisor to be tried after `p`: 3 after 2, and then every other number. -/
def nextDivisor (p : Nat) : Nat :=
  p + if p = 2 then 1 else 2

/-- A split with a power of `p` put into it. -/
def takePower (p count : Nat) (split : SquareSplit) : SquareSplit :=
  ⟨split.root * Nat.pow p (count / 2),
    if count % 2 = 1 then split.rest * p else split.rest⟩

/-- A split with what trial division has left put into it. -/
def close (split : SquareSplit) (m : Nat) : SquareSplit :=
  if m = 1 then
    split
  else
    match exactRoot? m with
    | some root => ⟨split.root * root, split.rest⟩
    | none => ⟨split.root, split.rest * m⟩

/-- The next moment of a split, and none after its end. -/
def next? : TrialDivision → Option TrialDivision
  | .begun m =>
      if m = 0 then some (.ended ⟨0, 1⟩)
      else
        match exactRoot? m with
        | some root => some (.ended ⟨root, 1⟩)
        | none => some (.trying 2 ⟨1, 1⟩ m)
  | .trying p split m =>
      if p ≤ limit ∧ p * p ≤ m then some (.dividing p 0 split m)
      else some (.ended (close split m))
  | .dividing p count split m =>
      if m % p = 0 then some (.dividing p (count + 1) split (m / p))
      else some (.trying (nextDivisor p) (takePower p count split) m)
  | .ended _ => none

end TrialDivision

end Integer
end FourFours
