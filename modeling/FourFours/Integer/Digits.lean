import FourFours.Integer.Power

/-!
# Decimal digits

The decimal digits of a natural number. A long number is cut in two halves of equal
length again and again, which takes far fewer steps on large numbers than dividing by
ten.
-/

namespace FourFours
namespace Integer

/-- The last `2 ^ k` digits of a number, with zeros in front if it is shorter. -/
def digitBlock : Nat → Nat → List Char
  | 0, n => [Nat.digitChar (n % 10)]
  | k + 1, n =>
      let unit := tenPow (twoPow k)
      digitBlock k (n / unit) ++ digitBlock k (n % unit)

/-- The digits of a number below `10 ^ 2 ^ k`. -/
def digitsBelow : Nat → Nat → List Char
  | 0, n => [Nat.digitChar (n % 10)]
  | k + 1, n =>
      let unit := tenPow (twoPow k)
      if n < unit then digitsBelow k n
      else digitsBelow k (n / unit) ++ digitBlock k (n % unit)

/-- The decimal digits of a natural number. -/
def digits (n : Nat) : List Char :=
  digitsBelow (n.log2.log2 + 1) n

/-- An integer in decimal. -/
def text (n : Int) : String :=
  if n < 0 then String.ofList ('-' :: digits n.natAbs)
  else String.ofList (digits n.natAbs)

end Integer
end FourFours
