import FourFours.Integer.Power

/-!
# Sums of monomials

An element over some square roots can be stored flat, as the sum of its monomials with nonzero
coefficient. A monomial is named by its mask: the bit `i` of the mask tells whether the square
root `i` is a factor. Sums are multiplied one monomial at a time, and a monomial one square
root at a time, from its first square root to its last. A square root that meets itself is
replaced by its radicand, which is then multiplied by what is left of the monomial.

Nothing here asks that a radicand uses only earlier square roots. If some radicand does not,
the calls may go on for ever, so the products are told for each depth of nested calls.
-/

namespace FourFours
namespace Radical

open Integer (twoPow)

/-- Monomials with their coefficients, by ascending masks. -/
abbrev Monomials := List (Rat × Nat)

namespace Monomials

/-- A sum with a nonzero multiple of a monomial added. What cancels is removed. -/
def insertTerm (q : Rat) (mask : Nat) : Monomials → Monomials
  | [] => [(q, mask)]
  | (p, m) :: rest =>
      if m < mask then
        (p, m) :: insertTerm q mask rest
      else if m = mask then
        if p + q = 0 then rest else (p + q, m) :: rest
      else
        (q, mask) :: (p, m) :: rest

/-- A sum with a multiple of a monomial added. -/
def accumulate (sum : Monomials) (q : Rat) (mask : Nat) : Monomials :=
  if q = 0 then sum else insertTerm q mask sum

/-- The sum of two sums. -/
def add (left right : Monomials) : Monomials :=
  right.foldl (fun sum term => accumulate sum term.1 term.2) left

/-- A sum times a rational. -/
def scale (sum : Monomials) (q : Rat) : Monomials :=
  if q = 0 then [] else sum.map fun term => (term.1 * q, term.2)

/-- The sum as a rational, if it uses no square root. -/
def rational? : Monomials → Option Rat
  | [] => some 0
  | [(q, mask)] => if mask = 0 then some q else none
  | _ => none

/-- A sum times a square root. The square root is put into the terms without it. A term with it
is replaced, given its coefficient and the mask of its other square roots. -/
def mulRoot? (root : Nat) (replace : Rat → Nat → Option Monomials) (sum : Monomials) :
    Option Monomials :=
  sum.foldlM (fun total term =>
    if term.2.testBit root then do
      return add total (← replace term.1 (term.2 ^^^ twoPow root))
    else
      return accumulate total term.1 (term.2 ||| twoPow root)) []

/-- A sum times a monomial, where the square root `i` has the radicand listed at `i`. The sum is
multiplied by the square roots of the monomial before the last one, and then by the last one.
There is no product if the calls nest deeper than allowed. -/
def mulMonomial? (radicands : List Monomials) : Nat → Monomials → Nat → Option Monomials
  | 0, _, _ => none
  | depth + 1, sum, mask =>
      if mask = 0 then
        some sum
      else do
        let last := mask.log2
        let before ← mulMonomial? radicands depth sum (mask ^^^ twoPow last)
        mulRoot? last (fun q rest => do
          mulMonomial? radicands depth (scale (← radicands[last]?) q) rest) before

/-- The product of two sums, if no calls nest deeper than allowed. -/
def mul? (radicands : List Monomials) (depth : Nat) (left right : Monomials) :
    Option Monomials :=
  match rational? right, rational? left with
  | some q, _ => some (scale left q)
  | none, some q => some (scale right q)
  | none, none =>
      right.foldlM (fun total term => do
        return add total (← mulMonomial? radicands depth (scale left term.1) term.2)) []

end Monomials
end Radical
end FourFours
