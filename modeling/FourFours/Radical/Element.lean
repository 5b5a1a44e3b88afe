/-!
# Elements of a tower of square roots

An element of level `n` is a rational combination of the products of `n` square roots.
It is stored level by level: an element of level `n + 1` is a pair that stands for
`constant + slope * g`, where `g` is the last square root and both components have level
`n`. Addition, negation and multiplication by a rational do not depend on what the square
roots are; the operations that do are defined over a `Tower`.

`Family α n` holds one datum for each of the `n` square roots, in order.
-/

namespace FourFours
namespace Radical

/-- One datum for each of `n` square roots, the last one outermost. -/
inductive Family (α : Type) : Nat → Type
  | nil : Family α 0
  | snoc {n : Nat} (family : Family α n) (last : α) : Family α (n + 1)

namespace Family

/-- Apply a function to every datum. -/
def map {α β : Type} (f : α → β) : {n : Nat} → Family α n → Family β n
  | _, .nil => .nil
  | _, .snoc family last => .snoc (family.map f) (f last)

end Family

/-- A rational combination of the products of `n` square roots. -/
inductive Element : Nat → Type
  | rational (q : Rat) : Element 0
  | pair {n : Nat} (constant slope : Element n) : Element (n + 1)
  deriving DecidableEq

namespace Element

/-- The rational `q` as an element of level `n`. -/
def const : (n : Nat) → Rat → Element n
  | 0, q => .rational q
  | n + 1, q => .pair (const n q) (const n 0)

/-- The zero of level `n`. -/
def zero (n : Nat) : Element n :=
  const n 0

/-- The one of level `n`. -/
def one (n : Nat) : Element n :=
  const n 1

/-- Whether all coefficients of an element are zero. -/
def isZero : {n : Nat} → Element n → Bool
  | _, .rational q => q == 0
  | _, .pair a b => a.isZero && b.isZero

/-- The sum of two elements. -/
def add : {n : Nat} → Element n → Element n → Element n
  | _, .rational p, .rational q => .rational (p + q)
  | _, .pair a b, .pair c d => .pair (a.add c) (b.add d)

/-- The opposite of an element. -/
def neg : {n : Nat} → Element n → Element n
  | _, .rational q => .rational (-q)
  | _, .pair a b => .pair a.neg b.neg

/-- The difference of two elements. -/
def sub {n : Nat} (x y : Element n) : Element n :=
  x.add y.neg

/-- An element times a rational. -/
def scale (r : Rat) : {n : Nat} → Element n → Element n
  | _, .rational q => .rational (q * r)
  | _, .pair a b => .pair (a.scale r) (b.scale r)

/-- The element as a rational, if it uses no square root. -/
def rational? : {n : Nat} → Element n → Option Rat
  | _, .rational q => some q
  | _, .pair a b => if b.isZero then a.rational? else none

/-- An element as an element of the level `n`, which must not lie below its own. -/
def raise {m : Nat} (x : Element m) : (n : Nat) → Element n
  | 0 => if h : m = 0 then h ▸ x else zero 0
  | n + 1 => if h : m = n + 1 then h ▸ x else .pair (x.raise n) (zero n)

/-- The terms of an element with nonzero coefficient: each coefficient with the data of
the square roots it is multiplied by. -/
def terms {α : Type} : {n : Nat} → Element n → Family α n → List (Rat × List α)
  | _, .rational q, _ => if q = 0 then [] else [(q, [])]
  | _, .pair a b, .snoc family last =>
      a.terms family ++ (b.terms family).map fun (q, roots) => (q, roots ++ [last])

/-- The coefficients of an element, from the constant on. -/
def coefficients : {n : Nat} → Element n → List Rat
  | _, .rational q => [q]
  | _, .pair a b => a.coefficients ++ b.coefficients

end Element
end Radical
end FourFours
