import FourFours.Fault
import FourFours.Radical.Text

/-!
# Enclosures, signs and truncated readings

An element over a tower is approximated by two integers that enclose it at a decimal
scale `10 ^ p`: every square root is enclosed by rounding outwards from the enclosure of
its radicand, every product and every coefficient likewise. The sign of an element, and
its value truncated to a number of decimals, are taken from an enclosure that leaves no
doubt. The scale is doubled until one does; a schedule that depends on the size of the
numbers says when to give up.
-/

namespace FourFours
namespace Radical

/-- Two integers that enclose a real number at some decimal scale. -/
structure Enclosure where
  low : Int
  high : Int
  deriving DecidableEq, Repr

namespace Enclosure

/-- The quotient of an integer by a positive one, rounded up. -/
def ceilDiv (a b : Int) : Int :=
  -(-a / b)

/-- The enclosure of a sum. -/
def add (x y : Enclosure) : Enclosure :=
  ⟨x.low + y.low, x.high + y.high⟩

/-- The enclosure of a product of nonnegative numbers at the scale `10 ^ p`. -/
def mul (p : Nat) (x y : Enclosure) : Enclosure :=
  ⟨x.low * y.low / Integer.tenPow p, ceilDiv (x.high * y.high) (Integer.tenPow p)⟩

/-- The enclosure of a number times a rational. -/
def scale (q : Rat) (x : Enclosure) : Enclosure :=
  if q.num < 0 then
    ⟨q.num * x.high / q.den, ceilDiv (q.num * x.low) q.den⟩
  else
    ⟨q.num * x.low / q.den, ceilDiv (q.num * x.high) q.den⟩

/-- The enclosure of the square root of a number that is known to be nonnegative. -/
def sqrt (p : Nat) (x : Enclosure) : Enclosure :=
  ⟨Integer.floorRoot (x.low.toNat * Integer.tenPow p),
    Integer.ceilRoot (x.high.toNat * Integer.tenPow p)⟩

/-- The enclosure of one at the scale `10 ^ p`. -/
def one (p : Nat) : Enclosure :=
  ⟨Integer.tenPow p, Integer.tenPow p⟩

/-- The enclosure of a term from those of the square roots it multiplies. -/
def ofTerm (p : Nat) (q : Rat) (roots : List Enclosure) : Enclosure :=
  (roots.foldl (mul p) (one p)).scale q

/-- The enclosure of a sum of terms. -/
def ofTerms (p : Nat) (terms : List (Rat × List Enclosure)) : Enclosure :=
  (terms.map fun (q, roots) => ofTerm p q roots).foldl add ⟨0, 0⟩

/-- The sign of every number in an enclosure, if they agree and none is zero. -/
def sign? (x : Enclosure) : Option Ordering :=
  if 0 < x.low then some .gt else if x.high < 0 then some .lt else none

end Enclosure

/-- The scales `start`, `2 * start`, `4 * start`, ... up to a cap at least `start`. -/
def scales (start cap : Nat) : List Nat :=
  (List.range ((cap / start).log2 + 1)).map fun i => start * Integer.twoPow i

/-- The part of the cap of a schedule that does not depend on the size of the numbers. -/
def commonScale : Nat := 8192

/-- The sign of a rational. -/
def rationalSign (q : Rat) : Ordering :=
  if q < 0 then .lt else if q = 0 then .eq else .gt

namespace Element

/-- The greatest number of binary digits of a numerator or denominator. -/
def bits {n : Nat} (x : Element n) : Nat :=
  ((x.coefficients.filter (· ≠ 0)).map fun q =>
    max (Integer.bitLength q.num.natAbs) (Integer.bitLength q.den)).foldl max 0

end Element

namespace Tower

/-- The enclosures of the square roots of a tower at the scale `10 ^ p`. -/
def rootEnclosures (p : Nat) : {n : Nat} → Tower n → Family Enclosure n
  | _, .base => .nil
  | _, .adjoin tower radicand _ =>
      let roots := tower.rootEnclosures p
      .snoc roots ((Enclosure.ofTerms p (radicand.terms roots)).sqrt p)

/-- The enclosure of an element at the scale `10 ^ p`. -/
def enclosure {n : Nat} (tower : Tower n) (p : Nat) (x : Element n) : Enclosure :=
  Enclosure.ofTerms p (x.terms (tower.rootEnclosures p))

/-- The greatest number of binary digits in the radicands of a tower. -/
def bits : {n : Nat} → Tower n → Nat
  | _, .base => 0
  | _, .adjoin tower radicand _ => max tower.bits radicand.bits

/-- The sign of an element. -/
def sign {n : Nat} (tower : Tower n) (x : Element n) : Except Fault Ordering :=
  match x.rational? with
  | some q => .ok (rationalSign q)
  | none =>
      match (scales 16 (commonScale + x.bits)).findSome? fun p =>
          (tower.enclosure (Integer.keptDecimals p) x).sign? with
      | some sign => .ok sign
      | none => .error (.internal (.undecidedSign (tower.text x)))

/-- The element of the two opposite ones that is not negative. -/
def nonnegative {n : Nat} (tower : Tower n) (x : Element n) :
    Except Fault (Element n) := do
  match ← tower.sign x with
  | .lt => return x.neg
  | _ => return x

/-- The integer part of a positive element at the scale of a number of digits, if the
enclosure with a number of guard digits settles it. -/
def truncation? {n : Nat} (tower : Tower n) (x : Element n) (digits guardDigits : Nat) :
    Option Int :=
  let x := tower.enclosure (Integer.keptDecimals (digits + guardDigits)) x
  let low := x.low / Integer.scaleUnit guardDigits
  let high := x.high / Integer.scaleUnit guardDigits
  if low = high then some low else none

/-- An element at the scale of a number of digits, truncated towards zero. -/
def truncate {n : Nat} (tower : Tower n) (x : Element n) (digits : Nat) :
    Except Fault Int :=
  match x.rational? with
  | some q => .ok ((q.num * Integer.scaleUnit digits).tdiv q.den)
  | none => do
      let negative := (← tower.sign x) == .lt
      let magnitude := if negative then x.neg else x
      match (scales 10 (commonScale + max tower.bits x.bits)).findSome?
          (tower.truncation? magnitude digits) with
      | some t => return if negative then -t else t
      | none => .error (.internal (.undecidedDigits (tower.text x)))

end Tower
end Radical
end FourFours
