import FourFours.Integer.Root
import FourFours.Radical.Element

/-!
# Towers of square roots

A tower of height `n` lists `n` square roots, each of an element over the square roots
before it. Over a tower the elements of level `n` multiply: the square of a root is its
radicand. If every radicand is a positive number with no square root below it, the
elements form a field of real numbers, in which an element is inverted by its conjugate
and square roots are searched for level by level.
-/

namespace FourFours
namespace Radical

/-- A tower of `n` square roots. -/
inductive Tower : Nat → Type
  | base : Tower 0
  /-- A tower with one more square root. The origin is the worksheet entry that
  introduced the root; the root of a single calculation has none. -/
  | adjoin {n : Nat} (tower : Tower n) (radicand : Element n) (origin : Option Nat) :
      Tower (n + 1)

namespace Tower

/-- The product of two elements: `(a + b g) (c + d g) = (a c + b d r) + (a d + b c) g`
with `r` the radicand of `g`. -/
def mul : {n : Nat} → Tower n → Element n → Element n → Element n
  | _, .base, .rational p, .rational q => .rational (p * q)
  | n + 1, .adjoin tower radicand _, .pair a b, .pair c d =>
      if a.isZero && b.isZero || c.isZero && d.isZero then
        .zero (n + 1)
      else
        .pair
          ((tower.mul a c).add (tower.mul (tower.mul b d) radicand))
          ((tower.mul a d).add (tower.mul b c))

/-- The norm `a² - b² r` of the element `a + b g`. -/
def norm {n : Nat} (tower : Tower n) (radicand a b : Element n) : Element n :=
  (tower.mul a a).sub (tower.mul (tower.mul b b) radicand)

/-- The inverse of an element, by its conjugate; zero has none. -/
def inverse? : {n : Nat} → Tower n → Element n → Option (Element n)
  | _, .base, .rational q => if q = 0 then none else some (.rational q⁻¹)
  | n + 1, .adjoin tower radicand _, .pair a b =>
      if b.isZero then do
        let inverse ← tower.inverse? a
        return .pair inverse (.zero n)
      else do
        let inverse ← tower.inverse? (tower.norm radicand a b)
        return .pair (tower.mul a inverse) (tower.mul b.neg inverse)

/-- The nonnegative square root of a rational, if it is rational. -/
def rationalRoot? (q : Rat) : Option Rat :=
  if q < 0 then
    none
  else do
    let numerator ← Integer.exactRoot? q.num.toNat
    let denominator ← Integer.exactRoot? q.den
    return mkRat numerator denominator

/-- A square root of an element among the elements of the same level, of either sign.

If `(u + v g)² = a + b g` then `u² + v² r = a` and `2 u v = b`. For `b = 0` one of `u` and
`v` is zero, so the root is that of `a` or `g` times that of `a / r`. Otherwise
`u² = (a ± s) / 2` with `s² = a² - b² r`, and `v = b / (2 u)`. -/
def sqrt? : {n : Nat} → Tower n → Element n → Option (Element n)
  | _, .base, .rational q => (rationalRoot? q).map .rational
  | n + 1, .adjoin tower radicand _, .pair a b =>
      if b.isZero then
        if a.isZero then
          some (.zero (n + 1))
        else
          match tower.sqrt? a with
          | some u => some (.pair u (.zero n))
          | none => do
              let inverse ← tower.inverse? radicand
              let v ← tower.sqrt? (tower.mul a inverse)
              return .pair (.zero n) v
      else do
        let s ← tower.sqrt? (tower.norm radicand a b)
        match completeRoot tower b (tower.sqrt? ((a.add s).scale (1 / 2))) with
        | some root => some root
        | none => completeRoot tower b (tower.sqrt? ((a.sub s).scale (1 / 2)))
where
  /-- The square root `u + v g` with a given nonzero `u`, where `2 u v = b`. -/
  completeRoot {n : Nat} (tower : Tower n) (b : Element n) (u : Option (Element n)) :
      Option (Element (n + 1)) := do
    let u ← u
    if u.isZero then
      none
    else
      let inverse ← tower.inverse? u
      return .pair u ((tower.mul b inverse).scale (1 / 2))

/-- The power of an element with a natural exponent, by repeated squaring. -/
def pow {n : Nat} (tower : Tower n) (x : Element n) (e : Nat) : Element n :=
  if e = 0 then
    .one n
  else if e = 1 then
    x
  else
    let half := tower.pow (tower.mul x x) (e / 2)
    if e % 2 = 0 then half else tower.mul half x
termination_by e

/-- Replace every square root of an element of level `m` by an element over a tower. -/
def substitute {n : Nat} (tower : Tower n) :
    {m : Nat} → Element m → Family (Element n) m → Element n
  | _, .rational q, _ => .const n q
  | _, .pair a b, .snoc images image =>
      (tower.substitute a images).add (tower.mul (tower.substitute b images) image)

end Tower
end Radical
end FourFours
