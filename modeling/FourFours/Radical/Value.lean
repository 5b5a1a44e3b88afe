import FourFours.Integer.SquareFactor
import FourFours.Radical.Enclosure

/-!
# Exact values

A value is an element together with the tower it lives over. A tower is kept as short as
possible: a last square root that the element does not use is dropped. Two values are
combined over a common tower, which begins with the tower of the left one; the square
roots of the right one are looked up in it and adjoined when they are not there.
-/

namespace FourFours
namespace Radical

/-- The most square roots in a tower. -/
def radicalLimit : Nat := 8

/-- An exact real number. -/
structure Value where
  {level : Nat}
  tower : Tower level
  element : Element level

/-- Fail with an evaluation fault. -/
def fail {α : Type} (cause : EvaluationFault) : Except Fault α :=
  .error (.inEvaluation cause)

namespace Tower

/-- The first square roots of a tower, as many as asked for. -/
def restrict {n : Nat} (tower : Tower n) (m : Nat) : Option (Tower m) :=
  if h : n = m then
    some (h ▸ tower)
  else
    match tower with
    | .base => none
    | .adjoin tower _ _ => tower.restrict m

/-- Whether the square roots of two towers are the same, one by one: introduced by the
same worksheet entry with the same radicand. -/
def same : {n : Nat} → Tower n → Tower n → Bool
  | _, .base, .base => true
  | _, .adjoin tower radicand origin, .adjoin tower' radicand' origin' =>
      tower.same tower' && origin.isSome && origin == origin' && radicand == radicand'

/-- Whether a tower consists of the first square roots of another. -/
def isInitial {m n : Nat} (short : Tower m) (long : Tower n) : Bool :=
  match long.restrict m with
  | some tower => short.same tower
  | none => false

/-- Ascribe the square roots without an origin to a worksheet entry. -/
def ascribe (entry : Nat) : {n : Nat} → Tower n → Tower n
  | _, .base => .base
  | _, .adjoin tower radicand origin =>
      .adjoin (tower.ascribe entry) radicand (origin.or (some entry))

end Tower

/-- Two elements over a common tower. -/
structure Pair where
  {level : Nat}
  tower : Tower level
  left : Element level
  right : Element level

/-- A tower that extends the one of a left element and contains an image for each of `m`
square roots. -/
structure Extension (m : Nat) where
  {level : Nat}
  tower : Tower level
  left : Element level
  images : Family (Element level) m

namespace Extension

/-- Adjoin a square root that becomes the image of the next one. -/
def adjoin {m : Nat} (extension : Extension m) (radicand : Element extension.level) :
    Extension (m + 1) :=
  let n := extension.level
  { tower := .adjoin extension.tower radicand none
    left := .pair extension.left (.zero n)
    images := .snoc (extension.images.map fun x => .pair x (.zero n))
      (.pair (.zero n) (.one n)) }

/-- Take an element that is already there as the image of the next square root. -/
def identify {m : Nat} (extension : Extension m) (image : Element extension.level) :
    Extension (m + 1) :=
  { tower := extension.tower
    left := extension.left
    images := .snoc extension.images image }

end Extension

namespace Value

/-- The value of an element without the last square roots it does not use. -/
def trim : {n : Nat} → Tower n → Element n → Value
  | _, .base, x => ⟨.base, x⟩
  | _, .adjoin tower radicand origin, .pair a b =>
      if b.isZero then trim tower a else ⟨.adjoin tower radicand origin, .pair a b⟩

/-- The value of a rational. -/
def ofRat (q : Rat) : Value :=
  ⟨.base, .rational q⟩

/-- The value of an integer. -/
def ofInt (n : Int) : Value :=
  ofRat n

/-- The value 0. -/
def zero : Value :=
  ofRat 0

/-- The value 1. -/
def one : Value :=
  ofRat 1

/-- Whether a value is zero. -/
def isZero (v : Value) : Bool :=
  v.element.isZero

/-- The value as a rational, if it is one. -/
def rational? (v : Value) : Option Rat :=
  v.element.rational?

/-- The value as an integer, if it is one. -/
def integer? (v : Value) : Option Int := do
  let q ← v.rational?
  if q.den = 1 then some q.num else none

/-- The number of binary digits of the greatest numerator or denominator, radicands
included. -/
def bits (v : Value) : Nat :=
  max v.tower.bits v.element.bits

/-- The exact form of a value. -/
def text (v : Value) : String :=
  v.tower.text v.element

/-- Re-express the square roots of a second tower over the tower of a value, from the
first on. A root that is there already becomes the nonnegative element it equals, any
other is adjoined. -/
def extend (v : Value) : {m : Nat} → Tower m → Except Fault (Extension m)
  | _, .base => .ok ⟨v.tower, v.element, .nil⟩
  | _, .adjoin tower radicand _ => do
      let extension ← v.extend tower
      let radicand := extension.tower.substitute radicand extension.images
      match extension.tower.sqrt? radicand with
      | some root => return extension.identify (← extension.tower.nonnegative root)
      | none =>
          if radicalLimit ≤ extension.level then
            fail .tooManyRadicals
          else
            return extension.adjoin radicand

/-- Bring two values over a common tower, by re-expressing the roots of the right one. -/
def merge (v w : Value) : Except Fault Pair := do
  let extension ← v.extend w.tower
  return { tower := extension.tower
           left := extension.left
           right := extension.tower.substitute w.element extension.images }

/-- Bring two values over a common tower. If the roots of one are the first roots of the
other, the longer tower serves both as it is. -/
def unify (v w : Value) : Except Fault Pair :=
  if w.tower.isInitial v.tower then
    .ok ⟨v.tower, v.element, w.element.raise v.level⟩
  else if v.tower.isInitial w.tower then
    .ok ⟨w.tower, v.element.raise w.level, w.element⟩
  else
    merge v w

/-- The opposite of a value. -/
def neg (v : Value) : Value :=
  ⟨v.tower, v.element.neg⟩

/-- The sum of two values. -/
def add (v w : Value) : Except Fault Value := do
  let pair ← unify v w
  return trim pair.tower (pair.left.add pair.right)

/-- The difference of two values. -/
def sub (v w : Value) : Except Fault Value :=
  v.add w.neg

/-- The product of two values. -/
def mul (v w : Value) : Except Fault Value := do
  let pair ← unify v w
  return trim pair.tower (pair.tower.mul pair.left pair.right)

/-- A value times a rational. -/
def scale (v : Value) (q : Rat) : Value :=
  trim v.tower (v.element.scale q)

/-- The inverse of a value. -/
def inverse (v : Value) : Except Fault Value :=
  if v.isZero then
    fail .divisionByZero
  else
    match v.tower.inverse? v.element with
    | some x => .ok (trim v.tower x)
    | none => .error (.internal (.noInverse v.text))

/-- The quotient of two values. -/
def div (v w : Value) : Except Fault Value := do
  if w.isZero then
    fail .divisionByZero
  else
    v.mul (← w.inverse)

/-- The power of a value with an integer exponent. -/
def pow (v : Value) (e : Int) : Except Fault Value := do
  if e = 0 then
    if v.isZero then fail .zeroToZero else return one
  else
    let base ← if e < 0 then v.inverse else pure v
    return trim base.tower (base.tower.pow base.element e.natAbs)

/-- The sign of a value. -/
def sign (v : Value) : Except Fault Ordering :=
  v.tower.sign v.element

/-- A value at the scale of a number of digits, truncated towards zero. -/
def truncate (v : Value) (digits : Nat) : Except Fault Int :=
  v.tower.truncate v.element digits

/-- The value of a new square root of a value that has none over its own tower. The root
of a rational `n / d` is `k / d` times that of `s`, where `n d = k² s`. -/
def adjoinRoot (v : Value) : Value :=
  match v.rational? with
  | some q =>
      let split := Integer.splitSquare (q.num.natAbs * q.den)
      ⟨.adjoin v.tower (.const v.level split.rest) none,
        .pair (.zero v.level) (.const v.level (mkRat split.root q.den))⟩
  | none => ⟨.adjoin v.tower v.element none, .pair (.zero v.level) (.one v.level)⟩

/-- The nonnegative square root of a value. -/
def sqrt (v : Value) : Except Fault Value := do
  match ← v.sign with
  | .lt => fail .negativeRoot
  | .eq => return zero
  | .gt =>
      match v.tower.sqrt? v.element with
      | some root => return trim v.tower (← v.tower.nonnegative root)
      | none =>
          if radicalLimit ≤ v.level then
            fail .tooManyRadicals
          else
            return v.adjoinRoot

/-- The nonnegative square root of a rational. -/
def sqrtRat (q : Rat) : Except Fault Value :=
  (ofRat q).sqrt

/-- Whether two values are equal: their difference can be formed and is zero. -/
def equals (v w : Value) : Bool :=
  match v.sub w with
  | .ok difference => difference.isZero
  | .error _ => false

/-- Ascribe the square roots that a calculation introduced to a worksheet entry. -/
def ascribe (v : Value) (entry : Nat) : Value :=
  ⟨v.tower.ascribe entry, v.element⟩

end Value
end Radical
end FourFours
