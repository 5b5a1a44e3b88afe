import FourFours.Radical.Value
import FourFours.Settings

/-!
# Evaluation

The exact value of a tree, computed from its leaves upwards. Triangular numbers and
factorials take natural numbers, exponents are integers, and the settings limit their
size and that of a power before it is computed.
-/

namespace FourFours

open Radical (Value fail)

/-- The exact value of a decimal literal: `f / u` for a fraction `f` that ends and
`f / (u - 1)` for one that repeats, plus the whole part. The unit `u` is that of the scale
with as many decimals as the fraction has digits, `10 ^ k` for `k` digits as long as the
scale can count them. A fraction that repeats has no denominator where the scale counts
none of its digits. -/
def Decimal.value (d : Decimal) : Except Fault Rat :=
  if d.fraction.isEmpty || !d.fraction.all Char.isDigit then
    .error (.internal (.badDecimal d))
  else
    let unit := Integer.scaleUnit d.fraction.length
    let denominator := if d.repeating then unit - 1 else unit
    if denominator = 0 then
      .error (.breakdown .zeroDenominator)
    else
      let numerator : Int := Nat.ofDigitChars 10 d.fraction 0
      .ok (mkRat numerator denominator + d.whole.getD 0)

/-- The number of decimal digits of a natural number. -/
def digitCount (n : Nat) : Nat :=
  (Integer.digits n).length

/-- The factorial of a natural number. -/
def factorial : Nat → Nat
  | 0 => 1
  | n + 1 => (n + 1) * factorial n

/-- The value as a natural number of limited length, as the operand of an operation. -/
def naturalOperand (op : Unary) (limit : Nat) (v : Value) : Except Fault Nat :=
  match v.integer? with
  | some (.ofNat n) => if limit < digitCount n then fail (.operandTooLarge op) else .ok n
  | _ => fail (.notNatural op)

/-- The triangular number of a value. -/
def triangularOf (settings : Settings) (v : Value) : Except Fault Value := do
  let n ← naturalOperand .triangular settings.triangularDigits v
  return .ofInt (n * (n + 1) / 2)

/-- The factorial of a value; its operand has to fit into 64 bits. -/
def factorialOf (settings : Settings) (v : Value) : Except Fault Value := do
  let n ← naturalOperand .factorial settings.factorialDigits v
  if n < Integer.twoPow 64 then
    return .ofInt (factorial n)
  else
    .error (.internal (.factorialRange n))

/-- Whether the powers of a value stay as small as the value: it is 0, 1 or -1. -/
def hasSmallPowers (v : Value) : Bool :=
  match v.integer? with
  | some n => n.natAbs ≤ 1
  | none => false

/-- The estimated size, in bits, of a power. It is capped at the greatest number of
64 bits. -/
def powerSize (base : Value) (exponent : Int) : Nat :=
  min (base.bits * exponent.natAbs) (Integer.twoPow 64 - 1)

/-- Whether an exponent fits into 64 bits with its sign. -/
def fitsExponent (e : Int) : Bool :=
  -(Integer.twoPow 63 : Int) ≤ e && e < Integer.twoPow 63

/-- The power of a value. -/
def powerOf (settings : Settings) (base exponent : Value) : Except Fault Value :=
  match exponent.integer? with
  | none => fail .exponentNotInteger
  | some e =>
      if settings.exponentDigits < digitCount e.natAbs || !fitsExponent e then
        fail .exponentTooLarge
      else if !hasSmallPowers base && settings.powerBits < powerSize base e then
        fail .resultTooLarge
      else
        base.pow e

/-- The value of an operation on one value. -/
def Unary.apply (settings : Settings) : Unary → Value → Except Fault Value
  | .triangular, v => triangularOf settings v
  | .factorial, v => factorialOf settings v
  | .root, v => v.sqrt
  | .negate, v => .ok v.neg

namespace Expr

/-- The exact value of a tree. -/
def value (settings : Settings) : Expr → Except Fault Value
  | integer n => .ok (.ofInt n)
  | decimal d => d.value.map .ofRat
  | unary op x => do op.apply settings (← x.value settings)
  | node op [] => .error (.internal (.noOperand op))
  | node .sum (x :: xs) => do addAll settings (← Value.zero.add (← x.value settings)) xs
  | node .product (x :: xs) => do
      multiplyAll settings (← Value.one.mul (← x.value settings)) xs
  | node .quotient [x, y] => do
      let numerator ← x.value settings
      numerator.div (← y.value settings)
  | node .power [x, y] => do
      let base ← x.value settings
      powerOf settings base (← y.value settings)
  | node op xs => .error (.internal (.operandCount op xs.length))
where
  /-- Add the values of several trees to a value, from left to right. -/
  addAll (settings : Settings) (total : Value) : List Expr → Except Fault Value
    | [] => .ok total
    | x :: xs => do addAll settings (← total.add (← x.value settings)) xs
  /-- Multiply a value by the values of several trees, from left to right. -/
  multiplyAll (settings : Settings) (total : Value) : List Expr → Except Fault Value
    | [] => .ok total
    | x :: xs => do multiplyAll settings (← total.mul (← x.value settings)) xs

end Expr
end FourFours
