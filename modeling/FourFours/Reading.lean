import FourFours.Integer.DivideOut
import FourFours.Radical.Value
import FourFours.Settings

/-!
# Decimal readings

The decimal text of an exact value. An integer is read as it is. A rational with a finite
expansion is read in full, unless the settings limit its length. Every other value is
truncated towards zero to the decimals of the settings, without zeros at its end. Where
more decimals would have to be padded than formatting allows, the program breaks down.
-/

namespace FourFours
namespace Reading

/-- The decimal text of an integer that counts units at the scale of a number of digits,
with exactly that many decimals. -/
def scaledText (n : Int) (digits : Nat) : String :=
  let sign := if n < 0 then "-" else ""
  let whole := Integer.text (n.natAbs / Integer.scaleUnit digits : Nat)
  if digits = 0 then
    sign ++ whole
  else
    let fraction := (Integer.digits (n.natAbs % Integer.scaleUnit digits)).leftpad digits '0'
    sign ++ whole ++ "." ++ String.ofList fraction

/-- A text without the zeros at the end of its decimals, and without a point that no
decimal follows. A text without a point stays as it is. -/
def withoutTrailingZeros (text : List Char) : List Char :=
  if text.contains '.' then
    ((text.reverse.dropWhile (· == '0')).dropWhile (· == '.')).reverse
  else
    text

/-- The number of decimals of the expansion of `1 / d`, if it ends. -/
def expansionLength? (d : Nat) : Option Nat :=
  let (twos, rest) := Integer.divideOut 2 d
  let (fives, rest) := Integer.divideOut 5 rest
  if rest = 1 then some (max twos fives) else none

/-- A rational at the scale of a number of digits, truncated towards zero. -/
def scaled (q : Rat) (digits : Nat) : Int :=
  (q.num * Integer.scaleUnit digits).tdiv q.den

/-- The text of a number truncated to some decimals, without zeros at its end. -/
def truncatedText (n : Int) (digits : Nat) : String :=
  String.ofList (withoutTrailingZeros (scaledText n digits).toList)

/-- The greatest width to which decimals are padded. A width is a number of 16 bits in the
formatting that is modelled here; one that takes wider widths would write longer texts. -/
def widthLimit : Nat := 65535

/-- Break down if decimals cannot be padded to a number of digits. -/
def checkWidth (digits : Nat) : Except Fault Unit :=
  if digits ≤ widthLimit then .ok () else .error (.breakdown .widthOutOfRange)

theorem checkWidth_then_eq_ok_iff {digits : Nat} {text reading : String} :
    (do checkWidth digits; return text) = Except.ok reading ↔
      digits ≤ widthLimit ∧ text = reading := by
  by_cases fits : digits ≤ widthLimit <;>
    simp [checkWidth, fits, bind, Except.bind, pure, Except.pure]

theorem checkWidth_then_eq_error_iff {digits : Nat} {text : String} {fault : Fault} :
    (do checkWidth digits; return text) = Except.error fault ↔
      widthLimit < digits ∧ fault = .breakdown .widthOutOfRange := by
  by_cases fits : digits ≤ widthLimit
  · simp [checkWidth, fits, Nat.not_lt.mpr fits, bind, Except.bind, pure, Except.pure]
  · simp [checkWidth, fits, Nat.lt_of_not_le fits, bind, Except.bind, eq_comm]

/-- Write an integer that counts units at the scale of a number of digits. -/
def printScaled (n : Int) (digits : Nat) : Except Fault String := do
  checkWidth digits
  return scaledText n digits

/-- Write a number truncated to some decimals. -/
def printTruncated (n : Int) (digits : Nat) : Except Fault String := do
  checkWidth digits
  return truncatedText n digits

/-- The reading of a rational that is no integer and is not read in full. -/
def truncated (settings : Settings) (q : Rat) : Except Fault String :=
  printTruncated (scaled q settings.readingDigits) settings.readingDigits

/-- The reading of a rational. -/
def ofRat (settings : Settings) (q : Rat) : Except Fault String :=
  if q.den = 1 then
    .ok (Integer.text q.num)
  else
    match expansionLength? q.den with
    | some digits =>
        if digits ≤ settings.exactDigits then
          printScaled (scaled q digits) digits
        else
          truncated settings q
    | none => truncated settings q

/-- The reading of a value. -/
def ofValue (settings : Settings) (v : Radical.Value) : Except Fault String :=
  match v.rational? with
  | some q => ofRat settings q
  | none => do
      let n ← v.truncate settings.readingDigits
      if n = 0 then
        return "0"
      else
        printTruncated n settings.readingDigits

end Reading
end FourFours
