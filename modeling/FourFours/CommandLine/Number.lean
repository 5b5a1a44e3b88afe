import FourFours.Integer.Power

/-!
# Numbers on the command line

Machine integers as they are typed: an optional sign and decimal digits. A number that
does not fit into 64 bits is refused.
-/

namespace FourFours
namespace CommandLine

/-- The number written by a nonempty run of decimal digits. -/
def readDigits? (run : List Char) : Option Nat :=
  if run.isEmpty || !run.all Char.isDigit then none else some (Nat.ofDigitChars 10 run 0)

/-- A nonnegative number below `2 ^ 64`; a plus sign may stand in front. -/
def readCount? (text : String) : Option Nat := do
  let n ← match text.toList with
    | '+' :: run => readDigits? run
    | run => readDigits? run
  if n < Integer.twoPow 64 then some n else none

/-- A number from `-2 ^ 63` up to but not including `2 ^ 63`; a sign may stand in
front. -/
def readTarget? (text : String) : Option Int := do
  let n ← match text.toList with
    | '-' :: run => (readDigits? run).map fun n => -(n : Int)
    | '+' :: run => (readDigits? run).map fun n => (n : Int)
    | run => (readDigits? run).map fun n => (n : Int)
  if -(Integer.twoPow 63 : Int) ≤ n ∧ n < Integer.twoPow 63 then some n else none

end CommandLine
end FourFours
