import FourFours.CommandLine.Number
import FourFours.Proofs.Reading

/-!
# Written numbers

A number of 64 bits may be written with a sign and with zeros in front. Every such text is
read as the number, and the decimal text of a number is one of them.
-/

namespace FourFours
namespace CommandLine

/-- A target: an integer of 64 bits. -/
abbrev Target :=
  { n : Int // -2 ^ 63 ≤ n ∧ n < 2 ^ 63 }

/-- A run of decimal digits, possibly with zeros in front, and the number that it writes. -/
structure WritesDigits (n : Nat) (run : List Char) : Prop where
  nonempty : run ≠ []
  digits : ∀ c ∈ run, c.isDigit = true
  value : Nat.ofDigitChars 10 run 0 = n

/-- The texts of a count: digits, possibly behind a plus sign. -/
inductive WritesCount : Nat → String → Prop
  | plain {n : Nat} {run : List Char} : WritesDigits n run → WritesCount n (.ofList run)
  | signed {n : Nat} {run : List Char} : WritesDigits n run → WritesCount n (.ofList ('+' :: run))

/-- The texts of a target: those of a count, and digits behind a minus sign. -/
inductive WritesTarget : Int → String → Prop
  | count {n : Nat} {text : String} : WritesCount n text → WritesTarget n text
  | negative {n : Nat} {run : List Char} :
      WritesDigits n run → WritesTarget (-n) (.ofList ('-' :: run))

variable {n : Nat} {run : List Char} {text : String}

/-- The characters of the text of an integer: a minus sign or none, and digits. -/
theorem toList_toString (n : Int) :
    (toString n).toList = (if n < 0 then ['-'] else []) ++ Integer.digits n.natAbs := by
  rw [← Integer.text_eq_toString, Integer.text_eq_sign_append]
  split <;> simp

theorem digits_ne_nil (n : Nat) : Integer.digits n ≠ [] := by
  rw [Integer.digits_eq_toDigits]
  exact Nat.toDigits_ne_nil

theorem writesDigits_digits (n : Nat) : WritesDigits n (Integer.digits n) where
  nonempty := digits_ne_nil n
  digits _ member := Integer.isDigit_of_mem_digits member
  value := by rw [Integer.digits_eq_toDigits, Nat.ofDigitChars_ten_toDigits]

/-- The decimal text of a target is one of its texts. -/
theorem writesTarget_toString (n : Int) : WritesTarget n (toString n) := by
  have characters := toList_toString n
  rw [← String.ofList_toList (s := toString n), characters]
  split
  · rename_i negative
    have opposite : n = -(n.natAbs : Int) := by omega
    nth_rewrite 1 [opposite]
    exact .negative (writesDigits_digits n.natAbs)
  · rename_i nonnegative
    have same : n = (n.natAbs : Int) := by omega
    nth_rewrite 1 [same]
    exact .count (.plain (writesDigits_digits n.natAbs))

theorem WritesDigits.readDigits?_eq (written : WritesDigits n run) :
    readDigits? run = some n := by
  have digits : run.all Char.isDigit = true := List.all_eq_true.mpr written.digits
  rw [readDigits?, if_neg (by simp [written.nonempty, digits]), written.value]

/-- A run of digits begins with neither of the signs. -/
theorem WritesDigits.head_ne (written : WritesDigits n run) {c : Char} {rest : List Char}
    (begins : run = c :: rest) :
    c ≠ '+' ∧ c ≠ '-' := by
  have digit := written.digits c (by simp [begins])
  constructor <;> (rintro rfl; contradiction)

/-- A count of 64 bits is read from each of its texts. -/
theorem WritesCount.readCount?_eq (written : WritesCount n text) (fits : n < 2 ^ 64) :
    readCount? text = some n := by
  have within : n < Integer.twoPow 64 := by rwa [Integer.twoPow_eq]
  cases written with
  | signed written =>
      rw [readCount?, String.toList_ofList]
      simp only [written.readDigits?_eq]
      exact if_pos within
  | plain written =>
      rw [readCount?, String.toList_ofList]
      split
      · exact absurd rfl (written.head_ne rfl).1
      · simp only [written.readDigits?_eq]
        exact if_pos within

/-- A target is read from each of its texts. -/
theorem WritesTarget.readTarget?_eq
    {number : Int}
    (written : WritesTarget number text)
    (fits : -2 ^ 63 ≤ number ∧ number < 2 ^ 63) :
    readTarget? text = some number := by
  have within : -(Integer.twoPow 63 : Int) ≤ number ∧ number < Integer.twoPow 63 := by
    rwa [Integer.twoPow_eq, Nat.cast_pow, Nat.cast_ofNat]
  have accepted {found : Option Int} (read : found = some number) :
      (found.bind fun n =>
        if -(Integer.twoPow 63 : Int) ≤ n ∧ n < Integer.twoPow 63 then some n else none) =
        some number := by
    rw [read, Option.bind_some, if_pos within]
  cases written with
  | negative written =>
      rw [readTarget?, String.toList_ofList]
      exact accepted (by rw [written.readDigits?_eq]; rfl)
  | count written =>
      cases written with
      | signed written =>
          rw [readTarget?, String.toList_ofList]
          exact accepted (by rw [written.readDigits?_eq]; rfl)
      | plain written =>
          rw [readTarget?, String.toList_ofList]
          split
          · exact absurd rfl (written.head_ne rfl).2
          · exact absurd rfl (written.head_ne rfl).1
          · exact accepted (by rw [written.readDigits?_eq]; rfl)

/-- A target is read back from its decimal text. -/
theorem readTarget?_toString (target : Target) :
    readTarget? (toString target.val) = some target.val :=
  (writesTarget_toString target.val).readTarget?_eq target.property

end CommandLine
end FourFours
