import FourFours.Proofs.Reading.Reread

/-!
# Scaled numbers read back

A number that counts units at the scale of some digits is written with its sign, its whole part
and exactly that many decimals, the zeros at their end included. That text is a numeral, though
not a plain one: it is an expression again, and its value counts the same units. So the text
determines the number. Only more decimals than can be padded are not written at all.
-/

namespace FourFours
namespace Reading

open Integer Radical

namespace Numeral

/-- The numeral of a number at the scale of some digits, with all its decimals. -/
def padded (n : Int) (digits : Nat) : Numeral where
  negative := n < 0
  whole := Integer.digits (n.natAbs / 10 ^ digits)
  fraction := lastDigits digits n.natAbs

variable (n : Int) (digits : Nat)

/-- A number is written as its numeral, as long as a scale can count the decimals. -/
theorem text_padded {digits : Nat} (fits : digits < 2 ^ 32) :
    (padded n digits).text = scaledText n digits := by
  have whole : wholeText n digits =
      (if n < 0 then "-" else "") ++ String.ofList (Integer.digits (n.natAbs / 10 ^ digits)) := by
    rw [wholeText, scaleUnit_of_lt fits]
  apply String.toList_injective
  by_cases integral : digits = 0
  · subst integral
    rw [scaledText_zero, whole, text, String.ofList_append]
    simp [padded, pointed, lastDigits]
  · have nonempty : lastDigits digits n.natAbs ≠ [] := by
      rw [← List.length_pos_iff, length_lastDigits]
      omega
    have fraction : (padded n digits).fraction = lastDigits digits n.natAbs := rfl
    rw [toList_scaledText_of_lt integral fits, whole, text, fraction, pointed, if_neg nonempty,
      String.ofList_append]
    simp [padded]

theorem isProper_padded : (padded n digits).IsProper where
  digits := by
    intro c member
    rcases List.mem_append.mp member with whole | fraction
    · exact isDigit_of_mem_digits whole
    · exact isDigit_of_mem_lastDigits fraction
  whole_ne_nil := by
    rw [padded, digits_eq_toDigits]
    exact Nat.toDigits_ne_nil

/-- All digits of a number denote it up to its sign. -/
theorem size_padded : (padded n digits).size = n.natAbs := by
  rw [size, Nat.ofDigitChars_append, Nat.ofDigitChars_eq_ofDigitChars_zero]
  simp only [padded, digits_eq_toDigits, Nat.ofDigitChars_ten_toDigits, ofDigitChars_lastDigits,
    length_lastDigits, Nat.div_add_mod]

/-- The numeral of a number denotes it. -/
theorem value_padded : (padded n digits).value = n / 10 ^ digits := by
  have length : (padded n digits).fraction.length = digits := length_lastDigits _ _
  have negative : (padded n digits).negative = decide (n < 0) := rfl
  have signed : (if n < 0 then -(n.natAbs : Int) else n.natAbs) = n := by
    split <;> omega
  simp only [value, size_padded, length, negative, decide_eq_true_eq, signed]

end Numeral

/-- The text of a scaled number is an expression, and its value is the number. So no two numbers
share a text. Only numbers with more decimals than can be padded have no text. -/
theorem read_printScaled (n : Int) {digits : Nat} (padded : digits ≤ widthLimit) :
    ∃ text, printScaled n digits = .ok text ∧
      (∃ x, Expr.read text = .ok x ∧
        ∀ settings, x.value settings = .ok (.ofRat (n / 10 ^ digits))) ∧
      ∀ m, printScaled m digits = .ok text → m = n := by
  have fits := lt_of_le_widthLimit padded
  have proper (n : Int) := Numeral.isProper_padded n digits
  have short : (Numeral.padded n digits).fraction.length < 2 ^ 32 := by
    rwa [Numeral.padded, length_lastDigits]
  refine ⟨scaledText n digits, checkWidth_then_eq_ok_iff.mpr ⟨padded, rfl⟩,
    ⟨(Numeral.padded n digits).sentence.meaning, ?_, fun settings => ?_⟩, fun m same => ?_⟩
  · rw [← Numeral.text_padded n fits]
    exact (proper n).read_text
  · rw [(proper n).value_sentence short, Numeral.value_padded]
  · obtain ⟨-, same⟩ := checkWidth_then_eq_ok_iff.mp same
    rw [← Numeral.text_padded m fits, ← Numeral.text_padded n fits] at same
    have values := congrArg Numeral.value ((proper m).eq_of_text (proper n) same)
    have unit : (10 : Rat) ^ digits ≠ 0 := by positivity
    rwa [Numeral.value_padded, Numeral.value_padded, div_left_inj' unit, Int.cast_inj] at values

/-- A negative number smaller than a unit keeps its sign in front of the zeros. -/
theorem read_printScaled_minusFiveThousandths :
    3 ≤ widthLimit ∧ printScaled (-5) 3 = .ok "-0.005" ∧
      (∃ x, Expr.read "-0.005" = .ok x ∧ x.value .standard = .ok (.ofRat (-5 / 10 ^ 3))) ∧
      ∀ m, printScaled m 3 = .ok "-0.005" → m = -5 := by
  have padded : 3 ≤ widthLimit := by decide
  have printed : printScaled (-5) 3 = .ok "-0.005" := by decide +kernel
  obtain ⟨text, printed', ⟨x, read, valued⟩, unique⟩ := read_printScaled (-5) padded
  obtain rfl : "-0.005" = text := Except.ok.inj (printed.symm.trans printed')
  exact ⟨padded, printed, ⟨x, read, valued .standard⟩, unique⟩

/-- One unit at the scale of 65536 digits is not written: so many decimals cannot be padded. -/
theorem printScaled_one_breaksDown :
    printScaled 1 65536 = .error (.breakdown .widthOutOfRange) :=
  checkWidth_then_eq_error_iff.mpr ⟨by decide, rfl⟩

end Reading
end FourFours
