import FourFours.Proofs.Reading
import Mathlib.Data.List.DropRight

/-!
# Decimal numerals

A number that counts units at the scale of some decimals is written as a plain numeral: no
zero stands in front of another digit, no zero ends the decimals, and zero has no sign. The
numeral denotes that number exactly.
-/

namespace FourFours

namespace Integer

@[simp] theorem length_lastDigits (m n : Nat) : (lastDigits m n).length = m := by
  induction m generalizing n with
  | zero => rfl
  | succ m ih => rw [lastDigits, List.length_append, ih, List.length_singleton]

theorem isDigit_of_mem_lastDigits
    {m n : Nat}
    {c : Char}
    (member : c ∈ lastDigits m n) :
    c.isDigit = true := by
  induction m generalizing n with
  | zero => exact absurd member List.not_mem_nil
  | succ m ih =>
      rw [lastDigits, List.mem_append, List.mem_singleton] at member
      rcases member with earlier | rfl
      · exact ih earlier
      · rw [Nat.isDigit_digitChar, decide_eq_true_eq]
        exact Nat.mod_lt n (by omega)

/-- The last digits of a number denote its remainder. -/
theorem ofDigitChars_lastDigits (m n : Nat) :
    Nat.ofDigitChars 10 (lastDigits m n) 0 = n % 10 ^ m := by
  induction m generalizing n with
  | zero => simp [lastDigits, Nat.mod_one]
  | succ m ih =>
      rw [lastDigits, Nat.ofDigitChars_append, ih,
        Nat.ofDigitChars_cons_digitChar_of_lt_ten (Nat.mod_lt n (by omega)),
        Nat.ofDigitChars_nil, Nat.pow_succ', Nat.mod_mul, Nat.add_comm]

theorem lastDigits_zero_eq_replicate (m : Nat) : lastDigits m 0 = List.replicate m '0' := by
  induction m with
  | zero => rfl
  | succ m ih => rw [lastDigits, Nat.zero_div, ih, List.replicate_succ']; rfl

/-- The digits of a number with zeros in front of them are its last digits. -/
theorem leftpad_digits {m n : Nat} (decimals : m ≠ 0) (below : n < 10 ^ m) :
    (digits n).leftpad m '0' = lastDigits m n := by
  rw [digits_eq_toDigits]
  induction m generalizing n with
  | zero => contradiction
  | succ m ih =>
      by_cases short : n < 10
      · rw [Nat.toDigits_of_lt_base short, lastDigits, Nat.div_eq_of_lt short,
          Nat.mod_eq_of_lt short, lastDigits_zero_eq_replicate, List.leftpad,
          List.length_singleton, Nat.add_sub_cancel]
      · have leading : n / 10 < 10 ^ m := by
          rwa [Nat.div_lt_iff_lt_mul (by omega), ← Nat.pow_succ]
        have more : m ≠ 0 := by
          rintro rfl
          omega
        rw [Nat.toDigits_of_base_le (by omega) (Nat.le_of_not_lt short), lastDigits,
          ← ih more leading]
        simp [List.leftpad]

/-- Only the number 0 has the digit 0 in front. -/
theorem eq_zero_of_head?_digits {n : Nat} (leading : (digits n).head? = some '0') : n = 0 := by
  rw [digits_eq_toDigits] at leading
  induction n using Nat.strong_induction_on with
  | h n ih =>
      by_cases short : n < 10
      · rw [Nat.toDigits_of_lt_base short] at leading
        simpa using leading
      · rw [Nat.toDigits_of_base_le (by omega) (Nat.le_of_not_lt short),
          List.head?_append_of_ne_nil _ Nat.toDigits_ne_nil] at leading
        have quotient := ih (n / 10) (Nat.div_lt_self (by omega) (by omega)) leading
        omega

end Integer

namespace Reading

open Integer

/-- A decimal numeral: a sign, the digits in front of the point and those behind it. -/
structure Numeral where
  negative : Bool
  whole : List Char
  fraction : List Char
  deriving DecidableEq

namespace Numeral

/-- The text of a numeral, with a point only in front of decimals. -/
def text (numeral : Numeral) : String :=
  (if numeral.negative then "-" else "") ++
    String.ofList (numeral.whole ++ pointed numeral.fraction)

/-- The number that all digits of a numeral denote together. -/
def size (numeral : Numeral) : Nat :=
  Nat.ofDigitChars 10 (numeral.whole ++ numeral.fraction) 0

/-- The number that a numeral denotes. -/
def value (numeral : Numeral) : Rat :=
  (if numeral.negative then -numeral.size else numeral.size : Int) /
    10 ^ numeral.fraction.length

/-- Whether a numeral is written plainly: digits stand in front of the point, none of its
zeros can be left out, and zero has no sign. -/
structure IsPlain (numeral : Numeral) : Prop where
  digits : ∀ c ∈ numeral.whole ++ numeral.fraction, c.isDigit = true
  whole_ne_nil : numeral.whole ≠ []
  leading : numeral.whole.head? = some '0' → numeral.whole = ['0']
  trailing : numeral.fraction.getLast? ≠ some '0'
  signed : numeral.negative = true → numeral.value ≠ 0

/-- Whether a numeral can be typed in: it has digits in front of the point, and nothing but
digits. -/
structure IsProper (numeral : Numeral) : Prop where
  digits : ∀ c ∈ numeral.whole ++ numeral.fraction, c.isDigit = true
  whole_ne_nil : numeral.whole ≠ []

theorem IsPlain.isProper {numeral : Numeral} (plain : numeral.IsPlain) : numeral.IsProper :=
  ⟨plain.digits, plain.whole_ne_nil⟩

/-- The point tells the digits in front of it from those behind it. -/
theorem append_pointed_inj
    {whole whole' fraction fraction' : List Char}
    (pointless : '.' ∉ whole)
    (pointless' : '.' ∉ whole')
    (same : whole ++ pointed fraction = whole' ++ pointed fraction') :
    whole = whole' ∧ fraction = fraction' := by
  have inFront {whole : List Char} (pointless : '.' ∉ whole) (fraction : List Char) :
      (whole ++ pointed fraction).takeWhile (· != '.') = whole := by
    have kept : ∀ c ∈ whole, (c != '.') = true := fun c member =>
      bne_iff_ne.mpr fun point => pointless (point ▸ member)
    have stopped : (pointed fraction).takeWhile (· != '.') = [] := by
      rw [pointed]
      split <;> simp
    rw [List.takeWhile_append_of_pos kept, stopped, List.append_nil]
  have wholes := inFront pointless fraction
  rw [same, inFront pointless' fraction'] at wholes
  subst wholes
  have fractions := List.append_cancel_left same
  refine ⟨rfl, ?_⟩
  rw [pointed, pointed] at fractions
  split at fractions <;> split at fractions <;> simp_all

/-- Numerals are told apart by their texts. -/
theorem IsProper.eq_of_text
    {numeral numeral' : Numeral}
    (proper : numeral.IsProper)
    (proper' : numeral'.IsProper)
    (same : numeral.text = numeral'.text) :
    numeral = numeral' := by
  have notDigit {c : Char} (other : c.isDigit = false) {numeral : Numeral}
      (proper : numeral.IsProper) : c ∉ numeral.whole := by
    intro member
    rw [proper.digits c (List.mem_append_left _ member)] at other
    contradiction
  have point : '.' ∉ numeral.whole := notDigit rfl proper
  have point' : '.' ∉ numeral'.whole := notDigit rfl proper'
  have minus : '-' ∉ numeral.whole := notDigit rfl proper
  have minus' : '-' ∉ numeral'.whole := notDigit rfl proper'
  have nonempty := proper.whole_ne_nil
  have nonempty' := proper'.whole_ne_nil
  obtain ⟨negative, whole, fraction⟩ := numeral
  obtain ⟨negative', whole', fraction'⟩ := numeral'
  have characters := congrArg String.toList same
  simp only [text, String.toList_append, String.toList_ofList] at characters
  obtain ⟨c, rest, rfl⟩ := List.exists_cons_of_ne_nil nonempty
  obtain ⟨c', rest', rfl⟩ := List.exists_cons_of_ne_nil nonempty'
  -- the first character tells whether there is a sign
  have signs : negative = negative' := by
    cases negative <;> cases negative' <;> simp_all
  subst signs
  obtain ⟨wholes, fractions⟩ :=
    append_pointed_inj point point' (List.append_cancel_left characters)
  exact Numeral.mk.injEq .. ▸ ⟨rfl, wholes, fractions⟩

/-- The numeral of a number that counts units at the scale of some decimals. -/
def ofScaled (n : Int) (decimals : Nat) : Numeral where
  negative := n < 0
  whole := Integer.digits (n.natAbs / 10 ^ decimals)
  fraction := (lastDigits decimals n.natAbs).rdropWhile (· == '0')

/-- All digits of a scaled number denote it once the zeros at its end are written. -/
theorem tenPow_mul_size_ofScaled (n : Int) (decimals : Nat) :
    ∃ zeros, (ofScaled n decimals).fraction.length + zeros = decimals ∧
      10 ^ zeros * (ofScaled n decimals).size = n.natAbs := by
  have split := List.rdropWhile_append_rtakeWhile (p := (· == '0'))
    (l := lastDigits decimals n.natAbs)
  have dropped : (lastDigits decimals n.natAbs).rtakeWhile (· == '0') =
      List.replicate ((lastDigits decimals n.natAbs).rtakeWhile (· == '0')).length '0' :=
    List.eq_replicate_of_mem fun c member => by simpa using List.mem_rtakeWhile_imp member
  generalize (lastDigits decimals n.natAbs).rtakeWhile (· == '0') = zeros at split dropped
  have lengths := congrArg List.length split
  rw [List.length_append, length_lastDigits] at lengths
  refine ⟨zeros.length, lengths, ?_⟩
  have remainder := ofDigitChars_lastDigits decimals n.natAbs
  rw [← split, dropped, Nat.ofDigitChars_append, Nat.ofDigitChars_replicate_zero] at remainder
  rw [size, Nat.ofDigitChars_append, Nat.ofDigitChars_eq_ofDigitChars_zero]
  simp only [ofScaled] at remainder lengths ⊢
  rw [digits_eq_toDigits, Nat.ofDigitChars_ten_toDigits, Nat.mul_add, remainder,
    ← Nat.mul_assoc, ← Nat.pow_add, Nat.add_comm zeros.length, lengths, Nat.div_add_mod]

theorem length_fraction_ofScaled_le (n : Int) (decimals : Nat) :
    (ofScaled n decimals).fraction.length ≤ decimals := by
  have kept := (List.rdropWhile_prefix (· == '0') (l := lastDigits decimals n.natAbs)).length_le
  rwa [length_lastDigits] at kept

/-- The numeral of a scaled number denotes it. -/
theorem value_ofScaled (n : Int) (decimals : Nat) :
    (ofScaled n decimals).value = n / 10 ^ decimals := by
  obtain ⟨zeros, lengths, size⟩ := tenPow_mul_size_ofScaled n decimals
  have signed : 10 ^ zeros * (if (ofScaled n decimals).negative then
      -(ofScaled n decimals).size else (ofScaled n decimals).size : Int) = n := by
    have absolute : (10 ^ zeros * (ofScaled n decimals).size : Int) = n.natAbs := by
      exact_mod_cast size
    by_cases negative : n < 0
    · rw [if_pos (by simpa [ofScaled] using negative)]
      rw [mul_neg, absolute]
      omega
    · rw [if_neg (by simpa [ofScaled] using negative), absolute]
      omega
  have signedRat := congrArg (Int.cast : Int → Rat) signed
  rw [Int.cast_mul, Int.cast_pow, Int.cast_ofNat] at signedRat
  have scale : (10 : Rat) ^ decimals = 10 ^ (ofScaled n decimals).fraction.length * 10 ^ zeros := by
    rw [← pow_add, lengths]
  rw [value, scale, ← signedRat, mul_comm (10 ^ zeros : Rat)]
  exact (mul_div_mul_right _ _ (pow_ne_zero zeros (by norm_num : (10 : Rat) ≠ 0))).symm

/-- The numeral of a scaled number is plain. -/
theorem isPlain_ofScaled (n : Int) (decimals : Nat) : (ofScaled n decimals).IsPlain where
  digits := by
    intro c member
    rcases List.mem_append.mp member with whole | fraction
    · exact isDigit_of_mem_digits whole
    · exact isDigit_of_mem_lastDigits ((List.rdropWhile_prefix _ _).subset fraction)
  whole_ne_nil := by
    rw [ofScaled, digits_eq_toDigits]
    exact Nat.toDigits_ne_nil
  leading := by
    intro zero
    have whole := eq_zero_of_head?_digits zero
    simp only [ofScaled, whole]
    decide
  trailing := by
    intro zero
    have nonempty : (ofScaled n decimals).fraction ≠ [] := by
      intro empty
      simp [empty] at zero
    rw [List.getLast?_eq_some_getLast nonempty, Option.some.injEq] at zero
    exact List.rdropWhile_last_not _ _ nonempty (beq_iff_eq.mpr zero)
  signed := by
    intro negative
    rw [value_ofScaled]
    have nonzero : n ≠ 0 := by
      rintro rfl
      simp [ofScaled] at negative
    positivity

/-- The last decimal of a numeral is kept if the scaled number does not end in a zero. -/
theorem fraction_ofScaled
    {n : Int}
    (ends : ¬(10 : Int) ∣ n)
    (decimals : Nat) :
    (ofScaled n decimals).fraction = lastDigits decimals n.natAbs := by
  rw [ofScaled, List.rdropWhile_eq_self_iff]
  intro nonempty
  cases decimals with
  | zero => exact absurd rfl nonempty
  | succ decimals =>
      simp only [lastDigits, List.getLast_append_singleton, beq_iff_eq, Nat.digitChar_eq_zero]
      omega

variable {n : Int} {decimals : Nat}

theorem text_ofScaled (fits : decimals < 2 ^ 32) :
    (ofScaled n decimals).text =
      wholeText n decimals ++ String.ofList (pointed (ofScaled n decimals).fraction) := by
  rw [text, wholeText, scaleUnit_of_lt fits, String.ofList_append, ← String.append_assoc]
  simp [ofScaled]

/-- The numeral without decimals is the text of an integer. -/
theorem text_ofScaled_zero (m : Int) : (ofScaled m 0).text = Integer.text m := by
  have whole := wholeText_mul m 0
  rw [show m * (scaleUnit 0 : Nat) = m from mul_one m] at whole
  rw [text_ofScaled (by omega), whole]
  exact String.append_empty

/-- The text of zero is the same with any decimals. -/
theorem text_ofScaled_of_zero (decimals : Nat) : (ofScaled 0 decimals).text = "0" := by
  have zero : ofScaled 0 decimals = ofScaled 0 0 := by
    have zeros : (lastDigits decimals 0).rdropWhile (· == '0') = [] := by
      rw [List.rdropWhile_eq_nil_iff, lastDigits_zero_eq_replicate]
      simp
    simp only [ofScaled, Int.natAbs_zero, Nat.zero_div, zeros]
    rfl
  rw [zero, text_ofScaled_zero]
  decide

theorem toList_scaledText_of_lt (some : decimals ≠ 0) (fits : decimals < 2 ^ 32) :
    (scaledText n decimals).toList =
      (wholeText n decimals).toList ++ '.' :: lastDigits decimals n.natAbs := by
  rw [toList_scaledText n some, scaleUnit_of_lt fits,
    leftpad_digits some (Nat.mod_lt _ (by positivity)), lastDigits_mod]

/-- A truncated number is read as its numeral. -/
theorem truncatedText_eq_text (fits : decimals < 2 ^ 32) :
    truncatedText n decimals = (ofScaled n decimals).text := by
  apply String.toList_injective
  rw [truncatedText, String.toList_ofList]
  by_cases integral : decimals = 0
  · subst integral
    rw [scaledText_zero, withoutTrailingZeros,
      if_neg (by simpa using point_not_mem_wholeText n 0), text_ofScaled fits]
    exact congrArg String.toList String.append_empty.symm
  · have pointless : '.' ∉ lastDigits decimals n.natAbs := by
      intro member
      have digit := isDigit_of_mem_lastDigits member
      contradiction
    rw [toList_scaledText_of_lt integral fits,
      withoutTrailingZeros_append (point_not_mem_wholeText n decimals) pointless,
      text_ofScaled fits, String.toList_append, String.toList_ofList, ofScaled]

/-- A number that does not end in a zero is read with all its decimals. -/
theorem scaledText_eq_text
    (some : decimals ≠ 0)
    (fits : decimals < 2 ^ 32)
    (ends : ¬(10 : Int) ∣ n) :
    scaledText n decimals = (ofScaled n decimals).text := by
  apply String.toList_injective
  have nonempty : lastDigits decimals n.natAbs ≠ [] := by
    rw [← List.length_pos_iff, length_lastDigits]
    omega
  rw [toList_scaledText_of_lt some fits, text_ofScaled fits, fraction_ofScaled ends, pointed,
    if_neg nonempty, String.toList_append, String.toList_ofList]

end Numeral
end Reading
end FourFours
