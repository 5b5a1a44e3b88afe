import FourFours.Proofs.Grammar.Spelling
import FourFours.Proofs.Meaning
import FourFours.Proofs.Reading.Decimal

/-!
# A reading is its own reading

A numeral is an expression again, and its value is the number that it denotes. A
result that is typed in is therefore read as it stands: it is an integer, or its decimals are
within one of the two limits that gave it its length.
-/

namespace FourFours
namespace Reading

open Integer Grammar Radical

variable {settings : Settings}

namespace Numeral

/-- The literal of a numeral without its sign. -/
def literal (numeral : Numeral) : Literal :=
  if numeral.fraction = [] then .integer numeral.whole
  else .decimal (some numeral.whole) numeral.fraction false

/-- A numeral as a sentence. -/
def sentence (numeral : Numeral) : Sentence :=
  .sum
    (.product
      (.base (if numeral.negative then
          .negated (.unsigned (.postfixed (.literal numeral.literal) 0))
        else
          .unsigned (.postfixed (.literal numeral.literal) 0)))
      .noFactors)
    .noTerms

theorem tokens_sentence (numeral : Numeral) :
    numeral.sentence.tokens =
      (if numeral.negative then [.minus] else []) ++ numeral.literal.tokens := by
  cases negative : numeral.negative <;> simp [sentence, negative, Derivation.tokens]

theorem spell_literal (numeral : Numeral) :
    Token.spell numeral.literal.tokens = numeral.whole ++ pointed numeral.fraction := by
  unfold literal pointed
  split <;> simp [Literal.tokens, Literal.fractionTokens, Token.spell, Token.lexeme]

/-- A numeral is spelled as it is written. -/
theorem spell_sentence (numeral : Numeral) :
    String.ofList (Token.spell numeral.sentence.tokens) = numeral.text := by
  rw [tokens_sentence, Token.spell, List.flatMap_append, ← Token.spell, ← Token.spell,
    spell_literal, text, String.ofList_append]
  cases numeral.negative <;> rfl

theorem meaning_sentence (numeral : Numeral) :
    numeral.sentence.meaning =
      if numeral.negative then .unary .negate numeral.literal.tree
      else numeral.literal.tree := by
  cases negative : numeral.negative <;> simp [sentence, negative, Derivation.meaning,
    sumTree, productTree, factorialTree, Expr.sum, Expr.product]

theorem nesting_sentence (numeral : Numeral) : numeral.sentence.nesting ≤ 256 := by
  cases negative : numeral.negative <;> simp [sentence, negative, Derivation.nesting]

theorem IsProper.allProper {numeral : Numeral} (proper : numeral.IsProper) :
    Expr.AllProper numeral.sentence.tokens := by
  obtain ⟨digits, digits'⟩ := List.forall_mem_append.mp proper.digits
  have whole : (Token.digits numeral.whole).IsProper :=
    ⟨proper.whole_ne_nil, List.all_eq_true.mpr digits⟩
  have literal : Expr.AllProper numeral.literal.tokens := by
    unfold Numeral.literal
    split
    · simpa [Literal.tokens, Expr.AllProper] using whole
    · rename_i some
      have fraction : (Token.digits numeral.fraction).IsProper :=
        ⟨some, List.all_eq_true.mpr digits'⟩
      exact List.forall_mem_cons.mpr
        ⟨whole, List.forall_mem_cons.mpr ⟨trivial, List.forall_mem_singleton.mpr fraction⟩⟩
  rw [tokens_sentence]
  apply List.forall_mem_append.mpr ⟨_, literal⟩
  cases numeral.negative <;> simp [Token.IsProper]

/-- The value of a numeral without its sign counts all its digits at the scale of its
decimals, if a scale can count these. -/
theorem IsProper.value_literal
    {numeral : Numeral}
    (proper : numeral.IsProper)
    (short : numeral.fraction.length < 2 ^ 32) :
    numeral.literal.tree.value settings =
      .ok (.ofRat (numeral.size / 10 ^ numeral.fraction.length)) := by
  obtain ⟨_, digits⟩ := List.forall_mem_append.mp proper.digits
  unfold literal
  split
  · rename_i none
    simp [Literal.tree, Literal.number, Expr.value, size, none, Value.ofInt]
  · rename_i some
    have parts : (numeral.size : Rat) =
        10 ^ numeral.fraction.length * Nat.ofDigitChars 10 numeral.whole 0 +
          Nat.ofDigitChars 10 numeral.fraction 0 := by
      rw [size, Nat.ofDigitChars_append, Nat.ofDigitChars_eq_ofDigitChars_zero]
      push_cast
      rfl
    rw [Literal.tree, Expr.value,
      Decimal.value_eq_number some (List.all_eq_true.mpr digits) short]
    refine congrArg (fun q => Except.ok (Value.ofRat q)) ?_
    rw [Decimal.number, parts, if_neg Bool.false_ne_true]
    simp only [Option.map_some, Option.getD_some, Literal.number]
    push_cast
    field_simp

/-- The value of a numeral is the number that it denotes. -/
theorem IsProper.value_sentence
    {numeral : Numeral}
    (proper : numeral.IsProper)
    (short : numeral.fraction.length < 2 ^ 32) :
    numeral.sentence.meaning.value settings = .ok (.ofRat numeral.value) := by
  rw [meaning_sentence]
  cases negative : numeral.negative with
  | false => simp [proper.value_literal short, value, negative]
  | true =>
      rw [if_pos rfl, Expr.value, proper.value_literal short]
      refine congrArg (fun q => Except.ok (Value.ofRat q)) ?_
      simp only [value, negative, if_true]
      push_cast
      exact (neg_div _ _).symm

theorem IsProper.read_text {numeral : Numeral} (proper : numeral.IsProper) :
    Expr.read numeral.text = .ok numeral.sentence.meaning := by
  have read := Expr.read_spell proper.allProper numeral.nesting_sentence
  rwa [spell_sentence] at read

/-- A plain numeral that is typed in is read as the number that it denotes. -/
theorem IsPlain.evaluate_text
    {numeral : Numeral}
    (plain : numeral.IsPlain)
    (short : numeral.fraction.length < 2 ^ 32) :
    Calculator.evaluate settings numeral.text = ofRat settings numeral.value :=
  (Calculator.evaluate_of_value plain.isProper.read_text
    (plain.isProper.value_sentence short)).trans rfl

end Numeral

/-- Zeros behind the last decimal change nothing. -/
theorem Numeral.ofScaled_mul_tenPow (n : Int) (decimals zeros : Nat) :
    ofScaled (n * 10 ^ zeros) (decimals + zeros) = ofScaled n decimals := by
  have positive : (0 : Int) < 10 ^ zeros := by positivity
  have absolute : (n * 10 ^ zeros).natAbs = n.natAbs * 10 ^ zeros := by
    rw [Int.natAbs_mul, Int.natAbs_pow]
    rfl
  have units : 0 < 10 ^ zeros := by positivity
  have last : lastDigits zeros (n.natAbs * 10 ^ zeros) = List.replicate zeros '0' := by
    rw [← lastDigits_mod, Nat.mul_mod_left, lastDigits_zero_eq_replicate]
  have dropped (kept : List Char) :
      (kept ++ List.replicate zeros '0').rdropWhile (· == '0') = kept.rdropWhile (· == '0') := by
    rw [List.rdropWhile, List.reverse_append, List.reverse_replicate,
      List.dropWhile_append_of_pos (by simp), List.rdropWhile]
  have sign : n * 10 ^ zeros < 0 ↔ n < 0 := by
    rw [← not_le, mul_nonneg_iff_of_pos_right positive, not_le]
  simp only [ofScaled, sign, absolute, lastDigits_add, last, dropped,
    Nat.mul_div_cancel _ units, Nat.pow_add, Nat.mul_div_mul_right _ _ units]

/-- A number with few enough decimals is read as its numeral. -/
theorem ofRat_eq_text
    {n : Int}
    {decimals : Nat}
    (padded : decimals ≤ widthLimit)
    (limited : decimals ≤ settings.exactDigits ∨ decimals = settings.readingDigits) :
    ofRat settings (n / 10 ^ decimals) = .ok (Numeral.ofScaled n decimals).text := by
  have fits := lt_of_le_widthLimit padded
  generalize quotient : (n / 10 ^ decimals : Rat) = q
  have whole : q * 10 ^ decimals = n := by
    rw [← quotient]
    field_simp
  obtain ⟨length, length_le, ends⟩ := exists_expansionLength? (den_dvd_tenPow whole)
  have shorter : Numeral.ofScaled n decimals = Numeral.ofScaled (scaled q length) length := by
    have exact := scaled_of_expansionLength? (by omega) ends
    have equal : n = scaled q length * 10 ^ (decimals - length) := by
      have product : (n : Rat) = scaled q length * 10 ^ (decimals - length) := by
        rw [exact, ← whole, mul_assoc, ← pow_add, Nat.add_sub_cancel' length_le]
      exact_mod_cast product
    rw [← Numeral.ofScaled_mul_tenPow _ length (decimals - length), ← equal,
      Nat.add_sub_cancel' length_le]
  rw [ofRat]
  split
  · rename_i integral
    have none : length = 0 := by
      rw [integral, show (1 : Nat) = 2 ^ 0 * 5 ^ 0 from rfl, expansionLength?_eq_some] at ends
      exact (Option.some.inj ends).symm
    have number : scaled q length = q.num := by
      rw [none]
      exact Int.cast_injective (by
        rw [← none, scaled_of_expansionLength? (by omega) ends, none, pow_zero, mul_one]
        exact ((Rat.den_eq_one_iff q).mp integral).symm)
    rw [shorter, number, none, Numeral.text_ofScaled_zero]
  · rename_i fractional
    rw [ends]
    cases length with
    | zero => exact absurd (eq_one_of_expansionLength? ends) fractional
    | succ length =>
        dsimp only
        split
        · rw [shorter, ← Numeral.scaledText_eq_text (Nat.succ_ne_zero length) (by omega)
            (not_ten_dvd_scaled (by omega) ends)]
          exact checkWidth_then_eq_ok_iff.mpr ⟨length_le.trans padded, rfl⟩
        · rename_i long
          obtain rfl : decimals = settings.readingDigits := by omega
          have number : scaled q settings.readingDigits = n := by
            have real : (q : ℝ) * 10 ^ settings.readingDigits = n := by exact_mod_cast whole
            rw [scaled, ← towardZero_mul_tenPow q fits, real, towardZero_intCast]
          rw [truncated, number, ← Numeral.truncatedText_eq_text fits]
          exact checkWidth_then_eq_ok_iff.mpr ⟨padded, rfl⟩

/-- Every reading is a numeral within one of the limits that give readings their length. -/
theorem exists_ofScaled_of_ofValue
    {v : Value}
    {reading : String}
    (read : ofValue settings v = .ok reading) :
    ∃ n decimals, reading = (Numeral.ofScaled n decimals).text ∧ decimals ≤ widthLimit ∧
      (decimals ≤ settings.exactDigits ∨ decimals = settings.readingDigits) := by
  have truncatedReads
      {n : Int}
      (read : printTruncated n settings.readingDigits = .ok reading) :
      ∃ n decimals, reading = (Numeral.ofScaled n decimals).text ∧ decimals ≤ widthLimit ∧
        (decimals ≤ settings.exactDigits ∨ decimals = settings.readingDigits) := by
    obtain ⟨padded, rfl⟩ := checkWidth_then_eq_ok_iff.mp read
    exact ⟨n, settings.readingDigits,
      Numeral.truncatedText_eq_text (lt_of_le_widthLimit padded), padded, .inr rfl⟩
  unfold ofValue at read
  split at read
  · rename_i q _
    unfold ofRat at read
    split at read
    · rw [← Except.ok.inj read]
      exact ⟨q.num, 0, (Numeral.text_ofScaled_zero _).symm, Nat.zero_le _, .inl (Nat.zero_le _)⟩
    · rename_i fractional
      split at read
      · rename_i decimals ends
        split at read
        · rename_i within
          cases decimals with
          | zero => exact absurd (eq_one_of_expansionLength? ends) fractional
          | succ k =>
              obtain ⟨padded, rfl⟩ := checkWidth_then_eq_ok_iff.mp read
              have fits := lt_of_le_widthLimit padded
              exact ⟨_, k + 1, Numeral.scaledText_eq_text (Nat.succ_ne_zero k) fits
                (not_ten_dvd_scaled fits ends), padded, .inl within⟩
        · exact truncatedReads read
      · exact truncatedReads read
  · obtain ⟨n, _, read⟩ := bind_eq_ok_iff.mp read
    split at read
    · rw [← pure_eq_ok_iff.mp read]
      exact ⟨0, 0, (Numeral.text_ofScaled_of_zero 0).symm, Nat.zero_le _, .inl (Nat.zero_le _)⟩
    · exact truncatedReads read

end Reading

namespace Calculator

open Reading

/-- A result that is typed in again gives itself, with any settings. It never has more decimals
than can be padded, so a scale counts them all. -/
theorem evaluate_result
    {settings : Settings}
    {text result : String}
    (evaluated : evaluate settings text = .ok result) :
    evaluate settings result = .ok result := by
  obtain ⟨x, _, valued⟩ := bind_eq_ok_iff.mp evaluated
  obtain ⟨v, _, read⟩ := bind_eq_ok_iff.mp valued
  obtain ⟨n, decimals, rfl, padded, limited⟩ := exists_ofScaled_of_ofValue read
  have short := (Numeral.length_fraction_ofScaled_le n decimals).trans_lt
    (lt_of_le_widthLimit padded)
  rw [(Numeral.isPlain_ofScaled n decimals).evaluate_text short, Numeral.value_ofScaled,
    ofRat_eq_text padded limited]

/-- The truncated reading of minus two thirds is a finite decimal with the same reading. -/
theorem evaluate_minusTwoThirds :
    evaluate .standard "-2/3" = .ok "-0.66666666666666666666" ∧
      evaluate .standard "-0.66666666666666666666" = .ok "-0.66666666666666666666" := by
  have evaluated : evaluate .standard "-2/3" = .ok "-0.66666666666666666666" := by
    decide +kernel
  exact ⟨evaluated, evaluate_result evaluated⟩

end Calculator
end FourFours
