import FourFours.Proofs.Reading.Reread

/-!
# Decimal literals read back as written

A decimal literal that is typed in alone is read as its own digits: the part in front of the
point loses its leading zeros, the decimals lose the zeros at their end, and no more decimals
are read than the settings allow. Behind a literal that repeats stand the digits of its period
again and again, except that a period of nines adds up to the next integer: its number is no
finite decimal, since a power of ten less one has no factor 2 or 5.
-/

namespace FourFours

namespace Integer

variable {run : List Char}

theorem exists_digitChar {c : Char} (digit : c.isDigit = true) :
    ∃ d < 10, c = Nat.digitChar d := by
  have member : c ∈ (List.range 10).map Nat.digitChar := Text.mem_of_isDigit digit
  obtain ⟨d, below, rfl⟩ := List.mem_map.mp member
  exact ⟨d, List.mem_range.mp below, rfl⟩

/-- A run of digits consists of the last digits of its number. -/
theorem lastDigits_ofDigitChars (digits : ∀ c ∈ run, c.isDigit = true) :
    lastDigits run.length (Nat.ofDigitChars 10 run 0) = run := by
  induction run using List.reverseRecOn with
  | nil => rfl
  | append_singleton run c inductionHypothesis =>
      obtain ⟨before, digit⟩ := List.forall_mem_append.mp digits
      obtain ⟨d, below, rfl⟩ := exists_digitChar (digit c List.mem_cons_self)
      rw [List.length_append, List.length_singleton, lastDigits, Nat.ofDigitChars_append,
        Nat.ofDigitChars_cons_digitChar_of_lt_ten below, Nat.ofDigitChars_nil]
      have quotient (n : Nat) : (10 * n + d) / 10 = n := by omega
      have remainder (n : Nat) : (10 * n + d) % 10 = d := by omega
      rw [quotient, remainder, inductionHypothesis before]

theorem ofDigitChars_lt (digits : ∀ c ∈ run, c.isDigit = true) :
    Nat.ofDigitChars 10 run 0 < 10 ^ run.length := by
  have remainder := ofDigitChars_lastDigits run.length (Nat.ofDigitChars 10 run 0)
  rw [lastDigits_ofDigitChars digits] at remainder
  rw [remainder]
  exact Nat.mod_lt _ (by positivity)

/-- A number is written with its last digits, as many as it needs. -/
theorem digits_eq_lastDigits {m n : Nat} (lower : 10 ^ m ≤ n) (upper : n < 10 ^ (m + 1)) :
    digits n = lastDigits (m + 1) n := by
  have leading : n / 10 ^ m < 10 := by
    rwa [Nat.div_lt_iff_lt_mul (by positivity), ← Nat.pow_succ']
  rw [digits_eq_toDigits, toDigits_eq_append_lastDigits lower, Nat.add_comm m 1, lastDigits_add,
    Nat.toDigits_of_lt_base leading, lastDigits, lastDigits, Nat.mod_eq_of_lt leading]
  rfl

/-- A run of digits without the zeros in front; the last zero of a run of zeros stays. -/
def withoutLeadingZeros (run : List Char) : List Char :=
  if run.dropWhile (· == '0') = [] then ['0'] else run.dropWhile (· == '0')

/-- The number of a run of digits is written as the run without the zeros in front. -/
theorem digits_ofDigitChars (digits : ∀ c ∈ run, c.isDigit = true) :
    Integer.digits (Nat.ofDigitChars 10 run 0) = withoutLeadingZeros run := by
  induction run with
  | nil => decide
  | cons c run inductionHypothesis =>
      obtain ⟨digit, behind⟩ := List.forall_mem_cons.mp digits
      rw [withoutLeadingZeros]
      by_cases zero : c = '0'
      · subst zero
        rw [List.dropWhile_cons_of_pos rfl]
        exact inductionHypothesis behind
      · rw [List.dropWhile_cons_of_neg (by simpa using zero), if_neg (List.cons_ne_nil _ _)]
        obtain ⟨d, below, rfl⟩ := exists_digitChar digit
        have positive : 1 ≤ d := by
          by_contra none
          obtain rfl : d = 0 := by omega
          exact zero rfl
        have upper := ofDigitChars_lt digits
        have lower : 10 ^ run.length ≤ Nat.ofDigitChars 10 (Nat.digitChar d :: run) 0 := by
          rw [Nat.ofDigitChars_cons_digitChar_of_lt_ten below,
            Nat.ofDigitChars_eq_ofDigitChars_zero]
          nlinarith [Nat.pow_pos (n := run.length) (by omega : 0 < 10)]
        rw [digits_eq_lastDigits lower upper]
        exact lastDigits_ofDigitChars digits

/-- Repeating a run of digits multiplies its number. -/
theorem ofDigitChars_flatten_replicate (run : List Char) (count : Nat) :
    (Nat.ofDigitChars 10 (List.replicate count run).flatten 0 : Rat) *
        (10 ^ run.length - 1) =
      Nat.ofDigitChars 10 run 0 * (10 ^ (List.replicate count run).flatten.length - 1) := by
  induction count with
  | zero => simp
  | succ count inductionHypothesis =>
      rw [List.replicate_succ, List.flatten_cons, Nat.ofDigitChars_append,
        Nat.ofDigitChars_eq_ofDigitChars_zero, List.length_append, pow_add]
      push_cast
      linear_combination inductionHypothesis

theorem ofDigitChars_replicate_nine (count : Nat) :
    Nat.ofDigitChars 10 (List.replicate count '9') 0 + 1 = 10 ^ count := by
  induction count with
  | zero => rfl
  | succ count inductionHypothesis =>
      rw [List.replicate_succ, Nat.ofDigitChars_cons, Nat.ofDigitChars_eq_ofDigitChars_zero,
        List.length_replicate, Nat.pow_succ, ← inductionHypothesis]
      have nine : '9'.toNat - '0'.toNat = 9 := rfl
      rw [nine]
      ring

/-- Only the number of a run of nines is one below a power of ten. -/
theorem eq_replicate_of_ofDigitChars
    (digits : ∀ c ∈ run, c.isDigit = true)
    (largest : Nat.ofDigitChars 10 run 0 + 1 = 10 ^ run.length) :
    run = List.replicate run.length '9' := by
  have nines : ∀ c ∈ List.replicate run.length '9', c.isDigit = true := by
    intro c member
    rw [List.eq_of_mem_replicate member]
    rfl
  have same : Nat.ofDigitChars 10 run 0 =
      Nat.ofDigitChars 10 (List.replicate run.length '9') 0 :=
    Nat.succ_injective (largest.trans (ofDigitChars_replicate_nine _).symm)
  have both := lastDigits_ofDigitChars nines
  rw [List.length_replicate, ← same, lastDigits_ofDigitChars digits] at both
  exact both

end Integer

namespace Grammar

/-! ## Literals as expressions -/

/-- A literal as a sentence. -/
def Literal.sentence (literal : Literal) : Sentence :=
  .sum (.product (.base (.unsigned (.postfixed (.literal literal) 0))) .noFactors) .noTerms

theorem Literal.tokens_sentence (literal : Literal) :
    literal.sentence.tokens = literal.tokens := by
  simp [sentence, Derivation.tokens]

/-- The literal with some digits in front of the point, maybe none, and some behind it. -/
def Literal.pointed (whole fraction : List Char) (repeating : Bool) : Literal :=
  .decimal (if whole = [] then none else some whole) fraction repeating

end Grammar

namespace Reading

open Integer Grammar Radical

variable {settings : Settings} {whole fraction run : List Char} {repeating : Bool} {n : Nat}

/-- The text of a decimal literal; the decimals that repeat stand in brackets. -/
def literalText (whole fraction : List Char) (repeating : Bool) : String :=
  String.ofList (whole ++ '.' :: if repeating then '(' :: (fraction ++ [')']) else fraction)

theorem spell_pointed (whole fraction : List Char) (repeating : Bool) :
    String.ofList (Token.spell (Literal.pointed whole fraction repeating).sentence.tokens) =
      literalText whole fraction repeating := by
  rw [Literal.tokens_sentence, Literal.pointed, literalText]
  by_cases none : whole = [] <;> cases repeating <;>
    simp [none, Literal.tokens, Literal.fractionTokens, Token.spell, Token.lexeme]

theorem cast_tenPow_sub_one (count : Nat) : ((10 ^ count - 1 : Nat) : Rat) = 10 ^ count - 1 := by
  rw [Nat.cast_sub (Nat.one_le_pow _ _ (by omega)), Nat.cast_pow]
  rfl

/-- The number of a decimal literal. -/
def literalNumber (whole fraction : List Char) (repeating : Bool) : Rat :=
  Nat.ofDigitChars 10 whole 0 +
    Nat.ofDigitChars 10 fraction 0 /
      (if repeating then 10 ^ fraction.length - 1 else 10 ^ fraction.length)

section

variable (wholeDigits : ∀ c ∈ whole, c.isDigit = true)
  (fractionDigits : ∀ c ∈ fraction, c.isDigit = true)
  (some : fraction ≠ [])

include wholeDigits fractionDigits some

theorem allProper_pointed :
    Expr.AllProper (Literal.pointed whole fraction repeating).tokens := by
  have fractionProper : (Token.digits fraction).IsProper :=
    ⟨some, List.all_eq_true.mpr fractionDigits⟩
  have behind : Expr.AllProper (.point :: Literal.fractionTokens fraction repeating) := by
    cases repeating <;>
      simpa [Literal.fractionTokens, Expr.AllProper, Token.IsProper] using fractionProper
  rw [Literal.pointed]
  split
  · exact behind
  · rename_i written
    exact List.forall_mem_cons.mpr ⟨⟨written, List.all_eq_true.mpr wholeDigits⟩, behind⟩

theorem read_literalText :
    Expr.read (literalText whole fraction repeating) =
      .ok (Literal.pointed whole fraction repeating).tree := by
  have proper : Expr.AllProper (Literal.pointed whole fraction repeating).sentence.tokens := by
    rw [Literal.tokens_sentence]
    exact allProper_pointed wholeDigits fractionDigits some
  have read := Expr.read_spell proper (Nat.zero_le 256)
  rwa [spell_pointed] at read

omit wholeDigits in
theorem value_pointed (short : fraction.length < 2 ^ 32) :
    (Literal.pointed whole fraction repeating).tree.value settings =
      .ok (.ofRat (literalNumber whole fraction repeating)) := by
  have wholeNumber : ((if whole = [] then none else .some whole).map Literal.number).getD 0 =
      Nat.ofDigitChars 10 whole 0 := by
    split
    · rename_i none
      rw [none]
      rfl
    · rfl
  rw [Literal.pointed, Literal.tree, Expr.value,
    Decimal.value_eq_number some (List.all_eq_true.mpr fractionDigits) short, Decimal.number]
  simp only [wholeNumber, Int.cast_natCast]
  rfl

/-- A decimal literal is read as its number, as long as a scale can count its digits. -/
theorem evaluate_literalText (short : fraction.length < 2 ^ 32) :
    Calculator.evaluate settings (literalText whole fraction repeating) =
      ofRat settings (literalNumber whole fraction repeating) :=
  (Calculator.evaluate_of_value (read_literalText wholeDigits fractionDigits some)
    (value_pointed fractionDigits some short)).trans rfl

end

/-- A number is rounded towards zero at the decimals of the settings, unless it has a finite
expansion with decimals that is read in full. -/
theorem ofRat_eq_text_scaled
    {q : Rat}
    (padded : settings.readingDigits ≤ widthLimit)
    (long : ∀ decimals ≤ settings.exactDigits, HasExpansion q decimals → decimals = 0) :
    ofRat settings q =
      .ok (Numeral.ofScaled (scaled q settings.readingDigits) settings.readingDigits).text := by
  have fits := lt_of_le_widthLimit padded
  rw [ofRat]
  split
  · rename_i integral
    have same : scaled q settings.readingDigits = q.num * 10 ^ settings.readingDigits := by
      rw [scaled, integral, scaleUnit_of_lt fits]
      push_cast
      exact Int.tdiv_one _
    have shifted := Numeral.ofScaled_mul_tenPow q.num 0 settings.readingDigits
    rw [Nat.zero_add, ← same] at shifted
    rw [shifted, Numeral.text_ofScaled_zero]
  · rename_i fractional
    have rounded : truncated settings q =
        .ok (Numeral.ofScaled (scaled q settings.readingDigits) settings.readingDigits).text :=
      checkWidth_then_eq_ok_iff.mpr ⟨padded, Numeral.truncatedText_eq_text fits⟩
    split
    · rename_i decimals ends
      split
      · rename_i within
        obtain rfl := long decimals within (hasExpansion_iff.mpr ends)
        exact absurd (eq_one_of_expansionLength? ends) fractional
      · exact rounded
    · exact rounded

/-! ## Digits that are written -/

/-- The text of a number with some digits in front of the point and some behind it: without
zeros in front and at the end, and without a point that no decimal follows. -/
def written (whole fraction : List Char) : String :=
  String.ofList (withoutLeadingZeros whole ++ Reading.pointed (fraction.rdropWhile (· == '0')))

theorem written_append_zeros (whole fraction : List Char) (zeros : Nat) :
    written whole (fraction ++ List.replicate zeros '0') = written whole fraction := by
  rw [written, written, List.rdropWhile, List.reverse_append, List.reverse_replicate,
    List.dropWhile_append_of_pos (by simp), List.rdropWhile]

theorem written_rdropWhile (whole fraction : List Char) :
    written whole (fraction.rdropWhile (· == '0')) = written whole fraction := by
  rw [written, written, List.rdropWhile_idempotent]

section

variable (runDigits : ∀ c ∈ run, c.isDigit = true)

include runDigits

/-- A number is written with the digits that make it up. -/
theorem text_ofScaled_of_digits (wholeDigits : ∀ c ∈ whole, c.isDigit = true) :
    (Numeral.ofScaled
        ((Nat.ofDigitChars 10 whole 0 * 10 ^ run.length + Nat.ofDigitChars 10 run 0 : Nat) : Int)
        run.length).text = written whole run := by
  have below := ofDigitChars_lt runDigits
  have quotient : (Nat.ofDigitChars 10 whole 0 * 10 ^ run.length + Nat.ofDigitChars 10 run 0) /
      10 ^ run.length = Nat.ofDigitChars 10 whole 0 := by
    rw [Nat.add_comm, Nat.add_mul_div_right _ _ (by positivity), Nat.div_eq_of_lt below,
      Nat.zero_add]
  have last : lastDigits run.length
      (Nat.ofDigitChars 10 whole 0 * 10 ^ run.length + Nat.ofDigitChars 10 run 0) = run := by
    rw [← lastDigits_mod, Nat.add_comm, Nat.add_mul_mod_self_right, lastDigits_mod,
      lastDigits_ofDigitChars runDigits]
  generalize Nat.ofDigitChars 10 whole 0 * 10 ^ run.length + Nat.ofDigitChars 10 run 0 = n
    at quotient last
  have unsigned : (Numeral.ofScaled n run.length).negative = false :=
    decide_eq_false (not_lt.mpr (Int.natCast_nonneg n))
  rw [Numeral.text, unsigned, if_neg Bool.false_ne_true, String.empty_append]
  simp only [Numeral.ofScaled, Int.natAbs_natCast, quotient, last,
    digits_ofDigitChars wholeDigits, written]

/-- The first decimals of a number are the first digits of any run that makes it up but for
less than a unit. -/
theorem scaled_of_digits
    {q : Rat}
    {digits : Nat}
    (fits : digits < 2 ^ 32)
    (within : digits ≤ run.length)
    (lower : (n * 10 ^ run.length + Nat.ofDigitChars 10 run 0 : Rat) ≤ q * 10 ^ run.length)
    (upper : q * 10 ^ run.length < n * 10 ^ run.length + Nat.ofDigitChars 10 run 0 + 1) :
    scaled q digits =
      ((n * 10 ^ digits + Nat.ofDigitChars 10 (run.take digits) 0 : Nat) : Int) := by
  obtain ⟨others, length⟩ := Nat.exists_eq_add_of_le within
  have parts : Nat.ofDigitChars 10 run 0 =
      10 ^ others * Nat.ofDigitChars 10 (run.take digits) 0 +
        Nat.ofDigitChars 10 (run.drop digits) 0 := by
    conv_lhs => rw [← List.take_append_drop digits run]
    rw [Nat.ofDigitChars_append, Nat.ofDigitChars_eq_ofDigitChars_zero, List.length_drop, length,
      Nat.add_sub_cancel_left]
  have below : Nat.ofDigitChars 10 (run.drop digits) 0 + 1 ≤ 10 ^ others := by
    have dropped : ∀ c ∈ run.drop digits, c.isDigit = true := fun c member =>
      runDigits c (List.mem_of_mem_drop member)
    have below := ofDigitChars_lt dropped
    rwa [List.length_drop, length, Nat.add_sub_cancel_left] at below
  have belowRat : (Nat.ofDigitChars 10 (run.drop digits) 0 + 1 : Rat) ≤ 10 ^ others := by
    exact_mod_cast below
  rw [length, pow_add, parts] at lower upper
  push_cast at lower upper
  generalize Nat.ofDigitChars 10 (run.take digits) 0 = first at lower upper ⊢
  generalize Nat.ofDigitChars 10 (run.drop digits) 0 = last at lower upper belowRat
  have unit : (0 : Rat) < 10 ^ others := by positivity
  have lowerFirst : (n * 10 ^ digits + first : Rat) ≤ q * 10 ^ digits := by
    have nonnegative : (0 : Rat) ≤ last := Nat.cast_nonneg last
    exact le_of_mul_le_mul_right (by linarith) unit
  have upperFirst : q * 10 ^ digits < (n * 10 ^ digits + first : Rat) + 1 :=
    lt_of_mul_lt_mul_right (by linarith) unit.le
  have nonnegative : (0 : ℝ) ≤ q * 10 ^ digits := by
    have nonnegative : (0 : Rat) ≤ q * 10 ^ digits := le_trans (by positivity) lowerFirst
    exact_mod_cast nonnegative
  rw [scaled, ← towardZero_mul_tenPow q fits, towardZero_of_nonneg nonnegative, Int.floor_eq_iff]
  exact ⟨by exact_mod_cast lowerFirst, by exact_mod_cast upperFirst⟩

/-- A number that is not read in full is written with the first digits of a run that makes up
its decimals but for less than a unit. -/
theorem ofRat_eq_written
    (wholeDigits : ∀ c ∈ whole, c.isDigit = true)
    {q : Rat}
    (padded : settings.readingDigits ≤ widthLimit)
    (long : ∀ decimals ≤ settings.exactDigits, HasExpansion q decimals → decimals = 0)
    (within : settings.readingDigits ≤ run.length)
    (lower : (Nat.ofDigitChars 10 whole 0 * 10 ^ run.length + Nat.ofDigitChars 10 run 0 : Rat) ≤
      q * 10 ^ run.length)
    (upper : q * 10 ^ run.length <
      Nat.ofDigitChars 10 whole 0 * 10 ^ run.length + Nat.ofDigitChars 10 run 0 + 1) :
    ofRat settings q = .ok (written whole (run.take settings.readingDigits)) := by
  have firstDigits : ∀ c ∈ run.take settings.readingDigits, c.isDigit = true := fun c member =>
    runDigits c (List.mem_of_mem_take member)
  have text := text_ofScaled_of_digits firstDigits wholeDigits
  rw [List.length_take, min_eq_left within] at text
  rw [ofRat_eq_text_scaled padded long,
    scaled_of_digits runDigits (lt_of_le_widthLimit padded) within lower upper, text]

end

theorem tenPow_sub_one_pos (some : fraction ≠ []) : (0 : Rat) < 10 ^ fraction.length - 1 := by
  have large : (1 : Rat) < 10 ^ fraction.length :=
    one_lt_pow₀ (by norm_num) (List.length_pos_iff.mpr some).ne'
  exact sub_pos.mpr large

theorem not_dvd_tenPow_sub_one {p k : Nat} (factor : p ∣ 10) (large : 1 < p) (positive : 0 < k) :
    ¬p ∣ 10 ^ k - 1 := by
  intro divides
  have power : p ∣ 10 ^ k := dvd_pow factor positive.ne'
  have one : p ∣ 10 ^ k - (10 ^ k - 1) := Nat.dvd_sub power divides
  rw [Nat.sub_sub_self (Nat.one_le_pow _ _ (by omega))] at one
  exact large.ne' (Nat.dvd_one.mp one)

/-- A number with a power of ten less one for its denominator is an integer, or its decimals do
not end. -/
theorem eq_zero_of_hasExpansion_repeating
    (some : fraction ≠ [])
    {decimals : Nat}
    (expansion : HasExpansion (literalNumber whole fraction true) decimals) :
    decimals = 0 := by
  obtain ⟨q, twos, fives, equal, den, rfl⟩ := expansion
  obtain rfl : literalNumber whole fraction true = q := by exact_mod_cast equal
  have positive : 0 < fraction.length := List.length_pos_iff.mpr some
  have unit := cast_tenPow_sub_one fraction.length
  have nonzero : ((10 ^ fraction.length - 1 : Nat) : Rat) ≠ 0 :=
    unit.trans_ne (tenPow_sub_one_pos some).ne'
  have quotient : literalNumber whole fraction true =
      Rat.divInt (Nat.ofDigitChars 10 whole 0 * (10 ^ fraction.length - 1 : Nat) +
        Nat.ofDigitChars 10 fraction 0) (10 ^ fraction.length - 1 : Nat) := by
    rw [Rat.divInt_eq_div, literalNumber, if_pos rfl, ← unit]
    push_cast [-Nat.cast_sub]
    field_simp
  have divides : (literalNumber whole fraction true).den ∣ 10 ^ fraction.length - 1 := by
    have divides := Rat.den_dvd (Nat.ofDigitChars 10 whole 0 * (10 ^ fraction.length - 1 : Nat) +
        Nat.ofDigitChars 10 fraction 0) (10 ^ fraction.length - 1 : Nat)
    rw [← quotient] at divides
    exact_mod_cast divides
  rw [den] at divides
  have noTwos : twos = 0 := by
    by_contra nonzero
    exact not_dvd_tenPow_sub_one (by decide) (by decide) positive
      (((dvd_pow_self 2 nonzero).mul_right _).trans divides)
  have noFives : fives = 0 := by
    by_contra nonzero
    exact not_dvd_tenPow_sub_one (by decide) (by decide) positive
      (((dvd_pow_self 5 nonzero).mul_left _).trans divides)
  rw [noTwos, noFives, max_self]

/-- A period that is not made of nines stands behind the point again and again. -/
theorem ofRat_repeating
    (wholeDigits : ∀ c ∈ whole, c.isDigit = true)
    (fractionDigits : ∀ c ∈ fraction, c.isDigit = true)
    (some : fraction ≠ [])
    (other : ∃ c ∈ fraction, c ≠ '9')
    (padded : settings.readingDigits ≤ widthLimit) :
    ofRat settings (literalNumber whole fraction true) =
      .ok (written whole ((List.replicate settings.readingDigits fraction).flatten.take
        settings.readingDigits)) := by
  have positive : 0 < fraction.length := List.length_pos_iff.mpr some
  have periods := ofDigitChars_flatten_replicate fraction settings.readingDigits
  have runDigits : ∀ c ∈ (List.replicate settings.readingDigits fraction).flatten,
      c.isDigit = true := by
    intro c member
    obtain ⟨period, repeated, among⟩ := List.mem_flatten.mp member
    rw [List.eq_of_mem_replicate repeated] at among
    exact fractionDigits c among
  have within : settings.readingDigits ≤
      (List.replicate settings.readingDigits fraction).flatten.length := by
    rw [List.length_flatten, List.map_replicate, List.sum_replicate_nat]
    exact Nat.le_mul_of_pos_right _ positive
  generalize (List.replicate settings.readingDigits fraction).flatten = run
    at periods runDigits within ⊢
  have below : Nat.ofDigitChars 10 fraction 0 + 1 < 10 ^ fraction.length := by
    refine lt_of_le_of_ne (ofDigitChars_lt fractionDigits) fun largest => ?_
    obtain ⟨c, member, differs⟩ := other
    rw [eq_replicate_of_ofDigitChars fractionDigits largest] at member
    exact differs (List.eq_of_mem_replicate member)
  have belowRat : (Nat.ofDigitChars 10 fraction 0 + 1 : Rat) < 10 ^ fraction.length := by
    exact_mod_cast below
  have unit := tenPow_sub_one_pos some
  have scaledUp : literalNumber whole fraction true * 10 ^ run.length =
      Nat.ofDigitChars 10 whole 0 * 10 ^ run.length + Nat.ofDigitChars 10 run 0 +
        Nat.ofDigitChars 10 fraction 0 / (10 ^ fraction.length - 1) := by
    rw [literalNumber, if_pos rfl]
    field_simp
    linear_combination -periods
  have remainder : (0 : Rat) ≤ Nat.ofDigitChars 10 fraction 0 / (10 ^ fraction.length - 1) ∧
      (Nat.ofDigitChars 10 fraction 0 / (10 ^ fraction.length - 1) : Rat) < 1 :=
    ⟨by positivity, by rw [div_lt_one unit]; linarith⟩
  exact ofRat_eq_written runDigits wholeDigits padded
    (fun _ _ expansion => eq_zero_of_hasExpansion_repeating some expansion) within
    (by linarith) (by linarith)

/-- A period of zeros adds nothing, and no zero of it is written. -/
theorem ofRat_of_zeros
    (wholeDigits : ∀ c ∈ whole, c.isDigit = true)
    (zeros : ∀ c ∈ fraction, c = '0') :
    ofRat settings (literalNumber whole fraction true) =
      .ok (written whole ((List.replicate settings.readingDigits fraction).flatten.take
        settings.readingDigits)) := by
  have number : literalNumber whole fraction true = ((Nat.ofDigitChars 10 whole 0 : Int) : Rat) := by
    rw [literalNumber, List.eq_replicate_of_mem zeros, Nat.ofDigitChars_replicate_zero]
    simp
  have repeated : ∀ c ∈ (List.replicate settings.readingDigits fraction).flatten.take
      settings.readingDigits, c = '0' := by
    intro c member
    obtain ⟨period, among, member⟩ := List.mem_flatten.mp (List.mem_of_mem_take member)
    rw [List.eq_of_mem_replicate among] at member
    exact zeros c member
  have noDigits : ∀ c ∈ ([] : List Char), c.isDigit = true := by simp
  have text := text_ofScaled_of_digits noDigits wholeDigits
  rw [List.length_nil, pow_zero, Nat.mul_one, Nat.ofDigitChars_nil, Nat.add_zero,
    Numeral.text_ofScaled_zero] at text
  rw [number, ofRat, if_pos (Rat.den_intCast _), Rat.num_intCast, text,
    List.eq_replicate_of_mem repeated, ← written_append_zeros whole [], List.nil_append]

/-- A period of nines makes up the next integer. -/
theorem ofRat_of_nines
    (some : fraction ≠ [])
    (nines : ∀ c ∈ fraction, c = '9') :
    ofRat settings (literalNumber whole fraction true) =
      .ok (toString (Nat.ofDigitChars 10 whole 0 + 1)) := by
  have largest := ofDigitChars_replicate_nine fraction.length
  rw [← List.eq_replicate_of_mem nines] at largest
  have largestRat : (Nat.ofDigitChars 10 fraction 0 : Rat) = 10 ^ fraction.length - 1 := by
    rw [eq_sub_iff_add_eq]
    exact_mod_cast largest
  have next : literalNumber whole fraction true =
      ((Nat.ofDigitChars 10 whole 0 + 1 : Nat) : Int) := by
    rw [literalNumber, if_pos rfl, largestRat, div_self (tenPow_sub_one_pos some).ne']
    push_cast
    rfl
  rw [next, ofRat, if_pos (Rat.den_intCast _), Rat.num_intCast, Integer.text_eq_toString]
  rfl

/-- The zeros at the end of some decimals are digits like others. -/
theorem exists_zeros (fraction : List Char) :
    ∃ zeros, fraction = fraction.rdropWhile (· == '0') ++ List.replicate zeros '0' := by
  have split := List.rdropWhile_append_rtakeWhile (p := (· == '0')) (l := fraction)
  have dropped : fraction.rtakeWhile (· == '0') =
      List.replicate (fraction.rtakeWhile (· == '0')).length '0' :=
    List.eq_replicate_of_mem fun c member => by simpa using List.mem_rtakeWhile_imp member
  exact ⟨_, by rw [← dropped, split]⟩

/-- A decimal literal without the zeros at its end has the same number. -/
theorem literalNumber_rdropWhile (whole fraction : List Char) :
    literalNumber whole (fraction.rdropWhile (· == '0')) false =
      literalNumber whole fraction false := by
  obtain ⟨zeros, split⟩ := exists_zeros fraction
  generalize fraction.rdropWhile (· == '0') = kept at split ⊢
  subst split
  simp only [literalNumber, Bool.false_eq_true, if_false, Nat.ofDigitChars_append,
    Nat.ofDigitChars_replicate_zero, List.length_append, List.length_replicate, pow_add]
  push_cast
  rw [mul_comm (10 ^ zeros : Rat), mul_div_mul_right _ _ (by positivity)]

/-- A decimal literal that ends is a fraction with a power of ten below it. -/
theorem literalNumber_eq_div (whole fraction : List Char) :
    literalNumber whole fraction false =
      ((Nat.ofDigitChars 10 whole 0 * 10 ^ fraction.length + Nat.ofDigitChars 10 fraction 0 : Nat) :
        Int) / 10 ^ fraction.length := by
  rw [literalNumber, if_neg Bool.false_ne_true]
  push_cast
  field_simp

section

variable (fractionDigits : ∀ c ∈ fraction, c.isDigit = true)

include fractionDigits

theorem isDigit_of_mem_rdropWhile :
    ∀ c ∈ fraction.rdropWhile (· == '0'), c.isDigit = true := fun c member =>
  fractionDigits c ((List.rdropWhile_prefix _ _).subset member)

/-- Few enough decimals are all written, but for the zeros at their end. -/
theorem ofRat_ending
    (wholeDigits : ∀ c ∈ whole, c.isDigit = true)
    (few : (fraction.rdropWhile (· == '0')).length ≤ settings.exactDigits)
    (padded : (fraction.rdropWhile (· == '0')).length ≤ widthLimit) :
    ofRat settings (literalNumber whole fraction false) = .ok (written whole fraction) := by
  have keptDigits := isDigit_of_mem_rdropWhile fractionDigits
  rw [← literalNumber_rdropWhile, literalNumber_eq_div, ofRat_eq_text padded (.inl few),
    text_ofScaled_of_digits keptDigits wholeDigits, written_rdropWhile]

/-- The number of some digits does not end in a zero unless they do. -/
theorem not_ten_dvd_ofDigitChars
    (whole : Nat)
    (kept : fraction ≠ [])
    (last : fraction.getLast kept ≠ '0') :
    ¬10 ∣ whole * 10 ^ fraction.length + Nat.ofDigitChars 10 fraction 0 := by
  obtain ⟨front, c, rfl⟩ : ∃ front c, fraction = front ++ [c] :=
    ⟨_, _, (List.dropLast_append_getLast kept).symm⟩
  rw [List.getLast_append_singleton] at last
  obtain ⟨d, below, rfl⟩ := exists_digitChar (fractionDigits c (by simp))
  have nonzero : d ≠ 0 := by
    rintro rfl
    exact last rfl
  rw [Nat.ofDigitChars_append, Nat.ofDigitChars_cons_digitChar_of_lt_ten below,
    Nat.ofDigitChars_nil, List.length_append, List.length_singleton, Nat.pow_succ,
    ← Nat.mul_assoc]
  omega

/-- The decimals that are left without the zeros at the end are those of the expansion. -/
theorem length_le_of_hasExpansion
    {decimals : Nat}
    (expansion : HasExpansion (literalNumber whole fraction false) decimals) :
    (fraction.rdropWhile (· == '0')).length ≤ decimals := by
  have keptDigits := isDigit_of_mem_rdropWhile fractionDigits
  have lastKept := List.rdropWhile_last_not (· == '0') fraction
  rw [← literalNumber_rdropWhile] at expansion
  generalize fraction.rdropWhile (· == '0') = kept at expansion keptDigits lastKept ⊢
  obtain ⟨m, integral⟩ := exists_int_of_hasExpansion expansion
  by_contra short
  obtain ⟨others, length⟩ := Nat.exists_eq_add_of_lt (not_le.mp short)
  have nonempty : kept ≠ [] := by
    rintro rfl
    simp at length
  have multiple : (((Nat.ofDigitChars 10 whole 0 * 10 ^ kept.length +
      Nat.ofDigitChars 10 kept 0 : Nat) : Int) : Rat) = ((10 * (10 ^ others * m) : Int) : Rat) := by
    calc _ = literalNumber whole kept false * 10 ^ kept.length := by
          rw [literalNumber_eq_div, div_mul_cancel₀ _ (by positivity)]
      _ = 10 * (10 ^ others * (literalNumber whole kept false * 10 ^ decimals)) := by
          rw [length]
          ring
      _ = _ := by
          rw [integral]
          push_cast
          rfl
  exact not_ten_dvd_ofDigitChars keptDigits (Nat.ofDigitChars 10 whole 0) nonempty
    (by simpa using lastKept nonempty)
    (by exact_mod_cast Dvd.intro _ (Rat.intCast_inj.mp multiple).symm)

/-- Too many decimals are cut off. -/
theorem ofRat_cut
    (wholeDigits : ∀ c ∈ whole, c.isDigit = true)
    (many : settings.exactDigits < (fraction.rdropWhile (· == '0')).length)
    (padded : settings.readingDigits ≤ widthLimit) :
    ofRat settings (literalNumber whole fraction false) =
      .ok (written whole (fraction.take settings.readingDigits)) := by
  have runDigits : ∀ c ∈ fraction ++ List.replicate settings.readingDigits '0',
      c.isDigit = true := by
    refine List.forall_mem_append.mpr ⟨fractionDigits, fun c member => ?_⟩
    rw [List.eq_of_mem_replicate member]
    rfl
  have scaledUp : literalNumber whole fraction false *
        10 ^ (fraction ++ List.replicate settings.readingDigits '0').length =
      Nat.ofDigitChars 10 whole 0 *
          10 ^ (fraction ++ List.replicate settings.readingDigits '0').length +
        Nat.ofDigitChars 10 (fraction ++ List.replicate settings.readingDigits '0') 0 := by
    rw [literalNumber, if_neg Bool.false_ne_true, Nat.ofDigitChars_append,
      Nat.ofDigitChars_replicate_zero, List.length_append, List.length_replicate, pow_add]
    push_cast
    field_simp
  have read := ofRat_eq_written runDigits wholeDigits padded
    (fun decimals within expansion => absurd
      (many.trans_le (length_le_of_hasExpansion fractionDigits expansion)) within.not_gt)
    (by simp) scaledUp.ge (by linarith)
  rw [read, List.take_append, List.take_replicate, written_append_zeros]

end

/-! ## Typed literals -/

/-- A decimal literal reads back as it is written. Behind a point stand the digits of its
period again and again, without the zeros at the end, as many as the settings ask for; a
period of nines makes up the next integer instead. Decimals that end are all read if they are
few enough without the zeros at the end, and are cut off otherwise. Left out are only literals
with `2 ^ 32` digits behind the point or more, which a scale cannot count, and readings of
fractions with more decimals than can be padded. -/
theorem evaluate_decimal
    (wholeDigits : ∀ c ∈ whole, c.isDigit = true)
    (fractionDigits : ∀ c ∈ fraction, c.isDigit = true)
    (some : fraction ≠ [])
    (short : fraction.length < 2 ^ 32) :
    ((∃ c ∈ fraction, c ≠ '9') →
        ((∃ c ∈ fraction, c ≠ '0') → settings.readingDigits ≤ widthLimit) →
        Calculator.evaluate settings (literalText whole fraction true) =
          .ok (written whole ((List.replicate settings.readingDigits fraction).flatten.take
            settings.readingDigits))) ∧
      ((∀ c ∈ fraction, c = '9') →
        Calculator.evaluate settings (literalText whole fraction true) =
          .ok (toString (Nat.ofDigitChars 10 whole 0 + 1))) ∧
      ((fraction.rdropWhile (· == '0')).length ≤ settings.exactDigits →
        (fraction.rdropWhile (· == '0')).length ≤ widthLimit →
          Calculator.evaluate settings (literalText whole fraction false) =
            .ok (written whole fraction)) ∧
      (settings.exactDigits < (fraction.rdropWhile (· == '0')).length →
        settings.readingDigits ≤ widthLimit →
          Calculator.evaluate settings (literalText whole fraction false) =
            .ok (written whole (fraction.take settings.readingDigits))) := by
  have read (repeating : Bool) :
      Calculator.evaluate settings (literalText whole fraction repeating) =
        ofRat settings (literalNumber whole fraction repeating) :=
    evaluate_literalText wholeDigits fractionDigits some short
  refine ⟨fun other padded => ?_, fun nines => ?_, fun few padded => ?_, fun many padded => ?_⟩
  · rw [read]
    by_cases nonzero : ∃ c ∈ fraction, c ≠ '0'
    · exact ofRat_repeating wholeDigits fractionDigits some other (padded nonzero)
    · push Not at nonzero
      exact ofRat_of_zeros wholeDigits nonzero
  · rw [read, ofRat_of_nines some nines]
  · rw [read, ofRat_ending fractionDigits wholeDigits few padded]
  · rw [read, ofRat_cut fractionDigits wholeDigits many padded]

/-- The zero in front of `04.(012)` goes and its period is read six times and two digits more;
`04.(9)` is five; the zeros at the end of `04.120` go, and `.125` is cut off where two decimals
are read in full. -/
theorem evaluate_fourWithPeriod :
    Calculator.evaluate .standard "04.(012)" = .ok "4.01201201201201201201" ∧
      Calculator.evaluate .standard "04.(9)" = .ok "5" ∧
      Calculator.evaluate .standard "04.120" = .ok "4.12" ∧
      Calculator.evaluate { Settings.standard with readingDigits := 1, exactDigits := 2 } ".125" =
        .ok "0.1" := by
  have whole : ∀ c ∈ ['0', '4'], c.isDigit = true := by simp
  have period : ∀ c ∈ ['0', '1', '2'], c.isDigit = true := by simp
  have nine : ∀ c ∈ ['9'], c.isDigit = true := by simp
  have ending : ∀ c ∈ ['1', '2', '0'], c.isDigit = true := by simp
  have eighth : ∀ c ∈ ['1', '2', '5'], c.isDigit = true := by simp
  refine ⟨?_, ?_, ?_, ?_⟩
  · exact (@evaluate_decimal .standard _ _ whole period (by decide) (by simp)).1
      ⟨'1', by decide, by decide⟩ fun _ => by decide
  · exact (@evaluate_decimal .standard _ _ whole nine (by decide) (by simp)).2.1 (by simp)
  · exact (@evaluate_decimal .standard _ _ whole ending (by decide) (by simp)).2.2.1
      (by decide) (by decide)
  · exact (@evaluate_decimal { Settings.standard with readingDigits := 1, exactDigits := 2 } [] _
      (by simp) eighth (by decide) (by simp)).2.2.2 (by decide) (by decide)

/-- One third is not read to 65536 decimals: so many cannot be padded. -/
theorem evaluate_third_breaksDown :
    Calculator.evaluate { Settings.standard with readingDigits := 65536 } ".(3)" =
      .error (.breakdown .widthOutOfRange) := by
  decide +kernel

end Reading
end FourFours
