import FourFours.Proofs.Radical.TinyRadicand
import FourFours.Proofs.Reading.Numeral

/-!
# What a decimal reading says

A reading is a plain numeral of the value. An integer is written out, a finite expansion
within the limit of the settings is exact and as short as it can be, and any other number
is rounded towards zero at the decimals that the settings ask for.
-/

namespace FourFours
namespace Reading

open Integer Radical

/-- Whether the expansion of a number ends after exactly some decimals: it is a fraction in
lowest terms whose denominator has no prime factors but 2 and 5. -/
def HasExpansion (x : ℝ) (decimals : Nat) : Prop :=
  ∃ (q : Rat) (a b : Nat), x = q ∧ q.den = 2 ^ a * 5 ^ b ∧ decimals = max a b

theorem dvd_tenPow_max (a b : Nat) : 2 ^ a * 5 ^ b ∣ 10 ^ max a b := by
  rw [show 10 = 2 * 5 from rfl, Nat.mul_pow]
  exact Nat.mul_dvd_mul (Nat.pow_dvd_pow 2 (le_max_left a b)) (Nat.pow_dvd_pow 5 (le_max_right a b))

/-- No power of ten below the length of an expansion clears its denominator. -/
theorem max_le_of_dvd_tenPow {a b k : Nat} (divides : 2 ^ a * 5 ^ b ∣ 10 ^ k) : max a b ≤ k := by
  rw [← Nat.mul_one (5 ^ b)] at divides
  obtain ⟨twos, fives, _⟩ := le_of_dvd_tenPow (by decide) (by decide) divides
  exact Nat.max_le.mpr ⟨twos, fives⟩

theorem expansionLength?_eq_some (a b : Nat) :
    expansionLength? (2 ^ a * 5 ^ b) = some (max a b) := by
  obtain ⟨k, atMost, ends⟩ := exists_expansionLength? (dvd_tenPow_max a b)
  obtain ⟨a', b', equal, rfl⟩ := exists_of_expansionLength? ends
  have atLeast : max a b ≤ max a' b' := max_le_of_dvd_tenPow (equal ▸ dvd_tenPow_max a' b')
  rw [ends, Nat.le_antisymm atMost atLeast]

/-- The length of the expansion of a rational is found whenever it ends. -/
theorem hasExpansion_iff {q : Rat} {k : Nat} :
    HasExpansion q k ↔ expansionLength? q.den = some k := by
  constructor
  · rintro ⟨q', a, b, equal, den, rfl⟩
    rw [Rat.cast_inj.mp equal, den, expansionLength?_eq_some]
  · intro ends
    obtain ⟨a, b, den, length⟩ := exists_of_expansionLength? ends
    exact ⟨q, a, b, rfl, den, length⟩

/-- An integer has an expansion without decimals. -/
theorem hasExpansion_intCast (m : Int) : HasExpansion m 0 :=
  ⟨m, 0, 0, by rw [Rat.cast_intCast], by simp, rfl⟩

/-- The decimals of a finite expansion clear the denominator. -/
theorem exists_int_of_hasExpansion
    {q : Rat}
    {decimals : Nat}
    (expansion : HasExpansion q decimals) :
    ∃ m : Int, q * 10 ^ decimals = m := by
  obtain ⟨q', twos, fives, equal, den, rfl⟩ := expansion
  obtain rfl : q = q' := Rat.cast_inj.mp equal
  obtain ⟨cofactor, product⟩ := dvd_tenPow_max twos fives
  rw [← den] at product
  have power : (10 : Rat) ^ max twos fives = q.den * cofactor := by exact_mod_cast product
  refine ⟨q.num * cofactor, ?_⟩
  rw [power, ← mul_assoc, Rat.mul_den_eq_num]
  push_cast
  rfl

/-- Scaled by the length of its expansion a rational is an integer. -/
theorem scaled_of_expansionLength?
    {q : Rat}
    {k : Nat}
    (fits : k < 2 ^ 32)
    (ends : expansionLength? q.den = some k) :
    (scaled q k : Rat) = q * 10 ^ k := by
  obtain ⟨m, integral⟩ := exists_int_of_hasExpansion (hasExpansion_iff.mpr ends)
  have real : (q * 10 ^ k : ℝ) = m := by exact_mod_cast congrArg (Rat.cast (K := ℝ)) integral
  have rounded := towardZero_mul_tenPow q fits
  rw [real, towardZero_intCast] at rounded
  rw [integral, scaled, ← rounded]

/-- The last decimal of a finite expansion is not zero. -/
theorem not_ten_dvd_scaled
    {q : Rat}
    {k : Nat}
    (fits : k + 1 < 2 ^ 32)
    (ends : expansionLength? q.den = some (k + 1)) :
    ¬(10 : Int) ∣ scaled q (k + 1) := by
  rintro ⟨z, tenfold⟩
  have exact := scaled_of_expansionLength? fits ends
  rw [tenfold, Int.cast_mul, pow_succ', ← mul_assoc, mul_comm q, mul_assoc] at exact
  have shorter : q * 10 ^ k = z := (mul_left_cancel₀ (by norm_num) exact).symm
  obtain ⟨a, b, den, length⟩ := exists_of_expansionLength? ends
  have bound := max_le_of_dvd_tenPow (den ▸ den_dvd_tenPow shorter)
  omega

/-- Whether a number has a finite expansion within the limit of the settings. -/
def ReadsInFull (settings : Settings) (x : ℝ) : Prop :=
  ∃ decimals ≤ settings.exactDigits, HasExpansion x decimals

/-- What the numeral that is read from a number says about it. -/
structure IsReadingOf (settings : Settings) (x : ℝ) (numeral : Numeral) : Prop where
  plain : numeral.IsPlain
  integer : ∀ m : Int, x = m → numeral.text = toString m
  exact : ∀ decimals ≤ settings.exactDigits, HasExpansion x decimals →
    (numeral.value : ℝ) = x ∧ numeral.fraction.length = decimals
  truncated : ¬ReadsInFull settings x →
    (numeral.value : ℝ) =
      towardZero (x * 10 ^ settings.readingDigits) / 10 ^ settings.readingDigits

variable {settings : Settings}

/-- An integer is read as it is. -/
theorem isReadingOf_intCast (m : Int) : IsReadingOf settings m (.ofScaled m 0) where
  plain := Numeral.isPlain_ofScaled m 0
  integer := by
    intro k equal
    rw [Numeral.text_ofScaled_zero, Int.cast_inj.mp equal, text_eq_toString]
  exact := by
    intro decimals _ expansion
    rw [← Rat.cast_intCast, hasExpansion_iff, Rat.den_intCast] at expansion
    have length : decimals = 0 := by
      rw [show (1 : Nat) = 2 ^ 0 * 5 ^ 0 from rfl, expansionLength?_eq_some] at expansion
      exact (Option.some.inj expansion).symm
    rw [length, Numeral.value_ofScaled]
    exact ⟨by simp, rfl⟩
  truncated := fun long => absurd ⟨0, Nat.zero_le _, hasExpansion_intCast m⟩ long

/-- A fraction whose expansion ends soon enough is read in full. -/
theorem isReadingOf_of_expansionLength?
    {q : Rat}
    {k : Nat}
    (ends : expansionLength? q.den = some (k + 1))
    (within : k + 1 ≤ settings.exactDigits)
    (fits : k + 1 < 2 ^ 32) :
    IsReadingOf settings q (.ofScaled (scaled q (k + 1)) (k + 1)) where
  plain := Numeral.isPlain_ofScaled _ _
  integer := by
    intro m equal
    have expansion := hasExpansion_intCast m
    rw [← equal, hasExpansion_iff, ends] at expansion
    exact absurd (Option.some.inj expansion) (Nat.succ_ne_zero k)
  exact := by
    intro decimals _ expansion
    rw [hasExpansion_iff, ends, Option.some.injEq] at expansion
    subst expansion
    rw [Numeral.value_ofScaled, Numeral.fraction_ofScaled (not_ten_dvd_scaled fits ends),
      length_lastDigits, scaled_of_expansionLength? fits ends, mul_div_cancel_right₀]
    · exact ⟨rfl, rfl⟩
    · positivity
  truncated := fun long => absurd ⟨k + 1, within, hasExpansion_iff.mpr ends⟩ long

/-- A number that is not read in full is rounded towards zero. -/
theorem isReadingOf_towardZero
    {x : ℝ}
    (long : ¬ReadsInFull settings x) :
    IsReadingOf settings x
      (.ofScaled (towardZero (x * 10 ^ settings.readingDigits)) settings.readingDigits) where
  plain := Numeral.isPlain_ofScaled _ _
  integer := fun m equal => absurd ⟨0, Nat.zero_le _, equal ▸ hasExpansion_intCast m⟩ long
  exact := fun decimals within expansion => absurd ⟨decimals, within, expansion⟩ long
  truncated := fun _ => by
    rw [Numeral.value_ofScaled]
    push_cast
    rfl

/-- The reading of a rational. -/
theorem exists_numeral_of_ofRat
    {q : Rat}
    {reading : String}
    (read : ofRat settings q = .ok reading) :
    ∃ numeral : Numeral, numeral.text = reading ∧ IsReadingOf settings q numeral := by
  have truncatedReads
      (long : ¬ReadsInFull settings q)
      (read : truncated settings q = .ok reading) :
      ∃ numeral : Numeral, numeral.text = reading ∧ IsReadingOf settings q numeral := by
    obtain ⟨within, rfl⟩ := checkWidth_then_eq_ok_iff.mp read
    have fits := lt_of_le_widthLimit within
    refine ⟨_, ?_, isReadingOf_towardZero long⟩
    rw [Numeral.truncatedText_eq_text fits, towardZero_mul_tenPow q fits, scaled]
  rw [ofRat] at read
  split at read
  · rename_i integral
    have equal : (q : ℝ) = q.num := by
      exact_mod_cast ((Rat.den_eq_one_iff q).mp integral).symm
    rw [← Except.ok.inj read]
    exact ⟨_, Numeral.text_ofScaled_zero q.num, equal ▸ isReadingOf_intCast q.num⟩
  · rename_i fractional
    split at read
    · rename_i decimals ends
      cases decimals with
      | zero => exact absurd (eq_one_of_expansionLength? ends) fractional
      | succ k =>
          split at read
          · rename_i within
            obtain ⟨padded, rfl⟩ := checkWidth_then_eq_ok_iff.mp read
            have short := lt_of_le_widthLimit padded
            exact ⟨_, (Numeral.scaledText_eq_text (Nat.succ_ne_zero k) short
              (not_ten_dvd_scaled short ends)).symm,
              isReadingOf_of_expansionLength? ends within short⟩
          · rename_i beyond
            refine truncatedReads ?_ read
            rintro ⟨decimals, within, expansion⟩
            rw [hasExpansion_iff, ends, Option.some.injEq] at expansion
            omega
    · rename_i endless
      refine truncatedReads ?_ read
      rintro ⟨decimals, _, expansion⟩
      rw [hasExpansion_iff, endless] at expansion
      contradiction

/-- An irrational number is not read in full. -/
theorem not_readsInFull
    {v : Value}
    (normal : v.IsNormal)
    (irrational : v.rational? = none) :
    ¬ReadsInFull settings v.real := by
  rintro ⟨_, _, q, _, _, equal, _⟩
  rw [← normal.rational?_eq_some_iff, irrational] at equal
  contradiction

/-- The reading of a normal value. -/
theorem exists_numeral_of_isNormal
    {v : Value}
    (normal : v.IsNormal)
    (fits : ¬ReadsInFull settings v.real → v.ScalesFit settings.readingDigits)
    {reading : String}
    (read : ofValue settings v = .ok reading) :
    ∃ numeral : Numeral, numeral.text = reading ∧ IsReadingOf settings v.real numeral := by
  cases rational : v.rational? with
  | some q =>
      simp only [ofValue, rational] at read
      rw [Value.real_of_rational? rational]
      exact exists_numeral_of_ofRat read
  | none =>
      have long : ¬ReadsInFull settings v.real := not_readsInFull normal rational
      simp only [ofValue, rational] at read
      obtain ⟨n, truncated, read⟩ := bind_eq_ok_iff.mp read
      refine ⟨_, ?_, isReadingOf_towardZero long⟩
      rw [Value.towardZero_of_truncate (fits long) truncated]
      split at read
      · rename_i zero
        rw [zero, Numeral.text_ofScaled_of_zero, ← pure_eq_ok_iff.mp read]
      · obtain ⟨padded, rfl⟩ := checkWidth_then_eq_ok_iff.mp read
        exact (Numeral.truncatedText_eq_text (lt_of_le_widthLimit padded)).symm

/-- What a reading says about the value: it is a plain numeral, the value itself if that is
an integer or has a finite expansion that is read in full, and otherwise the value rounded
towards zero at the decimals of the settings. -/
theorem exists_numeral_of_ofValue
    {v : Value}
    (reachable : v.Reachable)
    (fits : ¬ReadsInFull settings v.real → v.ScalesFit settings.readingDigits)
    {reading : String}
    (read : ofValue settings v = .ok reading) :
    ∃ numeral : Numeral, numeral.text = reading ∧ IsReadingOf settings v.real numeral :=
  exists_numeral_of_isNormal reachable.isNormal fits read

theorem exists_numeral_of_ofValue_sqrtTwo_neg :
    ofValue .standard Value.sqrtTwo.neg = .ok "-1.4142135623730950488" ∧
      Value.sqrtTwo.neg.ScalesFit Settings.standard.readingDigits ∧
      ∃ numeral : Numeral, numeral.text = "-1.4142135623730950488" ∧
        IsReadingOf .standard Value.sqrtTwo.neg.real numeral := by
  have read : ofValue .standard Value.sqrtTwo.neg = .ok "-1.4142135623730950488" := by
    decide +kernel
  have fits : Value.sqrtTwo.neg.ScalesFit Settings.standard.readingDigits :=
    Value.scalesFit_of_lt _ (by decide)
  exact ⟨read, fits,
    exists_numeral_of_ofValue (.neg Value.reachable_sqrtTwo) (fun _ => fits) read⟩

/-- Only the numeral of zero is written as 0. -/
theorem Numeral.IsPlain.value_eq_zero
    {numeral : Numeral}
    (plain : numeral.IsPlain)
    (zero : numeral.text = "0") :
    numeral.value = 0 := by
  have nonempty := plain.whole_ne_nil
  obtain ⟨negative, whole, fraction⟩ := numeral
  have characters := congrArg String.toList zero
  rw [Numeral.text, String.toList_append, String.toList_ofList] at characters
  cases negative with
  | true => simp at characters
  | false =>
      have split : whole ++ pointed fraction = ['0'] := characters
      rw [List.append_eq_singleton_iff] at split
      obtain ⟨empty, _⟩ | ⟨rfl, noPoint⟩ := split
      · exact absurd empty nonempty
      · have noFraction : fraction = [] := by
          rw [pointed] at noPoint
          by_contra some
          simp [some] at noPoint
        simp [noFraction, Numeral.value, Numeral.size, Nat.ofDigitChars]

/-- Settings that ask for one decimal more than a scale can count. -/
def beyondScale : Settings :=
  { Settings.standard with readingDigits := 2 ^ 32 }

/-- Half the square root of two is read to no decimal at all where a scale cannot count the
decimals. -/
theorem ofValue_dividedRoot_wraps :
    (Value.dividedRoot 2).Reachable ∧
      ofValue beyondScale (Value.dividedRoot 2) = .ok "0" ∧
      ¬∃ numeral : Numeral, numeral.text = "0" ∧
        IsReadingOf beyondScale (Value.dividedRoot 2).real numeral := by
  have reachable : (Value.dividedRoot 2).Reachable := by
    rw [← Value.scale_sqrtTwo (by omega)]
    exact .scale _ Value.reachable_sqrtTwo
  refine ⟨reachable, by decide +kernel, ?_⟩
  rintro ⟨numeral, zero, reading⟩
  have rounded := reading.truncated
    (not_readsInFull reachable.isNormal (Value.rational?_dividedRoot (by omega)))
  have large : (10 : ℝ) ≤ 10 ^ beyondScale.readingDigits :=
    le_self_pow₀ (by norm_num) (by decide)
  rw [reading.plain.value_eq_zero zero, Value.real_dividedRoot, Rat.cast_zero] at rounded
  generalize (10 : ℝ) ^ beyondScale.readingDigits = scale at large rounded
  have root : 1 ≤ √2 := Real.one_le_sqrt.mpr (by norm_num)
  have above : 1 ≤ √2 / (2 : Nat) * scale := by
    push_cast
    nlinarith
  have whole : 1 ≤ towardZero (√2 / (2 : Nat) * scale) := by
    rw [towardZero_of_nonneg (by linarith), Int.le_floor]
    exact_mod_cast above
  have positive : (0 : ℝ) < towardZero (√2 / (2 : Nat) * scale) / scale := by
    have numerator : (1 : ℝ) ≤ towardZero (√2 / (2 : Nat) * scale) := by exact_mod_cast whole
    apply div_pos <;> linarith
  exact positive.ne rounded

end Reading
end FourFours
