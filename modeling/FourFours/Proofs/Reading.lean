import FourFours.Proofs.Integer.SquareFactor
import FourFours.Proofs.Radical.Reachable
import FourFours.Proofs.Radical.Truncation
import FourFours.Reading
import Mathlib.Data.List.DropRight
import Mathlib.Data.Nat.Prime.Basic

/-!
# What a reading without a point says

A reading shows no decimals exactly if the truncated number is an integer. Then the text
is that of an integer `m`, and the value is `m` followed by zeros to as many decimals as
are read. Where the value has a finite expansion that is read in full, it is `m`.
-/

namespace FourFours

namespace Integer

theorem isDigit_of_mem_digits {n : Nat} {c : Char} (member : c ∈ digits n) :
    c.isDigit = true := by
  rw [digits_eq_toDigits] at member
  exact Nat.isDigit_of_mem_toDigits (by omega) (by omega) member

/-- A number with no digit but 0 is 0. -/
theorem eq_zero_of_digits {n : Nat} (zeros : ∀ c ∈ digits n, c = '0') : n = 0 := by
  rw [digits_eq_toDigits] at zeros
  rw [← Nat.ofDigitChars_ten_toDigits (n := n), List.eq_replicate_of_mem zeros,
    Nat.ofDigitChars_replicate_zero]
  simp

/-- The text of an integer is the text of its absolute value behind its sign. -/
theorem text_eq_sign_append (n : Int) :
    text n = (if n < 0 then "-" else "") ++ String.ofList (digits n.natAbs) := by
  rw [text]
  split
  · exact String.ofList_cons
  · rw [String.empty_append]

theorem digits_injective {m n : Nat} (equal : digits m = digits n) : m = n := by
  rw [digits_eq_toDigits, digits_eq_toDigits] at equal
  rw [← Nat.ofDigitChars_ten_toDigits (n := m), equal, Nat.ofDigitChars_ten_toDigits]

theorem minus_not_mem_digits (n : Nat) : '-' ∉ digits n := by
  intro member
  have digit := isDigit_of_mem_digits member
  contradiction

/-- Integers with the same text are equal. -/
theorem text_injective {m n : Int} (equal : text m = text n) : m = n := by
  have characters := congrArg String.toList equal
  rw [text_eq_sign_append, text_eq_sign_append] at characters
  simp only [String.toList_append, String.toList_ofList] at characters
  split at characters <;> split at characters
  · have absolute := digits_injective (List.append_cancel_left characters)
    omega
  · have member : '-' ∈ "".toList ++ digits n.natAbs := characters ▸ List.mem_cons_self
    exact absurd member (minus_not_mem_digits n.natAbs)
  · have member : '-' ∈ "".toList ++ digits m.natAbs := characters ▸ List.mem_cons_self
    exact absurd member (minus_not_mem_digits m.natAbs)
  · have absolute := digits_injective (List.append_cancel_left characters)
    omega

end Integer

namespace Reading

open Integer Radical

/-- The length of an expansion is the higher power of 2 or 5 in the denominator. -/
theorem exists_of_expansionLength?
    {d k : Nat}
    (ends : expansionLength? d = some k) :
    ∃ a b, d = 2 ^ a * 5 ^ b ∧ k = max a b := by
  simp only [expansionLength?] at ends
  obtain ⟨rest, length⟩ := Option.ite_none_right_eq_some.mp ends
  rw [Option.some.injEq] at length
  refine ⟨(divideOut 2 d).1, (divideOut 5 (divideOut 2 d).2).1, ?_, length.symm⟩
  have twos := pow_mul_divideOut 2 d
  have fives := pow_mul_divideOut 5 (divideOut 2 d).2
  rw [rest, Nat.mul_one] at fives
  rw [fives, twos]

/-- A finite expansion without decimals is that of an integer. -/
theorem eq_one_of_expansionLength? {d : Nat} (ends : expansionLength? d = some 0) : d = 1 := by
  obtain ⟨a, b, rfl, length⟩ := exists_of_expansionLength? ends
  obtain ⟨rfl, rfl⟩ : a = 0 ∧ b = 0 := by omega
  rfl

/-- The factors of a divisor of a power of ten. -/
theorem le_of_dvd_tenPow
    {twos fives rest k : Nat}
    (odd : ¬2 ∣ rest)
    (notFive : ¬5 ∣ rest)
    (divides : 2 ^ twos * (5 ^ fives * rest) ∣ 10 ^ k) :
    twos ≤ k ∧ fives ≤ k ∧ rest = 1 := by
  have ten : 10 ^ k = 2 ^ k * 5 ^ k := by rw [← Nat.mul_pow]
  have coprime : Nat.Coprime 2 5 := by decide
  have coprimeTwo := (Nat.prime_two.coprime_iff_not_dvd.mpr odd).symm
  have coprimeFive := (Nat.prime_five.coprime_iff_not_dvd.mpr notFive).symm
  rw [ten] at divides
  refine ⟨?_, ?_, ?_⟩
  · apply (Nat.pow_dvd_pow_iff_le_right (by omega : 1 < 2)).mp
    exact (coprime.pow twos k).dvd_of_dvd_mul_right ((Nat.dvd_mul_right _ _).trans divides)
  · apply (Nat.pow_dvd_pow_iff_le_right (by omega : 1 < 5)).mp
    apply (coprime.symm.pow fives k).dvd_of_dvd_mul_left
    exact ((Nat.dvd_mul_right _ _).trans (Nat.dvd_mul_left _ _)).trans divides
  · apply ((coprimeTwo.pow_right k).mul_right (coprimeFive.pow_right k)).eq_one_of_dvd
    exact ((Nat.dvd_mul_left _ _).trans (Nat.dvd_mul_left _ _)).trans divides

/-- A divisor of a power of ten has a finite expansion of at most that many decimals. -/
theorem exists_expansionLength?
    {d k : Nat}
    (divides : d ∣ 10 ^ k) :
    ∃ digits ≤ k, expansionLength? d = some digits := by
  have positive : 0 < d := Nat.pos_of_dvd_of_pos divides (by positivity)
  have twos := pow_mul_divideOut 2 d
  have odd := not_dvd_divideOut (p := 2) (by omega) positive
  simp only [expansionLength?]
  generalize divideOut 2 d = two at *
  have positive' : 0 < two.2 := Nat.pos_of_ne_zero (by rintro zero; simp [zero] at odd)
  have fives := pow_mul_divideOut 5 two.2
  have notFive := not_dvd_divideOut (p := 5) (by omega) positive'
  generalize divideOut 5 two.2 = five at *
  rw [← fives] at twos odd
  rw [← twos] at divides
  obtain ⟨twosLe, fivesLe, rest⟩ :=
    le_of_dvd_tenPow (fun dvd => odd (dvd.mul_left _)) notFive divides
  exact ⟨max two.1 five.1, Nat.max_le.mpr ⟨twosLe, fivesLe⟩, if_pos rest⟩

/-- A rational that some power of ten makes an integer has a finite expansion. -/
theorem den_dvd_tenPow
    {q : Rat}
    {k : Nat}
    {z : Int}
    (whole : q * 10 ^ k = z) :
    q.den ∣ 10 ^ k := by
  have cleared : q.num * 10 ^ k = z * q.den := by
    have quotient := Rat.mul_den_eq_num q
    have product : (q.num * 10 ^ k : Rat) = z * q.den := by
      rw [← whole, ← quotient]
      ring
    exact_mod_cast product
  have absolute : q.num.natAbs * 10 ^ k = z.natAbs * q.den := by
    have both := congrArg Int.natAbs cleared
    rwa [Int.natAbs_mul, Int.natAbs_mul, Int.natAbs_pow, Int.natAbs_natCast] at both
  exact q.reduced.symm.dvd_of_dvd_mul_left (Dvd.intro_left _ absolute.symm)

theorem dropWhile_point_of_not_mem {tail : List Char} (pointless : '.' ∉ tail) :
    tail.dropWhile (· == '.') = tail := by
  cases tail with
  | nil => rfl
  | cons c tail =>
      have differs : c ≠ '.' := fun point => pointless (point ▸ List.mem_cons_self)
      exact List.dropWhile_cons_of_neg (by simpa using differs)

/-- Decimals behind their point, and nothing if there are none. -/
def pointed (fraction : List Char) : List Char :=
  if fraction = [] then [] else '.' :: fraction

/-- The zeros behind the last other decimal go, and the point goes with the last decimal. -/
theorem withoutTrailingZeros_append
    {whole fraction : List Char}
    (pointless : '.' ∉ whole)
    (pointless' : '.' ∉ fraction) :
    withoutTrailingZeros (whole ++ '.' :: fraction) =
      whole ++ pointed (fraction.rdropWhile (· == '0')) := by
  have reversed : (whole ++ '.' :: fraction).reverse =
      fraction.reverse ++ '.' :: whole.reverse := by simp
  have pointlessKept : '.' ∉ fraction.reverse.dropWhile (· == '0') := fun member =>
    pointless' (List.mem_reverse.mp ((List.dropWhile_suffix _).subset member))
  rw [withoutTrailingZeros, if_pos (by simp), reversed, pointed, List.rdropWhile,
    List.dropWhile_append]
  generalize fraction.reverse.dropWhile (· == '0') = kept at pointlessKept
  cases kept with
  | nil =>
      rw [List.isEmpty_nil, if_pos rfl, if_pos List.reverse_nil,
        List.dropWhile_cons_of_neg (by decide), List.dropWhile_cons_of_pos (by decide),
        dropWhile_point_of_not_mem (by simpa using pointless), List.reverse_reverse,
        List.append_nil]
  | cons c kept =>
      -- the last decimal that is kept stands between the point and the end
      have notPoint : c ≠ '.' := fun point => pointlessKept (point ▸ List.mem_cons_self)
      rw [List.isEmpty_cons, if_neg (by simp), if_neg (by simp), List.cons_append,
        List.dropWhile_cons_of_neg (by simpa using notPoint)]
      simp

/-- A text that loses its point has no decimal but zeros. -/
theorem withoutTrailingZeros_of_pointless
    {whole fraction : List Char}
    (pointless : '.' ∉ whole)
    (pointless' : '.' ∉ fraction)
    (noPoint : '.' ∉ withoutTrailingZeros (whole ++ '.' :: fraction)) :
    (∀ c ∈ fraction, c = '0') ∧
      withoutTrailingZeros (whole ++ '.' :: fraction) = whole := by
  rw [withoutTrailingZeros_append pointless pointless', pointed] at noPoint ⊢
  split at noPoint
  · rename_i zeros
    rw [if_pos zeros, List.append_nil]
    exact ⟨by simpa using zeros, rfl⟩
  · simp at noPoint

theorem point_not_mem_digits (n : Nat) : '.' ∉ Integer.digits n := by
  intro member
  have digit := isDigit_of_mem_digits member
  contradiction

theorem point_not_mem_fraction (n digits : Nat) :
    '.' ∉ (Integer.digits n).leftpad digits '0' := by
  simp [List.leftpad, point_not_mem_digits]

/-- The sign and the whole part of a number at the scale of some digits. -/
def wholeText (n : Int) (digits : Nat) : String :=
  (if n < 0 then "-" else "") ++ String.ofList (Integer.digits (n.natAbs / scaleUnit digits))

theorem point_not_mem_wholeText (n : Int) (digits : Nat) :
    '.' ∉ (wholeText n digits).toList := by
  rw [wholeText]
  split <;> simp [point_not_mem_digits]

/-- The whole part of an integer is the integer. -/
theorem wholeText_mul (m : Int) (digits : Nat) :
    wholeText (m * scaleUnit digits) digits = text m := by
  have sign : m * scaleUnit digits < 0 ↔ m < 0 := by
    rw [← not_le, mul_nonneg_iff_of_pos_right (by exact_mod_cast scaleUnit_pos digits), not_le]
  have quotient : (m * scaleUnit digits).natAbs / scaleUnit digits = m.natAbs := by
    rw [Int.natAbs_mul, Int.natAbs_natCast, Nat.mul_div_cancel _ (scaleUnit_pos digits)]
  simp only [wholeText, sign, quotient, text_eq_sign_append m]

theorem scaledText_zero (n : Int) : scaledText n 0 = wholeText n 0 := by
  rw [scaledText, if_pos rfl, wholeText, text_eq_sign_append,
    if_neg (not_lt.mpr (Int.natCast_nonneg _)), String.empty_append, Int.natAbs_natCast]

/-- The characters of a number with some decimals. -/
theorem toList_scaledText (n : Int) {digits : Nat} (decimals : digits ≠ 0) :
    (scaledText n digits).toList = (wholeText n digits).toList ++
      '.' :: (Integer.digits (n.natAbs % scaleUnit digits)).leftpad digits '0' := by
  have whole := text_eq_sign_append ((n.natAbs / scaleUnit digits : Nat) : Int)
  rw [if_neg (not_lt.mpr (Int.natCast_nonneg _)), String.empty_append,
    Int.natAbs_natCast] at whole
  simp only [scaledText, if_neg decimals, whole, wholeText, String.toList_append,
    String.toList_ofList, List.append_assoc]
  rfl

/-- A number with some decimals whose text shows none is an integer, and so is its text. -/
theorem truncatedText_integral
    {n : Int}
    {digits : Nat}
    (noPoint : '.' ∉ (truncatedText n digits).toList) :
    ∃ m : Int, n = m * scaleUnit digits ∧ truncatedText n digits = text m := by
  rw [truncatedText, String.toList_ofList] at noPoint
  by_cases integral : digits = 0
  · subst integral
    have whole := wholeText_mul n 0
    have unit : n * scaleUnit 0 = n := mul_one n
    rw [unit] at whole
    refine ⟨n, unit.symm, ?_⟩
    rw [truncatedText, scaledText_zero, withoutTrailingZeros,
      if_neg (by simpa using point_not_mem_wholeText n 0), String.ofList_toList, whole]
  · rw [toList_scaledText n integral] at noPoint
    obtain ⟨zeros, stripped⟩ := withoutTrailingZeros_of_pointless
      (point_not_mem_wholeText n digits) (point_not_mem_fraction _ _) noPoint
    have whole : n.natAbs % scaleUnit digits = 0 :=
      eq_zero_of_digits fun c member => zeros c (by simp [List.leftpad, member])
    obtain ⟨m, rfl⟩ : ∃ m : Int, n = m * scaleUnit digits :=
      exists_eq_mul_left_of_dvd (Int.natCast_dvd.mpr (Nat.dvd_of_mod_eq_zero whole))
    refine ⟨m, rfl, ?_⟩
    rw [truncatedText, toList_scaledText _ integral, stripped, String.ofList_toList,
      wholeText_mul]

/-- What a reading that shows the integer `m` says about a number: rounded towards zero to
the decimals that are read it is `m`, and it is `m` itself if its expansion is finite and
short enough to be read in full. -/
structure ReadsAs (settings : Settings) (x : ℝ) (m : Int) : Prop where
  rounded : towardZero (x * 10 ^ settings.readingDigits) = m * 10 ^ settings.readingDigits
  exact : ∀ k ≤ settings.exactDigits, ∀ z : Int, x * 10 ^ k = z → x = m

variable {settings : Settings}

theorem readsAs_intCast (m : Int) : ReadsAs settings m m where
  rounded := by
    have scaled : (m : ℝ) * 10 ^ settings.readingDigits =
        ((m * 10 ^ settings.readingDigits : Int) : ℝ) := by push_cast; rfl
    rw [scaled, towardZero_intCast]
  exact := fun _ _ _ _ => rfl

/-- A number of decimals that can be padded is one that a scale can count. -/
theorem lt_of_le_widthLimit {digits : Nat} (within : digits ≤ widthLimit) : digits < 2 ^ 32 :=
  within.trans_lt (by decide)

/-- The reading of a rational without a point. -/
theorem readsAs_of_ofRat
    {q : Rat}
    {reading : String}
    (read : ofRat settings q = .ok reading)
    (noPoint : '.' ∉ reading.toList) :
    ∃ m : Int, reading = text m ∧ ReadsAs settings q m := by
  have truncatedReads
      (limited : ∀ digits, expansionLength? q.den = some digits → settings.exactDigits < digits)
      (read : truncated settings q = .ok reading) :
      ∃ m : Int, reading = text m ∧ ReadsAs settings q m := by
    obtain ⟨within, rfl⟩ := checkWidth_then_eq_ok_iff.mp read
    have fits := lt_of_le_widthLimit within
    obtain ⟨m, integral, read⟩ := truncatedText_integral noPoint
    refine ⟨m, read, ?_, fun k within z whole => ?_⟩
    · rw [towardZero_mul_tenPow q fits]
      rw [scaled] at integral
      rw [integral, scaleUnit_of_lt fits]
      push_cast
      rfl
    · have wholeRat : q * 10 ^ k = z := by exact_mod_cast whole
      obtain ⟨digits, digitsLe, ends⟩ := exists_expansionLength? (den_dvd_tenPow wholeRat)
      have long := limited digits ends
      omega
  rw [ofRat] at read
  split at read
  · rename_i integral
    have equal : (q : ℝ) = q.num := by
      exact_mod_cast ((Rat.den_eq_one_iff q).mp integral).symm
    exact ⟨q.num, (Except.ok.inj read).symm, equal ▸ readsAs_intCast q.num⟩
  · rename_i fractional
    split at read
    · rename_i digits ends
      split at read
      · have decimals : digits ≠ 0 := by
          rintro rfl
          exact fractional (eq_one_of_expansionLength? ends)
        obtain ⟨-, rfl⟩ := checkWidth_then_eq_ok_iff.mp read
        rw [toList_scaledText _ decimals] at noPoint
        exact absurd (by simp) noPoint
      · rename_i long
        refine truncatedReads ?_ read
        intro digits' ends'
        rw [ends, Option.some.injEq] at ends'
        omega
    · rename_i endless
      exact truncatedReads (by simp [endless]) read

/-- The reading of a normal value without a point. -/
theorem readsAs_of_ofValue
    (fits : settings.readingDigits < 3 * 2 ^ 29)
    {v : Value}
    (normal : v.IsNormal)
    {reading : String}
    (read : ofValue settings v = .ok reading)
    (noPoint : '.' ∉ reading.toList) :
    ∃ m : Int, reading = text m ∧ ReadsAs settings v.real m := by
  cases rational : v.rational? with
  | some q =>
      simp only [ofValue, rational] at read
      rw [Value.real_of_rational? rational]
      exact readsAs_of_ofRat read noPoint
  | none =>
      simp only [ofValue, rational] at read
      obtain ⟨n, truncated, read⟩ := bind_eq_ok_iff.mp read
      have rounded := Value.towardZero_of_truncate (v.scalesFit_of_lt fits) truncated
      have integral : ∃ m : Int, n = m * scaleUnit settings.readingDigits ∧ reading = text m := by
        split at read
        · rename_i zero
          rw [pure_eq_ok_iff] at read
          exact ⟨0, by simp [zero], by rw [← read]; decide⟩
        · obtain ⟨-, rfl⟩ := checkWidth_then_eq_ok_iff.mp read
          exact truncatedText_integral noPoint
      obtain ⟨m, integral, rfl⟩ := integral
      refine ⟨m, rfl, ?_, fun k _ z whole => absurd whole (normal.fractional rational k z)⟩
      rw [rounded, integral, scaleUnit_of_lt (by omega)]
      push_cast
      rfl

end Reading
end FourFours
