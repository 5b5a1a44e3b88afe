import FourFours.Proofs.Reading.Reread

/-!
# What numbers with the same reading share

The same reading does not make two numbers equal, as one that is not read in full is cut off.
It makes them equal if both are read in full, and also if one is read in full with more
decimals than any number is cut off at. In any case they agree in the decimals that the
settings ask for.
-/

namespace FourFours
namespace Reading

open Integer Radical

variable {settings : Settings} {x y : ℝ}

/-- What two numbers with the same reading have in common. -/
structure ReadAlike (settings : Settings) (x y : ℝ) : Prop where
  rounded : towardZero (x * 10 ^ settings.readingDigits) =
    towardZero (y * 10 ^ settings.readingDigits)
  exact : ReadsInFull settings x → ReadsInFull settings y → x = y
  /-- A number that is cut off never shows more decimals than the settings ask for. -/
  long : ∀ decimals, settings.readingDigits < decimals → decimals ≤ settings.exactDigits →
    HasExpansion x decimals ∨ HasExpansion y decimals → x = y

namespace IsReadingOf

variable {numeral numeral' : Numeral}

/-- A number is rounded to what its numeral denotes. -/
theorem towardZero_eq (reading : IsReadingOf settings x numeral) :
    towardZero (x * 10 ^ settings.readingDigits) =
      towardZero (numeral.value * 10 ^ settings.readingDigits) := by
  by_cases full : ReadsInFull settings x
  · obtain ⟨decimals, within, expansion⟩ := full
    rw [(reading.exact decimals within expansion).1]
  · have scale : (10 : ℝ) ^ settings.readingDigits ≠ 0 := by positivity
    rw [reading.truncated full, div_mul_cancel₀ _ scale, towardZero_intCast]

/-- What is read in full with more decimals than the settings ask for is read from no other
number. -/
theorem eq_of_long
    (reading : IsReadingOf settings x numeral)
    (reading' : IsReadingOf settings y numeral')
    (same : numeral.value = numeral'.value)
    {decimals : Nat}
    (long : settings.readingDigits < decimals)
    (within : decimals ≤ settings.exactDigits)
    (expansion : HasExpansion x decimals) :
    x = y := by
  have exact := (reading.exact decimals within expansion).1
  by_cases full : ReadsInFull settings y
  · obtain ⟨decimals', within', expansion'⟩ := full
    rw [← exact, same, (reading'.exact decimals' within' expansion').1]
  · -- the number that is cut off would be a whole one at the scale of too few decimals
    exfalso
    obtain ⟨q, a, b, rfl, den, rfl⟩ := expansion
    have scale : (10 : ℝ) ^ settings.readingDigits ≠ 0 := by positivity
    have whole : (q : ℝ) * 10 ^ settings.readingDigits =
        towardZero (y * 10 ^ settings.readingDigits) := by
      rw [← exact, same, reading'.truncated full, div_mul_cancel₀ _ scale]
    have wholeRat : q * 10 ^ settings.readingDigits =
        towardZero (y * 10 ^ settings.readingDigits) := by exact_mod_cast whole
    have divides := den_dvd_tenPow wholeRat
    rw [den] at divides
    have short := max_le_of_dvd_tenPow divides
    omega

theorem readAlike
    (reading : IsReadingOf settings x numeral)
    (reading' : IsReadingOf settings y numeral')
    (same : numeral.value = numeral'.value) :
    ReadAlike settings x y where
  rounded := by
    rw [reading.towardZero_eq, reading'.towardZero_eq, same]
  exact := by
    rintro ⟨decimals, within, expansion⟩ ⟨decimals', within', expansion'⟩
    rw [← (reading.exact decimals within expansion).1, same,
      (reading'.exact decimals' within' expansion').1]
  long := by
    rintro decimals long within (expansion | expansion)
    · exact reading.eq_of_long reading' same long within expansion
    · exact (reading'.eq_of_long reading same.symm long within expansion).symm

end IsReadingOf

/-- Normal values with the same reading read alike. -/
theorem readAlike_of_ofValue
    (fits : settings.readingDigits < 3 * 2 ^ 29)
    {v w : Value}
    (normal : v.IsNormal)
    (normal' : w.IsNormal)
    {reading : String}
    (read : ofValue settings v = .ok reading)
    (read' : ofValue settings w = .ok reading) :
    ReadAlike settings v.real w.real := by
  obtain ⟨numeral, text, isReading⟩ :=
    exists_numeral_of_isNormal normal (fun _ => v.scalesFit_of_lt fits) read
  obtain ⟨numeral', text', isReading'⟩ :=
    exists_numeral_of_isNormal normal' (fun _ => w.scalesFit_of_lt fits) read'
  have same := isReading.plain.isProper.eq_of_text isReading'.plain.isProper
    (text.trans text'.symm)
  exact isReading.readAlike isReading' (congrArg Numeral.value same)

end Reading
end FourFours
