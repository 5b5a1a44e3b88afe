import FourFours.Integer.DigitsLemmas
import FourFours.Proofs.Radical.Arithmetic
import Mathlib.Algebra.Order.Round
import Mathlib.Data.Rat.Floor

/-!
# Truncated readings

A value read to a number of decimals is its real number at that scale, rounded towards
zero. The integer part of an enclosure that leaves no doubt is that of the real number in
it, as long as every scale of the schedule keeps all the decimals that it asks for.
-/

namespace FourFours

namespace Integer

/-- Kept decimals add up as long as the scale can keep the sum. -/
theorem keptDecimals_add
    {digits guardDigits : Nat}
    (fits : digits + keptDecimals guardDigits < 2 ^ 32) :
    keptDecimals (digits + guardDigits) = digits + keptDecimals guardDigits := by
  rw [keptDecimals, ← Nat.add_mod_mod]
  exact Nat.mod_eq_of_lt fits

/-- A number of guard digits in the schedule, cut to 32 bits. -/
theorem keptDecimals_ten_mul_twoPow_le (i : Nat) :
    keptDecimals (10 * twoPow i) ≤ 5 * 2 ^ 29 := by
  by_cases short : i < 32
  · have checked : ∀ i < 32, keptDecimals (10 * twoPow i) ≤ 5 * 2 ^ 29 := by decide
    exact checked i short
  · obtain ⟨j, rfl⟩ := Nat.exists_eq_add_of_le (Nat.not_lt.mp short)
    have whole : keptDecimals (10 * twoPow (32 + j)) = 0 := by
      rw [keptDecimals, twoPow_eq, twoPow_eq, Nat.pow_add]
      exact Nat.mod_eq_zero_of_dvd ⟨10 * 2 ^ j, by ring⟩
    omega

end Integer

namespace Radical

variable {n : Nat}

/-- A real number rounded towards zero. -/
noncomputable def towardZero (x : ℝ) : Int :=
  if x < 0 then ⌈x⌉ else ⌊x⌋

theorem towardZero_of_nonneg {x : ℝ} (nonnegative : 0 ≤ x) : towardZero x = ⌊x⌋ :=
  if_neg (not_lt.mpr nonnegative)

theorem towardZero_of_neg {x : ℝ} (negative : x < 0) : towardZero x = -⌊-x⌋ := by
  rw [towardZero, if_pos negative, ← Int.ceil_neg, neg_neg]

/-- The quotient of integers that rounds towards zero. -/
theorem towardZero_div (a : Int) (b : Nat) : towardZero ((a : ℝ) / b) = a.tdiv b := by
  have floorDiv (c : Int) : ⌊(c : ℝ) / b⌋ = c / b := by
    have rational : ((c / b : ℚ) : ℝ) = c / b := by push_cast; rfl
    rw [← rational, Rat.floor_cast, Rat.floor_intCast_div_natCast]
  rcases lt_or_ge ((a : ℝ) / b) 0 with negative | nonnegative
  · have numerator : a < 0 := by
      by_contra notNegative
      have : (0 : ℝ) ≤ a := by exact_mod_cast not_lt.mp notNegative
      exact absurd negative (not_lt.mpr (by positivity))
    rw [towardZero_of_neg negative, ← neg_div, ← Int.cast_neg, floorDiv,
      ← Int.tdiv_eq_ediv_of_nonneg (by omega), Int.neg_tdiv, neg_neg]
  · rw [towardZero_of_nonneg nonnegative, floorDiv]
    rcases Nat.eq_zero_or_pos b with rfl | positive
    · simp
    · have denominator : (0 : ℝ) < b := by exact_mod_cast positive
      have numerator : (0 : ℝ) ≤ a := by
        have product := mul_nonneg nonnegative denominator.le
        rwa [div_mul_cancel₀ _ denominator.ne'] at product
      exact (Int.tdiv_eq_ediv_of_nonneg (by exact_mod_cast numerator)).symm

theorem towardZero_intCast (a : Int) : towardZero a = a := by
  have whole := towardZero_div a 1
  rwa [Nat.cast_one, div_one, Nat.cast_one, Int.tdiv_one] at whole

/-- A rational at the scale of a number of digits, rounded towards zero. -/
theorem towardZero_mul_tenPow (q : Rat) {digits : Nat} (fits : digits < 2 ^ 32) :
    towardZero (q * 10 ^ digits) = (q.num * Integer.scaleUnit digits).tdiv q.den := by
  rw [← towardZero_div, Integer.scaleUnit_of_lt fits, Rat.cast_def]
  push_cast
  ring_nf

/-- The scales of a schedule are its start, doubled some number of times. -/
theorem exists_of_mem_scales
    {start cap scale : Nat}
    (member : scale ∈ scales start cap) :
    ∃ i, scale = start * Integer.twoPow i ∧ (start ≤ cap → scale ≤ cap) := by
  obtain ⟨i, within, rfl⟩ := List.mem_map.mp member
  rw [List.mem_range, Nat.lt_succ_iff] at within
  refine ⟨i, rfl, fun starts => ?_⟩
  rcases Nat.eq_zero_or_pos start with rfl | positive
  · simp
  · have quotient : cap / start ≠ 0 := (Nat.div_pos starts positive).ne'
    rw [Nat.mul_comm, ← Nat.le_div_iff_mul_le positive]
    exact (Nat.le_log2 quotient).mp within

/-- A schedule comes within a factor of two of its cap. -/
theorem exists_mem_scales {start : Nat} (positive : 0 < start) (cap : Nat) :
    ∃ scale ∈ scales start cap, cap < 2 * scale := by
  refine ⟨start * Integer.twoPow (cap / start).log2,
    List.mem_map.mpr ⟨_, List.mem_range.mpr (Nat.lt_succ_self _), rfl⟩, ?_⟩
  have quotient : cap / start < 2 * Integer.twoPow (cap / start).log2 := by
    rw [Integer.twoPow_eq, Nat.mul_comm, ← Nat.pow_succ]
    exact Nat.lt_log2_self
  rw [Nat.div_lt_iff_lt_mul positive] at quotient
  rwa [Nat.mul_comm start, ← Nat.mul_assoc]

namespace Tower

/-- With few enough digits, every scale of a reading keeps its digits and guard digits. -/
theorem keptDecimals_of_mem_scales
    {cap digits guardDigits : Nat}
    (starts : 10 ≤ cap)
    (fits : digits + min cap (5 * 2 ^ 29) < 2 ^ 32)
    (member : guardDigits ∈ scales 10 cap) :
    Integer.keptDecimals (digits + guardDigits) =
      digits + Integer.keptDecimals guardDigits := by
  obtain ⟨i, rfl, within⟩ := exists_of_mem_scales member
  apply Integer.keptDecimals_add
  have kept := Integer.keptDecimals_ten_mul_twoPow_le i
  have asked := Integer.keptDecimals_le (10 * Integer.twoPow i)
  have capped := within starts
  omega

/-- Where an enclosure settles the integer part at some scale, it is that of the number. -/
theorem floor_of_truncation?
    {tower : Tower n}
    {x : Element n}
    {digits guardDigits : Nat}
    {t : Int}
    (kept : Integer.keptDecimals (digits + guardDigits) =
      digits + Integer.keptDecimals guardDigits)
    (settled : tower.truncation? x digits guardDigits = some t) :
    ⌊x.real tower.roots * 10 ^ digits⌋ = t := by
  obtain ⟨low, high⟩ :=
    tower.enclosure_contains (Integer.keptDecimals (digits + guardDigits)) x
  simp only [truncation?, Integer.scaleUnit] at settled
  generalize tower.enclosure (Integer.keptDecimals (digits + guardDigits)) x = e at *
  obtain ⟨agree, settled⟩ := Option.ite_none_right_eq_some.mp settled
  rw [Option.some.injEq] at settled
  have unit := tenPow_pos (Integer.keptDecimals guardDigits)
  have unitInt : (0 : Int) < Integer.tenPow (Integer.keptDecimals guardDigits) := by
    exact_mod_cast unit
  have rescaled : x.real tower.roots *
      Integer.tenPow (Integer.keptDecimals (digits + guardDigits)) =
        x.real tower.roots * 10 ^ digits *
          Integer.tenPow (Integer.keptDecimals guardDigits) := by
    rw [kept, Integer.tenPow_eq, Integer.tenPow_eq]
    push_cast
    ring
  rw [rescaled] at low high
  rw [Int.floor_eq_iff]
  constructor
  · rw [← settled]
    exact floorDiv_le unitInt low
  · have above : (e.high : ℝ) <
        (t + 1) * Integer.tenPow (Integer.keptDecimals guardDigits) := by
      have bound := Int.lt_ediv_add_one_mul_self e.high unitInt
      rw [← agree, settled] at bound
      exact_mod_cast bound
    exact lt_of_mul_lt_mul_right (high.trans_lt above) unit.le

/-- The integer part that a schedule finds is that of the number. -/
theorem floor_of_findSome?
    {tower : Tower n}
    {x : Element n}
    {cap digits : Nat}
    {t : Int}
    (starts : 10 ≤ cap)
    (fits : digits + min cap (5 * 2 ^ 29) < 2 ^ 32)
    (found : (scales 10 cap).findSome? (tower.truncation? x digits) = some t) :
    ⌊x.real tower.roots * 10 ^ digits⌋ = t := by
  obtain ⟨guardDigits, member, settled⟩ := List.exists_of_findSome?_eq_some found
  exact floor_of_truncation? (keptDecimals_of_mem_scales starts fits member) settled

end Tower

namespace Value

/-- Whether every scale of the reading to a number of digits keeps all its decimals. -/
def ScalesFit (v : Value) (digits : Nat) : Prop :=
  match v.rational? with
  | some _ => digits < 2 ^ 32
  | none => digits + min (commonScale + v.bits) (5 * 2 ^ 29) < 2 ^ 32

theorem scalesFit_of_lt (v : Value) {digits : Nat} (short : digits < 3 * 2 ^ 29) :
    v.ScalesFit digits := by
  rw [ScalesFit]
  split <;> omega

/-- A rational is read exactly. -/
theorem truncate_of_rational?
    {v : Value}
    {q : Rat}
    (rational : v.rational? = some q)
    {digits : Nat}
    (fits : digits < 2 ^ 32) :
    v.truncate digits = .ok (towardZero (v.real * 10 ^ digits)) := by
  rw [real_of_rational? rational, towardZero_mul_tenPow q fits]
  rw [rational?] at rational
  rw [truncate, Tower.truncate, rational]

/-- What is read from a value is its real number at that scale, rounded towards zero. -/
theorem towardZero_of_truncate
    {v : Value}
    {digits : Nat}
    (fits : v.ScalesFit digits)
    {t : Int}
    (read : v.truncate digits = .ok t) :
    towardZero (v.real * 10 ^ digits) = t := by
  cases rational : v.rational? with
  | some q =>
      simp only [ScalesFit, rational] at fits
      rw [truncate_of_rational? rational fits, Except.ok.injEq] at read
      exact read
  | none =>
      simp only [ScalesFit, rational] at fits
      rw [rational?] at rational
      rw [truncate, Tower.truncate, rational] at read
      obtain ⟨sign, decided, read⟩ := bind_eq_ok_iff.mp read
      have signReal := Tower.cmp_of_sign decided
      dsimp only at read
      split at read
      · rename_i t' found
        have starts : 10 ≤ commonScale + v.bits := Nat.le_add_right_of_le (by decide)
        have integerPart := Tower.floor_of_findSome? starts fits found
        have unit : (0 : ℝ) < 10 ^ digits := by positivity
        by_cases below : sign = .lt
        · subst below
          have negative := mul_neg_of_neg_of_pos ((cmp_eq_lt_iff _ _).mp signReal) unit
          simp only [beq_self_eq_true, if_true, Element.real_neg, pure_eq_ok_iff]
            at integerPart read
          rw [real, towardZero_of_neg negative, ← neg_mul, integerPart, read]
        · have nonnegative : 0 ≤ v.real := by
            by_contra negative
            exact below (signReal.symm.trans ((cmp_eq_lt_iff _ _).mpr (not_le.mp negative)))
          simp only [beq_iff_eq, below, if_false, pure_eq_ok_iff] at integerPart read
          rw [towardZero_of_nonneg (mul_nonneg nonnegative unit.le), real, integerPart, read]
      · contradiction

/-- Enclosures, signs and truncated readings are right. At every scale that can keep its
decimals, the enclosures of the square roots of a value and that of the value contain the
real numbers; a sign is that of the real number; and a reading is the real number at the
scale of its digits, rounded towards zero. -/
theorem readings_certified (v : Value) :
    (∀ p < 2 ^ 32,
      (v.tower.rootEnclosures (Integer.keptDecimals p)).Forall₂ (Enclosure.ContainsFactor p)
          v.tower.roots ∧
        (v.tower.enclosure (Integer.keptDecimals p) v.element).Contains p v.real) ∧
      (∀ sign, v.sign = .ok sign → cmp v.real 0 = sign) ∧
      ∀ digits t, v.ScalesFit digits → v.truncate digits = .ok t →
        towardZero (v.real * 10 ^ digits) = t := by
  refine ⟨fun p fits => ?_, fun sign decided => Tower.cmp_of_sign decided,
    fun digits t fits read => towardZero_of_truncate fits read⟩
  rw [Integer.keptDecimals_of_lt fits]
  exact ⟨v.tower.rootEnclosures_contain p, v.tower.enclosure_contains p v.element⟩

theorem truncate_sqrtTwo_neg :
    sqrtTwo.neg.truncate 3 = .ok (-1414) ∧ towardZero (sqrtTwo.neg.real * 10 ^ 3) = -1414 := by
  have read : sqrtTwo.neg.truncate 3 = .ok (-1414) := by decide +kernel
  have fits : sqrtTwo.neg.ScalesFit 3 := scalesFit_of_lt _ (by norm_num)
  exact ⟨read, (readings_certified sqrtTwo.neg).2.2 3 _ fits read⟩

/-- A scale keeps the number of its decimals in 32 bits, so a value that is read to `2 ^ 32`
decimals is read to none. -/
theorem truncate_one_wraps :
    one.truncate (2 ^ 32) = .ok 1 ∧ towardZero (one.real * 10 ^ (2 ^ 32)) ≠ 1 := by
  refine ⟨by decide +kernel, ?_⟩
  have large : (10 : ℝ) ≤ 10 ^ (2 ^ 32) := le_self_pow₀ (by norm_num) (by decide)
  rw [one, real_ofRat, Rat.cast_one, one_mul]
  generalize (10 : ℝ) ^ (2 ^ 32) = scaled at large
  rw [towardZero_of_nonneg (by linarith)]
  intro read
  have below := Int.lt_floor_add_one scaled
  rw [read] at below
  norm_num at below
  linarith

end Value
end Radical
end FourFours
