import FourFours.Proofs.Radical.Convergence

/-!
# Square roots of tiny numbers

The cap of the schedule for a sign counts the coefficients of an element, but not the
radicands of its square roots. The coefficient of a single new square root is one, so its
schedule ends at the common scale; if the radicand is too small to show there, the sign of
the root is not found, although it is positive. Such values are reachable.
-/

namespace FourFours

theorem Integer.tenPow_le_tenPow {a b : Nat} (le : a ≤ b) : tenPow a ≤ tenPow b :=
  Nat.pow_le_pow_right (by omega) le

namespace Radical

variable {n : Nat}

namespace Element

theorem terms_const {α : Type} (q : Rat) (family : Family α n) :
    (const n q).terms family = if q = 0 then [] else [(q, [])] := by
  induction n generalizing q with
  | zero => rfl
  | succ n inductionHypothesis =>
      cases family
      simp [const, terms, inductionHypothesis]

theorem filter_coefficients_const (n : Nat) (q : Rat) :
    (const n q).coefficients.filter (· ≠ 0) = if q = 0 then [] else [q] := by
  induction n generalizing q with
  | zero => by_cases zero : q = 0 <;> simp [const, coefficients, zero]
  | succ n inductionHypothesis =>
      rw [const, coefficients, List.filter_append, inductionHypothesis, inductionHypothesis]
      simp

theorem isZero_one (n : Nat) : (one n).isZero = false := by
  induction n with
  | zero => rfl
  | succ n inductionHypothesis =>
      rw [one, const, isZero, ← one, inductionHypothesis, Bool.false_and]

/-- The last square root of a level. -/
def last (n : Nat) : Element (n + 1) :=
  .pair (.zero n) (.one n)

theorem terms_last {α : Type} (family : Family α n) (root : α) :
    (last n).terms (.snoc family root) = [(1, [root])] := by
  simp [last, terms, zero, one, terms_const]

theorem bits_last (n : Nat) : (last n).bits = 1 := by
  have coefficients : (last n).coefficients.filter (· ≠ 0) = [1] := by
    rw [last, coefficients, List.filter_append, zero, one, filter_coefficients_const,
      filter_coefficients_const]
    rfl
  rw [bits, coefficients]
  rfl

theorem rational?_last (n : Nat) : (last n).rational? = none := by
  simp [last, rational?, isZero_one]

end Element

theorem Enclosure.scale_one_low (e : Enclosure) : (e.scale 1).low = e.low := by
  rw [scale, if_neg (by decide), Rat.num_one, Rat.den_one, one_mul, Nat.cast_one, Int.ediv_one]

namespace Tower

variable
  {tower : Tower n}
  {radicand : Element n}
  {origin : Option Nat}

/-- At a scale at which the radicand does not show, the enclosure of its root begins at 0. -/
theorem enclosure_last_low
    {p : Nat}
    (tiny : radicand.real tower.roots * Integer.tenPow p < 1) :
    ((tower.adjoin radicand origin).enclosure p (.last n)).low = 0 := by
  have radicandLow : (tower.enclosure p radicand).low ≤ 0 := by
    have below := (tower.enclosure_contains p radicand).1.trans_lt tiny
    have belowInt : (tower.enclosure p radicand).low < 1 := by exact_mod_cast below
    omega
  have rootLow : ((tower.enclosure p radicand).sqrt p).low = 0 := by
    simp [Enclosure.sqrt, Int.toNat_of_nonpos radicandLow, Integer.floorRoot]
  rw [enclosure, rootEnclosures, Element.terms_last]
  change (0 : Int) + (((Enclosure.one p).mul p ((tower.enclosure p radicand).sqrt p)).scale 1).low
    = 0
  rw [Enclosure.scale_one_low, zero_add, Enclosure.mul, rootLow, mul_zero, Int.zero_ediv]

/-- No enclosure with a scale at which the radicand does not show decides the sign. -/
theorem sign?_last
    {p : Nat}
    (tiny : radicand.real tower.roots * Integer.tenPow p < 1) :
    ((tower.adjoin radicand origin).enclosure p (.last n)).sign? = none := by
  have high : 0 ≤ ((tower.adjoin radicand origin).enclosure p (.last n)).high := by
    have contains := ((tower.adjoin radicand origin).enclosure_contains p (.last n)).2
    have nonnegative : 0 ≤ (Element.last n).real (tower.adjoin radicand origin).roots := by
      rw [roots, Element.last, Element.real_pair]
      simp
    have bound := (mul_nonneg nonnegative (tenPow_pos p).le).trans contains
    exact_mod_cast bound
  rw [Enclosure.sign?, if_neg (enclosure_last_low tiny).not_gt, if_neg (not_lt.mpr high)]

/-- The sign of a new square root is not found if its radicand does not show at the common
scale. -/
theorem sign_last_of_tiny
    (nonnegative : 0 ≤ radicand.real tower.roots)
    (tiny : radicand.real tower.roots * Integer.tenPow commonScale < 1) :
    (tower.adjoin radicand origin).sign (.last n) =
      .error (.internal (.undecidedSign ((tower.adjoin radicand origin).text (.last n)))) := by
  have hidden : (scales 16 (commonScale + (Element.last n).bits)).findSome? (fun p =>
      ((tower.adjoin radicand origin).enclosure (Integer.keptDecimals p) (.last n)).sign?) =
        none := by
    rw [List.findSome?_eq_none_iff]
    intro p member
    obtain ⟨i, rounds, capped⟩ := exists_of_mem_scales member
    have scaleLe : p ≤ commonScale := by
      have within := capped (Nat.le_add_right_of_le (by decide))
      rw [Element.bits_last] at within
      have common : commonScale = 8192 := rfl
      omega
    have fits : p < 2 ^ 32 := Nat.lt_of_le_of_lt scaleLe (by decide)
    rw [Integer.keptDecimals_of_lt fits]
    have unitLe : (Integer.tenPow p : ℝ) ≤ Integer.tenPow commonScale :=
      Nat.cast_le.mpr (Integer.tenPow_le_tenPow scaleLe)
    exact sign?_last ((mul_le_mul_of_nonneg_left unitLe nonnegative).trans_lt tiny)
  rw [sign, Element.rational?_last]
  simp only [hidden]

end Tower

namespace Value

/-- The square root of two, divided by a number. -/
def dividedRoot (unit : Nat) : Value :=
  ⟨.rootTwo, .pair (.rational 0) (.rational (unit : Rat)⁻¹)⟩

/-- The square root of a square root of two that is divided by a number. -/
def rootOfDividedRoot (unit : Nat) : Value :=
  ⟨.adjoin .rootTwo (dividedRoot unit).element none, .last 1⟩

theorem real_dividedRoot (unit : Nat) : (dividedRoot unit).real = √2 / unit := by
  simp only [real, dividedRoot, Tower.rootTwo, Tower.roots, Element.real_pair,
    Element.real_rational]
  push_cast
  ring

section DividedRoot

variable
  {unit : Nat}
  (positive : 0 < unit)

include positive

theorem scale_sqrtTwo : sqrtTwo.scale (unit : Rat)⁻¹ = dividedRoot unit := by
  have inverse : ((unit : Rat)⁻¹ == 0) = false := by simp [positive.ne']
  simp [scale, sqrtTwo, Element.scale, Tower.rootTwo, trim, Element.isZero, inverse, dividedRoot]

theorem rational?_dividedRoot : (dividedRoot unit).element.rational? = none := by
  simp [dividedRoot, Element.rational?, Element.isZero, positive.ne']

theorem real_dividedRoot_pos : 0 < (dividedRoot unit).real := by
  have unitReal : (0 : ℝ) < unit := by exact_mod_cast positive
  rw [real_dividedRoot]
  positivity

theorem sqrt?_dividedRoot : (dividedRoot unit).tower.sqrt? (dividedRoot unit).element = none := by
  -- the norm of the square root of two is negative, so it has no root
  simp [dividedRoot, Tower.sqrt?, Tower.rootTwo, Element.isZero, positive.ne', Tower.norm,
    Tower.mul, Element.sub, Element.neg, Element.add, Tower.rationalRoot?]

/-- The enclosure of a divided root begins at the rounded root, divided. -/
theorem enclosure_dividedRoot_low (p : Nat) :
    ((dividedRoot unit).tower.enclosure p (dividedRoot unit).element).low =
      (Integer.floorRoot (2 * Integer.tenPow p * Integer.tenPow p) / unit : Nat) := by
  have unitPos : (0 : Int) < Integer.tenPow p := by exact_mod_cast tenPow_pos p
  have two : (Enclosure.ofTerms p [(2, [])]).low = (2 * Integer.tenPow p : Nat) := by
    change (0 : Int) + ((Enclosure.one p).scale 2).low = _
    rw [Enclosure.scale, if_neg (by decide), zero_add]
    exact Int.ediv_one _
  let root := (Enclosure.ofTerms p [(2, [])]).sqrt p
  have rootLow : root.low = Integer.floorRoot (2 * Integer.tenPow p * Integer.tenPow p) := by
    simp only [root, Enclosure.sqrt, two, Int.toNat_natCast]
  have roots : Tower.rootTwo.rootEnclosures p = .snoc .nil root := by
    simp [Tower.rootTwo, Tower.rootEnclosures, Element.terms, root]
  have terms : (dividedRoot unit).element.terms (.snoc .nil root) =
      [((unit : Rat)⁻¹, [root])] := by
    simp [dividedRoot, Element.terms, positive.ne']
  have enclosed : (dividedRoot unit).tower.enclosure p (dividedRoot unit).element =
      Enclosure.ofTerms p [((unit : Rat)⁻¹, [root])] := by
    rw [Tower.enclosure, ← terms, ← roots]
    rfl
  rw [enclosed]
  change (0 : Int) + (((Enclosure.one p).mul p root).scale (unit : Rat)⁻¹).low = _
  rw [Enclosure.scale, if_neg (by simp), zero_add, Rat.inv_natCast_num_of_pos positive,
    Rat.inv_natCast_den_of_pos positive, one_mul, Enclosure.mul, rootLow]
  simp only [Enclosure.one]
  rw [Int.mul_ediv_cancel_left _ unitPos.ne']
  exact (Int.natCast_ediv _ _).symm

/-- A divided root shows at every scale that counts as many units. -/
theorem sign?_dividedRoot {p : Nat} (reached : unit ≤ Integer.tenPow p) :
    ((dividedRoot unit).tower.enclosure p (dividedRoot unit).element).sign? ≠ none := by
  have root : Integer.tenPow p ≤ Integer.floorRoot (2 * Integer.tenPow p * Integer.tenPow p) := by
    rw [Integer.floorRoot_eq_sqrt, Nat.le_sqrt]
    exact Nat.mul_le_mul_right _ (Nat.le_mul_of_pos_left _ (by omega))
  have low : 0 < Integer.floorRoot (2 * Integer.tenPow p * Integer.tenPow p) / unit :=
    Nat.div_pos (reached.trans root) positive
  rw [Enclosure.sign?, enclosure_dividedRoot_low positive, if_pos (by exact_mod_cast low)]
  simp

theorem bits_dividedRoot : (dividedRoot unit).element.bits = Integer.bitLength unit := by
  have one : Integer.bitLength 1 = 1 := rfl
  have unitBits : 0 < Integer.bitLength unit := by
    rw [Integer.bitLength, if_neg positive.ne']
    exact Nat.succ_pos _
  have coefficients : (dividedRoot unit).element.coefficients.filter (· ≠ 0) =
      [(unit : Rat)⁻¹] := by
    simp [dividedRoot, Element.coefficients, positive.ne']
  simp only [Element.bits, coefficients, List.map_cons, List.map_nil, List.foldl_cons,
    List.foldl_nil, Rat.inv_natCast_num_of_pos positive, Rat.inv_natCast_den_of_pos positive,
    Int.natAbs_one, one]
  omega

/-- The schedule for the sign of a divided root reaches a scale at which it shows. -/
theorem sign_dividedRoot (short : Integer.bitLength unit < 2 ^ 31) :
    (dividedRoot unit).sign = .ok .gt := by
  obtain ⟨p, member, close⟩ :=
    exists_mem_scales (by decide : 0 < 16) (commonScale + (dividedRoot unit).element.bits)
  obtain ⟨i, -, capped⟩ := exists_of_mem_scales member
  have common : commonScale = 8192 := rfl
  rw [bits_dividedRoot positive] at close capped
  have within := capped (by omega)
  have reached : unit ≤ Integer.tenPow p :=
    calc
      unit ≤ 2 ^ Integer.bitLength unit := (Integer.lt_twoPow_bitLength unit).le
      _ ≤ 2 ^ (2 * p) := Nat.pow_le_pow_right (by omega) (by omega)
      _ = 4 ^ p := Nat.pow_mul 2 2 p
      _ ≤ 10 ^ p := Nat.pow_le_pow_left (by omega) p
  have decided := Tower.sign_of_mem_scales (rational?_dividedRoot positive) member (by omega)
    (sign?_dividedRoot positive reached)
  have above : cmp (dividedRoot unit).real 0 = .gt :=
    (cmp_eq_gt_iff _ _).mpr (real_dividedRoot_pos positive)
  exact decided.trans (congrArg Except.ok above)

/-- The square root of a divided root is a new square root. -/
theorem sqrt_dividedRoot (short : Integer.bitLength unit < 2 ^ 31) :
    (dividedRoot unit).sqrt = .ok (rootOfDividedRoot unit) := by
  have irrational : (dividedRoot unit).rational? = none := rational?_dividedRoot positive
  rw [sqrt, sign_dividedRoot positive short]
  simp only [bind, Except.bind, sqrt?_dividedRoot positive, adjoinRoot, irrational]
  rfl

theorem reachable_rootOfDividedRoot (short : Integer.bitLength unit < 2 ^ 31) :
    (rootOfDividedRoot unit).Reachable := by
  have scaled : (dividedRoot unit).Reachable :=
    scale_sqrtTwo positive ▸ .scale _ reachable_sqrtTwo
  exact .sqrt scaled (sqrt_dividedRoot positive short)

end DividedRoot

/-- The square root of two, divided by a large number, has a square root whose sign is not
found. -/
theorem sign_rootOfDividedRoot {unit : Nat} (large : 2 * Integer.tenPow commonScale ≤ unit) :
    (rootOfDividedRoot unit).sign =
      .error (.internal (.undecidedSign (rootOfDividedRoot unit).text)) := by
  have scale := tenPow_pos commonScale
  have largeReal : 2 * (Integer.tenPow commonScale : ℝ) ≤ unit := by
    have cast : ((2 * Integer.tenPow commonScale : Nat) : ℝ) ≤ unit := Nat.cast_le.mpr large
    rwa [Nat.cast_mul, Nat.cast_two] at cast
  have unitReal : (0 : ℝ) < unit := (mul_pos two_pos scale).trans_le largeReal
  have tiny : (dividedRoot unit).real * Integer.tenPow commonScale < 1 := by
    rw [real_dividedRoot, div_mul_eq_mul_div, div_lt_one unitReal]
    have rootTwo : √2 < (2 : ℝ) := (Real.sqrt_lt' two_pos).mpr (by norm_num)
    exact (mul_lt_mul_of_pos_right rootTwo scale).trans_le largeReal
  have positive : 0 < unit := Nat.cast_pos.mp unitReal
  exact Tower.sign_last_of_tiny (real_dividedRoot_pos positive).le tiny

/-- Nothing of a value without a sign is read. -/
theorem truncate_of_sign_error
    {v : Value}
    {fault : Fault}
    (irrational : v.rational? = none)
    (undecided : v.sign = .error fault)
    (digits : Nat) :
    v.truncate digits = .error fault := by
  have element : v.element.rational? = none := irrational
  rw [sign] at undecided
  rw [truncate, Tower.truncate, element]
  simp only [undecided]
  rfl

theorem real_rootOfDividedRoot_pos {unit : Nat} (positive : 0 < unit) :
    0 < (rootOfDividedRoot unit).real := by
  have root := Real.sqrt_pos.mpr (real_dividedRoot_pos positive)
  change 0 < (Element.last 1).real (.snoc _ √(dividedRoot unit).real)
  rwa [Element.last, Element.real_pair, Element.real_zero, Element.real_one, zero_add, one_mul]

/-- A reachable value whose sign and whose readings are not found, although it is positive:
the square root of the square root of two divided by `10 ^ 9000`. -/
theorem rootOfDividedRoot_undecided :
    ∃ v : Value, v.Reachable ∧ 0 < v.real ∧
      v.sign = .error (.internal (.undecidedSign v.text)) ∧
      ∀ digits, v.truncate digits = .error (.internal (.undecidedSign v.text)) := by
  have positive : 0 < Integer.tenPow 9000 := by decide +kernel
  have short : Integer.bitLength (Integer.tenPow 9000) < 2 ^ 31 := by decide +kernel
  have large : 2 * Integer.tenPow commonScale ≤ Integer.tenPow 9000 := by decide +kernel
  have undecided := sign_rootOfDividedRoot large
  exact ⟨rootOfDividedRoot (Integer.tenPow 9000), reachable_rootOfDividedRoot positive short,
    real_rootOfDividedRoot_pos positive, undecided,
    truncate_of_sign_error (Element.rational?_last 1) undecided⟩

end Value
end Radical
end FourFours
