import FourFours.Proofs.Integer.SquareFactor
import FourFours.Proofs.Radical.CommonTower
import Mathlib.Algebra.Order.Field.Power

/-!
# The arithmetic of values

A value is normal when its tower is proper, within the limit of square roots, and as short
as the element allows. Each operation on normal values, if it has a result, returns a
normal value, and the real number of the result is that of the operation.
-/

namespace FourFours
namespace Radical

variable {n : Nat}

namespace Element

/-- Whether an element uses the last square root of its level, if there is one. -/
def usesLast : {n : Nat} → Element n → Bool
  | _, .rational _ => true
  | _, .pair _ b => !b.isZero

@[simp] theorem isZero_neg (x : Element n) : x.neg.isZero = x.isZero := by
  induction x with
  | rational q => simp [neg, isZero]
  | pair a b constantHypothesis slopeHypothesis =>
      simp [neg, isZero, constantHypothesis, slopeHypothesis]

theorem usesLast_neg (x : Element n) : x.neg.usesLast = x.usesLast := by
  cases x <;> simp [neg, usesLast]

end Element

/-- For `n d = k² s` the fraction `n / d` is `(k / d)² s`. -/
theorem factor_of_split
    {q : Rat}
    (positive : 0 < q)
    {split : Integer.SquareSplit}
    (value : split.value = q.num.natAbs * q.den) :
    0 < mkRat split.root q.den ∧
      mkRat split.root q.den * mkRat split.root q.den * (split.rest : Rat) = q := by
  have numerator : (q.num.natAbs : Rat) = q.num := by
    rw [← Int.cast_natCast, Int.natAbs_of_nonneg (Rat.num_pos.mpr positive).le]
  have denominator : (0 : Rat) < q.den := by exact_mod_cast q.den_pos
  have product : (split.root : Rat) * split.root * split.rest = q.num * q.den := by
    rw [← numerator]
    exact_mod_cast value
  have factor : mkRat split.root q.den = split.root / q.den := by
    rw [Rat.mkRat_eq_div, Int.cast_natCast]
  have equal : mkRat split.root q.den * mkRat split.root q.den * (split.rest : Rat) = q := by
    rw [factor]
    field_simp
    linear_combination product - (q.den : Rat) * Rat.mul_den_eq_num q
  refine ⟨?_, equal⟩
  rw [factor]
  have nonzero : split.root ≠ 0 := by
    intro zero
    rw [factor, zero] at equal
    simp only [Nat.cast_zero, zero_div, zero_mul] at equal
    exact positive.ne equal
  exact div_pos (by exact_mod_cast Nat.pos_of_ne_zero nonzero) denominator

namespace Value

/-- A value whose tower is proper, within the limit and no longer than needed. -/
structure IsNormal (v : Value) : Prop where
  proper : v.tower.IsProper
  level_le : v.level ≤ radicalLimit
  usesLast : v.element.usesLast = true

/-- Dropping unused roots makes a value normal and keeps its real number. -/
theorem isNormal_trim
    {tower : Tower n}
    (proper : tower.IsProper)
    (level_le : n ≤ radicalLimit)
    (x : Element n) :
    (trim tower x).IsNormal ∧ (trim tower x).real = x.real tower.roots := by
  induction tower with
  | base =>
      cases x with
      | rational q => exact ⟨⟨trivial, level_le, rfl⟩, rfl⟩
  | adjoin tower radicand origin inductionHypothesis =>
      cases x with
      | pair a b =>
          rw [trim]
          split
          · rename_i flat
            obtain ⟨normal, real⟩ :=
              inductionHypothesis proper.1 (Nat.le_of_succ_le level_le) a
            refine ⟨normal, ?_⟩
            rw [real, Tower.roots, Element.real_pair, Element.real_of_isZero flat, zero_mul,
              add_zero]
          · rename_i steep
            exact ⟨⟨proper, level_le, by simpa [Element.usesLast] using steep⟩, rfl⟩

theorem isNormal_ofRat (q : Rat) : (ofRat q).IsNormal :=
  ⟨trivial, Nat.zero_le _, rfl⟩

/-- The power with a nonzero exponent, from the value or from its inverse. -/
theorem pow_of_ne_zero (v : Value) {e : Int} (nonzero : e ≠ 0) :
    v.pow e = (if e < 0 then v.inverse else pure v) >>= fun base =>
      pure (trim base.tower (base.tower.pow base.element e.natAbs)) := by
  unfold pow
  rw [if_neg nonzero]
  split <;> rfl

/-- The new root of a positive value is `c √r`, where `c² r` is the value. -/
theorem exists_adjoinRoot_eq {v : Value} (positive : 0 < v.real) :
    ∃ (radicand : Element v.level) (c : Rat),
      0 < c ∧ (c : ℝ) * c * radicand.real v.tower.roots = v.real ∧
        v.adjoinRoot =
          ⟨.adjoin v.tower radicand none, .pair (.zero v.level) (.const v.level c)⟩ := by
  unfold adjoinRoot
  split
  · rename_i q rational
    have real_eq := real_of_rational? rational
    have positiveRational : 0 < q := by
      rw [real_eq] at positive
      exact_mod_cast positive
    have value := Integer.splitSquare_value (q.num.natAbs * q.den)
    generalize Integer.splitSquare (q.num.natAbs * q.den) = split at value ⊢
    obtain ⟨positiveFactor, equal⟩ := factor_of_split positiveRational value
    refine ⟨_, _, positiveFactor, ?_, rfl⟩
    rw [real_eq, Element.real_const]
    exact_mod_cast equal
  · exact ⟨_, 1, zero_lt_one, by simp [real], rfl⟩

namespace IsNormal

variable {v w u : Value}

/-- A normal value is zero exactly when its real number is. -/
theorem isZero_iff (normal : v.IsNormal) : v.isZero = true ↔ v.real = 0 :=
  ⟨fun zero => Element.real_of_isZero zero _, normal.proper.isZero_of_real_eq_zero⟩

theorem neg (normal : v.IsNormal) : v.neg.IsNormal ∧ v.neg.real = -v.real :=
  ⟨⟨normal.proper, normal.level_le, (Element.usesLast_neg _).trans normal.usesLast⟩,
    Element.real_neg _ _⟩

/-- A calculation over the common tower of two normal values has a normal result. -/
theorem exists_pair
    (left : v.IsNormal)
    (right : w.IsNormal)
    {combine : (pair : Pair) → Element pair.level}
    (combined : (unify v w >>= fun pair => pure (trim pair.tower (combine pair))) = .ok u) :
    ∃ pair : Pair, pair.Represents v.real w.real ∧
      u.IsNormal ∧ u.real = (combine pair).real pair.tower.roots := by
  rw [bind_eq_ok_iff] at combined
  obtain ⟨pair, unified, trimmed⟩ := combined
  rw [pure_eq_ok_iff] at trimmed
  have represents :=
    represents_of_unify left.proper left.level_le right.proper right.level_le unified
  rw [← trimmed]
  exact ⟨pair, represents,
    isNormal_trim represents.proper represents.level_le (combine pair)⟩

theorem add
    (left : v.IsNormal)
    (right : w.IsNormal)
    (sum : v.add w = .ok u) :
    u.IsNormal ∧ u.real = v.real + w.real := by
  rw [Value.add] at sum
  obtain ⟨pair, represents, normal, real⟩ := left.exists_pair right sum
  refine ⟨normal, ?_⟩
  rw [real, Element.real_add, represents.real_left, represents.real_right]

theorem sub
    (left : v.IsNormal)
    (right : w.IsNormal)
    (difference : v.sub w = .ok u) :
    u.IsNormal ∧ u.real = v.real - w.real := by
  obtain ⟨opposite, realOpposite⟩ := right.neg
  obtain ⟨normal, real⟩ := left.add opposite difference
  exact ⟨normal, by rw [real, realOpposite, sub_eq_add_neg]⟩

theorem mul
    (left : v.IsNormal)
    (right : w.IsNormal)
    (product : v.mul w = .ok u) :
    u.IsNormal ∧ u.real = v.real * w.real := by
  rw [Value.mul] at product
  obtain ⟨pair, represents, normal, real⟩ := left.exists_pair right product
  refine ⟨normal, ?_⟩
  rw [real, Tower.real_mul represents.proper.isReal, represents.real_left,
    represents.real_right]

theorem scale (normal : v.IsNormal) (q : Rat) :
    (v.scale q).IsNormal ∧ (v.scale q).real = v.real * q := by
  obtain ⟨scaled, real⟩ :=
    isNormal_trim normal.proper normal.level_le (v.element.scale q)
  exact ⟨scaled, real.trans (Element.real_scale q _ _)⟩

theorem inverse
    (normal : v.IsNormal)
    (inverted : v.inverse = .ok u) :
    u.IsNormal ∧ v.real ≠ 0 ∧ u.real = v.real⁻¹ := by
  unfold Value.inverse at inverted
  split at inverted
  · simp at inverted
  · split at inverted
    · rename_i x found
      rw [Except.ok.injEq] at inverted
      obtain ⟨trimmed, real⟩ := isNormal_trim normal.proper normal.level_le x
      have one : v.real * x.real v.tower.roots = 1 :=
        Tower.real_mul_inverse? normal.proper.isReal found
      rw [← inverted]
      refine ⟨trimmed, left_ne_zero_of_mul_eq_one one, ?_⟩
      rw [real]
      exact eq_inv_of_mul_eq_one_right one
    · contradiction

theorem div
    (left : v.IsNormal)
    (right : w.IsNormal)
    (quotient : v.div w = .ok u) :
    u.IsNormal ∧ w.real ≠ 0 ∧ u.real = v.real / w.real := by
  unfold Value.div at quotient
  split at quotient
  · simp at quotient
  · rw [bind_eq_ok_iff] at quotient
    obtain ⟨inverted, found, product⟩ := quotient
    obtain ⟨normalInverse, nonzero, realInverse⟩ := right.inverse found
    obtain ⟨normal, real⟩ := left.mul normalInverse product
    exact ⟨normal, nonzero, by rw [real, realInverse, div_eq_mul_inv]⟩

/-- The base of a power, inverted for a negative exponent. -/
theorem powerBase
    (normal : v.IsNormal)
    {e : Int}
    (nonzero : e ≠ 0)
    (based : (if e < 0 then v.inverse else pure v) = .ok u) :
    u.IsNormal ∧ (v.real = 0 → 0 < e) ∧ u.real ^ e.natAbs = v.real ^ e := by
  split at based
  · rename_i negative
    obtain ⟨normalInverse, realNonzero, realInverse⟩ := normal.inverse based
    have exponent : e = -(e.natAbs : Int) := by omega
    refine ⟨normalInverse, fun vanishes => absurd vanishes realNonzero, ?_⟩
    rw [realInverse, inv_pow, ← zpow_natCast, ← zpow_neg, ← exponent]
  · rename_i nonnegative
    rw [pure_eq_ok_iff] at based
    subst based
    have exponent : e = (e.natAbs : Int) := by omega
    refine ⟨normal, fun _ => by omega, ?_⟩
    rw [← zpow_natCast, ← exponent]

theorem pow
    (normal : v.IsNormal)
    {e : Int}
    (power : v.pow e = .ok u) :
    u.IsNormal ∧ (v.real = 0 → 0 < e) ∧ u.real = v.real ^ e := by
  by_cases zero : e = 0
  · subst zero
    unfold Value.pow at power
    rw [if_pos rfl] at power
    split at power
    · simp at power
    · rename_i nonzero
      rw [pure_eq_ok_iff] at power
      subst power
      refine ⟨isNormal_ofRat 1, ?_, by simp [one]⟩
      intro vanishes
      exact absurd (normal.isZero_iff.mpr vanishes) nonzero
  · rw [pow_of_ne_zero v zero, bind_eq_ok_iff] at power
    obtain ⟨base, based, power⟩ := power
    rw [pure_eq_ok_iff] at power
    obtain ⟨normalBase, positive, real⟩ := normal.powerBase zero based
    obtain ⟨trimmed, realTrimmed⟩ := isNormal_trim normalBase.proper normalBase.level_le
      (base.tower.pow base.element e.natAbs)
    rw [← power]
    refine ⟨trimmed, positive, ?_⟩
    rw [realTrimmed, Tower.real_pow normalBase.proper.isReal]
    exact real

/-- A new root `c √r` of a value that has none over its own tower, where `c² r` is the
value. -/
theorem newRoot
    (normal : v.IsNormal)
    (positive : 0 < v.real)
    (room : v.level < radicalLimit)
    (missing : v.tower.sqrt? v.element = none)
    {radicand : Element v.level}
    {c : Rat}
    (positiveFactor : 0 < c)
    (equal : (c : ℝ) * c * radicand.real v.tower.roots = v.real)
    {root : Value}
    (root_eq : root =
      ⟨.adjoin v.tower radicand none, .pair (.zero v.level) (.const v.level c)⟩) :
    root.IsNormal ∧ root.real = √v.real := by
  subst root_eq
  have factor : (0 : ℝ) < c := by exact_mod_cast positiveFactor
  have positiveRadicand : 0 < radicand.real v.tower.roots := by
    rw [← equal] at positive
    exact pos_of_mul_pos_right positive (mul_self_nonneg _)
  refine ⟨⟨⟨normal.proper, positiveRadicand, ?_⟩, room, ?_⟩, ?_⟩
  · intro x square
    apply normal.proper.sqrt?_eq_none_iff.mp missing (x.scale c)
    change _ = v.real
    rw [Element.real_scale, ← equal, ← square]
    ring
  · have nonzero : (Element.const v.level c).isZero ≠ true := by
      intro zero
      have vanishes := Element.real_of_isZero zero v.tower.roots
      rw [Element.real_const] at vanishes
      exact factor.ne' vanishes
    simpa [Element.usesLast] using nonzero
  · rw [real, Tower.roots, Element.real_pair, Element.real_zero, Element.real_const,
      zero_add, ← equal, Real.sqrt_mul (mul_self_nonneg _), Real.sqrt_mul_self factor.le]

/-- The new root of a value that has none over its own tower. -/
theorem adjoinRoot
    (normal : v.IsNormal)
    (positive : 0 < v.real)
    (room : v.level < radicalLimit)
    (missing : v.tower.sqrt? v.element = none) :
    v.adjoinRoot.IsNormal ∧ v.adjoinRoot.real = √v.real := by
  obtain ⟨radicand, c, positiveFactor, equal, root_eq⟩ := exists_adjoinRoot_eq positive
  exact normal.newRoot positive room missing positiveFactor equal root_eq

theorem sqrt
    (normal : v.IsNormal)
    (rooted : v.sqrt = .ok u) :
    u.IsNormal ∧ 0 ≤ v.real ∧ u.real = √v.real := by
  rw [Value.sqrt, bind_eq_ok_iff] at rooted
  obtain ⟨sign, decided, rooted⟩ := rooted
  have signReal : cmp v.real 0 = sign := Tower.cmp_of_sign decided
  cases sign with
  | lt => simp at rooted
  | eq =>
      rw [pure_eq_ok_iff] at rooted
      rw [cmp_eq_eq_iff] at signReal
      subst rooted
      refine ⟨isNormal_ofRat 0, signReal.ge, ?_⟩
      rw [signReal, Real.sqrt_zero]
      simp [zero]
  | gt =>
      rw [cmp_eq_gt_iff] at signReal
      simp only at rooted
      split at rooted
      · rename_i root found
        rw [bind_eq_ok_iff] at rooted
        obtain ⟨chosen, nonnegative, rooted⟩ := rooted
        rw [pure_eq_ok_iff] at rooted
        obtain ⟨trimmed, real⟩ := isNormal_trim normal.proper normal.level_le chosen
        rw [← rooted]
        exact ⟨trimmed, signReal.le,
          real.trans (Tower.real_nonnegative_root normal.proper.isReal found nonnegative)⟩
      · rename_i missing
        split at rooted
        · simp at rooted
        · rename_i room
          rw [pure_eq_ok_iff] at rooted
          rw [← rooted]
          obtain ⟨adjoined, real⟩ :=
            normal.adjoinRoot signReal (not_le.mp room) missing
          exact ⟨adjoined, signReal.le, real⟩

end IsNormal

theorem add_ofRat (p q : Rat) : (ofRat p).add (ofRat q) = .ok (ofRat (p + q)) := rfl

theorem mul_ofRat (p q : Rat) : (ofRat p).mul (ofRat q) = .ok (ofRat (p * q)) := rfl

theorem isZero_ofRat {q : Rat} (nonzero : q ≠ 0) : (ofRat q).isZero = false := by
  simp [isZero, ofRat, Element.isZero, nonzero]

theorem inverse_ofRat {q : Rat} (nonzero : q ≠ 0) : (ofRat q).inverse = .ok (ofRat q⁻¹) := by
  rw [inverse, isZero_ofRat nonzero]
  simp [Tower.inverse?, ofRat, nonzero, trim]

theorem div_ofRat (p : Rat) {q : Rat} (nonzero : q ≠ 0) :
    (ofRat p).div (ofRat q) = .ok (ofRat (p / q)) := by
  rw [div, isZero_ofRat nonzero, inverse_ofRat nonzero, div_eq_mul_inv]
  exact mul_ofRat p q⁻¹

theorem pow_ofRat (q : Rat) {e : Int} (positive : 0 < e) :
    (ofRat q).pow e = .ok (ofRat (q ^ e.natAbs)) := by
  have proper : Tower.base.IsProper := trivial
  have power : Tower.base.pow (.rational q) e.natAbs = .rational (q ^ e.natAbs) := by
    rw [← proper.real_inj, Tower.real_pow proper.isReal, Element.real_rational,
      Element.real_rational]
    push_cast
    rfl
  rw [pow_of_ne_zero _ positive.ne', if_neg positive.not_gt]
  exact congrArg (fun x => Except.ok (trim .base x)) power

/-- A product with a rational is a multiple. -/
theorem IsNormal.mul_ofRat {v : Value} (normal : v.IsNormal) (q : Rat) :
    v.mul (ofRat q) = .ok (v.scale q) := by
  have initial : (ofRat q).tower.isInitial v.tower = true := v.tower.base_isInitial
  have product : v.tower.mul v.element ((ofRat q).element.raise v.level) = v.element.scale q := by
    rw [← normal.proper.real_inj, Tower.real_mul normal.proper.isReal,
      Tower.real_raise_of_isInitial initial, Element.real_scale]
    exact congrArg _ (Element.real_rational q _)
  rw [Value.mul, unify, if_pos initial]
  exact congrArg (fun x => Except.ok (trim v.tower x)) product

/-- A quotient by a rational is a multiple. -/
theorem IsNormal.div_ofRat {v : Value} (normal : v.IsNormal) {q : Rat} (nonzero : q ≠ 0) :
    v.div (ofRat q) = .ok (v.scale q⁻¹) := by
  rw [Value.div, isZero_ofRat nonzero, inverse_ofRat nonzero]
  exact normal.mul_ofRat q⁻¹

theorem integer?_ofInt (k : Int) : (ofInt k).integer? = some k := by
  simp [ofInt, ofRat, integer?, rational?, Element.rational?]

/-- The square root of two. -/
def sqrtTwo : Value :=
  ⟨.rootTwo, .pair (.rational 0) (.rational 1)⟩

theorem adjoinRoot_two : (ofRat 2).adjoinRoot = sqrtTwo := by
  have notSquare : Integer.exactRoot? 2 = none := by cbv
  have split : Integer.splitSquare 2 = ⟨1, 2⟩ := by
    simp [Integer.splitSquare, notSquare, Integer.trialDivisors, Integer.sift,
      Integer.absorb]
  have whole : (2 : Rat).num.natAbs * (2 : Rat).den = 2 := rfl
  simp only [adjoinRoot, ofRat, rational?, Element.rational?, whole, split]
  rfl

theorem sqrtRat_two : sqrtRat 2 = .ok sqrtTwo := by
  have positive : (ofRat 2).sign = .ok .gt := by cbv
  have missing : (ofRat 2).tower.sqrt? (ofRat 2).element = none := by cbv
  rw [sqrtRat, sqrt, positive]
  simp only [bind, Except.bind, missing]
  rw [adjoinRoot_two]
  rfl

end Value
end Radical
end FourFours
