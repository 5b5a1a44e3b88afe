import FourFours.Proofs.Radical.Degree

/-!
# Calculations within a field

A calculation all of whose square roots lie in a field of small degree never needs too many
of them: every tower on the way generates a part of that field. Sums, products and square
roots of such a calculation have their results, unless a sign stays undecided.
-/

namespace FourFours
namespace Radical

variable {n : Nat} {field : Subfield ℝ}

namespace Tower

/-- Dropping unused roots makes the field no larger. -/
theorem field_trim_le (tower : Tower n) (x : Element n) :
    (Value.trim tower x).tower.field ≤ tower.field := by
  induction tower with
  | base => exact le_rfl
  | adjoin tower radicand origin inductionHypothesis =>
      cases x with
      | pair a b =>
          rw [Value.trim]
          by_cases flat : b.isZero = true
          · rw [if_pos flat]
            exact (inductionHypothesis a).trans (field_le_field_adjoin _ _ _)
          · rw [if_neg flat]

/-- Adjoining a root of a field leaves it there. -/
theorem field_adjoin_le
    {tower : Tower n}
    (le : tower.field ≤ field)
    {radicand : Element n}
    (member : √(radicand.real tower.roots) ∈ field)
    (origin : Option Nat) :
    (tower.adjoin radicand origin).field ≤ field := by
  rw [field_adjoin]
  exact sup_le le (Subfield.closure_le.mpr (Set.singleton_subset_iff.mpr member))

/-- A tower of a small field has few roots. -/
theorem IsProper.level_le_of_field_le
    [FiniteDimensional ℚ field]
    {tower : Tower n}
    (proper : tower.IsProper)
    (le : tower.field ≤ field)
    (small : degree field ≤ 2 ^ radicalLimit) :
    n ≤ radicalLimit := by
  have degrees := degree_mono le
  rw [proper.degree_field] at degrees
  exact (Nat.pow_le_pow_iff_right (by omega)).mp (degrees.trans small)

end Tower

namespace Value

variable {v w u : Value} {number : ℝ}

/-- A normal value whose square roots lie in a field. -/
structure LiesIn (v : Value) (field : Subfield ℝ) : Prop where
  normal : v.IsNormal
  field_le : v.tower.field ≤ field

theorem liesIn_ofRat (q : Rat) (field : Subfield ℝ) : (ofRat q).LiesIn field :=
  ⟨isNormal_ofRat q, Subfield.closure_le.mpr (Set.empty_subset _)⟩

theorem LiesIn.neg (lies : v.LiesIn field) : v.neg.LiesIn field :=
  ⟨lies.normal.neg.1, lies.field_le⟩

theorem LiesIn.scale (lies : v.LiesIn field) (q : Rat) : (v.scale q).LiesIn field :=
  ⟨(lies.normal.scale q).1, (Tower.field_trim_le _ _).trans lies.field_le⟩

/-- The outcome of a calculation is a number over square roots of a field, unless a sign
stays undecided. -/
def Settles (field : Subfield ℝ) (number : ℝ) : Except Fault Value → Prop
  | .ok v => v.LiesIn field ∧ v.real = number
  | .error fault => ∃ exact, fault = .internal (.undecidedSign exact)

/-- Calculations in a row: the second may rely on what the first settles. -/
theorem Settles.bind
    {result : ℝ}
    {first : Except Fault Value}
    {rest : Value → Except Fault Value}
    (settles : Settles field number first)
    (continued : ∀ v : Value, v.LiesIn field → v.real = number →
      Settles field result (rest v)) :
    Settles field result (first >>= rest) := by
  cases first with
  | error fault => exact settles
  | ok v => exact continued v settles.1 settles.2

theorem settles_ofRat (q : Rat) (field : Subfield ℝ) : Settles field q (.ok (ofRat q)) :=
  ⟨liesIn_ofRat q field, real_ofRat q⟩

theorem LiesIn.settles_neg (lies : v.LiesIn field) : Settles field (-v.real) (.ok v.neg) :=
  ⟨lies.neg, lies.normal.neg.2⟩

theorem LiesIn.settles_div_ofRat
    (lies : v.LiesIn field)
    {q : Rat}
    (nonzero : q ≠ 0) :
    Settles field (v.real / q) (v.div (ofRat q)) := by
  rw [lies.normal.div_ofRat nonzero]
  refine ⟨lies.scale q⁻¹, ?_⟩
  rw [(lies.normal.scale q⁻¹).2, Rat.cast_inv, div_eq_mul_inv]

section

variable [FiniteDimensional ℚ field] (small : degree field ≤ 2 ^ radicalLimit)

include small

/-- A calculation over the common tower of two values of a small field stays in the field. -/
theorem LiesIn.settles_combine
    (left : v.LiesIn field)
    (right : w.LiesIn field)
    {combine : (pair : Pair) → Element pair.level}
    (real : ∀ pair : Pair, pair.Represents v.real w.real →
      (combine pair).real pair.tower.roots = number) :
    Settles field number
      (unify v w >>= fun pair => pure (trim pair.tower (combine pair))) := by
  have fields : v.tower.field ⊔ w.tower.field ≤ field := sup_le left.field_le right.field_le
  cases unified : unify v w with
  | error fault =>
      cases isLimit_of_unify unified with
      | undecidedSign exact => exact ⟨exact, rfl⟩
      | tooManyRadicals =>
          have beyond := lt_commonDegree_of_unify left.normal.proper left.normal.level_le
            right.normal.proper unified
          exact absurd (beyond.trans_le (degree_mono fields)) (not_lt.mpr small)
  | ok pair =>
      have represents := represents_of_unify left.normal.proper left.normal.level_le
        right.normal.proper right.normal.level_le unified
      have generated := field_of_unify left.normal.proper left.normal.level_le
        right.normal.proper unified
      obtain ⟨normal, real_trim⟩ :=
        isNormal_trim represents.proper represents.level_le (combine pair)
      refine ⟨⟨normal, (Tower.field_trim_le _ _).trans ?_⟩, real_trim.trans (real pair represents)⟩
      exact generated ▸ fields

theorem LiesIn.settles_add (left : v.LiesIn field) (right : w.LiesIn field) :
    Settles field (v.real + w.real) (v.add w) :=
  left.settles_combine small right fun pair represents => by
    rw [Element.real_add, represents.real_left, represents.real_right]

theorem LiesIn.settles_mul (left : v.LiesIn field) (right : w.LiesIn field) :
    Settles field (v.real * w.real) (v.mul w) :=
  left.settles_combine small right fun pair represents => by
    rw [Tower.real_mul represents.proper.isReal, represents.real_left, represents.real_right]

omit [FiniteDimensional ℚ field] small in
/-- The new root of a value generates no more than the root of its number. -/
theorem LiesIn.field_adjoinRoot_le
    (lies : v.LiesIn field)
    (positive : 0 < v.real)
    (member : √v.real ∈ field) :
    v.adjoinRoot.tower.field ≤ field := by
  obtain ⟨radicand, c, positiveFactor, equal, root_eq⟩ := exists_adjoinRoot_eq positive
  have factor : (0 : ℝ) < c := by exact_mod_cast positiveFactor
  rw [root_eq]
  refine Tower.field_adjoin_le lies.field_le ?_ none
  rw [← equal, Real.sqrt_mul (mul_self_nonneg _), Real.sqrt_mul_self factor.le] at member
  have quotient := div_mem member (SubfieldClass.ratCast_mem field c)
  rwa [mul_div_cancel_left₀ _ factor.ne'] at quotient

/-- The square root of a positive value of a small field settles if it lies in the field. -/
theorem LiesIn.settles_sqrt
    (lies : v.LiesIn field)
    (positive : 0 < v.real)
    (member : √v.real ∈ field) :
    Settles field √v.real v.sqrt := by
  rw [Value.sqrt]
  cases decided : v.sign with
  | error fault => exact ⟨_, Tower.sign_eq_error decided⟩
  | ok sign =>
      obtain rfl : sign = .gt :=
        (Tower.cmp_of_sign decided).symm.trans ((cmp_eq_gt_iff _ _).mpr positive)
      simp only [bind, Except.bind]
      split
      · rename_i root found
        cases chosen : v.tower.nonnegative root with
        | error fault => exact ⟨_, Tower.nonnegative_eq_error chosen⟩
        | ok image =>
            obtain ⟨normal, real⟩ :=
              isNormal_trim lies.normal.proper lies.normal.level_le image
            exact ⟨⟨normal, (Tower.field_trim_le _ _).trans lies.field_le⟩,
              real.trans (Tower.real_nonnegative_root lies.normal.proper.isReal found chosen)⟩
      · rename_i missing
        -- with the new root the tower still lies in the field, so there is room for it
        have proper := lies.normal.proper.adjoin_of_sqrt? positive missing none
        have within := proper.level_le_of_field_le
          (Tower.field_adjoin_le lies.field_le member none) small
        rw [if_neg (by omega)]
        obtain ⟨normal, real⟩ := lies.normal.adjoinRoot positive within missing
        exact ⟨⟨normal, lies.field_adjoinRoot_le positive member⟩, real⟩

end

end Value
end Radical
end FourFours
