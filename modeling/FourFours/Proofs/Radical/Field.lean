import FourFours.Proofs.Radical.Real
import Mathlib.Algebra.Field.Subfield.Basic
import Mathlib.Tactic.FieldSimp
import Mathlib.Tactic.Positivity

/-!
# The field of a tower

A tower is proper when every radicand is a positive number that is no square in the field
below it. Over a proper tower every element but zero has an inverse, found by its
conjugate, and different elements are different real numbers. The real numbers of the
elements are the field that the square roots generate over the rationals.
-/

namespace FourFours
namespace Radical

variable {n m : Nat}

namespace Tower

/-- Every radicand is a positive number and no square of an element below it. -/
def IsProper : {n : Nat} → Tower n → Prop
  | _, .base => True
  | n + 1, .adjoin tower radicand _ =>
      tower.IsProper ∧ 0 < radicand.real tower.roots ∧
        ∀ x : Element n,
          x.real tower.roots * x.real tower.roots ≠ radicand.real tower.roots

/-- The subfield of the real numbers that the square roots of a tower generate. -/
noncomputable def field : {n : Nat} → Tower n → Subfield ℝ
  | _, .base => .closure ∅
  | _, .adjoin tower radicand _ =>
      Subfield.closure (insert √(radicand.real tower.roots) (tower.field : Set ℝ))

theorem IsProper.isReal {tower : Tower n} (proper : tower.IsProper) : tower.IsReal := by
  induction tower with
  | base => trivial
  | adjoin tower radicand origin inductionHypothesis =>
      exact ⟨inductionHypothesis proper.1, proper.2.1.le⟩

@[simp] theorem restrict_self (tower : Tower n) : tower.restrict n = some tower := by
  cases tower <;> simp [restrict]

theorem restrict_adjoin
    (tower : Tower n)
    (radicand : Element n)
    (origin : Option Nat)
    (shorter : m ≠ n + 1) :
    (tower.adjoin radicand origin).restrict m = tower.restrict m := by
  rw [restrict.eq_def, dif_neg (Ne.symm shorter)]

theorem restrict_zero (tower : Tower n) : tower.restrict 0 = some .base := by
  induction tower with
  | base => rfl
  | adjoin tower radicand origin inductionHypothesis =>
      rw [restrict_adjoin _ _ _ (Nat.succ_ne_zero _).symm, inductionHypothesis]

/-- A tower grows out of its first square roots by adjoining the others. -/
theorem restrict_induction
    {below : Tower m}
    {motive : {n : Nat} → Tower n → Prop}
    (self : motive below)
    (adjoin : ∀ {n : Nat} (tower : Tower n) (radicand : Element n) (origin : Option Nat),
      m ≠ n + 1 → motive tower → motive (tower.adjoin radicand origin))
    {tower : Tower n}
    (initial : tower.restrict m = some below) :
    motive tower := by
  by_cases whole : m = n
  · subst whole
    rw [restrict_self, Option.some.injEq] at initial
    exact initial ▸ self
  · induction tower with
    | base =>
        rw [restrict, dif_neg (Ne.symm whole)] at initial
        contradiction
    | @adjoin n tower radicand origin inductionHypothesis =>
        rw [restrict_adjoin _ _ _ whole] at initial
        apply adjoin tower radicand origin whole
        by_cases last : m = n
        · subst last
          rw [restrict_self, Option.some.injEq] at initial
          exact initial ▸ self
        · exact inductionHypothesis initial last

theorem IsProper.restrict
    {tower : Tower n}
    (proper : tower.IsProper)
    {below : Tower m}
    (initial : tower.restrict m = some below) :
    below.IsProper := by
  revert proper
  refine restrict_induction (motive := fun tower => tower.IsProper → below.IsProper)
    (fun proper => proper) ?_ initial
  intro n tower radicand origin _ inductionHypothesis proper
  exact inductionHypothesis proper.1

/-- What `inverse?` finds is an inverse. -/
theorem real_mul_inverse?
    {tower : Tower n}
    (isReal : tower.IsReal)
    {x y : Element n}
    (found : tower.inverse? x = some y) :
    x.real tower.roots * y.real tower.roots = 1 := by
  induction tower with
  | base =>
      cases x with
      | rational q =>
          simp only [inverse?] at found
          split at found
          · contradiction
          · rename_i nonzero
            rw [Option.some.injEq] at found
            subst found
            have realNonzero : (q : ℝ) ≠ 0 := by exact_mod_cast nonzero
            simp [realNonzero]
  | adjoin tower radicand origin inductionHypothesis =>
      obtain ⟨realBelow, nonnegative⟩ := isReal
      cases x with
      | pair a b =>
          rw [inverse?] at found
          split at found
          · rename_i flat
            simp only [Option.bind_eq_bind, Option.bind_eq_some_iff, Option.pure_def,
              Option.some.injEq] at found
            obtain ⟨u, inverse, rfl⟩ := found
            have product := inductionHypothesis realBelow inverse
            simpa [roots, Element.real_of_isZero flat] using product
          · simp only [Option.bind_eq_bind, Option.bind_eq_some_iff, Option.pure_def,
              Option.some.injEq] at found
            obtain ⟨u, inverse, rfl⟩ := found
            have product := inductionHypothesis realBelow inverse
            rw [real_norm realBelow] at product
            have square := Real.mul_self_sqrt nonnegative
            simp only [roots, Element.real_pair, real_mul realBelow, Element.real_neg]
            linear_combination product -
              b.real tower.roots * b.real tower.roots * u.real tower.roots * square

/-- If every nonzero element has an inverse and the radicand is no square, then the norm
of an element with a slope is not zero. -/
theorem real_norm_ne_zero
    {tower : Tower n}
    (isReal : tower.IsReal)
    (inverses : ∀ x : Element n, x.isZero = false → ∃ y, tower.inverse? x = some y)
    {radicand : Element n}
    (notSquare : ∀ x : Element n,
      x.real tower.roots * x.real tower.roots ≠ radicand.real tower.roots)
    (a : Element n)
    {b : Element n}
    (steep : b.isZero = false) :
    a.real tower.roots * a.real tower.roots ≠
      b.real tower.roots * b.real tower.roots * radicand.real tower.roots := by
  intro equal
  obtain ⟨u, inverse⟩ := inverses b steep
  have one := real_mul_inverse? isReal inverse
  -- the radicand would be the square of `a / b`
  apply notSquare (tower.mul a u)
  rw [real_mul isReal]
  linear_combination u.real tower.roots * u.real tower.roots * equal +
    radicand.real tower.roots *
      (b.real tower.roots * u.real tower.roots + 1) * one

/-- Over a proper tower every nonzero element has an inverse. -/
theorem IsProper.exists_inverse?
    {tower : Tower n}
    (proper : tower.IsProper)
    (x : Element n)
    (nonzero : x.isZero = false) :
    ∃ y, tower.inverse? x = some y := by
  induction tower with
  | base =>
      cases x with
      | rational q =>
          have : q ≠ 0 := by simpa [Element.isZero] using nonzero
          exact ⟨.rational q⁻¹, by rw [inverse?, if_neg this]⟩
  | adjoin tower radicand origin inductionHypothesis =>
      obtain ⟨properBelow, positive, notSquare⟩ := proper
      have inverses := inductionHypothesis properBelow
      cases x with
      | pair a b =>
          rw [inverse?]
          cases slope : b.isZero with
          | true =>
              have constantNonzero : a.isZero = false := by
                simpa [Element.isZero, slope] using nonzero
              obtain ⟨u, inverse⟩ := inverses a constantNonzero
              simp [inverse]
          | false =>
              have normNonzero : (tower.norm radicand a b).isZero = false := by
                by_contra vanishes
                apply real_norm_ne_zero properBelow.isReal inverses notSquare a slope
                rw [← sub_eq_zero, ← real_norm properBelow.isReal]
                exact Element.real_of_isZero (by simpa using vanishes) _
              obtain ⟨u, inverse⟩ := inverses _ normNonzero
              simp [inverse]

/-- Over a proper tower only zero stands for the number 0. -/
theorem IsProper.isZero_of_real_eq_zero
    {tower : Tower n}
    (proper : tower.IsProper)
    {x : Element n}
    (vanishes : x.real tower.roots = 0) :
    x.isZero = true := by
  induction tower with
  | base =>
      cases x with
      | rational q => simpa [Element.isZero] using vanishes
  | adjoin tower radicand origin inductionHypothesis =>
      obtain ⟨properBelow, positive, notSquare⟩ := proper
      cases x with
      | pair a b =>
          simp only [roots, Element.real_pair] at vanishes
          have flat : b.isZero = true := by
            by_contra steep
            apply real_norm_ne_zero properBelow.isReal properBelow.exists_inverse?
              notSquare a (by simpa using steep)
            have square := Real.mul_self_sqrt positive.le
            linear_combination
              (a.real tower.roots -
                b.real tower.roots * √(radicand.real tower.roots)) * vanishes +
                b.real tower.roots * b.real tower.roots * square
          have constant : a.real tower.roots = 0 := by
            simpa [Element.real_of_isZero flat] using vanishes
          simp [Element.isZero, flat, inductionHypothesis properBelow constant]

end Tower

namespace Element

theorem isZero_sub_iff {x y : Element n} : (x.sub y).isZero = true ↔ x = y := by
  induction x with
  | rational p =>
      cases y
      simp [sub, neg, add, isZero, ← sub_eq_add_neg, sub_eq_zero]
  | pair a b constantHypothesis slopeHypothesis =>
      cases y with
      | pair c d =>
          have constants := constantHypothesis (y := c)
          have slopes := slopeHypothesis (y := d)
          simp only [sub] at constants slopes
          simp only [sub, neg, add, isZero, Bool.and_eq_true, constants, slopes,
            pair.injEq]

end Element

namespace Tower

/-- Over a proper tower different elements stand for different numbers. -/
theorem IsProper.real_inj
    {tower : Tower n}
    (proper : tower.IsProper)
    {x y : Element n} :
    x.real tower.roots = y.real tower.roots ↔ x = y := by
  constructor
  · intro equal
    apply Element.isZero_sub_iff.mp
    apply proper.isZero_of_real_eq_zero
    rw [Element.real_sub, equal, sub_self]
  · rintro rfl
    rfl

theorem IsProper.real_ne_zero
    {tower : Tower n}
    (proper : tower.IsProper)
    {x : Element n}
    (nonzero : x.isZero = false) :
    x.real tower.roots ≠ 0 := by
  intro vanishes
  rw [proper.isZero_of_real_eq_zero vanishes] at nonzero
  contradiction

/-- Adjoining a root extends the field by it. -/
theorem field_adjoin (tower : Tower n) (radicand : Element n) (origin : Option Nat) :
    (tower.adjoin radicand origin).field =
      tower.field ⊔ Subfield.closure {√(radicand.real tower.roots)} := by
  rw [field, Set.insert_eq, Subfield.closure_union, Subfield.closure_eq, sup_comm]

theorem field_le_field_adjoin (tower : Tower n) (radicand : Element n) (origin : Option Nat) :
    tower.field ≤ (tower.adjoin radicand origin).field := by
  rw [field_adjoin]
  exact le_sup_left

theorem root_mem_field (tower : Tower n) (radicand : Element n) (origin : Option Nat) :
    √(radicand.real tower.roots) ∈ (tower.adjoin radicand origin).field :=
  Subfield.subset_closure (Set.mem_insert _ _)

/-- The number of an element lies in the field of its tower. -/
theorem real_mem_field (tower : Tower n) (x : Element n) :
    x.real tower.roots ∈ tower.field := by
  induction tower with
  | base =>
      cases x with
      | rational q =>
          rw [Element.real_rational]
          exact SubfieldClass.ratCast_mem _ q
  | adjoin tower radicand origin inductionHypothesis =>
      cases x with
      | pair a b =>
          have below := tower.field_le_field_adjoin radicand origin
          rw [roots, Element.real_pair]
          exact add_mem (below (inductionHypothesis a))
            (mul_mem (below (inductionHypothesis b)) (tower.root_mem_field radicand origin))

/-- The numbers of the elements of a proper tower, as a subfield. -/
noncomputable def elementField (tower : Tower n) (proper : tower.IsProper) :
    Subfield ℝ where
  carrier := Set.range fun x : Element n => x.real tower.roots
  zero_mem' := ⟨.zero n, Element.real_zero _⟩
  one_mem' := ⟨.one n, Element.real_one _⟩
  add_mem' := by
    rintro _ _ ⟨x, rfl⟩ ⟨y, rfl⟩
    exact ⟨x.add y, Element.real_add x y _⟩
  neg_mem' := by
    rintro _ ⟨x, rfl⟩
    exact ⟨x.neg, Element.real_neg x _⟩
  mul_mem' := by
    rintro _ _ ⟨x, rfl⟩ ⟨y, rfl⟩
    exact ⟨tower.mul x y, real_mul proper.isReal x y⟩
  inv_mem' := by
    rintro _ ⟨x, rfl⟩
    cases nonzero : x.isZero with
    | true => exact ⟨.zero n, by simp [Element.real_of_isZero nonzero]⟩
    | false =>
        obtain ⟨y, inverse⟩ := proper.exists_inverse? x nonzero
        exact ⟨y, eq_inv_of_mul_eq_one_right (real_mul_inverse? proper.isReal inverse)⟩

/-- The field of a proper tower consists of the numbers of its elements. -/
theorem IsProper.mem_field_iff
    {tower : Tower n}
    (proper : tower.IsProper)
    {number : ℝ} :
    number ∈ tower.field ↔ ∃ x : Element n, x.real tower.roots = number := by
  constructor
  · suffices below : tower.field ≤ tower.elementField proper from
      fun member => below member
    induction tower with
    | base => exact Subfield.closure_le.mpr (Set.empty_subset _)
    | adjoin tower radicand origin inductionHypothesis =>
        rw [field, Subfield.closure_le, Set.insert_subset_iff]
        refine ⟨⟨.pair (.zero _) (.one _), by simp [roots]⟩, ?_⟩
        intro number member
        obtain ⟨x, rfl⟩ := inductionHypothesis proper.1 member
        exact ⟨.pair x (.zero _), by simp [roots]⟩
  · rintro ⟨x, rfl⟩
    exact tower.real_mem_field x

end Tower
end Radical
end FourFours
