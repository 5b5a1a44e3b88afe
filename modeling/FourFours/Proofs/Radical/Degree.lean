import FourFours.Proofs.Radical.Failure
import Mathlib.Algebra.Algebra.Hom.Rat
import Mathlib.LinearAlgebra.FiniteDimensional.Lemmas

/-!
# The degree of a tower

Every root of a proper tower doubles the degree of its field over the rationals. The common
tower of two values generates the field of both towers together, so it has as many roots as
the degree of that field says, and only a degree beyond the limit makes it fail for want of
room.
-/

namespace FourFours
namespace Radical

variable {n m : Nat}

/-- The degree over the rationals of a field of real numbers. -/
noncomputable def degree (field : Subfield ℝ) : Nat :=
  Module.finrank ℚ field

theorem degree_mono
    {small large : Subfield ℝ}
    [FiniteDimensional ℚ large]
    (le : small ≤ large) :
    degree small ≤ degree large :=
  LinearMap.finrank_le_finrank_of_injective (f := (Subfield.inclusion le).toRatAlgHom.toLinearMap)
    (Subfield.inclusion le).injective

/-- A number of a field generates nothing new. -/
theorem sup_closure_of_mem {field : Subfield ℝ} {number : ℝ} (member : number ∈ field) :
    field ⊔ Subfield.closure {number} = field :=
  sup_eq_left.mpr (Subfield.closure_le.mpr (Set.singleton_subset_iff.mpr member))

namespace Tower

/-- The field without any roots lies in every other. -/
theorem sup_field_base (field : Subfield ℝ) : field ⊔ Tower.base.field = field :=
  sup_eq_left.mpr (Subfield.closure_le.mpr (Set.empty_subset _))

/-- Two components over a field are one number over the field with a new root. -/
noncomputable def combine (tower : Tower n) (radicand : Element n) (origin : Option Nat) :
    tower.field × tower.field →ₗ[ℚ] (tower.adjoin radicand origin).field where
  toFun components :=
    ⟨components.1 + components.2 * √(radicand.real tower.roots),
      add_mem (field_le_field_adjoin _ _ _ components.1.2)
        (mul_mem (field_le_field_adjoin _ _ _ components.2.2) (root_mem_field _ _ _))⟩
  map_add' x y := by
    apply Subtype.ext
    simp only [Prod.fst_add, Prod.snd_add, Subfield.coe_add]
    ring
  map_smul' q x := by
    apply Subtype.ext
    simp only [Prod.smul_fst, Prod.smul_snd, Rat.smul_def, Subfield.coe_mul,
      SubfieldClass.coe_ratCast, eq_ratCast, Rat.cast_eq_id, id_eq]
    ring

theorem combine_real
    (tower : Tower n)
    (radicand : Element n)
    (origin : Option Nat)
    {a b : Element n}
    (left : a.real tower.roots ∈ tower.field)
    (right : b.real tower.roots ∈ tower.field) :
    (tower.combine radicand origin (⟨_, left⟩, ⟨_, right⟩) : ℝ) =
      (Element.pair a b).real (tower.adjoin radicand origin).roots :=
  (Element.real_pair a b _ _).symm

theorem IsProper.combine_bijective
    {tower : Tower n}
    {radicand : Element n}
    {origin : Option Nat}
    (proper : (tower.adjoin radicand origin).IsProper) :
    Function.Bijective (tower.combine radicand origin) := by
  constructor
  · rintro ⟨⟨_, left⟩, ⟨_, right⟩⟩ ⟨⟨_, left'⟩, ⟨_, right'⟩⟩ equal
    obtain ⟨a, rfl⟩ := proper.1.mem_field_iff.mp left
    obtain ⟨b, rfl⟩ := proper.1.mem_field_iff.mp right
    obtain ⟨c, rfl⟩ := proper.1.mem_field_iff.mp left'
    obtain ⟨d, rfl⟩ := proper.1.mem_field_iff.mp right'
    have numbers := congrArg Subtype.val equal
    rw [combine_real, combine_real, proper.real_inj] at numbers
    obtain ⟨rfl, rfl⟩ := Element.pair.inj numbers
    rfl
  · rintro ⟨_, member⟩
    obtain ⟨x, rfl⟩ := proper.mem_field_iff.mp member
    cases x with
    | pair a b =>
        exact ⟨(⟨_, tower.real_mem_field a⟩, ⟨_, tower.real_mem_field b⟩),
          Subtype.ext (combine_real _ _ _ _ _)⟩

/-- Every root of a proper tower doubles the degree of its field. -/
theorem IsProper.degree_field
    {tower : Tower n}
    (proper : tower.IsProper) :
    degree tower.field = 2 ^ n := by
  induction tower with
  | base =>
      apply finrank_eq_one (1 : Tower.base.field) one_ne_zero
      rintro ⟨_, member⟩
      obtain ⟨x, rfl⟩ := proper.mem_field_iff.mp member
      cases x with
      | rational q =>
          refine ⟨q, Subtype.ext ?_⟩
          simp [Rat.smul_def]
  | adjoin tower radicand origin inductionHypothesis =>
      have equivalent := LinearEquiv.ofBijective _ proper.combine_bijective
      have below : Module.finrank ℚ tower.field = 2 ^ _ := inductionHypothesis proper.1
      have : FiniteDimensional ℚ tower.field :=
        Module.finite_of_finrank_pos (below ▸ Nat.two_pow_pos _)
      rw [degree, ← equivalent.finrank_eq, Module.finrank_prod, below, Nat.pow_succ,
        Nat.mul_two]

theorem IsProper.finiteDimensional {tower : Tower n} (proper : tower.IsProper) :
    FiniteDimensional ℚ tower.field := by
  apply Module.finite_of_finrank_pos
  rw [← degree, proper.degree_field]
  exact Nat.two_pow_pos n

/-- A proper tower may be extended by any positive number of its field that has no root
there. -/
theorem IsProper.adjoin_of_not_mem
    {tower : Tower n}
    (proper : tower.IsProper)
    {radicand : Element n}
    (positive : 0 < radicand.real tower.roots)
    (missing : √(radicand.real tower.roots) ∉ tower.field)
    (origin : Option Nat) :
    (tower.adjoin radicand origin).IsProper := by
  refine ⟨proper, positive, fun x square => missing ?_⟩
  rw [← square, Real.sqrt_mul_self_eq_abs]
  rcases abs_choice (x.real tower.roots) with same | opposite
  · rw [same]
    exact tower.real_mem_field x
  · rw [opposite]
    exact neg_mem (tower.real_mem_field x)

/-- The fields of two proper towers generate the field of a proper tower. -/
theorem IsProper.exists_sup
    {tower : Tower n}
    (proper : tower.IsProper)
    {other : Tower m}
    (properOther : other.IsProper) :
    ∃ (k : Nat) (common : Tower k),
      common.IsProper ∧ common.field = tower.field ⊔ other.field := by
  induction other with
  | base => exact ⟨n, tower, proper, (sup_field_base _).symm⟩
  | adjoin other radicand origin inductionHypothesis =>
      obtain ⟨k, common, properCommon, equal⟩ := inductionHypothesis properOther.1
      have member : radicand.real other.roots ∈ common.field := by
        rw [equal]
        exact (le_sup_right : other.field ≤ _) (other.real_mem_field radicand)
      obtain ⟨image, real_image⟩ := properCommon.mem_field_iff.mp member
      rw [field_adjoin, ← sup_assoc, ← equal, ← real_image]
      by_cases found : √(image.real common.roots) ∈ common.field
      · exact ⟨k, common, properCommon, (sup_closure_of_mem found).symm⟩
      · refine ⟨k + 1, common.adjoin image none, ?_, field_adjoin _ _ _⟩
        exact properCommon.adjoin_of_not_mem (real_image ▸ properOther.2.1) found none

theorem IsProper.finiteDimensional_sup
    {tower : Tower n}
    (proper : tower.IsProper)
    {other : Tower m}
    (properOther : other.IsProper) :
    FiniteDimensional ℚ ↥(tower.field ⊔ other.field) := by
  obtain ⟨k, common, properCommon, equal⟩ := proper.exists_sup properOther
  rw [← equal]
  exact properCommon.finiteDimensional

theorem field_eq_of_same
    {tower tower' : Tower n}
    (equal : tower.same tower' = true) :
    tower.field = tower'.field := by
  induction tower with
  | base =>
      cases tower'
      rfl
  | adjoin tower radicand origin inductionHypothesis =>
      cases tower' with
      | adjoin tower' radicand' origin' =>
          simp only [same, Bool.and_eq_true, beq_iff_eq] at equal
          obtain ⟨⟨⟨below, _⟩, _⟩, rfl⟩ := equal
          rw [field, field, inductionHypothesis below, roots_eq_of_same below]

/-- The first roots of a tower generate a smaller field. -/
theorem field_le_of_isInitial
    {short : Tower m}
    {long : Tower n}
    (initial : short.isInitial long = true) :
    short.field ≤ long.field := by
  unfold isInitial at initial
  split at initial
  · rename_i below restricted
    rw [field_eq_of_same initial]
    refine restrict_induction (motive := fun {n} tower => below.field ≤ tower.field)
      le_rfl ?_ restricted
    intro n tower radicand origin _ inductionHypothesis
    exact inductionHypothesis.trans (field_le_field_adjoin _ _ _)
  · contradiction

end Tower

namespace Value

variable {v w : Value}

/-- The extended tower of a value generates the field of both towers. -/
theorem field_of_extend
    (proper : v.tower.IsProper)
    (level_le : v.level ≤ radicalLimit)
    {tower : Tower m}
    (properTower : tower.IsProper)
    {extension : Extension m}
    (extended : v.extend tower = .ok extension) :
    extension.tower.field = v.tower.field ⊔ tower.field := by
  induction tower with
  | base =>
      rw [extend, Except.ok.injEq] at extended
      subst extended
      exact (Tower.sup_field_base _).symm
  | adjoin tower radicand origin inductionHypothesis =>
      obtain ⟨below, extendedBelow, step⟩ := exists_below_of_extend extended
      have represents := represents_of_extend proper level_le properTower.1 extendedBelow
      have real_radicand := represents.real_substitute radicand
      rw [Tower.field_adjoin, ← sup_assoc, ← inductionHypothesis properTower.1 extendedBelow,
        ← real_radicand]
      rcases step with ⟨root, image, found, chosen, rfl⟩ | ⟨_, _, rfl⟩
      · -- the root is there already
        refine (sup_closure_of_mem ?_).symm
        rw [← Tower.real_nonnegative_root represents.proper.isReal found chosen]
        exact below.tower.real_mem_field image
      · exact Tower.field_adjoin _ _ _

/-- The common tower of two values generates the field of both. -/
theorem field_of_unify
    (properLeft : v.tower.IsProper)
    (levelLeft : v.level ≤ radicalLimit)
    (properRight : w.tower.IsProper)
    {pair : Pair}
    (unified : unify v w = .ok pair) :
    pair.tower.field = v.tower.field ⊔ w.tower.field := by
  rcases unify_cases unified with ⟨initial, rfl⟩ | ⟨initial, rfl⟩ | ⟨extension, extended, rfl⟩
  · exact (sup_eq_left.mpr (Tower.field_le_of_isInitial initial)).symm
  · exact (sup_eq_right.mpr (Tower.field_le_of_isInitial initial)).symm
  · exact field_of_extend properLeft levelLeft properRight extended

/-- An extension that needs more roots than the limit allows is of too great a degree. -/
theorem lt_degree_of_extend
    (proper : v.tower.IsProper)
    (level_le : v.level ≤ radicalLimit)
    {tower : Tower m}
    (properTower : tower.IsProper)
    (failed : v.extend tower = .error (.inEvaluation .tooManyRadicals)) :
    2 ^ radicalLimit < degree (v.tower.field ⊔ tower.field) := by
  induction tower with
  | base => contradiction
  | adjoin tower radicand origin inductionHypothesis =>
      have finite := proper.finiteDimensional_sup properTower
      have larger : v.tower.field ⊔ tower.field ≤
          v.tower.field ⊔ (tower.adjoin radicand origin).field :=
        sup_le_sup_left (Tower.field_le_field_adjoin _ _ _) _
      rcases extend_adjoin_eq_error failed with
        failedBelow | ⟨below, extendedBelow, ⟨root, undecided⟩ | ⟨missing, full, _⟩⟩
      · exact (inductionHypothesis properTower.1 failedBelow).trans_le (degree_mono larger)
      · have undecidedSign := Tower.nonnegative_eq_error undecided
        contradiction
      · -- one more root would be needed, over a tower that is full
        have represents := represents_of_extend proper level_le properTower.1 extendedBelow
        have real_radicand := represents.real_substitute radicand
        have properMore := represents.proper.adjoin_of_sqrt?
          (real_radicand.symm ▸ properTower.2.1) missing none
        have equal := Tower.field_adjoin below.tower
          (below.tower.substitute radicand below.images) none
        rw [real_radicand, field_of_extend proper level_le properTower.1 extendedBelow,
          sup_assoc, ← Tower.field_adjoin _ _ origin] at equal
        rw [← equal, properMore.degree_field]
        exact Nat.pow_lt_pow_right (by omega) (Nat.lt_succ_of_le full)

/-- The degree over the rationals of the field that the roots of two values generate. -/
noncomputable def commonDegree (v w : Value) : Nat :=
  degree (v.tower.field ⊔ w.tower.field)

/-- The common tower of two values has as many roots as the degree of their field needs. -/
theorem commonDegree_of_unify
    (properLeft : v.tower.IsProper)
    (levelLeft : v.level ≤ radicalLimit)
    (properRight : w.tower.IsProper)
    (levelRight : w.level ≤ radicalLimit)
    {pair : Pair}
    (unified : unify v w = .ok pair) :
    commonDegree v w = 2 ^ pair.level ∧ pair.level ≤ radicalLimit := by
  have represents := represents_of_unify properLeft levelLeft properRight levelRight unified
  rw [commonDegree, ← field_of_unify properLeft levelLeft properRight unified,
    represents.proper.degree_field]
  exact ⟨rfl, represents.level_le⟩

/-- Two values have too many roots only if the degree of their field is too great. -/
theorem lt_commonDegree_of_unify
    (properLeft : v.tower.IsProper)
    (levelLeft : v.level ≤ radicalLimit)
    (properRight : w.tower.IsProper)
    (failed : unify v w = .error (.inEvaluation .tooManyRadicals)) :
    2 ^ radicalLimit < commonDegree v w :=
  lt_degree_of_extend properLeft levelLeft properRight (extend_of_unify_eq_error failed)

/-- Unless a sign stays undecided, two values have a common tower exactly if the degree of
their field is within the limit. -/
theorem IsNormal.exists_unify_iff
    (left : v.IsNormal)
    (right : w.IsNormal)
    (decided : ∀ exact, unify v w ≠ .error (.internal (.undecidedSign exact))) :
    (∃ pair, unify v w = .ok pair) ↔ commonDegree v w ≤ 2 ^ radicalLimit := by
  cases unified : unify v w with
  | ok pair =>
      obtain ⟨degree, within⟩ := commonDegree_of_unify left.proper left.level_le
        right.proper right.level_le unified
      rw [degree]
      exact ⟨fun _ => Nat.pow_le_pow_right (by omega) within, fun _ => ⟨pair, rfl⟩⟩
  | error fault =>
      cases isLimit_of_unify unified with
      | undecidedSign exact => exact absurd unified (decided exact)
      | tooManyRadicals =>
          have beyond :=
            lt_commonDegree_of_unify left.proper left.level_le right.proper unified
          simp [not_le.mpr beyond]

end Value
end Radical
end FourFours
