import FourFours.Proofs.Radical.Enclosure
import FourFours.Proofs.Radical.SquareTest

/-!
# Bringing two values over a common tower

Whichever way two values are brought together, the common tower is proper, stays within
the limit of square roots, and both elements keep their real numbers. Over the extended
tower each square root of the right value has an image with the same real number: a root
that was already there, with its sign settled, or a new one.
-/

namespace FourFours
namespace Radical

variable {n m : Nat}

namespace Family

theorem map_map
    {α β γ : Type}
    (f : α → β)
    (g : β → γ)
    (family : Family α n) :
    (family.map f).map g = family.map fun a => g (f a) := by
  induction family with
  | nil => rfl
  | snoc family last inductionHypothesis => rw [map, map, map, inductionHypothesis]

end Family

namespace Element

@[simp] theorem raise_self (x : Element n) : x.raise n = x := by
  cases n <;> simp [raise]

end Element

namespace Tower

/-- The nonnegative one of a root that is found and its opposite is the square root. -/
theorem real_nonnegative_root
    {tower : Tower n}
    (isReal : tower.IsReal)
    {x root image : Element n}
    (found : tower.sqrt? x = some root)
    (chosen : tower.nonnegative root = .ok image) :
    image.real tower.roots = √(x.real tower.roots) := by
  rw [nonnegative_spec chosen, ← Real.sqrt_mul_self_eq_abs, real_sqrt?_mul_self isReal found]

/-- An element keeps its real number over a longer tower. -/
theorem real_raise
    {tower : Tower n}
    {below : Tower m}
    (initial : tower.restrict m = some below)
    (x : Element m) :
    (x.raise n).real tower.roots = x.real below.roots := by
  refine restrict_induction
    (motive := fun {n} tower => (x.raise n).real tower.roots = x.real below.roots)
    (by rw [Element.raise_self]) ?_ initial
  intro n tower radicand origin shorter inductionHypothesis
  rw [Element.raise, dif_neg shorter, roots, Element.real_pair, inductionHypothesis,
    Element.real_zero, zero_mul, add_zero]

/-- Towers with the same square roots have the same real roots. -/
theorem roots_eq_of_same
    {tower tower' : Tower n}
    (equal : tower.same tower' = true) :
    tower.roots = tower'.roots := by
  induction tower with
  | base =>
      cases tower'
      rfl
  | adjoin tower radicand origin inductionHypothesis =>
      cases tower' with
      | adjoin tower' radicand' origin' =>
          simp only [same, Bool.and_eq_true, beq_iff_eq] at equal
          obtain ⟨⟨⟨below, _⟩, _⟩, rfl⟩ := equal
          rw [roots, roots, inductionHypothesis below]

theorem real_raise_of_isInitial
    {short : Tower m}
    {long : Tower n}
    (initial : short.isInitial long = true)
    (x : Element m) :
    (x.raise n).real long.roots = x.real short.roots := by
  unfold isInitial at initial
  split at initial
  · rename_i tower restricted
    rw [real_raise restricted, roots_eq_of_same initial]
  · contradiction

/-- Every tower begins with no square roots at all. -/
theorem base_isInitial (tower : Tower n) : Tower.base.isInitial tower = true := by
  rw [isInitial, restrict_zero]
  rfl

end Tower

namespace Extension

/-- The extension keeps the real number of a value, over a proper tower within the limit,
and its images have given real numbers. -/
structure Represents (extension : Extension m) (number : ℝ) (roots : Family ℝ m) : Prop where
  proper : extension.tower.IsProper
  level_le : extension.level ≤ radicalLimit
  real_left : extension.left.real extension.tower.roots = number
  real_images :
    (extension.images.map fun image => image.real extension.tower.roots) = roots

namespace Represents

variable {extension : Extension m} {number : ℝ} {roots : Family ℝ m}

/-- A radicand keeps its real number when its roots are replaced by their images. -/
theorem real_substitute
    (represents : extension.Represents number roots)
    (radicand : Element m) :
    (extension.tower.substitute radicand extension.images).real extension.tower.roots =
      radicand.real roots := by
  rw [Tower.real_substitute represents.proper.isReal, represents.real_images]

/-- An element that is the next root may serve as its image. -/
theorem identify
    (represents : extension.Represents number roots)
    {image : Element extension.level}
    {root : ℝ}
    (real_image : image.real extension.tower.roots = root) :
    (extension.identify image).Represents number (.snoc roots root) where
  proper := represents.proper
  level_le := represents.level_le
  real_left := represents.real_left
  real_images := by
    rw [← represents.real_images, ← real_image]
    rfl

/-- The square root of a positive element without a root may be adjoined. -/
theorem adjoin
    (represents : extension.Represents number roots)
    (room : extension.level < radicalLimit)
    {radicand : Element extension.level}
    (positive : 0 < radicand.real extension.tower.roots)
    (missing : extension.tower.sqrt? radicand = none) :
    (extension.adjoin radicand).Represents number
      (.snoc roots √(radicand.real extension.tower.roots)) where
  proper := represents.proper.adjoin_of_sqrt? positive missing none
  level_le := room
  real_left := by
    simp only [Extension.adjoin, Tower.roots, Element.real_pair, Element.real_zero,
      zero_mul, add_zero]
    exact represents.real_left
  real_images := by
    simp only [Extension.adjoin, Family.map, Family.map_map, Tower.roots,
      Element.real_pair, Element.real_zero, Element.real_one, zero_mul, one_mul, add_zero,
      zero_add, represents.real_images]

end Represents
end Extension

namespace Value

variable {v w : Value} {fault : Fault}

/-- How the extension by one more root ends: the root is identified or adjoined. -/
theorem exists_below_of_extend
    {tower : Tower m}
    {radicand : Element m}
    {origin : Option Nat}
    {extension : Extension (m + 1)}
    (extended : v.extend (tower.adjoin radicand origin) = .ok extension) :
    ∃ below, v.extend tower = .ok below ∧
      ((∃ root image,
          below.tower.sqrt? (below.tower.substitute radicand below.images) = some root ∧
            below.tower.nonnegative root = .ok image ∧ extension = below.identify image) ∨
        (below.tower.sqrt? (below.tower.substitute radicand below.images) = none ∧
          below.level < radicalLimit ∧
            extension = below.adjoin (below.tower.substitute radicand below.images))) := by
  rw [extend, bind_eq_ok_iff] at extended
  obtain ⟨below, extendedBelow, extended⟩ := extended
  refine ⟨below, extendedBelow, ?_⟩
  dsimp only at extended
  split at extended
  · rename_i root found
    obtain ⟨image, chosen, identified⟩ := bind_eq_ok_iff.mp extended
    exact .inl ⟨root, image, found, chosen, (pure_eq_ok_iff.mp identified).symm⟩
  · rename_i missing
    split at extended
    · simp at extended
    · rename_i room
      exact .inr ⟨missing, not_le.mp room, (pure_eq_ok_iff.mp extended).symm⟩

/-- Where the extension by one more root fails: below it, at the sign of a root that is
there, or for want of room. -/
theorem extend_adjoin_eq_error
    {tower : Tower m}
    {radicand : Element m}
    {origin : Option Nat}
    (failed : v.extend (tower.adjoin radicand origin) = .error fault) :
    v.extend tower = .error fault ∨
      ∃ below, v.extend tower = .ok below ∧
        ((∃ root, below.tower.nonnegative root = .error fault) ∨
          (below.tower.sqrt? (below.tower.substitute radicand below.images) = none ∧
            radicalLimit ≤ below.level ∧ fault = .inEvaluation .tooManyRadicals)) := by
  rw [extend, bind_eq_error_iff] at failed
  rcases failed with failedBelow | ⟨below, extendedBelow, failed⟩
  · exact .inl failedBelow
  · refine .inr ⟨below, extendedBelow, ?_⟩
    dsimp only at failed
    split at failed
    · rename_i root _
      rcases bind_eq_error_iff.mp failed with undecided | ⟨image, _, identified⟩
      · exact .inl ⟨root, undecided⟩
      · simp at identified
    · rename_i missing
      split at failed
      · rename_i full
        exact .inr ⟨missing, full, (fail_eq_error_iff.mp failed).symm⟩
      · simp at failed

/-- Every root of a proper tower finds an image in the extended tower of a value. -/
theorem represents_of_extend
    (proper : v.tower.IsProper)
    (level_le : v.level ≤ radicalLimit)
    {tower : Tower m}
    (properTower : tower.IsProper)
    {extension : Extension m}
    (extended : v.extend tower = .ok extension) :
    extension.Represents v.real tower.roots := by
  induction tower with
  | base =>
      rw [extend, Except.ok.injEq] at extended
      subst extended
      exact ⟨proper, level_le, rfl, rfl⟩
  | adjoin tower radicand origin inductionHypothesis =>
      obtain ⟨properBelow, positive, _⟩ := properTower
      obtain ⟨below, extendedBelow, step⟩ := exists_below_of_extend extended
      have represents := inductionHypothesis properBelow extendedBelow
      have real_radicand := represents.real_substitute radicand
      rcases step with ⟨root, image, found, chosen, rfl⟩ | ⟨missing, room, rfl⟩
      · apply represents.identify
        rw [Tower.real_nonnegative_root represents.proper.isReal found chosen, real_radicand]
      · rw [Tower.roots, ← real_radicand]
        exact represents.adjoin room (by rwa [real_radicand]) missing

end Value

/-- Two elements with given real numbers over a proper tower within the limit. -/
structure Pair.Represents (pair : Pair) (left right : ℝ) : Prop where
  proper : pair.tower.IsProper
  level_le : pair.level ≤ radicalLimit
  real_left : pair.left.real pair.tower.roots = left
  real_right : pair.right.real pair.tower.roots = right

namespace Value

/-- How two values are brought together: over the longer one of their towers, or over the
extended tower of the left one. -/
theorem unify_cases
    {pair : Pair}
    (unified : unify v w = .ok pair) :
    w.tower.isInitial v.tower = true ∧
        pair = ⟨v.tower, v.element, w.element.raise v.level⟩ ∨
      v.tower.isInitial w.tower = true ∧
        pair = ⟨w.tower, v.element.raise w.level, w.element⟩ ∨
      ∃ extension, v.extend w.tower = .ok extension ∧
        pair = ⟨extension.tower, extension.left,
          extension.tower.substitute w.element extension.images⟩ := by
  unfold unify at unified
  split at unified
  · rename_i initial
    exact .inl ⟨initial, (Except.ok.inj unified).symm⟩
  · split at unified
    · rename_i initial
      exact .inr (.inl ⟨initial, (Except.ok.inj unified).symm⟩)
    · obtain ⟨extension, extended, merged⟩ := bind_eq_ok_iff.mp unified
      exact .inr (.inr ⟨extension, extended, (pure_eq_ok_iff.mp merged).symm⟩)

/-- Only the extension of a tower can keep two values apart. -/
theorem extend_of_unify_eq_error (failed : unify v w = .error fault) :
    v.extend w.tower = .error fault := by
  unfold unify at failed
  split at failed
  · contradiction
  · split at failed
    · contradiction
    · rcases bind_eq_error_iff.mp failed with unextended | ⟨extension, _, merged⟩
      · exact unextended
      · simp at merged

/-- Two values keep their real numbers over their common tower. -/
theorem represents_of_unify
    (properLeft : v.tower.IsProper)
    (levelLeft : v.level ≤ radicalLimit)
    (properRight : w.tower.IsProper)
    (levelRight : w.level ≤ radicalLimit)
    {pair : Pair}
    (unified : unify v w = .ok pair) :
    pair.Represents v.real w.real := by
  rcases unify_cases unified with ⟨initial, rfl⟩ | ⟨initial, rfl⟩ | ⟨extension, extended, rfl⟩
  · exact ⟨properLeft, levelLeft, rfl, Tower.real_raise_of_isInitial initial _⟩
  · exact ⟨properRight, levelRight, Tower.real_raise_of_isInitial initial _, rfl⟩
  · have represents := represents_of_extend properLeft levelLeft properRight extended
    exact ⟨represents.proper, represents.level_le, represents.real_left,
      represents.real_substitute w.element⟩

end Value
end Radical
end FourFours
