import FourFours.Proofs.Integer.Root
import FourFours.Proofs.Radical.Field
import Mathlib.Tactic.NormNum

/-!
# The search for square roots decides whether there is one

A root that the search returns squares to its element, over every tower without negative
radicands. Over a proper tower the search fails only for elements that are no squares in
the field of the tower: the components `u` and `v` of a root of `a + b g` satisfy
`u² + v² r = a` and `2 u v = b`, and one of the candidates that the search tries is a
square below whenever there are such components.
-/

namespace FourFours
namespace Radical

variable {n m : Nat}

namespace Tower

theorem rationalRoot?_mul_self {q r : Rat} (found : rationalRoot? q = some r) :
    r * r = q := by
  unfold rationalRoot? at found
  split at found
  · contradiction
  · rename_i nonnegative
    simp only [Option.bind_eq_bind, Option.bind_eq_some_iff, Option.pure_def,
      Option.some.injEq, Integer.exactRoot?_eq_some_iff] at found
    obtain ⟨numerator, numeratorSquare, denominator, denominatorSquare, rfl⟩ := found
    have positiveNumerator : 0 ≤ q.num := Rat.num_nonneg.mpr (not_lt.mp nonnegative)
    have top : (numerator : Rat) * numerator = q.num := by
      rw [← Int.toNat_of_nonneg positiveNumerator]
      exact_mod_cast numeratorSquare
    have bottom : (denominator : Rat) * denominator = q.den := by
      exact_mod_cast denominatorSquare
    rw [Rat.mkRat_eq_div, Int.cast_natCast, div_mul_div_comm, top, bottom, Rat.num_div_den]

theorem exists_rationalRoot?_mul_self (r : Rat) :
    ∃ root, rationalRoot? (r * r) = some root := by
  have nonnegative : ¬r * r < 0 := not_lt.mpr (mul_self_nonneg r)
  have numerator : (r * r).num.toNat = r.num.natAbs * r.num.natAbs := by
    rw [Rat.mul_self_num, ← Int.natAbs_mul_self, Int.toNat_natCast]
  refine ⟨mkRat r.num.natAbs r.den, ?_⟩
  rw [rationalRoot?, if_neg nonnegative, numerator, Rat.mul_self_den]
  simp [Integer.exactRoot?_mul_self]

/-- With `s² = a² - b² r`, `u² = (a + s) / 2` and `v = b / (2 u)` the sum `u² + v² r` is
`a`. -/
theorem constant_of_candidate
    {a b r s u inverse : ℝ}
    (normRoot : s * s = a * a - b * b * r)
    (half : u * u = (a + s) / 2)
    (one : u * inverse = 1) :
    u * u + (b * inverse * (1 / 2)) * (b * inverse * (1 / 2)) * r = a := by
  have multiple : (u * u) * (u * u) + b * b * r / 4 = a * (u * u) := by
    linear_combination (u * u - (a - s) / 2) * half + normRoot / 4
  linear_combination (inverse * inverse) * multiple -
    (u * inverse + 1) * (u * u - a) * one

/-- A root completed from its constant `u` squares to `a + b g` if `u² = (a + s) / 2` with
`s² = a² - b² r`. -/
theorem real_completeRoot_mul_self
    {tower : Tower n}
    (isReal : tower.IsReal)
    {radicand a b s : Element n}
    {origin : Option Nat}
    {root : Element (n + 1)}
    (nonnegative : 0 ≤ radicand.real tower.roots)
    (normRoot : s.real tower.roots * s.real tower.roots =
      a.real tower.roots * a.real tower.roots -
        b.real tower.roots * b.real tower.roots * radicand.real tower.roots)
    {candidate : Option (Element n)}
    (candidateRoot : ∀ u, candidate = some u →
      u.real tower.roots * u.real tower.roots =
        (a.real tower.roots + s.real tower.roots) / 2)
    (found : sqrt?.completeRoot tower b candidate = some root) :
    root.real (tower.adjoin radicand origin).roots *
        root.real (tower.adjoin radicand origin).roots =
      (Element.pair a b).real (tower.adjoin radicand origin).roots := by
  simp only [sqrt?.completeRoot, Option.bind_eq_bind, Option.bind_eq_some_iff] at found
  obtain ⟨u, rfl, found⟩ := found
  split at found
  · contradiction
  · simp only [Option.bind_eq_some_iff, Option.pure_def, Option.some.injEq] at found
    obtain ⟨w, inverse, rfl⟩ := found
    have half := candidateRoot u rfl
    have one := real_mul_inverse? isReal inverse
    have square := Real.mul_self_sqrt nonnegative
    simp only [roots, Element.real_pair, Element.real_scale, real_mul isReal]
    push_cast
    have slope : 2 * (u.real tower.roots *
        (b.real tower.roots * w.real tower.roots * (1 / 2))) = b.real tower.roots := by
      linear_combination b.real tower.roots * one
    linear_combination constant_of_candidate normRoot half one +
      √(radicand.real tower.roots) * slope +
      (b.real tower.roots * w.real tower.roots * (1 / 2)) ^ 2 * square

/-- Over a tower without negative radicands a found root squares to its element. -/
theorem real_sqrt?_mul_self
    {tower : Tower n}
    (isReal : tower.IsReal)
    {x y : Element n}
    (found : tower.sqrt? x = some y) :
    y.real tower.roots * y.real tower.roots = x.real tower.roots := by
  induction tower with
  | base =>
      cases x with
      | rational q =>
          simp only [sqrt?, Option.map_eq_some_iff] at found
          obtain ⟨r, root, rfl⟩ := found
          simp only [Element.real_rational]
          exact_mod_cast rationalRoot?_mul_self root
  | adjoin tower radicand origin inductionHypothesis =>
      obtain ⟨realBelow, nonnegative⟩ := isReal
      have below := @inductionHypothesis realBelow
      cases x with
      | pair a b =>
          rw [sqrt?] at found
          split at found
          · rename_i flat
            split at found
            · rename_i zero
              rw [Option.some.injEq] at found
              subst found
              simp [roots, Element.real_of_isZero zero, Element.real_of_isZero flat]
            · split at found
              · rename_i u root
                rw [Option.some.injEq] at found
                subst found
                simpa [roots, Element.real_of_isZero flat] using below root
              · simp only [Option.bind_eq_bind, Option.bind_eq_some_iff, Option.pure_def,
                  Option.some.injEq] at found
                obtain ⟨w, inverse, v, root, rfl⟩ := found
                have one := real_mul_inverse? realBelow inverse
                have quotient := below root
                have square := Real.mul_self_sqrt nonnegative
                rw [real_mul realBelow] at quotient
                simp only [roots, Element.real_pair, Element.real_zero,
                  Element.real_of_isZero flat]
                linear_combination
                  v.real tower.roots * v.real tower.roots * square +
                    radicand.real tower.roots * quotient + a.real tower.roots * one
          · simp only [Option.bind_eq_bind, Option.bind_eq_some_iff] at found
            obtain ⟨s, root, found⟩ := found
            have normRoot := below root
            rw [real_norm realBelow] at normRoot
            split at found
            · rename_i first complete
              rw [Option.some.injEq] at found
              subst found
              refine real_completeRoot_mul_self realBelow nonnegative normRoot ?_ complete
              intro u candidate
              rw [below candidate, Element.real_scale, Element.real_add]
              push_cast
              ring
            · -- the second candidate is the first one for the other root of the norm
              refine real_completeRoot_mul_self (s := s.neg) realBelow nonnegative
                (by simpa using normRoot) ?_ found
              intro u candidate
              rw [below candidate, Element.real_scale, Element.real_sub, Element.real_neg]
              push_cast
              ring

/-- The components of a square root of `a + b g`. -/
theorem IsProper.components_of_square
    {tower : Tower n}
    {radicand : Element n}
    {origin : Option Nat}
    (proper : (tower.adjoin radicand origin).IsProper)
    {u v a b : Element n}
    (equal : (Element.pair u v).real (tower.adjoin radicand origin).roots *
        (Element.pair u v).real (tower.adjoin radicand origin).roots =
      (Element.pair a b).real (tower.adjoin radicand origin).roots) :
    u.real tower.roots * u.real tower.roots +
        v.real tower.roots * v.real tower.roots * radicand.real tower.roots =
        a.real tower.roots ∧
      2 * u.real tower.roots * v.real tower.roots = b.real tower.roots := by
  have isReal := proper.1.isReal
  have square := Real.mul_self_sqrt proper.2.1.le
  have same : Element.pair
      ((tower.mul u u).add (tower.mul (tower.mul v v) radicand))
      ((tower.mul u v).add (tower.mul u v)) = .pair a b := by
    rw [← proper.real_inj, ← equal]
    simp only [roots, Element.real_pair, Element.real_add, real_mul isReal]
    linear_combination -(v.real tower.roots * v.real tower.roots) * square
  obtain ⟨rfl, rfl⟩ := Element.pair.inj same
  simp only [Element.real_add, real_mul isReal]
  exact ⟨trivial, by ring⟩

/-- A constant that is not zero completes to a root. -/
theorem IsProper.exists_completeRoot
    {tower : Tower n}
    (proper : tower.IsProper)
    (b : Element n)
    {u : Element n}
    (nonzero : u.real tower.roots ≠ 0) :
    ∃ root, sqrt?.completeRoot tower b (some u) = some root := by
  have uncertain : u.isZero = false := by
    by_contra vanishes
    exact nonzero (Element.real_of_isZero (by simpa using vanishes) _)
  obtain ⟨w, inverse⟩ := proper.exists_inverse? u uncertain
  exact ⟨_, by simp [sqrt?.completeRoot, uncertain, inverse]; rfl⟩

/-- The search finds a root of every square of a tower. -/
def FindsSquares (tower : Tower n) : Prop :=
  ∀ x y : Element n,
    y.real tower.roots * y.real tower.roots = x.real tower.roots →
      ∃ root, tower.sqrt? x = some root

/-- A square without slope is found: one component of its root is zero. -/
theorem IsProper.exists_sqrt?_of_flat
    {tower : Tower n}
    {radicand : Element n}
    {origin : Option Nat}
    (proper : (tower.adjoin radicand origin).IsProper)
    (finds : tower.FindsSquares)
    {u v a b : Element n}
    (flat : b.isZero = true)
    (constant : u.real tower.roots * u.real tower.roots +
        v.real tower.roots * v.real tower.roots * radicand.real tower.roots =
      a.real tower.roots)
    (slope : 2 * u.real tower.roots * v.real tower.roots = b.real tower.roots) :
    ∃ root, (tower.adjoin radicand origin).sqrt? (.pair a b) = some root := by
  obtain ⟨properBelow, positive, notSquare⟩ := proper
  have isReal := properBelow.isReal
  rw [sqrt?, if_pos flat]
  split
  · exact ⟨_, rfl⟩
  · split
    · exact ⟨_, rfl⟩
    · rename_i missing
      rw [Element.real_of_isZero flat] at slope
      have uZero : u.real tower.roots = 0 := by
        by_contra nonzero
        have vZero : v.real tower.roots = 0 := by simpa [nonzero] using slope
        obtain ⟨root, found⟩ := finds a u (by simpa [vZero] using constant)
        rw [missing] at found
        contradiction
      obtain ⟨w, inverse⟩ := properBelow.exists_inverse? radicand (by
        by_contra vanishes
        exact positive.ne' (Element.real_of_isZero (by simpa using vanishes) _))
      have one := real_mul_inverse? isReal inverse
      obtain ⟨root, found⟩ := finds (tower.mul a w) v (by
        rw [real_mul isReal, ← constant, uZero]
        linear_combination -(v.real tower.roots * v.real tower.roots) * one)
      exact ⟨.pair (.zero n) root, by simp [inverse, found]⟩

/-- A square with a slope is found: the root of the norm is the norm of the root or its
opposite, and one of the two candidates is the square of the constant. -/
theorem IsProper.exists_sqrt?_of_steep
    {tower : Tower n}
    {radicand : Element n}
    {origin : Option Nat}
    (proper : (tower.adjoin radicand origin).IsProper)
    (finds : tower.FindsSquares)
    {u v a b : Element n}
    (steep : b.isZero = false)
    (constant : u.real tower.roots * u.real tower.roots +
        v.real tower.roots * v.real tower.roots * radicand.real tower.roots =
      a.real tower.roots)
    (slope : 2 * u.real tower.roots * v.real tower.roots = b.real tower.roots) :
    ∃ root, (tower.adjoin radicand origin).sqrt? (.pair a b) = some root := by
  have properBelow := proper.1
  have isReal := properBelow.isReal
  have uNonzero : u.real tower.roots ≠ 0 := by
    intro uZero
    rw [uZero, mul_zero, zero_mul] at slope
    exact properBelow.real_ne_zero steep slope.symm
  have complete (t : Element n)
      (square : u.real tower.roots * u.real tower.roots = t.real tower.roots) :
      ∃ root, sqrt?.completeRoot tower b (tower.sqrt? t) = some root := by
    obtain ⟨c, found⟩ := finds t u square
    rw [found]
    apply properBelow.exists_completeRoot
    intro cZero
    have cSquare := real_sqrt?_mul_self isReal found
    rw [cZero, mul_zero, ← square] at cSquare
    exact uNonzero (mul_self_eq_zero.mp cSquare.symm)
  obtain ⟨s, normRoot⟩ := finds (tower.norm radicand a b) (tower.norm radicand u v) (by
    rw [real_norm isReal, real_norm isReal, ← constant, ← slope]
    ring)
  have normSquare := real_sqrt?_mul_self isReal normRoot
  have sign : s.real tower.roots = (tower.norm radicand u v).real tower.roots ∨
      s.real tower.roots = -(tower.norm radicand u v).real tower.roots := by
    apply mul_self_eq_mul_self_iff.mp
    rw [normSquare, real_norm isReal, real_norm isReal, ← constant, ← slope]
    ring
  rw [real_norm isReal] at sign
  rw [sqrt?, if_neg (by simp [steep]), normRoot]
  simp only [Option.bind_eq_bind, Option.bind_some]
  rcases sign with same | opposite
  · obtain ⟨root, first⟩ := complete ((a.add s).scale (1 / 2)) (by
      rw [Element.real_scale, Element.real_add, same, ← constant]
      push_cast
      ring)
    exact ⟨root, by rw [first]⟩
  · obtain ⟨root, second⟩ := complete ((a.sub s).scale (1 / 2)) (by
      rw [Element.real_scale, Element.real_sub, opposite, ← constant]
      push_cast
      ring)
    rw [second]
    split
    · exact ⟨_, rfl⟩
    · exact ⟨root, rfl⟩

/-- Over a proper tower the search finds a root of every square. -/
theorem IsProper.findsSquares
    {tower : Tower n}
    (proper : tower.IsProper) :
    tower.FindsSquares := by
  induction tower with
  | base =>
      intro x y equal
      cases x with
      | rational q =>
          cases y with
          | rational r =>
              have rationalEqual : r * r = q := by
                simp only [Element.real_rational] at equal
                exact_mod_cast equal
              obtain ⟨root, found⟩ := exists_rationalRoot?_mul_self r
              rw [rationalEqual] at found
              exact ⟨.rational root, by rw [sqrt?, found, Option.map_some]⟩
  | adjoin tower radicand origin inductionHypothesis =>
      have finds := inductionHypothesis proper.1
      intro x y equal
      cases x with
      | pair a b =>
          cases y with
          | pair u v =>
              obtain ⟨constant, slope⟩ := proper.components_of_square equal
              cases flat : b.isZero with
              | true => exact proper.exists_sqrt?_of_flat finds flat constant slope
              | false => exact proper.exists_sqrt?_of_steep finds flat constant slope

/-- Over a proper tower the search fails exactly for the elements that are no squares. -/
theorem IsProper.sqrt?_eq_none_iff
    {tower : Tower n}
    (proper : tower.IsProper)
    {x : Element n} :
    tower.sqrt? x = none ↔
      ∀ y : Element n, y.real tower.roots * y.real tower.roots ≠ x.real tower.roots := by
  constructor
  · intro missing y equal
    obtain ⟨root, found⟩ := proper.findsSquares x y equal
    rw [missing] at found
    contradiction
  · intro notSquare
    cases found : tower.sqrt? x with
    | none => rfl
    | some y => exact absurd (real_sqrt?_mul_self proper.isReal found) (notSquare y)

/-- The root of a positive element without one may be adjoined. -/
theorem IsProper.adjoin_of_sqrt?
    {tower : Tower n}
    (proper : tower.IsProper)
    {radicand : Element n}
    (positive : 0 < radicand.real tower.roots)
    (missing : tower.sqrt? radicand = none)
    (origin : Option Nat) :
    (tower.adjoin radicand origin).IsProper :=
  ⟨proper, positive, proper.sqrt?_eq_none_iff.mp missing⟩

/-- An element squares to another exactly when their real numbers do. -/
theorem IsProper.mul_self_eq_iff
    {tower : Tower n}
    (proper : tower.IsProper)
    {x y : Element n} :
    tower.mul y y = x ↔ y.real tower.roots * y.real tower.roots = x.real tower.roots := by
  rw [← proper.real_inj, real_mul proper.isReal]

/-- Over the first square roots of a proper tower, however many, the search decides
whether an element is a square: what it returns is a root, it returns a root of every
square, and it returns none exactly when no number of the field squares to the element. -/
theorem sqrt?_decides
    {tower : Tower n}
    (proper : tower.IsProper)
    {below : Tower m}
    (initial : tower.restrict m = some below)
    (x : Element m) :
    (∀ y, below.sqrt? x = some y → below.mul y y = x) ∧
      ((∃ y, below.mul y y = x) → ∃ y, below.sqrt? x = some y) ∧
      (below.sqrt? x = none ↔
        ∀ number ∈ below.field, number * number ≠ x.real below.roots) := by
  have properBelow := proper.restrict initial
  refine ⟨?_, ?_, ?_⟩
  · intro y found
    rw [properBelow.mul_self_eq_iff]
    exact real_sqrt?_mul_self properBelow.isReal found
  · rintro ⟨y, square⟩
    exact properBelow.findsSquares x y (properBelow.mul_self_eq_iff.mp square)
  · rw [properBelow.sqrt?_eq_none_iff]
    constructor
    · intro notSquare number member
      obtain ⟨y, rfl⟩ := properBelow.mem_field_iff.mp member
      exact notSquare y
    · intro notSquare y
      exact notSquare _ (below.real_mem_field y)

/-- The tower of the square root of two. -/
def rootTwo : Tower 1 :=
  .adjoin .base (.rational 2) none

theorem rootTwo_isProper : rootTwo.IsProper := by
  have proper : Tower.base.IsProper := trivial
  have missing : Tower.base.sqrt? (.rational 2) = none := by cbv
  exact ⟨proper, by simp, proper.sqrt?_eq_none_iff.mp missing⟩

/-- Over the square root of two, `3 + 2 √2` is the square of `1 + √2`. -/
theorem sqrt?_rootTwo :
    rootTwo.sqrt? (.pair (.rational 3) (.rational 2)) =
        some (.pair (.rational 1) (.rational 1)) ∧
      rootTwo.mul (.pair (.rational 1) (.rational 1)) (.pair (.rational 1) (.rational 1)) =
        .pair (.rational 3) (.rational 2) := by
  have found : rootTwo.sqrt? (.pair (.rational 3) (.rational 2)) =
      some (.pair (.rational 1) (.rational 1)) := by
    cbv
  exact ⟨found, (sqrt?_decides rootTwo_isProper (restrict_self _) _).1 _ found⟩

end Tower
end Radical
end FourFours
