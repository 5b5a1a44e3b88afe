import FourFours.Radical.Value
import Mathlib.Analysis.Real.Sqrt
import Mathlib.Tactic.LinearCombination

/-!
# The real numbers behind elements and values

An element stands for the sum of its terms: each coefficient times the square roots of
its monomial. The square roots of a tower are the nonnegative real roots of its
radicands, from the first on. Addition, negation and multiplication by a rational act on
the real numbers whatever the square roots are; a product does so wherever no radicand is
negative.
-/

namespace FourFours
namespace Radical

variable {n : Nat}

/-- The real number of a sum of terms. -/
noncomputable def sumOfTerms (terms : List (Rat × List ℝ)) : ℝ :=
  (terms.map fun (q, roots) => q * roots.prod).sum

theorem sumOfTerms_append (left right : List (Rat × List ℝ)) :
    sumOfTerms (left ++ right) = sumOfTerms left + sumOfTerms right := by
  simp [sumOfTerms]

/-- A further square root in every term is a factor of the sum. -/
theorem sumOfTerms_map_append (terms : List (Rat × List ℝ)) (root : ℝ) :
    sumOfTerms (terms.map fun (q, roots) => (q, roots ++ [root])) =
      sumOfTerms terms * root := by
  induction terms with
  | nil => simp [sumOfTerms]
  | cons term terms inductionHypothesis =>
      simp only [sumOfTerms, List.map_cons, List.sum_cons, List.prod_append,
        List.prod_singleton] at inductionHypothesis ⊢
      rw [inductionHypothesis]
      ring

namespace Element

/-- The real number of an element over some square roots. -/
noncomputable def real (x : Element n) (roots : Family ℝ n) : ℝ :=
  sumOfTerms (x.terms roots)

@[simp] theorem real_rational (q : Rat) (roots : Family ℝ 0) :
    (rational q).real roots = q := by
  cases roots
  by_cases zero : q = 0 <;> simp [real, terms, sumOfTerms, zero]

@[simp] theorem real_pair
    (a b : Element n)
    (roots : Family ℝ n)
    (root : ℝ) :
    (pair a b).real (.snoc roots root) = a.real roots + b.real roots * root := by
  rw [real, terms, sumOfTerms_append, sumOfTerms_map_append]
  rfl

@[simp] theorem real_const (q : Rat) (roots : Family ℝ n) :
    (const n q).real roots = q := by
  induction n generalizing q with
  | zero => simp [const]
  | succ n inductionHypothesis =>
      cases roots
      simp [const, inductionHypothesis]

@[simp] theorem real_zero (roots : Family ℝ n) : (zero n).real roots = 0 := by
  simp [zero]

@[simp] theorem real_one (roots : Family ℝ n) : (one n).real roots = 1 := by
  simp [one]

@[simp] theorem real_add (x y : Element n) (roots : Family ℝ n) :
    (x.add y).real roots = x.real roots + y.real roots := by
  induction x with
  | rational p =>
      cases y
      simp [add]
  | pair a b constantHypothesis slopeHypothesis =>
      cases y
      cases roots
      simp only [add, real_pair, constantHypothesis, slopeHypothesis]
      ring

@[simp] theorem real_neg (x : Element n) (roots : Family ℝ n) :
    x.neg.real roots = -x.real roots := by
  induction x with
  | rational q => simp [neg]
  | pair a b constantHypothesis slopeHypothesis =>
      cases roots
      simp only [neg, real_pair, constantHypothesis, slopeHypothesis]
      ring

@[simp] theorem real_sub (x y : Element n) (roots : Family ℝ n) :
    (x.sub y).real roots = x.real roots - y.real roots := by
  rw [sub, real_add, real_neg, sub_eq_add_neg]

@[simp] theorem real_scale (r : Rat) (x : Element n) (roots : Family ℝ n) :
    (x.scale r).real roots = x.real roots * r := by
  induction x with
  | rational q => simp [scale]
  | pair a b constantHypothesis slopeHypothesis =>
      cases roots
      simp only [scale, real_pair, constantHypothesis, slopeHypothesis]
      ring

/-- The test for zero finds the zero of a level and nothing else. -/
theorem isZero_iff {x : Element n} : x.isZero = true ↔ x = zero n := by
  induction x with
  | rational q => simp [isZero, zero, const]
  | pair a b constantHypothesis slopeHypothesis =>
      simp [isZero, zero, const] at *
      rw [constantHypothesis, slopeHypothesis]

theorem real_of_isZero {x : Element n} (isZero : x.isZero = true) (roots : Family ℝ n) :
    x.real roots = 0 := by
  rw [isZero_iff.mp isZero, real_zero]

/-- The elements read as a rational are the constants. -/
theorem rational?_eq_some_iff {x : Element n} {q : Rat} :
    x.rational? = some q ↔ x = const n q := by
  induction x with
  | rational p => simp [rational?, const]
  | pair a b constantHypothesis slopeHypothesis =>
      simp only [rational?, const, pair.injEq]
      split
      · rename_i flat
        rw [constantHypothesis]
        exact (and_iff_left (isZero_iff.mp flat)).symm
      · rename_i steep
        simp only [reduceCtorEq, false_iff, not_and]
        intro _ flat
        exact steep (isZero_iff.mpr flat)

end Element

namespace Tower

/-- The square roots of a tower as real numbers. -/
noncomputable def roots : {n : Nat} → Tower n → Family ℝ n
  | _, .base => .nil
  | _, .adjoin tower radicand _ =>
      .snoc tower.roots √(radicand.real tower.roots)

/-- No radicand of a tower is negative. -/
def IsReal : {n : Nat} → Tower n → Prop
  | _, .base => True
  | _, .adjoin tower radicand _ => tower.IsReal ∧ 0 ≤ radicand.real tower.roots

/-- The product of elements is that of their real numbers. -/
theorem real_mul
    {tower : Tower n}
    (isReal : tower.IsReal)
    (x y : Element n) :
    (tower.mul x y).real tower.roots = x.real tower.roots * y.real tower.roots := by
  induction tower with
  | base =>
      cases x
      cases y
      simp [mul]
  | adjoin tower radicand origin inductionHypothesis =>
      obtain ⟨realBelow, nonnegative⟩ := isReal
      have product := inductionHypothesis realBelow
      cases x with
      | pair a b =>
          cases y with
          | pair c d =>
              rw [mul]
              split
              · rename_i vanishes
                simp only [Bool.or_eq_true, Bool.and_eq_true] at vanishes
                rcases vanishes with ⟨zeroA, zeroB⟩ | ⟨zeroC, zeroD⟩
                · simp [roots, Element.real_of_isZero zeroA, Element.real_of_isZero zeroB]
                · simp [roots, Element.real_of_isZero zeroC, Element.real_of_isZero zeroD]
              · simp only [roots, Element.real_pair, Element.real_add, product]
                have square := Real.mul_self_sqrt nonnegative
                linear_combination
                  -(b.real tower.roots * d.real tower.roots) * square

/-- The norm of `a + b g` is the product of `a + b g` and `a - b g`. -/
theorem real_norm
    {tower : Tower n}
    (isReal : tower.IsReal)
    (radicand a b : Element n) :
    (tower.norm radicand a b).real tower.roots =
      a.real tower.roots * a.real tower.roots -
        b.real tower.roots * b.real tower.roots * radicand.real tower.roots := by
  rw [norm, Element.real_sub, real_mul isReal, real_mul isReal, real_mul isReal]

/-- The power of an element is that of its real number. -/
theorem real_pow
    {tower : Tower n}
    (isReal : tower.IsReal)
    (x : Element n)
    (e : Nat) :
    (tower.pow x e).real tower.roots = x.real tower.roots ^ e := by
  fun_induction pow tower x e with
  | case1 x => simp
  | case2 x nonzero => simp
  | case3 x e nonzero notOne half even inductionHypothesis =>
      have exponent : e = 2 * (e / 2) := by omega
      rw [inductionHypothesis, real_mul isReal, ← pow_two, ← pow_mul, ← exponent]
  | case4 x e nonzero notOne half odd inductionHypothesis =>
      have exponent : e = 2 * (e / 2) + 1 := by omega
      rw [real_mul isReal, inductionHypothesis, real_mul isReal, ← pow_two, ← pow_mul,
        ← pow_succ, ← exponent]

/-- Substituting elements for square roots replaces the roots by the real numbers of
those elements. -/
theorem real_substitute
    {m : Nat}
    {tower : Tower n}
    (isReal : tower.IsReal)
    (x : Element m)
    (images : Family (Element n) m) :
    (tower.substitute x images).real tower.roots =
      x.real (images.map fun image => image.real tower.roots) := by
  induction x with
  | rational q => simp [substitute]
  | pair a b constantHypothesis slopeHypothesis =>
      cases images
      simp only [substitute, Element.real_add, real_mul isReal, constantHypothesis,
        slopeHypothesis, Family.map, Element.real_pair]

end Tower

namespace Value

/-- The real number of a value. -/
noncomputable def real (v : Value) : ℝ :=
  v.element.real v.tower.roots

@[simp] theorem real_ofRat (q : Rat) : (ofRat q).real = q := by
  simp [ofRat, real]

/-- A value read as a rational stands for it. -/
theorem real_of_rational?
    {v : Value}
    {q : Rat}
    (read : v.rational? = some q) :
    v.real = q := by
  rw [real, Element.rational?_eq_some_iff.mp read, Element.real_const]

/-- A value read as an integer stands for it. -/
theorem real_of_integer?
    {v : Value}
    {k : Int}
    (read : v.integer? = some k) :
    v.real = k := by
  simp only [integer?, Option.bind_eq_bind, Option.bind_eq_some_iff] at read
  obtain ⟨q, rational, whole⟩ := read
  split at whole
  · rename_i denominator
    rw [Option.some.injEq] at whole
    rw [real_of_rational? rational, ← whole]
    exact_mod_cast ((Rat.den_eq_one_iff q).mp denominator).symm
  · contradiction

end Value
end Radical
end FourFours
