import FourFours.Proofs.Integer.Root
import FourFours.Proofs.Outcome
import FourFours.Proofs.Radical.Real
import FourFours.Radical.Enclosure
import Mathlib.Data.Int.Cast.Lemmas
import Mathlib.Data.Rat.Cast.Lemmas
import Mathlib.Order.Compare
import Mathlib.Tactic.Linarith
import Mathlib.Tactic.Positivity

/-!
# Enclosures enclose

The two integers of an enclosure stand on both sides of the real number that they
approximate, at the decimal scale `10 ^ p`. Every operation on enclosures rounds
outwards, so the enclosure of an element contains its real number at every scale, and a
sign that is read off an enclosure is the sign of that number.
-/

namespace FourFours
namespace Radical

variable {n : Nat}

theorem tenPow_pos (p : Nat) : (0 : ℝ) < Integer.tenPow p := by
  exact_mod_cast Nat.pow_pos (n := p) (show 0 < 10 by omega)

/-- A quotient rounded down does not exceed a number at least as large. -/
theorem floorDiv_le
    {a b : Int}
    {x : ℝ}
    (positive : 0 < b)
    (bound : (a : ℝ) ≤ x * b) :
    ((a / b : Int) : ℝ) ≤ x := by
  have divisor : (0 : ℝ) < b := by exact_mod_cast positive
  have rounded : ((a / b : Int) : ℝ) * b ≤ a := by
    exact_mod_cast Int.ediv_mul_le a positive.ne'
  exact le_of_mul_le_mul_right (rounded.trans bound) divisor

/-- A quotient rounded up is at least as large as a number that does not exceed it. -/
theorem le_ceilDiv
    {a b : Int}
    {x : ℝ}
    (positive : 0 < b)
    (bound : x * b ≤ a) :
    x ≤ (Enclosure.ceilDiv a b : Int) := by
  have opposite : ((-a / b : Int) : ℝ) ≤ -x := by
    apply floorDiv_le positive
    push_cast
    linarith
  rw [Enclosure.ceilDiv]
  push_cast
  linarith

namespace Enclosure

/-- The enclosure contains a real number at the scale `10 ^ p`. -/
def Contains (p : Nat) (e : Enclosure) (x : ℝ) : Prop :=
  (e.low : ℝ) ≤ x * Integer.tenPow p ∧ x * Integer.tenPow p ≤ e.high

/-- An enclosure of a factor: neither its numbers nor its bounds are negative. -/
structure ContainsFactor (p : Nat) (e : Enclosure) (x : ℝ) : Prop where
  contains : e.Contains p x
  low_nonneg : 0 ≤ e.low
  real_nonneg : 0 ≤ x

theorem contains_add
    {p : Nat}
    {e f : Enclosure}
    {x y : ℝ}
    (left : e.Contains p x)
    (right : f.Contains p y) :
    (e.add f).Contains p (x + y) := by
  obtain ⟨lowLeft, highLeft⟩ := left
  obtain ⟨lowRight, highRight⟩ := right
  constructor <;>
    · simp only [add]
      push_cast
      linarith

theorem contains_scale
    {p : Nat}
    {e : Enclosure}
    {x : ℝ}
    (contains : e.Contains p x)
    (q : Rat) :
    (e.scale q).Contains p (q * x) := by
  obtain ⟨low, high⟩ := contains
  have denominator : (0 : Int) < q.den := by exact_mod_cast q.den_pos
  have quotient : (q : ℝ) * q.den = q.num := by exact_mod_cast Rat.mul_den_eq_num q
  have rescaled : q * x * Integer.tenPow p * (q.den : Int) =
      q.num * (x * Integer.tenPow p) := by
    rw [← quotient]
    push_cast
    ring
  unfold scale
  split
  · rename_i negative
    have numerator : (q.num : ℝ) ≤ 0 := by exact_mod_cast negative.le
    constructor
    · apply floorDiv_le denominator
      rw [rescaled]
      push_cast
      exact mul_le_mul_of_nonpos_left high numerator
    · apply le_ceilDiv denominator
      rw [rescaled]
      push_cast
      exact mul_le_mul_of_nonpos_left low numerator
  · rename_i nonnegative
    have numerator : (0 : ℝ) ≤ q.num := by exact_mod_cast not_lt.mp nonnegative
    constructor
    · apply floorDiv_le denominator
      rw [rescaled]
      push_cast
      exact mul_le_mul_of_nonneg_left low numerator
    · apply le_ceilDiv denominator
      rw [rescaled]
      push_cast
      exact mul_le_mul_of_nonneg_left high numerator

theorem containsFactor_one (p : Nat) : (one p).ContainsFactor p 1 where
  contains := by simp [one, Contains]
  low_nonneg := Int.natCast_nonneg _
  real_nonneg := zero_le_one

theorem containsFactor_mul
    {p : Nat}
    {e f : Enclosure}
    {x y : ℝ}
    (left : e.ContainsFactor p x)
    (right : f.ContainsFactor p y) :
    (e.mul p f).ContainsFactor p (x * y) := by
  obtain ⟨⟨lowLeft, highLeft⟩, nonnegLeft, realLeft⟩ := left
  obtain ⟨⟨lowRight, highRight⟩, nonnegRight, realRight⟩ := right
  have unit : (0 : Int) < Integer.tenPow p := by exact_mod_cast tenPow_pos p
  have unitReal := (tenPow_pos p).le
  have rescaled : x * y * Integer.tenPow p * (Integer.tenPow p : Int) =
      x * Integer.tenPow p * (y * Integer.tenPow p) := by
    push_cast
    ring
  refine ⟨⟨?_, ?_⟩, ?_, mul_nonneg realLeft realRight⟩
  · apply floorDiv_le unit
    rw [rescaled]
    push_cast
    exact mul_le_mul lowLeft lowRight (by exact_mod_cast nonnegRight)
      (mul_nonneg realLeft unitReal)
  · apply le_ceilDiv unit
    rw [rescaled]
    push_cast
    exact mul_le_mul highLeft highRight (mul_nonneg realRight unitReal)
      ((mul_nonneg realLeft unitReal).trans highLeft)
  · exact Int.ediv_nonneg (mul_nonneg nonnegLeft nonnegRight) unit.le

/-- The enclosure of a square root, which counts as 0 for a negative number. -/
theorem containsFactor_sqrt
    {p : Nat}
    {e : Enclosure}
    {x : ℝ}
    (contains : e.Contains p x) :
    (e.sqrt p).ContainsFactor p √x := by
  obtain ⟨low, high⟩ := contains
  have unit := tenPow_pos p
  have scaledRoot : √x * Integer.tenPow p =
      √(x * (Integer.tenPow p * Integer.tenPow p)) := by
    rw [Real.sqrt_mul' _ (mul_self_nonneg _), Real.sqrt_mul_self unit.le]
  refine ⟨⟨?_, ?_⟩, Int.natCast_nonneg _, Real.sqrt_nonneg x⟩
  · rw [scaledRoot]
    rcases le_or_gt e.low 0 with nonpositive | positive
    · simp [sqrt, Int.toNat_of_nonpos nonpositive, Integer.floorRoot]
    · apply Real.le_sqrt_of_sq_le
      have square := Integer.floorRoot_mul_self_le (e.low.toNat * Integer.tenPow p)
      have squareReal : (Integer.floorRoot (e.low.toNat * Integer.tenPow p) : ℝ) ^ 2 ≤
          e.low.toNat * Integer.tenPow p := by
        rw [pow_two]
        exact_mod_cast square
      have lowReal : (e.low.toNat : ℝ) = e.low := by
        exact_mod_cast Int.toNat_of_nonneg positive.le
      rw [lowReal] at squareReal
      calc
        _ ≤ (e.low : ℝ) * Integer.tenPow p := squareReal
        _ ≤ x * Integer.tenPow p * Integer.tenPow p :=
          mul_le_mul_of_nonneg_right low unit.le
        _ = _ := mul_assoc _ _ _
  · rw [scaledRoot, Real.sqrt_le_iff]
    simp only [sqrt, Int.cast_natCast]
    refine ⟨Nat.cast_nonneg _, ?_⟩
    have square := Integer.le_ceilRoot_mul_self (e.high.toNat * Integer.tenPow p)
    have squareReal : (e.high.toNat * Integer.tenPow p : ℝ) ≤
        (Integer.ceilRoot (e.high.toNat * Integer.tenPow p) : ℝ) ^ 2 := by
      rw [pow_two]
      exact_mod_cast square
    have highReal : (e.high : ℝ) ≤ e.high.toNat := by exact_mod_cast Int.self_le_toNat _
    calc
      _ = x * Integer.tenPow p * Integer.tenPow p := (mul_assoc _ _ _).symm
      _ ≤ e.high.toNat * Integer.tenPow p :=
        mul_le_mul_of_nonneg_right (high.trans highReal) unit.le
      _ ≤ _ := squareReal

/-- A product of enclosed factors is enclosed by the product of the enclosures. -/
theorem containsFactor_foldl_mul
    {p : Nat}
    {enclosures : List Enclosure}
    {roots : List ℝ}
    (factors : List.Forall₂ (ContainsFactor p) enclosures roots)
    {e : Enclosure}
    {x : ℝ}
    (start : e.ContainsFactor p x) :
    (enclosures.foldl (mul p) e).ContainsFactor p (x * roots.prod) := by
  induction factors generalizing e x with
  | nil => simpa using start
  | cons head tail inductionHypothesis =>
      rw [List.foldl_cons, List.prod_cons, ← mul_assoc]
      exact inductionHypothesis (containsFactor_mul start head)

/-- Two terms with the same coefficient, the roots of the one enclosed by the other. -/
def ContainsTerm (p : Nat) (term : Rat × List Enclosure) (real : Rat × List ℝ) : Prop :=
  term.1 = real.1 ∧ List.Forall₂ (ContainsFactor p) term.2 real.2

theorem contains_ofTerm
    {p : Nat}
    {term : Rat × List Enclosure}
    {real : Rat × List ℝ}
    (encloses : ContainsTerm p term real) :
    (ofTerm p term.1 term.2).Contains p (real.1 * real.2.prod) := by
  obtain ⟨coefficient, factors⟩ := encloses
  rw [ofTerm, coefficient]
  apply contains_scale
  have product := containsFactor_foldl_mul factors (containsFactor_one p)
  rw [one_mul] at product
  exact product.contains

theorem contains_foldl_add
    {p : Nat}
    {terms : List (Rat × List Enclosure)}
    {reals : List (Rat × List ℝ)}
    (encloses : List.Forall₂ (ContainsTerm p) terms reals)
    {e : Enclosure}
    {x : ℝ}
    (start : e.Contains p x) :
    ((terms.map fun (q, roots) => ofTerm p q roots).foldl add e).Contains p
      (x + sumOfTerms reals) := by
  induction encloses generalizing e x with
  | nil => simpa [sumOfTerms] using start
  | cons head tail inductionHypothesis =>
      have sum := inductionHypothesis (contains_add start (contains_ofTerm head))
      simpa [sumOfTerms, add_assoc] using sum

/-- The enclosure of a sum of terms contains the sum. -/
theorem contains_ofTerms
    {p : Nat}
    {terms : List (Rat × List Enclosure)}
    {reals : List (Rat × List ℝ)}
    (encloses : List.Forall₂ (ContainsTerm p) terms reals) :
    (ofTerms p terms).Contains p (sumOfTerms reals) := by
  have start : (⟨0, 0⟩ : Enclosure).Contains p 0 := by simp [Contains]
  have sum := contains_foldl_add encloses start
  rwa [zero_add] at sum

end Enclosure

namespace Family

/-- The data of two families stand in a relation, one by one. -/
def Forall₂ {α β : Type} (R : α → β → Prop) :
    {n : Nat} → Family α n → Family β n → Prop
  | _, .nil, .nil => True
  | _, .snoc left a, .snoc right b => left.Forall₂ R right ∧ R a b

end Family

/-- An element has the same terms over two families, up to the data of the roots. -/
theorem Element.terms_forall₂
    {α β : Type}
    {R : α → β → Prop}
    (x : Element n)
    {left : Family α n}
    {right : Family β n}
    (related : left.Forall₂ R right) :
    List.Forall₂ (fun term term' => term.1 = term'.1 ∧ List.Forall₂ R term.2 term'.2)
      (x.terms left) (x.terms right) := by
  induction x with
  | rational q =>
      by_cases zero : q = 0 <;> simp [terms, zero]
  | pair a b constantHypothesis slopeHypothesis =>
      cases left with
      | snoc left root =>
          cases right with
          | snoc right root' =>
              obtain ⟨below, last⟩ := related
              rw [terms, terms]
              apply List.rel_append (constantHypothesis below)
              rw [List.forall₂_map_left_iff, List.forall₂_map_right_iff]
              refine (slopeHypothesis below).imp ?_
              rintro ⟨q, roots⟩ ⟨q', roots'⟩ ⟨coefficient, same⟩
              exact ⟨coefficient, List.rel_append same (.cons last .nil)⟩

namespace Tower

/-- Every root enclosure of a tower contains its square root. -/
theorem rootEnclosures_contain (tower : Tower n) (p : Nat) :
    (tower.rootEnclosures p).Forall₂ (Enclosure.ContainsFactor p) tower.roots := by
  induction tower with
  | base => trivial
  | adjoin tower radicand origin inductionHypothesis =>
      refine ⟨inductionHypothesis, Enclosure.containsFactor_sqrt ?_⟩
      exact Enclosure.contains_ofTerms (radicand.terms_forall₂ inductionHypothesis)

/-- The enclosure of an element contains its real number, at every scale. -/
theorem enclosure_contains (tower : Tower n) (p : Nat) (x : Element n) :
    (tower.enclosure p x).Contains p (x.real tower.roots) :=
  Enclosure.contains_ofTerms (x.terms_forall₂ (tower.rootEnclosures_contain p))

theorem rationalSign_eq_cmp (q : Rat) : rationalSign q = cmp (q : ℝ) 0 := by
  rcases lt_trichotomy q 0 with negative | zero | positive
  · rw [rationalSign, if_pos negative, eq_comm, cmp_eq_lt_iff]
    exact_mod_cast negative
  · rw [rationalSign, if_neg zero.not_lt, if_pos zero, eq_comm, cmp_eq_eq_iff]
    exact_mod_cast zero
  · rw [rationalSign, if_neg positive.not_gt, if_neg positive.ne', eq_comm, cmp_eq_gt_iff]
    exact_mod_cast positive

/-- A sign read off an enclosure is the sign of the numbers in it. -/
theorem cmp_of_sign?
    {p : Nat}
    {e : Enclosure}
    {x : ℝ}
    (contains : e.Contains p x)
    {sign : Ordering}
    (read : e.sign? = some sign) :
    cmp x 0 = sign := by
  obtain ⟨low, high⟩ := contains
  have unit := tenPow_pos p
  unfold Enclosure.sign? at read
  split at read
  · rename_i positive
    rw [Option.some.injEq] at read
    rw [← read, cmp_eq_gt_iff]
    have lowReal : (0 : ℝ) < e.low := by exact_mod_cast positive
    exact pos_of_mul_pos_left (lowReal.trans_le low) unit.le
  · split at read
    · rename_i negative
      rw [Option.some.injEq] at read
      rw [← read, cmp_eq_lt_iff]
      have highReal : (e.high : ℝ) < 0 := by exact_mod_cast negative
      exact neg_of_mul_neg_left (high.trans_lt highReal) unit.le
    · contradiction

/-- The sign of an element is that of its real number. -/
theorem cmp_of_sign
    {tower : Tower n}
    {x : Element n}
    {sign : Ordering}
    (decided : tower.sign x = .ok sign) :
    cmp (x.real tower.roots) 0 = sign := by
  cases rational : x.rational? with
  | some q =>
      simp only [Tower.sign, rational, Except.ok.injEq] at decided
      rw [Element.rational?_eq_some_iff.mp rational, Element.real_const,
        ← rationalSign_eq_cmp, decided]
  | none =>
      simp only [Tower.sign, rational] at decided
      cases found : (scales 16 (commonScale + x.bits)).findSome? fun p =>
          (tower.enclosure (Integer.keptDecimals p) x).sign? with
      | some sign' =>
          rw [found, Except.ok.injEq] at decided
          obtain ⟨p, _, read⟩ := List.exists_of_findSome?_eq_some found
          rw [← decided]
          exact cmp_of_sign? (tower.enclosure_contains _ x) read
      | none =>
          rw [found] at decided
          contradiction

/-- The nonnegative one of two opposite elements. -/
theorem nonnegative_spec
    {tower : Tower n}
    {x y : Element n}
    (chosen : tower.nonnegative x = .ok y) :
    y.real tower.roots = |x.real tower.roots| := by
  rw [Tower.nonnegative, bind_eq_ok_iff] at chosen
  obtain ⟨sign, decided, chosen⟩ := chosen
  have signReal := cmp_of_sign decided
  cases sign with
  | lt =>
      obtain rfl : x.neg = y := pure_eq_ok_iff.mp chosen
      rw [Element.real_neg, abs_of_neg (cmp_eq_lt_iff _ _ |>.mp signReal)]
  | eq =>
      obtain rfl : x = y := pure_eq_ok_iff.mp chosen
      rw [cmp_eq_eq_iff _ _ |>.mp signReal, abs_zero]
  | gt =>
      obtain rfl : x = y := pure_eq_ok_iff.mp chosen
      rw [abs_of_pos (cmp_eq_gt_iff _ _ |>.mp signReal)]

end Tower
end Radical
end FourFours
