import FourFours.Radical.Element
import Mathlib.Algebra.Order.Ring.Nat
import Mathlib.Data.List.Basic

/-!
# The monomials of an element

A monomial is named by its mask, the sum of `2 ^ i` over the square roots `i` that it
multiplies. The monomials of an element of level `n` have nonzero coefficients and masks
below `2 ^ n`, in ascending order, and they determine the element.
-/

namespace FourFours
namespace Radical

variable {n : Nat}

/-- The mask of each square root. -/
def Family.masks : (n : Nat) → Family Nat n
  | 0 => .nil
  | n + 1 => .snoc (masks n) (2 ^ n)

namespace Element

/-- The nonzero coefficients of an element, each with the mask of its monomial. -/
def monomials (x : Element n) : List (Rat × Nat) :=
  (x.terms (Family.masks n)).map fun (q, masks) => (q, masks.sum)

theorem monomials_rational (q : Rat) :
    (rational q).monomials = if q = 0 then [] else [(q, 0)] := by
  by_cases zero : q = 0 <;> simp [monomials, terms, zero]

theorem monomials_pair (a b : Element n) :
    (pair a b).monomials =
      a.monomials ++ b.monomials.map fun (q, mask) => (q, mask + 2 ^ n) := by
  simp [monomials, Family.masks, terms, Function.comp_def]

/-- The monomials of an element of level `n` as a sum in normal form: the coefficients
are nonzero, and the masks ascend and use no square root from `n` on. -/
structure IsReduced (x : Element n) : Prop where
  coefficient_ne_zero : ∀ monomial ∈ x.monomials, monomial.1 ≠ 0
  mask_lt : ∀ monomial ∈ x.monomials, monomial.2 < 2 ^ n
  ascending : x.monomials.Pairwise fun left right => left.2 < right.2

/-- The monomials of every element are in normal form. -/
theorem isReduced (x : Element n) : x.IsReduced := by
  induction x with
  | rational q =>
      by_cases zero : q = 0
      · constructor <;> simp [monomials_rational, zero]
      · constructor <;> simp [monomials_rational, zero]
  | @pair n a b reducedA reducedB =>
      constructor
      · intro monomial member
        simp only [monomials_pair, List.mem_append, List.mem_map] at member
        rcases member with below | ⟨shifted, member, rfl⟩
        · exact reducedA.coefficient_ne_zero monomial below
        · exact reducedB.coefficient_ne_zero shifted member
      · intro monomial member
        simp only [monomials_pair, List.mem_append, List.mem_map] at member
        rw [Nat.pow_succ]
        rcases member with below | ⟨shifted, member, rfl⟩
        · have := reducedA.mask_lt monomial below
          omega
        · have := reducedB.mask_lt shifted member
          simp only
          omega
      · rw [monomials_pair, List.pairwise_append, List.pairwise_map]
        refine ⟨reducedA.ascending, reducedB.ascending.imp fun lt => by simpa using lt, ?_⟩
        intro left leftMember right rightMember
        obtain ⟨shifted, _, rfl⟩ := List.mem_map.mp rightMember
        exact (reducedA.mask_lt left leftMember).trans_le (Nat.le_add_left _ _)

theorem monomials_eq_nil_iff {x : Element n} : x.monomials = [] ↔ x.isZero = true := by
  induction x with
  | rational q =>
      by_cases zero : q = 0 <;> simp [monomials_rational, isZero, zero]
  | pair a b constantHypothesis slopeHypothesis =>
      simp [monomials_pair, isZero, constantHypothesis, slopeHypothesis]

/-- The monomials without the last square root are those of the constant. -/
theorem filter_monomials_pair (a b : Element n) :
    ((pair a b).monomials.filter fun monomial => monomial.2 < 2 ^ n) = a.monomials := by
  rw [monomials_pair, List.filter_append]
  have constant : (a.monomials.filter fun monomial => monomial.2 < 2 ^ n) =
      a.monomials := by
    apply List.filter_eq_self.mpr
    intro monomial member
    simpa using a.isReduced.mask_lt monomial member
  have slope : ((b.monomials.map fun (q, mask) => (q, mask + 2 ^ n)).filter
      fun monomial => monomial.2 < 2 ^ n) = [] := by
    apply List.filter_eq_nil_iff.mpr
    intro monomial member
    obtain ⟨shifted, _, rfl⟩ := List.mem_map.mp member
    simp
  rw [constant, slope, List.append_nil]

/-- An element is determined by its monomials. -/
theorem monomials_inj {x y : Element n} : x.monomials = y.monomials ↔ x = y := by
  refine ⟨fun equal => ?_, fun equal => equal ▸ rfl⟩
  induction x with
  | rational p =>
      cases y with
      | rational q =>
          by_cases zeroP : p = 0 <;> by_cases zeroQ : q = 0 <;>
            simp_all [monomials_rational]
  | @pair n a b constantHypothesis slopeHypothesis =>
      cases y with
      | pair c d =>
          have constants : a.monomials = c.monomials := by
            rw [← filter_monomials_pair a b, equal, filter_monomials_pair]
          have slopes : b.monomials = d.monomials := by
            rw [monomials_pair, monomials_pair, constants, List.append_cancel_left_eq] at equal
            apply List.map_injective_iff.mpr _ equal
            rintro ⟨q, mask⟩ ⟨q', mask'⟩ same
            simpa using same
          rw [constantHypothesis constants, slopeHypothesis slopes]

end Element
end Radical
end FourFours
