import FourFours.Integer.RootSearch
import FourFours.Proofs.Integer.Root
import Mathlib.Computability.StateTransition

/-!
# The search for a square root ends at the root

Every iterate is positive and its successor has a square above the number, so no round
divides by zero. Each loop comes down: the iterates fall, what the iteration leaves is never
raised, and what is lowered stays above the root. Hence the search ends, and it ends at the
number that `floorRoot` gives.
-/

namespace FourFours
namespace Integer

open StateTransition (Reaches eval mem_eval)

namespace RootSearch

variable {x : Nat} {moment : RootSearch}

/-- What holds at each moment of the search for the square root of `x`: the root is not
passed, and there is something to divide by. -/
def IsAbove (x : Nat) : RootSearch → Prop
  | .begun => True
  | .falling y => 0 < x ∧ 0 < y ∧ x < (y + 1) * (y + 1)
  | .raising z => 0 ≤ z ∧ x < (z + 1) * (z + 1)
  | .lowering z => 0 ≤ z ∧ x < (z + 1) * (z + 1)
  | .found root => 0 ≤ root ∧ root * root ≤ x ∧ x < (root + 1) * (root + 1)

/-- The number of loops that are still to be run. -/
def loops : RootSearch → Nat
  | .begun => 4
  | .falling _ => 3
  | .raising _ => 2
  | .lowering _ => 1
  | .found _ => 0

/-- How far the running loop can still come down. -/
def height : RootSearch → Nat
  | .falling y => y.toNat
  | .lowering z => z.toNat
  | _ => 0

/-- A later moment has fewer loops before it, or the same loop has come down. -/
def IsNearer (later earlier : RootSearch) : Prop :=
  Prod.Lex (· < ·) (· < ·) (later.loops, later.height) (earlier.loops, earlier.height)

/-- The start of the iteration is above the root. -/
theorem isAbove_start (positive : 0 < x) :
    IsAbove x (.falling (twoPow ((bitLength x + 1) / 2))) := by
  have above := lt_twoPow_succ_mul_self x
  have start : 0 < twoPow ((bitLength x + 1) / 2) := Nat.two_pow_pos _
  exact ⟨positive, by exact_mod_cast start, by exact_mod_cast above⟩

/-- A round of the iteration from a number above the root leaves a number above the root that
is not zero. -/
theorem IsAbove.next {y : Int} (above : IsAbove x (.falling y)) :
    0 < (y + (x : Int).tdiv y) / 2 ∧
      x < ((y + (x : Int).tdiv y) / 2 + 1) * ((y + (x : Int).tdiv y) / 2 + 1) := by
  obtain ⟨positive, divisor, -⟩ := above
  lift y to Nat using divisor.le
  have mean := lt_next_succ_mul_self (x := x) (Int.natCast_pos.mp divisor)
  rw [← Int.ofNat_tdiv]
  norm_cast
  refine ⟨Nat.pos_of_ne_zero fun zero => ?_, mean⟩
  rw [zero] at mean
  omega

/-- A round of an unfinished search: it does not divide by zero, it stays above the root, and
it comes nearer to the end. -/
theorem IsAbove.round (above : IsAbove x moment) (unfinished : ∀ root, moment ≠ .found root) :
    ∃ later, next? x moment = some later ∧ IsAbove x later ∧ IsNearer later moment := by
  cases moment with
  | begun =>
      rcases Nat.eq_zero_or_pos x with rfl | positive
      · exact ⟨.found 0, rfl, by simp [IsAbove], .left _ _ (by simp [loops])⟩
      · have given : ¬(x : Int) ≤ 0 := by omega
        simp only [next?, given, if_false, Int.natAbs_natCast]
        exact ⟨_, rfl, isAbove_start positive, .left _ _ (by simp [loops])⟩
  | falling y =>
      obtain ⟨divisor, mean⟩ := above.next
      have nonzero : y ≠ 0 := above.2.1.ne'
      simp only [next?, nonzero, if_false]
      generalize (y + (x : Int).tdiv y) / 2 = next at divisor mean
      split
      · refine ⟨_, rfl, ⟨above.1, divisor, mean⟩, .right _ ?_⟩
        simp only [height]
        omega
      · exact ⟨_, rfl, ⟨divisor.le, mean⟩, .left _ _ (by simp [loops])⟩
  | raising z =>
      -- The iteration never ends below the root, so there is nothing to raise.
      have settled : ¬(z + 1) * (z + 1) ≤ x := not_le.mpr above.2
      exact ⟨.lowering z, by simp [next?, settled], above, .left _ _ (by simp [loops])⟩
  | lowering z =>
      obtain ⟨nonneg, upper⟩ := above
      simp only [next?]
      split
      · rename_i high
        have positive : 0 < z := by
          refine lt_of_le_of_ne nonneg ?_
          rintro rfl
          omega
        refine ⟨_, rfl, ⟨by omega, by simpa using high⟩, .right _ ?_⟩
        simp only [height]
        omega
      · rename_i low
        exact ⟨_, rfl, ⟨nonneg, not_lt.mp low, upper⟩, .left _ _ (by simp [loops])⟩
  | found root => exact absurd rfl (unfinished root)

/-- A search that is above the root finds a root. -/
theorem IsAbove.exists_found {moment : RootSearch} (above : IsAbove x moment) :
    ∃ root, Reaches (next? x) moment (.found root) ∧ IsAbove x (.found root) := by
  by_cases finished : ∃ root, moment = .found root
  · obtain ⟨root, rfl⟩ := finished
    exact ⟨root, .refl, above⟩
  · obtain ⟨later, step, stays, nearer⟩ := above.round (by simpa using finished)
    obtain ⟨root, reaches, result⟩ := stays.exists_found
    exact ⟨root, .head step reaches, result⟩
termination_by (moment.loops, moment.height)
decreasing_by exact nearer

/-- The root that is found is the rounded root. -/
theorem IsAbove.eq_floorRoot {root : Int} (above : IsAbove x (.found root)) :
    root = floorRoot x := by
  obtain ⟨nonneg, low, high⟩ := above
  lift root to Nat using nonneg
  rw [floorRoot_eq_sqrt]
  exact_mod_cast Nat.eq_sqrt.mpr ⟨by exact_mod_cast low, by exact_mod_cast high⟩

/-- The search ends, at the rounded root. -/
theorem eval_next? (x : Nat) :
    eval (next? x) .begun = Part.some (.found (floorRoot x)) := by
  have start : IsAbove x .begun := trivial
  obtain ⟨root, reaches, above⟩ := start.exists_found
  rw [← above.eq_floorRoot]
  exact Part.eq_some_iff.mpr (mem_eval.mpr ⟨reaches, rfl⟩)

end RootSearch

/-- Integer square roots are exact. The search for a root ends without a division by zero,
and it gives the root rounded down; the root rounded up is the least number with a square
that is large enough; and the exact root is there for the perfect squares alone. -/
theorem squareRoots_exact (x : Nat) :
    eval (RootSearch.next? x) .begun = Part.some (.found (floorRoot x)) ∧
      (floorRoot x * floorRoot x ≤ x ∧ x < (floorRoot x + 1) * (floorRoot x + 1)) ∧
      IsLeast {c | x ≤ c * c} (ceilRoot x) ∧
      ∀ root, exactRoot? x = some root ↔ root * root = x :=
  ⟨RootSearch.eval_next? x, ⟨floorRoot_mul_self_le x, lt_floorRoot_succ_mul_self x⟩,
    isLeast_ceilRoot x, fun _ => exactRoot?_eq_some_iff⟩

end Integer
end FourFours
