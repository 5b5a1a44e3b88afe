import FourFours.Integer.Root
import Mathlib.Data.Nat.Sqrt
import Mathlib.Order.Bounds.Defs
import Mathlib.Tactic.Linarith
import Mathlib.Tactic.Ring

/-!
# Correctness of the integer square roots

Newton's iteration from a start whose successor has a square above `x` ends at the
square root of `x` rounded down. The start of `floorRoot` is such a number, so
`floorRoot` agrees with `Nat.sqrt`, `ceilRoot` is the least number with a square at
least `x`, and `exactRoot?` recognises exactly the perfect squares.
-/

namespace FourFours
namespace Integer

theorem lt_twoPow_bitLength (x : Nat) : x < twoPow (bitLength x) := by
  by_cases zero : x = 0
  · simp [zero, bitLength, twoPow]
  · rw [bitLength, if_neg zero]
    exact Nat.lt_log2_self

/-- Where the iteration stops, the square of the iterate does not exceed `x`. -/
theorem descend_mul_self_le (x y : Nat) : descend x y * descend x y ≤ x := by
  fun_induction descend x y with
  | case1 y next falls inductionHypothesis => exact inductionHypothesis
  | case2 y next stays =>
      by_cases zero : y = 0
      · simp [zero]
      · have quotient : y ≤ x / y := by omega
        exact (Nat.mul_le_mul_left y quotient).trans (Nat.mul_div_le x y)

/-- One step of the iteration stays above the square root, by the inequality of the
arithmetic and the geometric mean. -/
theorem lt_next_succ_mul_self {x y : Nat} (positive : 0 < y) :
    x < ((y + x / y) / 2 + 1) * ((y + x / y) / 2 + 1) := by
  have below : x < y * (x / y + 1) := Nat.lt_mul_div_succ x positive
  have twice : y + (x / y + 1) ≤ 2 * ((y + x / y) / 2 + 1) := by omega
  have squares := Nat.mul_le_mul twice twice
  have means : 4 * (y * (x / y + 1)) ≤
      (y + (x / y + 1)) * (y + (x / y + 1)) := by
    rcases Nat.le_total y (x / y + 1) with le | le <;>
      obtain ⟨gap, equal⟩ := Nat.exists_eq_add_of_le le <;>
      nlinarith [Nat.zero_le (gap * gap)]
  nlinarith

/-- The iteration never falls below the square root. -/
theorem lt_descend_succ_mul_self
    {x y : Nat}
    (above : x < (y + 1) * (y + 1)) :
    x < (descend x y + 1) * (descend x y + 1) := by
  fun_induction descend x y with
  | case1 y next falls inductionHypothesis =>
      have positive : 0 < y := (Nat.zero_le next).trans_lt falls
      exact inductionHypothesis (lt_next_succ_mul_self positive)
  | case2 y next stays => exact above

/-- The start of the iteration is above the square root. -/
theorem lt_twoPow_succ_mul_self (x : Nat) :
    x < (twoPow ((bitLength x + 1) / 2) + 1) * (twoPow ((bitLength x + 1) / 2) + 1) := by
  have half : bitLength x ≤
      (bitLength x + 1) / 2 + (bitLength x + 1) / 2 := by omega
  calc
    x < 2 ^ bitLength x := lt_twoPow_bitLength x
    _ ≤ 2 ^ ((bitLength x + 1) / 2 + (bitLength x + 1) / 2) :=
      Nat.pow_le_pow_right (by omega) half
    _ = twoPow ((bitLength x + 1) / 2) * twoPow ((bitLength x + 1) / 2) :=
      Nat.pow_add 2 _ _
    _ ≤ _ := Nat.mul_le_mul (Nat.le_succ _) (Nat.le_succ _)

/-- The rounded root is the integer square root of the library. -/
theorem floorRoot_eq_sqrt (x : Nat) : floorRoot x = Nat.sqrt x := by
  by_cases zero : x = 0
  · simp [zero, floorRoot]
  · rw [floorRoot, if_neg zero, Nat.eq_sqrt]
    exact ⟨descend_mul_self_le x _, lt_descend_succ_mul_self (lt_twoPow_succ_mul_self x)⟩

theorem floorRoot_mul_self_le (x : Nat) : floorRoot x * floorRoot x ≤ x := by
  rw [floorRoot_eq_sqrt]
  exact Nat.sqrt_le x

theorem lt_floorRoot_succ_mul_self (x : Nat) :
    x < (floorRoot x + 1) * (floorRoot x + 1) := by
  rw [floorRoot_eq_sqrt]
  exact Nat.lt_succ_sqrt x

/-- The square of the root rounded up is at least the number. -/
theorem le_ceilRoot_mul_self (x : Nat) : x ≤ ceilRoot x * ceilRoot x := by
  simp only [ceilRoot]
  split
  · rename_i square
    exact square.ge
  · exact (lt_floorRoot_succ_mul_self x).le

/-- The root rounded up is the least number with a square of at least the number. -/
theorem isLeast_ceilRoot (x : Nat) : IsLeast {c | x ≤ c * c} (ceilRoot x) := by
  refine ⟨le_ceilRoot_mul_self x, fun c (large : x ≤ c * c) => ?_⟩
  have small := floorRoot_mul_self_le x
  simp only [ceilRoot]
  split
  · exact Nat.mul_self_le_mul_self_iff.mp (small.trans large)
  · rename_i unequal
    have below := lt_of_le_of_ne small unequal
    exact Nat.mul_self_lt_mul_self_iff.mp (below.trans_le large)

theorem exactRoot?_mul_self (root : Nat) :
    exactRoot? (root * root) = some root := by
  simp [exactRoot?, floorRoot_eq_sqrt, Nat.sqrt_eq]

/-- The exact root is the root of a perfect square, and there is no other. -/
theorem exactRoot?_eq_some_iff {x root : Nat} :
    exactRoot? x = some root ↔ root * root = x := by
  constructor
  · intro found
    simp only [exactRoot?] at found
    split at found
    · rename_i square
      simp only [Option.some.injEq] at found
      rw [← found, square]
    · contradiction
  · rintro rfl
    exact exactRoot?_mul_self root

end Integer
end FourFours
