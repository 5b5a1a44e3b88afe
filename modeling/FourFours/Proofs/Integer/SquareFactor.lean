import FourFours.Integer.SquareFactor
import FourFours.Proofs.Integer.Root

/-!
# A split has the value of the number it splits

Trial division only moves factors between a split and what is left of the number, so
the product of both is the same after every divisor. Hence `splitSquare m` writes `m` as
`root * root * rest`, whatever the divisors have found, and the cofactor of a perfect square
is 1.
-/

namespace FourFours
namespace Integer

/-- Dividing out a factor loses nothing. -/
theorem pow_mul_divideOut (p m : Nat) :
    p ^ (divideOut p m).1 * (divideOut p m).2 = m := by
  fun_induction divideOut p m with
  | case1 m divides count cofactor equal inductionHypothesis =>
      rw [equal] at inductionHypothesis
      have whole : p * (m / p) = m :=
        Nat.mul_div_cancel' (Nat.dvd_of_mod_eq_zero divides.2.2)
      calc
        p ^ (count + 1) * cofactor = p * (p ^ count * cofactor) := by ring
        _ = m := by rw [inductionHypothesis, whole]
  | case2 m stuck => simp

/-- Nothing but zero has the cofactor zero. -/
theorem divideOut_pos {p m : Nat} (positive : 0 < m) : 0 < (divideOut p m).2 := by
  refine Nat.pos_of_ne_zero fun zero => ?_
  have value := pow_mul_divideOut p m
  rw [zero, Nat.mul_zero] at value
  omega

/-- Dividing out a factor leaves a cofactor without it. -/
theorem not_dvd_divideOut {p m : Nat} (factor : 1 < p) (positive : 0 < m) :
    ¬p ∣ (divideOut p m).2 := by
  fun_induction divideOut p m with
  | case1 m divides count cofactor equal inductionHypothesis =>
      rw [equal] at inductionHypothesis
      have whole : p * (m / p) = m :=
        Nat.mul_div_cancel' (Nat.dvd_of_mod_eq_zero divides.2.2)
      exact inductionHypothesis (Nat.pos_of_ne_zero (by rintro zero; simp [zero] at whole; omega))
  | case2 m stuck =>
      intro dvd
      exact stuck ⟨factor, positive, Nat.mod_eq_zero_of_dvd dvd⟩

/-- A split of a positive number has a positive root and a positive cofactor. -/
theorem SquareSplit.pos_of_value {split : SquareSplit} (positive : 0 < split.value) :
    0 < split.root ∧ 0 < split.rest := by
  rw [SquareSplit.value] at positive
  constructor
  · exact Nat.pos_of_mul_pos_left (Nat.pos_of_mul_pos_right positive)
  · exact Nat.pos_of_mul_pos_left positive

/-- A prime power moves into a split as a square and at most one further factor. -/
theorem value_moved_power (split : SquareSplit) (p count cofactor : Nat) :
    SquareSplit.value
        ⟨split.root * Nat.pow p (count / 2), split.rest * Nat.pow p (count % 2)⟩ *
        cofactor =
      split.value * (p ^ count * cofactor) := by
  have exponent : p ^ count = p ^ (count / 2) * p ^ (count / 2) * p ^ (count % 2) := by
    rw [← Nat.pow_add, ← Nat.pow_add]
    congr 1
    omega
  simp only [SquareSplit.value, exponent, Nat.pow_eq]
  ring

/-- Trial division keeps the product of the split and what is left. -/
theorem sift_value (divisors : List Nat) (split : SquareSplit) (m : Nat) :
    (sift divisors split m).1.value * (sift divisors split m).2 = split.value * m := by
  induction divisors generalizing split m with
  | nil => rfl
  | cons p divisors inductionHypothesis =>
      rw [sift]
      split
      · rfl
      · rw [inductionHypothesis, value_moved_power, pow_mul_divideOut]

theorem absorb_value (split : SquareSplit) (m : Nat) :
    (absorb split m).value = split.value * m := by
  unfold absorb
  split
  · rename_i root square
    rw [← exactRoot?_eq_some_iff.mp square, SquareSplit.value, SquareSplit.value]
    ring
  · rw [SquareSplit.value, SquareSplit.value]
    ring

/-- The cofactor at the end is a part of what it was and of what trial division has left. -/
theorem absorb_rest_dvd (split : SquareSplit) (m : Nat) :
    (absorb split m).rest ∣ split.rest * m := by
  unfold absorb
  split
  · exact Nat.dvd_mul_right _ _
  · exact Nat.dvd_refl _

/-- A number is the value of its split. -/
theorem splitSquare_value (m : Nat) : (splitSquare m).value = m := by
  unfold splitSquare
  split
  · rename_i root square
    rw [← exactRoot?_eq_some_iff.mp square, SquareSplit.value, Nat.mul_one]
  · rw [absorb_value, sift_value, SquareSplit.value]
    ring

/-- The cofactor of a perfect square is 1. -/
theorem splitSquare_mul_self (root : Nat) : splitSquare (root * root) = ⟨root, 1⟩ := by
  simp [splitSquare, exactRoot?_mul_self]

end Integer
end FourFours
