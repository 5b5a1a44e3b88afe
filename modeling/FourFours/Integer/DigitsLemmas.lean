import FourFours.Integer.Digits
import Mathlib.Algebra.Order.Ring.Nat

/-!
# The digits of a number are the usual ones

Cutting a number in halves gives the same digits as dividing it by ten, so the text of an
integer is its usual one: `digits_eq_toDigits` and `text_eq_toString`. A scale has the unit
that its decimals ask for as long as it can count them.
-/

namespace FourFours
namespace Integer

theorem tenPow_eq (k : Nat) : tenPow k = 10 ^ k := rfl

theorem twoPow_eq (k : Nat) : twoPow k = 2 ^ k := rfl

theorem keptDecimals_of_lt {decimals : Nat} (fits : decimals < 2 ^ 32) :
    keptDecimals decimals = decimals :=
  Nat.mod_eq_of_lt fits

theorem scaleUnit_of_lt {decimals : Nat} (fits : decimals < 2 ^ 32) :
    scaleUnit decimals = 10 ^ decimals :=
  congrArg tenPow (keptDecimals_of_lt fits)

/-- The last `m` digits of a number, one by one. -/
def lastDigits : Nat → Nat → List Char
  | 0, _ => []
  | m + 1, n => lastDigits m (n / 10) ++ [Nat.digitChar (n % 10)]

theorem lastDigits_add (a b n : Nat) :
    lastDigits (a + b) n = lastDigits a (n / 10 ^ b) ++ lastDigits b n := by
  induction b generalizing n with
  | zero => simp [lastDigits]
  | succ b ih =>
      rw [← Nat.add_assoc, lastDigits, ih, lastDigits, Nat.div_div_eq_div_mul,
        Nat.pow_succ, Nat.mul_comm (10 ^ b) 10, List.append_assoc]

theorem lastDigits_mod (m n : Nat) :
    lastDigits m (n % 10 ^ m) = lastDigits m n := by
  induction m generalizing n with
  | zero => simp [lastDigits]
  | succ m ih =>
      have quotient : n % 10 ^ (m + 1) / 10 = n / 10 % 10 ^ m := by
        rw [Nat.pow_succ, Nat.mul_comm, Nat.mod_mul_right_div_self]
      have remainder : n % 10 ^ (m + 1) % 10 = n % 10 :=
        Nat.mod_mod_of_dvd n (by rw [Nat.pow_succ]; exact Nat.dvd_mul_left ..)
      rw [lastDigits, lastDigits, quotient, remainder, ih]

theorem digitBlock_eq_lastDigits (k n : Nat) :
    digitBlock k n = lastDigits (2 ^ k) n := by
  induction k generalizing n with
  | zero => simp [digitBlock, lastDigits]
  | succ k ih =>
      simp only [digitBlock, tenPow_eq, twoPow_eq]
      rw [ih, ih, lastDigits_mod, Nat.pow_succ, Nat.mul_two, lastDigits_add]

/-- The digits of a number are those of its leading part and its last digits. -/
theorem toDigits_eq_append_lastDigits {m n : Nat} (large : 10 ^ m ≤ n) :
    Nat.toDigits 10 n = Nat.toDigits 10 (n / 10 ^ m) ++ lastDigits m n := by
  induction m generalizing n with
  | zero => simp [lastDigits]
  | succ m ih =>
      have ten : 10 ≤ n := Nat.le_trans (Nat.le_self_pow (by omega) 10) large
      have smaller : 10 ^ m ≤ n / 10 := by
        rw [Nat.le_div_iff_mul_le (by omega), ← Nat.pow_succ]
        exact large
      rw [Nat.toDigits_of_base_le (by omega) ten, ih smaller, lastDigits,
        Nat.div_div_eq_div_mul, Nat.pow_succ, Nat.mul_comm 10, List.append_assoc]

theorem digitsBelow_succ (k n : Nat) :
    digitsBelow (k + 1) n =
      if n < 10 ^ 2 ^ k then digitsBelow k n
      else digitsBelow k (n / 10 ^ 2 ^ k) ++ digitBlock k (n % 10 ^ 2 ^ k) := rfl

theorem digitsBelow_eq_toDigits {k n : Nat} (below : n < 10 ^ 2 ^ k) :
    digitsBelow k n = Nat.toDigits 10 n := by
  induction k generalizing n with
  | zero =>
      have : n < 10 := by simpa using below
      rw [digitsBelow, Nat.toDigits_of_lt_base this, Nat.mod_eq_of_lt this]
  | succ k ih =>
      by_cases small : n < 10 ^ 2 ^ k
      · rw [digitsBelow_succ, if_pos small, ih small]
      · rw [digitsBelow_succ, if_neg small]
        have leading : n / 10 ^ 2 ^ k < 10 ^ 2 ^ k := by
          rw [Nat.div_lt_iff_lt_mul (Nat.pow_pos (by omega)), ← Nat.pow_add, ← Nat.mul_two,
            ← Nat.pow_succ]
          exact below
        rw [ih leading, digitBlock_eq_lastDigits, lastDigits_mod,
          ← toDigits_eq_append_lastDigits (Nat.le_of_not_lt small)]

/-- The digits are those that division by ten gives. -/
theorem digits_eq_toDigits (n : Nat) : digits n = Nat.toDigits 10 n := by
  apply digitsBelow_eq_toDigits
  calc
    n < 2 ^ (n.log2 + 1) := Nat.lt_log2_self
    _ ≤ 2 ^ 2 ^ (n.log2.log2 + 1) := Nat.pow_le_pow_right (by omega) Nat.lt_log2_self
    _ ≤ 10 ^ 2 ^ (n.log2.log2 + 1) := Nat.pow_le_pow_left (by omega) _

/-- The text of an integer is its usual one. -/
theorem text_eq_toString (n : Int) : text n = toString n := by
  rw [text, Int.toString_eq_repr, Int.repr_eq_if]
  split
  · rename_i negative
    rw [if_neg (by omega), digits_eq_toDigits, Nat.repr_eq_ofList_toDigits,
      show n.natAbs = (-n).toNat by omega, String.ofList_cons]
    rfl
  · rename_i nonnegative
    rw [if_pos (by omega), digits_eq_toDigits, Nat.repr_eq_ofList_toDigits,
      show n.natAbs = n.toNat by omega]

end Integer
end FourFours
