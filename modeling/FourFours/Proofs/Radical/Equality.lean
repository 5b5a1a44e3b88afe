import FourFours.Proofs.Radical.Union

/-!
# Equality of values

Two values are equal when their difference can be formed and is zero. Equal values denote
the same real number. Values with the same real number are equal unless the square roots of
both together need a field beyond the limit, or a sign stays undecided on the way there: then
the difference cannot be formed, and the values count as different.
-/

namespace FourFours
namespace Radical

variable {n : Nat}

namespace Value

variable {v w u : Value}

theorem equals_eq_true_iff :
    v.equals w = true ↔ ∃ difference, v.sub w = .ok difference ∧ difference.isZero = true := by
  unfold equals
  split
  · rename_i difference formed
    simp [formed]
  · rename_i fault failed
    simp [failed]

/-- Where the difference can be formed, it is zero exactly if the real numbers are equal. -/
theorem IsNormal.equals_iff_of_sub
    (left : v.IsNormal)
    (right : w.IsNormal)
    (formed : v.sub w = .ok u) :
    v.equals w = true ↔ v.real = w.real := by
  obtain ⟨normal, real⟩ := left.sub right formed
  rw [equals_eq_true_iff]
  simp [formed, normal.isZero_iff, real, sub_eq_zero]

/-- Equal values denote the same real number. -/
theorem IsNormal.real_eq_of_equals
    (left : v.IsNormal)
    (right : w.IsNormal)
    (equal : v.equals w = true) :
    v.real = w.real := by
  obtain ⟨difference, formed, _⟩ := equals_eq_true_iff.mp equal
  exact (left.equals_iff_of_sub right formed).mp equal

/-- Unless a sign stays undecided, a difference can be formed exactly if the square roots of
both values together stay within the limit. -/
theorem IsNormal.exists_sub_iff
    (left : v.IsNormal)
    (right : w.IsNormal)
    (decided : ∀ exact, v.sub w ≠ .error (.internal (.undecidedSign exact))) :
    (∃ u, v.sub w = .ok u) ↔ commonDegree v w ≤ 2 ^ radicalLimit := by
  have opposite := right.neg.1
  refine exists_add_iff.trans (left.exists_unify_iff opposite fun exact failed => ?_)
  exact decided exact (by rw [Value.sub, Value.add, failed]; rfl)

end Value

namespace Tower

/-- Roots that are ascribed to an entry are recognised again. -/
theorem same_ascribe (tower : Tower n) (entry : Nat) :
    (tower.ascribe entry).same (tower.ascribe entry) = true := by
  induction tower with
  | base => rfl
  | adjoin tower radicand origin inductionHypothesis =>
      cases origin <;> simp [ascribe, same, inductionHypothesis]

end Tower

namespace Value

variable {v w : Value}

/-- Values over the same roots have a difference over their own tower. -/
theorem exists_sub_of_isInitial (initial : w.tower.isInitial v.tower = true) :
    ∃ u, v.sub w = .ok u := by
  have unified : unify v w.neg = .ok ⟨v.tower, v.element, w.neg.element.raise v.level⟩ :=
    if_pos initial
  exact ⟨_, by rw [sub, add, unified]; rfl⟩

theorem isInitial_ascribe (v : Value) (entry : Nat) :
    (v.ascribe entry).tower.isInitial (v.ascribe entry).tower = true := by
  rw [Tower.isInitial, Tower.restrict_self]
  exact Tower.same_ascribe v.tower entry

/-- Equality is that of the real numbers wherever the difference of two values can be
formed: they are equal only if their real numbers are; unless a sign stays undecided, they
are equal exactly if moreover their square roots together stay within the limit; and every
entry of a worksheet equals itself. -/
theorem Reachable.equals_decides
    (left : v.Reachable)
    (right : w.Reachable) :
    (v.equals w = true → v.real = w.real) ∧
      ((∀ exact, v.sub w ≠ .error (.internal (.undecidedSign exact))) →
        (v.equals w = true ↔ v.real = w.real ∧ commonDegree v w ≤ 2 ^ radicalLimit)) ∧
      ∀ entry, (v.ascribe entry).equals (v.ascribe entry) = true := by
  have normal := left.isNormal
  refine ⟨normal.real_eq_of_equals right.isNormal, fun decided => ?_, fun entry => ?_⟩
  · rw [← normal.exists_sub_iff right.isNormal decided]
    constructor
    · intro equal
      obtain ⟨difference, formed, _⟩ := equals_eq_true_iff.mp equal
      exact ⟨normal.real_eq_of_equals right.isNormal equal, difference, formed⟩
    · rintro ⟨same, difference, formed⟩
      exact (normal.equals_iff_of_sub right.isNormal formed).mpr same
  · have entryNormal := (left.ascribe entry).isNormal
    obtain ⟨difference, formed⟩ := exists_sub_of_isInitial (isInitial_ascribe v entry)
    exact (entryNormal.equals_iff_of_sub entryNormal formed).mpr rfl

/-- The square root of two in one entry equals that in another. -/
theorem equals_sqrtTwo_ascribe :
    (sqrtTwo.ascribe 0).Reachable ∧ (sqrtTwo.ascribe 1).Reachable ∧
      (sqrtTwo.ascribe 0).equals (sqrtTwo.ascribe 1) = true ∧
      (sqrtTwo.ascribe 0).real = (sqrtTwo.ascribe 1).real ∧
      commonDegree (sqrtTwo.ascribe 0) (sqrtTwo.ascribe 1) ≤ 2 ^ radicalLimit := by
  have left := reachable_sqrtTwo.ascribe 0
  have right := reachable_sqrtTwo.ascribe 1
  have equal : (sqrtTwo.ascribe 0).equals (sqrtTwo.ascribe 1) = true := by decide +kernel
  obtain ⟨difference, formed, _⟩ := equals_eq_true_iff.mp equal
  have decided := (Reachable.equals_decides left right).2.1 (by simp [formed])
  exact ⟨left, right, equal, decided.mp equal⟩

end Value
end Radical

namespace Worksheet

open Radical

/-- A number under some nested square roots. -/
def nestedRoot (v : Value) : Nat → Except Fault Value
  | 0 => .ok v
  | depth + 1 => nestedRoot v depth >>= Value.sqrt

theorem reachable_nestedRoot
    {v u : Value}
    (reachable : v.Reachable)
    (depth : Nat)
    (rooted : nestedRoot v depth = .ok u) :
    u.Reachable := by
  induction depth generalizing u with
  | zero => exact Except.ok.inj rooted ▸ reachable
  | succ depth inductionHypothesis =>
      obtain ⟨w, below, root⟩ := bind_eq_ok_iff.mp rooted
      exact .sqrt (inductionHypothesis below) root

/-- A worksheet on which the square root of three stands three times: on its own in entry
1, behind four nested roots of two in entry 3, and behind four nested roots of five in
entry 6. -/
def threefoldRoot : Worksheet :=
  let sheet := (blank.record (nestedRoot (.ofRat 2) 4)).1
  let sheet := (sheet.record (Value.sqrtRat 3)).1
  let sheet := (sheet.record ((sheet.value 0).add (sheet.value 1))).1
  let sheet := (sheet.record ((sheet.value 2).sub (sheet.value 0))).1
  let sheet := (sheet.record (nestedRoot (.ofRat 5) 4)).1
  let sheet := (sheet.record ((sheet.value 4).add (sheet.value 1))).1
  (sheet.record ((sheet.value 5).sub (sheet.value 4))).1

theorem isReachable_threefoldRoot : threefoldRoot.IsReachable := by
  have two := isReachable_blank.record fun _ => reachable_nestedRoot (.ofRat 2) 4
  have three := two.record fun _ => Value.Reachable.sqrtRat 3
  have sum := three.record fun _ => .add (three.value 0) (three.value 1)
  have behindTwo := sum.record fun _ => .sub (sum.value 2) (sum.value 0)
  have five := behindTwo.record fun _ => reachable_nestedRoot (.ofRat 5) 4
  have sum' := five.record fun _ => .add (five.value 4) (five.value 1)
  exact sum'.record fun _ => .sub (sum'.value 5) (sum'.value 4)

/-- Equality is not transitive: the first and the last of three entries for one number count
as different, because nine square roots are needed to compare them. -/
theorem equals_not_transitive :
    (threefoldRoot.value 3).Reachable ∧ (threefoldRoot.value 1).Reachable ∧
      (threefoldRoot.value 6).Reachable ∧
      (threefoldRoot.value 3).real = (threefoldRoot.value 6).real ∧
      (threefoldRoot.value 3).equals (threefoldRoot.value 1) = true ∧
      (threefoldRoot.value 1).equals (threefoldRoot.value 6) = true ∧
      (threefoldRoot.value 3).equals (threefoldRoot.value 6) = false := by
  have first := (isReachable_threefoldRoot.value 3).isNormal
  have second := (isReachable_threefoldRoot.value 1).isNormal
  have third := (isReachable_threefoldRoot.value 6).isNormal
  have compared : (threefoldRoot.value 3).equals (threefoldRoot.value 1) = true ∧
      (threefoldRoot.value 1).equals (threefoldRoot.value 6) = true ∧
      (threefoldRoot.value 3).equals (threefoldRoot.value 6) = false := by decide +kernel
  have same := (first.real_eq_of_equals second compared.1).trans
    (second.real_eq_of_equals third compared.2.1)
  exact ⟨isReachable_threefoldRoot.value 3, isReachable_threefoldRoot.value 1,
    isReachable_threefoldRoot.value 6, same, compared⟩

end Worksheet
end FourFours
