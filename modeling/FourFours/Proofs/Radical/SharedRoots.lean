import FourFours.Proofs.Radical.Equality

/-!
# Values that share their square roots

A value and whatever is computed from it alone live over the first square roots of one tower.
If that tower is ascribed to an entry of a worksheet, its roots are recognised, so no root is
ever searched for: values multiply exactly as elements of the tower do, and are inverted as
elements are. Therefore a value times its inverse is the value 1, and the power by repeated
squaring is the product of as many factors, square roots and terms included.
-/

namespace FourFours
namespace Radical

variable {n m k : Nat}

namespace Tower

/-- Dropping unused roots leaves the first roots of a tower. -/
theorem restrict_trim (tower : Tower n) (x : Element n) :
    tower.restrict (Value.trim tower x).level = some (Value.trim tower x).tower := by
  induction tower with
  | base => exact restrict_self _
  | adjoin tower radicand origin inductionHypothesis =>
      cases x with
      | pair a b =>
          rw [Value.trim]
          by_cases flat : b.isZero = true
          · rw [if_pos flat]
            have initial := inductionHypothesis a
            have shorter := le_of_restrict initial
            rw [restrict_adjoin _ _ _ (by omega), initial]
          · rw [if_neg flat]
            exact restrict_self _

/-- The roots of a part of a tower are recognised if those of the tower are. -/
theorem same_of_restrict
    {tower : Tower n}
    {below : Tower m}
    (recognised : tower.same tower = true)
    (initial : tower.restrict m = some below) :
    below.same below = true := by
  revert recognised
  refine restrict_induction
    (motive := fun tower => tower.same tower = true → below.same below = true)
    (fun recognised => recognised) ?_ initial
  intro n tower radicand origin _ inductionHypothesis recognised
  simp only [same, Bool.and_eq_true] at recognised
  exact inductionHypothesis recognised.1.1.1

/-- Of two parts of a tower the shorter one is a part of the longer one. -/
theorem restrict_of_le
    {tower : Tower n}
    {long : Tower m}
    {short : Tower k}
    (initialLong : tower.restrict m = some long)
    (initialShort : tower.restrict k = some short)
    (shorter : k ≤ m) :
    long.restrict k = some short := by
  revert initialShort
  refine (restrict_induction
    (motive := fun {n} tower =>
      m ≤ n ∧ (tower.restrict k = some short → long.restrict k = some short))
    ⟨le_rfl, fun initial => initial⟩ ?_ initialLong).2
  intro n tower radicand origin _ inductionHypothesis
  obtain ⟨within, below⟩ := inductionHypothesis
  refine ⟨Nat.le_succ_of_le within, fun initial => below ?_⟩
  rwa [restrict_adjoin _ _ _ (by omega)] at initial

/-- Of two parts of a recognised tower the shorter one is recognised in the longer one. -/
theorem isInitial_of_le
    {tower : Tower n}
    {long : Tower m}
    {short : Tower k}
    (recognised : tower.same tower = true)
    (initialLong : tower.restrict m = some long)
    (initialShort : tower.restrict k = some short)
    (shorter : k ≤ m) :
    short.isInitial long = true := by
  rw [isInitial, restrict_of_le initialLong initialShort shorter]
  exact same_of_restrict recognised initialShort

/-- Over a proper tower elements whose numbers cancel have the product one. -/
theorem IsProper.mul_eq_one
    {tower : Tower n}
    (proper : tower.IsProper)
    {x y : Element n}
    (cancel : x.real tower.roots * y.real tower.roots = 1) :
    tower.mul x y = .one n := by
  rw [← proper.real_inj, real_mul proper.isReal, cancel, Element.real_one]

end Tower

namespace Value

/-- An element of a part of a tower makes the same value over the whole tower. -/
theorem trim_raise
    {tower : Tower n}
    {below : Tower m}
    (initial : tower.restrict m = some below)
    (x : Element m) :
    trim tower (x.raise n) = trim below x := by
  refine Tower.restrict_induction
    (motive := fun {n} tower => trim tower (x.raise n) = trim below x)
    (by rw [Element.raise_self]) ?_ initial
  intro n tower radicand origin shorter inductionHypothesis
  rw [Element.raise, dif_neg shorter, trim, if_pos (Element.isZero_iff.mpr rfl),
    inductionHypothesis]

/-- Elements with one real number, over a proper tower and over a part of it, make the same
value. -/
theorem trim_eq_trim
    {tower : Tower n}
    {below : Tower m}
    (proper : tower.IsProper)
    (initial : tower.restrict m = some below)
    {x : Element m}
    {y : Element n}
    (equal : x.real below.roots = y.real tower.roots) :
    trim below x = trim tower y := by
  rw [← trim_raise initial, proper.real_inj.mp ((Tower.real_raise initial x).trans equal)]

theorem trim_of_usesLast {x : Element n} (uses : x.usesLast = true) (tower : Tower n) :
    trim tower x = ⟨tower, x⟩ := by
  cases tower with
  | base => rfl
  | adjoin tower radicand origin =>
      cases x with
      | pair a b =>
          rw [trim, if_neg]
          simpa [Element.usesLast] using uses

/-- The one of a tower makes the value 1. -/
theorem trim_one (tower : Tower n) : trim tower (.one n) = one := by
  induction tower with
  | base => rfl
  | @adjoin n tower radicand origin inductionHypothesis =>
      have flat : (Element.zero n).isZero = true := Element.isZero_iff.mpr rfl
      exact (if_pos flat).trans inductionHypothesis

/-- The product `v v ⋯ v` of a number of equal factors, multiplied from the left. -/
def repeatedProduct (v : Value) : Nat → Except Fault Value
  | 0 => .ok one
  | 1 => .ok v
  | factors + 2 => do (← v.repeatedProduct (factors + 1)).mul v

section

variable {tower : Tower n}
  (proper : tower.IsProper)
  (level_le : n ≤ radicalLimit)

include proper level_le

/-- Over a recognised tower values multiply as their elements do. -/
theorem mul_trim
    (recognised : tower.same tower = true)
    (x y : Element n) :
    (trim tower x).mul (trim tower y) = .ok (trim tower (tower.mul x y)) := by
  obtain ⟨left, realLeft⟩ := isNormal_trim proper level_le x
  obtain ⟨right, realRight⟩ := isNormal_trim proper level_le y
  have initialLeft := tower.restrict_trim x
  have initialRight := tower.restrict_trim y
  obtain ⟨pair, unified, initial⟩ : ∃ pair, unify (trim tower x) (trim tower y) = .ok pair ∧
      tower.restrict pair.level = some pair.tower := by
    rw [unify]
    split
    · exact ⟨_, rfl, initialLeft⟩
    · rename_i longer
      rw [if_pos]
      · exact ⟨_, rfl, initialRight⟩
      · apply Tower.isInitial_of_le recognised initialRight initialLeft
        by_contra shorter
        exact longer (Tower.isInitial_of_le recognised initialLeft initialRight (by omega))
  have represents :=
    represents_of_unify left.proper left.level_le right.proper right.level_le unified
  have product : trim pair.tower (pair.tower.mul pair.left pair.right) =
      trim tower (tower.mul x y) := by
    apply trim_eq_trim proper initial
    rw [Tower.real_mul represents.proper.isReal, Tower.real_mul proper.isReal,
      represents.real_left, represents.real_right, realLeft, realRight]
  rw [mul, unified, ← product]
  rfl

/-- Over a proper tower values are inverted as their elements are. -/
theorem inverse_trim
    {x y : Element n}
    (inverse : tower.inverse? x = some y) :
    (trim tower x).inverse = .ok (trim tower y) := by
  obtain ⟨normal, real⟩ := isNormal_trim proper level_le x
  have cancel := Tower.real_mul_inverse? proper.isReal inverse
  have nonzero : (trim tower x).isZero = false := by
    rw [Bool.eq_false_iff, Ne, normal.isZero_iff, real]
    exact left_ne_zero_of_mul_eq_one cancel
  obtain ⟨z, found⟩ := normal.proper.exists_inverse? _ nonzero
  have cancelTrimmed := Tower.real_mul_inverse? normal.proper.isReal found
  rw [Value.inverse, nonzero, found]
  refine congrArg Except.ok (trim_eq_trim proper (tower.restrict_trim x) ?_)
  rw [eq_inv_of_mul_eq_one_right cancel, eq_inv_of_mul_eq_one_right cancelTrimmed]
  exact congrArg _ real

/-- Over a proper tower a value is raised to a positive power as its element is. -/
theorem pow_trim
    (x : Element n)
    {e : Int}
    (positive : 0 < e) :
    (trim tower x).pow e = .ok (trim tower (tower.pow x e.natAbs)) := by
  obtain ⟨normal, real⟩ := isNormal_trim proper level_le x
  rw [pow_of_ne_zero _ positive.ne', if_neg positive.not_gt]
  refine congrArg Except.ok (trim_eq_trim proper (tower.restrict_trim x) ?_)
  rw [Tower.real_pow normal.proper.isReal, Tower.real_pow proper.isReal]
  exact congrArg (· ^ e.natAbs) real

/-- Over a recognised tower equal factors make the power of their element. -/
theorem repeatedProduct_trim
    (recognised : tower.same tower = true)
    (x : Element n)
    (factors : Nat) :
    (trim tower x).repeatedProduct (factors + 1) =
      .ok (trim tower (tower.pow x (factors + 1))) := by
  induction factors with
  | zero =>
      have single : tower.pow x 1 = x := by
        rw [← proper.real_inj, Tower.real_pow proper.isReal, pow_one]
      rw [zero_add, repeatedProduct, single]
  | succ factors inductionHypothesis =>
      have more : tower.mul (tower.pow x (factors + 1)) x = tower.pow x (factors + 2) := by
        rw [← proper.real_inj, Tower.real_mul proper.isReal, Tower.real_pow proper.isReal,
          Tower.real_pow proper.isReal, ← pow_succ]
      rw [repeatedProduct, inductionHypothesis, ← more]
      exact mul_trim proper level_le recognised _ _

/-- Over a recognised tower the power of a value is the product of as many factors. -/
theorem pow_trim_eq_repeatedProduct
    (recognised : tower.same tower = true)
    (x : Element n)
    {e : Int}
    (positive : 0 < e) :
    ∃ u, (trim tower x).pow e = .ok u ∧ (trim tower x).repeatedProduct e.natAbs = .ok u := by
  refine ⟨_, pow_trim proper level_le x positive, ?_⟩
  obtain ⟨factors, count⟩ := Nat.exists_eq_add_one.mpr (Int.natAbs_pos.mpr positive.ne')
  rw [count]
  exact repeatedProduct_trim proper level_le recognised x factors

end

/-- A negative power is the power of the inverse. -/
theorem pow_of_neg
    {v w : Value}
    (inverted : v.inverse = .ok w)
    {e : Int}
    (negative : e < 0) :
    v.pow e = w.pow (-e) := by
  rw [pow_of_ne_zero v negative.ne, if_pos negative, inverted,
    pow_of_ne_zero w (by omega), if_neg (by omega), Int.natAbs_neg]
  rfl

variable {v : Value}

/-- An entry of a worksheet is made by its own element. -/
theorem IsNormal.ascribe_eq_trim (normal : v.IsNormal) (entry : Nat) :
    v.ascribe entry = trim (v.tower.ascribe entry) v.element :=
  (trim_of_usesLast normal.usesLast _).symm

/-- Every reachable value but zero has an inverse. Where both stand in a worksheet, the value
times its inverse is the value 1, without square roots and with the single term 1. -/
theorem Reachable.mul_inverse_eq_one
    (reachable : v.Reachable)
    (nonzero : v.isZero = false) :
    (∃ w, v.inverse = .ok w) ∧
      ∀ entry, ∃ w, (v.ascribe entry).inverse = .ok w ∧
        (v.ascribe entry).mul w = .ok Value.one ∧
        w.mul (v.ascribe entry) = .ok Value.one := by
  have normal := reachable.isNormal
  obtain ⟨x, inverse⟩ := normal.proper.exists_inverse? v.element nonzero
  refine ⟨⟨_, by rw [Value.inverse, nonzero, inverse]; rfl⟩, fun entry => ?_⟩
  have proper := normal.proper.ascribe entry
  have recognised := Tower.same_ascribe v.tower entry
  obtain ⟨y, inverseEntry⟩ := proper.exists_inverse? v.element nonzero
  have cancel := Tower.real_mul_inverse? proper.isReal inverseEntry
  rw [normal.ascribe_eq_trim]
  refine ⟨_, inverse_trim proper normal.level_le inverseEntry, ?_, ?_⟩
  · rw [mul_trim proper normal.level_le recognised, proper.mul_eq_one cancel, trim_one]
  · rw [mul_trim proper normal.level_le recognised,
      proper.mul_eq_one ((mul_comm _ _).trans cancel), trim_one]

/-- The square root of two times its inverse is 1. -/
theorem mul_inverse_sqrtTwo :
    sqrtTwo.Reachable ∧ sqrtTwo.isZero = false ∧
      ∃ w, (sqrtTwo.ascribe 0).inverse = .ok w ∧ (sqrtTwo.ascribe 0).mul w = .ok one := by
  have nonzero : sqrtTwo.isZero = false := by decide
  obtain ⟨w, inverted, product, _⟩ :=
    (Reachable.mul_inverse_eq_one reachable_sqrtTwo nonzero).2 0
  exact ⟨reachable_sqrtTwo, nonzero, w, inverted, product⟩

/-- The power of an entry of a worksheet with a positive exponent is the product of as many
factors, and that with a negative exponent is the product of as many inverses: they have the
same square roots and the same terms. -/
theorem Reachable.pow_eq_repeatedProduct
    (reachable : v.Reachable)
    (entry : Nat)
    (e : Int) :
    (0 < e → ∃ u, (v.ascribe entry).pow e = .ok u ∧
        (v.ascribe entry).repeatedProduct e.natAbs = .ok u) ∧
      (e < 0 → v.isZero = false → ∃ w u, (v.ascribe entry).inverse = .ok w ∧
        (v.ascribe entry).pow e = .ok u ∧ w.repeatedProduct e.natAbs = .ok u) := by
  have normal := reachable.isNormal
  have proper := normal.proper.ascribe entry
  have recognised := Tower.same_ascribe v.tower entry
  rw [normal.ascribe_eq_trim]
  constructor
  · exact pow_trim_eq_repeatedProduct proper normal.level_le recognised v.element
  · intro negative nonzero
    obtain ⟨x, inverse⟩ := proper.exists_inverse? v.element nonzero
    have inverted := inverse_trim proper normal.level_le inverse
    obtain ⟨u, power, product⟩ := pow_trim_eq_repeatedProduct proper normal.level_le recognised
      x (Int.neg_pos_of_neg negative)
    rw [Int.natAbs_neg] at product
    exact ⟨_, u, inverted, by rw [pow_of_neg inverted negative, power], product⟩

/-- The square root of two to the power of -2 is the product of two of its inverses. -/
theorem pow_sqrtTwo_neg_two :
    sqrtTwo.Reachable ∧ sqrtTwo.isZero = false ∧
      ∃ w u, (sqrtTwo.ascribe 0).inverse = .ok w ∧
        (sqrtTwo.ascribe 0).pow (-2) = .ok u ∧ w.repeatedProduct 2 = .ok u := by
  have nonzero : sqrtTwo.isZero = false := by decide
  exact ⟨reachable_sqrtTwo, nonzero,
    (Reachable.pow_eq_repeatedProduct reachable_sqrtTwo 0 (-2)).2 (by decide) nonzero⟩

end Value
end Radical
end FourFours
