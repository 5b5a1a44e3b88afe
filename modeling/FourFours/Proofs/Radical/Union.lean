import FourFours.Proofs.Radical.Degree

/-!
# Common towers in either order

The common tower of two values begins with the roots of the left one, so the two orders give
different towers. Both generate the same field, though: unless a sign stays undecided, either
order finds a common tower exactly if the degree of that field is within the limit, and then
with as few roots as the degree needs. Sums and products therefore exist in both orders or in
none.
-/

namespace FourFours
namespace Radical

variable {n m : Nat}

namespace Tower

/-- The representation invariant of towers: there are at most eight square roots, and the
radicand of each is in normal form over the roots before it, positive, and no square in the
field of those. -/
structure IsCanonical (tower : Tower n) : Prop where
  level_le : n ≤ 8
  radicands : ∀ i < n, ∃ (below : Tower i) (radicand : Element i) (origin : Option Nat),
    tower.restrict (i + 1) = some (below.adjoin radicand origin) ∧
      radicand.IsReduced ∧ 0 < radicand.real below.roots ∧
      ∀ number ∈ below.field, number * number ≠ radicand.real below.roots

theorem IsProper.toIsCanonical
    {tower : Tower n}
    (proper : tower.IsProper)
    (level_le : n ≤ radicalLimit) :
    tower.IsCanonical where
  level_le := level_le
  radicands _ within := proper.exists_radicand within

/-- Roots with the same origins and radicands make the same tower. -/
theorem eq_of_same {tower tower' : Tower n} (equal : tower.same tower' = true) :
    tower = tower' := by
  induction tower with
  | base =>
      cases tower'
      rfl
  | adjoin tower radicand origin inductionHypothesis =>
      cases tower' with
      | adjoin tower' radicand' origin' =>
          simp only [same, Bool.and_eq_true, beq_iff_eq] at equal
          obtain ⟨⟨⟨below, _⟩, rfl⟩, rfl⟩ := equal
          rw [inductionHypothesis below]

theorem restrict_of_isInitial
    {short : Tower m}
    {long : Tower n}
    (initial : short.isInitial long = true) :
    long.restrict m = some short := by
  unfold isInitial at initial
  split at initial
  · rename_i below restricted
    rw [restricted, eq_of_same initial]
  · contradiction

theorem le_of_restrict
    {tower : Tower n}
    {below : Tower m}
    (initial : tower.restrict m = some below) :
    m ≤ n := by
  refine restrict_induction (motive := fun {n} _ => m ≤ n) le_rfl ?_ initial
  intro n tower radicand origin _ inductionHypothesis
  exact Nat.le_succ_of_le inductionHypothesis

end Tower

namespace Value

variable {v w : Value}

/-- The extended tower of a value begins with its own roots. -/
theorem restrict_of_extend
    {tower : Tower m}
    {extension : Extension m}
    (extended : v.extend tower = .ok extension) :
    extension.tower.restrict v.level = some v.tower := by
  induction tower with
  | base =>
      rw [extend, Except.ok.injEq] at extended
      subst extended
      exact Tower.restrict_self _
  | adjoin tower radicand origin inductionHypothesis =>
      obtain ⟨below, extendedBelow, step⟩ := exists_below_of_extend extended
      have initial := inductionHypothesis extendedBelow
      rcases step with ⟨root, image, _, _, rfl⟩ | ⟨_, _, rfl⟩
      · exact initial
      · have shorter := Tower.le_of_restrict initial
        exact (Tower.restrict_adjoin _ _ _ (by omega)).trans initial

/-- The common tower of two values begins with the roots of the left one. -/
theorem restrict_of_unify {pair : Pair} (unified : unify v w = .ok pair) :
    pair.tower.restrict v.level = some v.tower := by
  rcases unify_cases unified with ⟨_, rfl⟩ | ⟨initial, rfl⟩ | ⟨extension, extended, rfl⟩
  · exact Tower.restrict_self _
  · exact Tower.restrict_of_isInitial initial
  · exact restrict_of_extend extended

theorem commonDegree_comm (v w : Value) : commonDegree v w = commonDegree w v := by
  rw [commonDegree, commonDegree, sup_comm]

/-- A sum is formed exactly if there is a common tower. -/
theorem exists_add_iff : (∃ u, v.add w = .ok u) ↔ ∃ pair, unify v w = .ok pair := by
  simp only [add, bind_eq_ok_iff, pure_eq_ok_iff]
  exact ⟨fun ⟨_, pair, unified, _⟩ => ⟨pair, unified⟩,
    fun ⟨pair, unified⟩ => ⟨_, pair, unified, rfl⟩⟩

/-- A product is formed exactly if there is a common tower. -/
theorem exists_mul_iff : (∃ u, v.mul w = .ok u) ↔ ∃ pair, unify v w = .ok pair := by
  simp only [mul, bind_eq_ok_iff, pure_eq_ok_iff]
  exact ⟨fun ⟨_, pair, unified, _⟩ => ⟨pair, unified⟩,
    fun ⟨pair, unified⟩ => ⟨_, pair, unified, rfl⟩⟩

/-- What the common tower of two normal values is: a tower of the field of both that begins
with the roots of the left one and has no root too many. -/
theorem IsNormal.common_of_unify
    (left : v.IsNormal)
    (right : w.IsNormal)
    {pair : Pair}
    (unified : unify v w = .ok pair) :
    pair.tower.IsCanonical ∧ pair.tower.restrict v.level = some v.tower ∧
      commonDegree v w = 2 ^ pair.level ∧
      pair.left.real pair.tower.roots = v.real ∧
      pair.right.real pair.tower.roots = w.real := by
  have represents :=
    represents_of_unify left.proper left.level_le right.proper right.level_le unified
  have degree :=
    commonDegree_of_unify left.proper left.level_le right.proper right.level_le unified
  exact ⟨represents.proper.toIsCanonical represents.level_le, restrict_of_unify unified,
    degree.1, represents.real_left, represents.real_right⟩

/-- Two reachable values are brought over a common tower exactly if the field of all their
square roots has a degree of at most `2 ^ 8`, unless a sign stays undecided on the way. The
common tower begins with the roots of the left value, has as many roots as the degree of the
field needs, and both values keep their real numbers over it. Sums and products exist in
both orders or in none. -/
theorem Reachable.unify_decides
    (left : v.Reachable)
    (right : w.Reachable)
    (decided : ∀ cause, unify v w ≠ .error (.internal cause))
    (decidedBack : ∀ cause, unify w v ≠ .error (.internal cause)) :
    ((∃ fault, unify v w = .error fault) ↔ 2 ^ 8 < commonDegree v w) ∧
      (∀ fault, unify v w = .error fault → fault = .inEvaluation .tooManyRadicals ∧
        fault.message = "too many distinct radicals") ∧
      (∀ pair, unify v w = .ok pair →
        pair.tower.IsCanonical ∧ pair.tower.restrict v.level = some v.tower ∧
          commonDegree v w = 2 ^ pair.level ∧
          pair.left.real pair.tower.roots = v.real ∧
          pair.right.real pair.tower.roots = w.real) ∧
      ∀ outcome ∈ [v.add w, w.add v, v.mul w, w.mul v],
        (∃ u, outcome = .ok u) ↔ commonDegree v w ≤ 2 ^ 8 := by
  have normal := left.isNormal
  have normalBack := right.isNormal
  have exists_iff := normal.exists_unify_iff normalBack fun exact => decided _
  have exists_iff_back := normalBack.exists_unify_iff normal fun exact => decidedBack _
  rw [commonDegree_comm w v] at exists_iff_back
  refine ⟨?_, fun fault failed => ?_, fun pair => normal.common_of_unify normalBack, ?_⟩
  · rw [← not_le, ← show radicalLimit = 8 from rfl, ← exists_iff]
    cases unify v w <;> simp
  · cases isLimit_of_unify failed with
    | tooManyRadicals => exact ⟨rfl, rfl⟩
    | undecidedSign exact => exact absurd failed (decided _)
  · simp only [List.forall_mem_cons]
    exact ⟨exists_add_iff.trans exists_iff, exists_add_iff.trans exists_iff_back,
      exists_mul_iff.trans exists_iff, exists_mul_iff.trans exists_iff_back, by simp⟩

/-- The square roots of two that two entries introduced are one root of the common tower. -/
theorem unify_sqrtTwo_ascribe :
    ∃ pair back, unify (sqrtTwo.ascribe 0) (sqrtTwo.ascribe 1) = .ok pair ∧
      unify (sqrtTwo.ascribe 1) (sqrtTwo.ascribe 0) = .ok back ∧
      pair.level = 1 ∧ pair.tower.IsCanonical ∧
      commonDegree (sqrtTwo.ascribe 0) (sqrtTwo.ascribe 1) = 2 := by
  have oneRoot : (unify (sqrtTwo.ascribe 0) (sqrtTwo.ascribe 1)).toOption.map Pair.level =
      some 1 := by decide +kernel
  have oneRootBack : (unify (sqrtTwo.ascribe 1) (sqrtTwo.ascribe 0)).toOption.map Pair.level =
      some 1 := by decide +kernel
  obtain ⟨pair, unified, level⟩ := exists_of_map_toOption oneRoot
  obtain ⟨back, unifiedBack, _⟩ := exists_of_map_toOption oneRootBack
  have decided := Reachable.unify_decides (reachable_sqrtTwo.ascribe 0)
    (reachable_sqrtTwo.ascribe 1) (by simp [unified]) (by simp [unifiedBack])
  obtain ⟨canonical, _, degree, _⟩ := decided.2.2.1 pair unified
  exact ⟨pair, back, unified, unifiedBack, level, canonical, by rw [degree, level, pow_one]⟩

end Value
end Radical
end FourFours
