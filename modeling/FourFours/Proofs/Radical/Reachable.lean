import FourFours.Proofs.Radical.Arithmetic
import FourFours.Proofs.Radical.Monomials
import FourFours.Worksheet

/-!
# Reachable values

The values that calculations reach from the rationals, in any order and with any sharing
of square roots, all satisfy the representation invariant: few and independent square
roots, terms in normal form, and no unused last root. Therefore the tests that look at the
terms alone decide whether the real number is zero, rational or an integer.
-/

namespace FourFours
namespace Radical

variable {n : Nat}

namespace Tower

@[simp] theorem roots_ascribe (tower : Tower n) (entry : Nat) :
    (tower.ascribe entry).roots = tower.roots := by
  induction tower with
  | base => rfl
  | adjoin tower radicand origin inductionHypothesis =>
      rw [ascribe, roots, roots, inductionHypothesis]

theorem IsProper.ascribe {tower : Tower n} (proper : tower.IsProper) (entry : Nat) :
    (tower.ascribe entry).IsProper := by
  induction tower with
  | base => trivial
  | adjoin tower radicand origin inductionHypothesis =>
      obtain ⟨properBelow, positive, notSquare⟩ := proper
      refine ⟨inductionHypothesis properBelow, ?_⟩
      rw [roots_ascribe]
      exact ⟨positive, notSquare⟩

/-- Square root `i` of a proper tower: its radicand is in normal form over the roots before
it, is positive, and is no square in the field that those generate. -/
theorem IsProper.exists_radicand
    {tower : Tower n}
    (proper : tower.IsProper)
    {i : Nat}
    (within : i < n) :
    ∃ (below : Tower i) (radicand : Element i) (origin : Option Nat),
      tower.restrict (i + 1) = some (below.adjoin radicand origin) ∧
        radicand.IsReduced ∧ 0 < radicand.real below.roots ∧
        ∀ number ∈ below.field, number * number ≠ radicand.real below.roots := by
  induction tower with
  | base => exact absurd within (Nat.not_lt_zero i)
  | @adjoin n tower radicand origin inductionHypothesis =>
      by_cases last : i = n
      · subst last
        refine ⟨tower, radicand, origin, restrict_self _, radicand.isReduced, proper.2.1, ?_⟩
        intro number member
        obtain ⟨x, rfl⟩ := proper.1.mem_field_iff.mp member
        exact proper.2.2 x
      · obtain ⟨below, radicand', origin', initial, independent⟩ :=
          inductionHypothesis proper.1 (by omega)
        refine ⟨below, radicand', origin', ?_, independent⟩
        rw [restrict_adjoin _ _ _ (by omega), initial]

end Tower

namespace Element

/-- An element that uses its last square root has a monomial with it. -/
theorem exists_monomial_of_usesLast
    {x : Element (n + 1)}
    (uses : x.usesLast = true) :
    ∃ monomial ∈ x.monomials, monomial.2.testBit n = true := by
  cases x with
  | pair a b =>
      have nonempty : b.monomials ≠ [] := by
        intro empty
        simp [usesLast, monomials_eq_nil_iff.mp empty] at uses
      obtain ⟨⟨q, mask⟩, member⟩ := List.exists_mem_of_ne_nil _ nonempty
      refine ⟨(q, mask + 2 ^ n), ?_, ?_⟩
      · rw [monomials_pair]
        exact List.mem_append_right _ (List.mem_map.mpr ⟨_, member, rfl⟩)
      · have mask_lt := b.isReduced.mask_lt _ member
        apply Nat.testBit_of_two_pow_le_and_two_pow_add_one_gt
        · exact Nat.le_add_left _ _
        · rw [Nat.pow_succ]
          simp only at mask_lt ⊢
          omega

end Element

namespace Value

/-- The representation invariant of values. -/
structure IsCanonical (v : Value) : Prop where
  /-- A value has at most eight square roots. -/
  level_le : v.level ≤ 8
  /-- The radicand of each square root is in normal form over the roots before it, and it
  is a positive number that is no square in the field of those. -/
  radicands : ∀ i < v.level,
    ∃ (below : Tower i) (radicand : Element i) (origin : Option Nat),
      v.tower.restrict (i + 1) = some (below.adjoin radicand origin) ∧
        radicand.IsReduced ∧ 0 < radicand.real below.roots ∧
        ∀ number ∈ below.field, number * number ≠ radicand.real below.roots
  /-- The terms of a value are in normal form over its square roots. -/
  reduced : v.element.IsReduced
  /-- The last square root occurs in the terms. -/
  last_occurs : ∀ i, v.level = i + 1 →
    ∃ monomial ∈ v.element.monomials, monomial.2.testBit i = true

theorem IsNormal.toIsCanonical {v : Value} (normal : v.IsNormal) : v.IsCanonical where
  level_le := normal.level_le
  radicands _ within := normal.proper.exists_radicand within
  reduced := v.element.isReduced
  last_occurs := by
    obtain ⟨proper, level_le, usesLast⟩ := normal
    intro i level_eq
    obtain ⟨tower, x⟩ := v
    subst level_eq
    exact Element.exists_monomial_of_usesLast usesLast

/-- The values that calculations reach. A result may be ascribed to an entry of a
worksheet, so that later calculations recognise its square roots. -/
inductive Reachable : Value → Prop
  | zero : Reachable .zero
  | one : Reachable .one
  | ofInt (k : Int) : Reachable (.ofInt k)
  | ofRat (q : Rat) : Reachable (.ofRat q)
  | sqrtRat {u : Value} (q : Rat) : Value.sqrtRat q = .ok u → Reachable u
  | neg {v : Value} : Reachable v → Reachable v.neg
  | add {v w u : Value} : Reachable v → Reachable w → v.add w = .ok u → Reachable u
  | sub {v w u : Value} : Reachable v → Reachable w → v.sub w = .ok u → Reachable u
  | mul {v w u : Value} : Reachable v → Reachable w → v.mul w = .ok u → Reachable u
  | scale {v : Value} (q : Rat) : Reachable v → Reachable (v.scale q)
  | inverse {v u : Value} : Reachable v → v.inverse = .ok u → Reachable u
  | div {v w u : Value} : Reachable v → Reachable w → v.div w = .ok u → Reachable u
  | pow {v u : Value} (e : Int) : Reachable v → v.pow e = .ok u → Reachable u
  | sqrt {v u : Value} : Reachable v → v.sqrt = .ok u → Reachable u
  | ascribe {v : Value} (entry : Nat) : Reachable v → Reachable (v.ascribe entry)

/-- Every reachable value is normal: each operation keeps it so. -/
theorem Reachable.isNormal {v : Value} (reachable : v.Reachable) : v.IsNormal := by
  induction reachable with
  | zero => exact isNormal_ofRat 0
  | one => exact isNormal_ofRat 1
  | ofInt k => exact isNormal_ofRat k
  | ofRat q => exact isNormal_ofRat q
  | sqrtRat q rooted => exact ((isNormal_ofRat q).sqrt rooted).1
  | neg _ normal => exact normal.neg.1
  | add _ _ sum left right => exact (left.add right sum).1
  | sub _ _ difference left right => exact (left.sub right difference).1
  | mul _ _ product left right => exact (left.mul right product).1
  | scale q _ normal => exact (normal.scale q).1
  | inverse _ inverted normal => exact (normal.inverse inverted).1
  | div _ _ quotient left right => exact (left.div right quotient).1
  | pow e _ power normal => exact (normal.pow power).1
  | sqrt _ rooted normal => exact (normal.sqrt rooted).1
  | ascribe entry _ normal =>
      exact ⟨normal.proper.ascribe entry, normal.level_le, normal.usesLast⟩

/-- Every reachable value satisfies the representation invariant. -/
theorem Reachable.isCanonical {v : Value} (reachable : v.Reachable) : v.IsCanonical :=
  reachable.isNormal.toIsCanonical

theorem reachable_sqrtTwo : sqrtTwo.Reachable :=
  .sqrtRat 2 sqrtRat_two

theorem isCanonical_sqrtTwo : sqrtTwo.Reachable ∧ sqrtTwo.IsCanonical :=
  ⟨reachable_sqrtTwo, Reachable.isCanonical reachable_sqrtTwo⟩

theorem IsNormal.rational?_eq_some_iff {v : Value} (normal : v.IsNormal) {q : Rat} :
    v.rational? = some q ↔ v.real = q := by
  rw [rational?, Element.rational?_eq_some_iff, ← normal.proper.real_inj,
    Element.real_const, real]

/-- An irrational number is no integer at any scale. -/
theorem IsNormal.fractional
    {v : Value}
    (normal : v.IsNormal)
    (irrational : v.rational? = none)
    (digits : Nat)
    (z : Int) :
    v.real * 10 ^ digits ≠ z := by
  intro whole
  have quotient : v.real = ((z / 10 ^ digits : Rat) : ℝ) := by
    push_cast
    rw [← whole]
    field_simp
  rw [← normal.rational?_eq_some_iff, irrational] at quotient
  contradiction

theorem IsNormal.integer?_eq_some_iff {v : Value} (normal : v.IsNormal) {k : Int} :
    v.integer? = some k ↔ v.real = k := by
  refine ⟨real_of_integer?, fun equal => ?_⟩
  have rational : v.rational? = some (k : Rat) := by
    rw [normal.rational?_eq_some_iff, equal, Rat.cast_intCast]
  simp [integer?, rational]

/-- What the terms of a reachable value say about zero, rationality, integrality and
equality is true of its real number. -/
theorem Reachable.terms_decide {v : Value} (reachable : v.Reachable) :
    (v.isZero = true ↔ v.real = 0) ∧
      (v.rational?.isSome = true ↔ ∃ q : Rat, v.real = q) ∧
      (∀ q : Rat, v.rational? = some q ↔ v.real = q) ∧
      (∀ k : Int, v.integer? = some k ↔ v.real = k) ∧
      ∀ x : Element v.level, Reachable ⟨v.tower, x⟩ →
        (v.element.monomials = x.monomials ↔ v.real = real ⟨v.tower, x⟩) := by
  have normal := reachable.isNormal
  refine ⟨normal.isZero_iff, ?_, fun q => normal.rational?_eq_some_iff,
    fun k => normal.integer?_eq_some_iff, ?_⟩
  · simp only [Option.isSome_iff_exists, normal.rational?_eq_some_iff]
  · intro x _
    rw [Element.monomials_inj, ← normal.proper.real_inj, real, real]

/-- The terms of the square root of two show that it is irrational. -/
theorem irrational_sqrtTwo :
    sqrtTwo.Reachable ∧ sqrtTwo.rational? = none ∧ ¬∃ q : Rat, sqrtTwo.real = q := by
  have decided := (Reachable.terms_decide reachable_sqrtTwo).2.1
  refine ⟨reachable_sqrtTwo, rfl, ?_⟩
  rw [← decided]
  simp [sqrtTwo, rational?, Element.rational?, Element.isZero]

end Value
end Radical

namespace Worksheet

open Radical (Value)

/-- Every entry of a worksheet is a reachable value. -/
def IsReachable (sheet : Worksheet) : Prop :=
  ∀ v ∈ sheet.entries, v.Reachable

theorem isReachable_blank : blank.IsReachable := by
  simp [IsReachable, blank]

/-- Reading a worksheet, also at a missing entry, gives a reachable value. -/
theorem IsReachable.value
    {sheet : Worksheet}
    (reachable : sheet.IsReachable)
    (entry : Nat) :
    (sheet.value entry).Reachable := by
  rw [Worksheet.value, Array.getD_eq_getD_getElem?]
  cases found : sheet.entries[entry]? with
  | none => exact .zero
  | some v => exact reachable v (Array.mem_of_getElem? found)

/-- Recording a reachable result, or a failure, keeps a worksheet reachable. -/
theorem IsReachable.record
    {sheet : Worksheet}
    (reachable : sheet.IsReachable)
    {result : Except Fault Value}
    (reachableResult : ∀ v, result = .ok v → v.Reachable) :
    (sheet.record result).1.IsReachable := by
  intro v member
  cases result with
  | error fault =>
      rcases Array.mem_push.mp member with earlier | rfl
      · exact reachable v earlier
      · exact .zero
  | ok w =>
      rcases Array.mem_push.mp member with earlier | rfl
      · exact reachable v earlier
      · exact .ascribe _ (reachableResult w rfl)

end Worksheet
end FourFours
