import FourFours.Expr.Parser

/-!
# Paths through trees

A path leads from the root of a tree to one of its leaves. Its levels are the signs, the
factorials and the exponents that it leads through. A tariff says how much of what is
counted on a path one level of nesting can bring: a single sign, or, where the level is a
bracket, the factorials of the chain behind it. Besides these there are the few steps
through sums, products and the like that reach the next operand. The budget of a tariff adds
all this up over the levels.
-/

namespace FourFours
namespace Expr

/-- A step on a path through a tree, from a node to one of its operands. -/
inductive Step
  | unary (op : Unary)
  | operand (op : Nary) (position : Nat)
  deriving DecidableEq, Repr

namespace Step

/-- Whether a step leads below a sign `S` or `R`, or into an exponent. -/
def isSign : Step → Bool
  | unary op => op == .triangular || op == .root
  | operand op position => op == .power && position != 0

/-- Whether a step is a level of a tree: it leads below a sign or a factorial, or into an
exponent. -/
def isLevel (step : Step) : Bool :=
  step.isSign || step == unary .factorial

end Step

/-- The paths from the root of a tree to its leaves. -/
inductive HasPath : Expr → List Step → Prop
  | integer (n : Int) : HasPath (.integer n) []
  | decimal (d : Decimal) : HasPath (.decimal d) []
  | unary (op : Unary) {x : Expr} {path : List Step} :
      HasPath x path → HasPath (.unary op x) (.unary op :: path)
  | node (op : Nary) {xs : List Expr} {position : Nat} {x : Expr} {path : List Step} :
      xs[position]? = some x → HasPath x path →
        HasPath (.node op xs) (.operand op position :: path)

/-- No path of a tree has more counted steps than a bound. -/
def Fits (counted : Step → Bool) (bound : Nat) (x : Expr) : Prop :=
  ∀ path, x.HasPath path → path.countP counted ≤ bound

/-- What counted steps may come to: a step that is no level counts at most `flat`, and one
that is counts at most what the last of the levels left gains. -/
structure Tariff (counted : Step → Bool) where
  flat : Nat
  gain : Nat → Nat
  flat_le : ∀ step, step.isLevel = false → (counted step).toNat ≤ flat
  level_le : ∀ step left, step.isLevel = true → (counted step).toNat ≤ gain (left + 1)

namespace Tariff

variable {counted : Step → Bool}

/-- What the counted steps of an operand may come to when a number of levels is left. A
level deeper may stand a whole sum: up to five steps that are no levels lead to the next
operand, through a sum, a negation, a quotient, a product and a power. -/
def budget (tariff : Tariff counted) : Nat → Nat
  | 0 => 0
  | left + 1 => tariff.budget left + 5 * tariff.flat + tariff.gain (left + 1)

/-- What a level gains pays for every chain of factorials that stands behind a bracket. The
bracket takes one level, and the chain as many of the levels left as it likes. -/
def Covers (tariff : Tariff counted) (tokens : List Token) : Prop :=
  ∀ levels count, count ≤ levels → .closing :: .replicate count .factorial <:+: tokens →
    count * (counted (.unary .factorial)).toNat ≤ tariff.gain levels

theorem Covers.suffix {tariff : Tariff counted} {tokens rest : List Token}
    (covers : tariff.Covers tokens) (left : rest <:+ tokens) :
    tariff.Covers rest :=
  fun levels count within stands => covers levels count within (stands.trans left.isInfix)

/-- A chain that no bracket stands in front of pays for its factorials with the levels that
it takes. -/
theorem chain_le_budget (tariff : Tariff counted) {levels count : Nat} (within : count ≤ levels) :
    count * (counted (.unary .factorial)).toNat ≤ tariff.budget levels := by
  induction levels generalizing count with
  | zero => simp [Nat.le_zero.mp within]
  | succ left inductionHypothesis =>
      cases count with
      | zero => simp
      | succ count =>
          have shorter := inductionHypothesis (Nat.le_of_succ_le_succ within)
          have last := tariff.level_le (.unary .factorial) left rfl
          rw [budget, Nat.succ_mul]
          omega

/-- What a sign or a negation in front of an operand counts. -/
theorem unary_le (tariff : Tariff counted) (op : Unary) (left : Nat) :
    (counted (.unary op)).toNat ≤ 5 * tariff.flat + tariff.gain (left + 1) := by
  cases level : (Step.unary op).isLevel with
  | true => exact Nat.le_trans (tariff.level_le _ left level) (Nat.le_add_left _ _)
  | false =>
      have le := tariff.flat_le _ level
      omega

/-- The signs and exponents alone. -/
def signs : Tariff Step.isSign where
  flat := 0
  gain _ := 1
  flat_le step free := by
    have unsigned : step.isSign = false := (Bool.or_eq_false_iff.mp free).1
    exact Nat.le_of_eq (congrArg Bool.toNat unsigned)
  level_le step _ _ := Bool.toNat_le step.isSign

/-- All levels, where a chain behind a bracket has only so many factorials. -/
def shortChains (most : Nat) (positive : 0 < most) : Tariff Step.isLevel where
  flat := 0
  gain _ := most
  flat_le _ free := Nat.le_of_eq (congrArg Bool.toNat free)
  level_le step _ _ := Nat.le_trans (Bool.toNat_le step.isLevel) positive

/-- All levels. -/
def levels : Tariff Step.isLevel where
  flat := 0
  gain left := left
  flat_le _ free := Nat.le_of_eq (congrArg Bool.toNat free)
  level_le step _ _ := Nat.le_trans (Bool.toNat_le step.isLevel) (Nat.le_add_left 1 _)

/-- All steps. -/
def steps : Tariff fun _ => true where
  flat := 1
  gain left := left
  flat_le _ _ := Nat.le_refl 1
  level_le _ _ _ := Nat.le_add_left 1 _

theorem covers_signs (tokens : List Token) : signs.Covers tokens :=
  fun _ _ _ _ => Nat.zero_le 1

theorem covers_levels (tokens : List Token) : levels.Covers tokens := by
  intro levels count within _
  exact Nat.le_trans (Nat.le_of_eq (Nat.mul_one count)) within

theorem covers_steps (tokens : List Token) : steps.Covers tokens := by
  intro levels count within _
  exact Nat.le_trans (Nat.le_of_eq (Nat.mul_one count)) within

theorem covers_shortChains {tokens : List Token} {most : Nat} (positive : 0 < most)
    (short : ¬.closing :: .replicate (most + 1) .factorial <:+: tokens) :
    (shortChains most positive).Covers tokens := by
  intro levels count _ stands
  refine Nat.le_trans (Nat.le_of_eq (Nat.mul_one count)) (Nat.le_of_not_lt fun longer => short ?_)
  obtain ⟨more, rfl⟩ : ∃ more, count = most + 1 + more := Nat.exists_eq_add_of_le longer
  have begins : Token.closing :: .replicate (most + 1) .factorial <+:
      .closing :: .replicate (most + 1 + more) .factorial :=
    ⟨.replicate more .factorial, by rw [List.cons_append, List.replicate_append_replicate]⟩
  exact begins.isInfix.trans stands

theorem budget_signs (left : Nat) : signs.budget left = left := by
  induction left with
  | zero => rfl
  | succ left inductionHypothesis => rw [budget, inductionHypothesis]; rfl

theorem budget_shortChains {most : Nat} (positive : 0 < most) (left : Nat) :
    (shortChains most positive).budget left = left * most := by
  induction left with
  | zero => exact (Nat.zero_mul most).symm
  | succ left inductionHypothesis =>
      have gained : (shortChains most positive).budget (left + 1) =
          (shortChains most positive).budget left + most := rfl
      rw [gained, inductionHypothesis, Nat.succ_mul]

theorem two_mul_budget_levels (left : Nat) : 2 * levels.budget left = left * (left + 1) := by
  induction left with
  | zero => rfl
  | succ left inductionHypothesis =>
      have gained : levels.budget (left + 1) = levels.budget left + (left + 1) := rfl
      rw [gained, Nat.mul_add, inductionHypothesis, ← Nat.add_mul, Nat.mul_comm]

theorem budget_steps (left : Nat) : steps.budget left = levels.budget left + 5 * left := by
  induction left with
  | zero => rfl
  | succ left inductionHypothesis =>
      have gained : levels.budget (left + 1) = levels.budget left + (left + 1) := rfl
      have gained' : steps.budget (left + 1) = steps.budget left + 5 + (left + 1) := rfl
      omega

end Tariff

section Trees

variable {counted : Step → Bool} {bound bound' : Nat} {x first : Expr} {xs : List Expr}

theorem countP_step (step : Step) (path : List Step) :
    (step :: path).countP counted = path.countP counted + (counted step).toNat := by
  rw [List.countP_cons]
  cases counted step <;> rfl

theorem Fits.mono (fits : x.Fits counted bound) (le : bound ≤ bound') : x.Fits counted bound' :=
  fun path leads => Nat.le_trans (fits path leads) le

theorem fits_integer (n : Int) : (integer n).Fits counted bound := by
  rintro path ⟨⟩
  exact Nat.zero_le _

theorem fits_decimal (d : Decimal) : (decimal d).Fits counted bound := by
  rintro path ⟨⟩
  exact Nat.zero_le _

/-- An operation on one operand adds a step to every path. -/
theorem Fits.unary (op : Unary) (fits : x.Fits counted bound) :
    (Expr.unary op x).Fits counted (bound + (counted (.unary op)).toNat) := by
  intro path leads
  cases leads with
  | unary _ leads =>
      rw [countP_step]
      exact Nat.add_le_add_right (fits _ leads) _

/-- An operation on a list of operands adds a step to the paths of each operand. -/
theorem fits_node
    {op : Nary}
    (fits : ∀ position x, xs[position]? = some x →
      ∃ inner, x.Fits counted inner ∧
        inner + (counted (.operand op position)).toNat ≤ bound) :
    (node op xs).Fits counted bound := by
  intro path leads
  cases leads with
  | @node _ _ position x _ found leads =>
      obtain ⟨inner, within, le⟩ := fits position x found
      rw [countP_step]
      exact Nat.le_trans (Nat.add_le_add_right (within _ leads) _) le

variable (tariff : Tariff counted)

/-- The operands of a sum, a product or a quotient are no levels. -/
theorem fits_chain
    {op : Nary}
    (noPower : op ≠ .power)
    (fits : ∀ x ∈ xs, x.Fits counted bound) :
    (node op xs).Fits counted (bound + tariff.flat) := by
  refine fits_node fun position x found => ⟨bound, fits x (List.mem_of_getElem? found), ?_⟩
  have free : (Step.operand op position).isLevel = false := by
    simp [Step.isLevel, Step.isSign, noPower]
  exact Nat.add_le_add_left (tariff.flat_le _ free) _

theorem fits_product (fits : ∀ x ∈ first :: xs, x.Fits counted bound) :
    (product (first :: xs)).Fits counted (bound + tariff.flat) := by
  cases xs with
  | nil => exact (fits first List.mem_cons_self).mono (Nat.le_add_right _ _)
  | cons second rest => exact fits_chain tariff nofun fits

theorem fits_sum (fits : ∀ x ∈ first :: xs, x.Fits counted bound) :
    (sum (first :: xs)).Fits counted (bound + tariff.flat) := by
  cases xs with
  | nil => exact (fits first List.mem_cons_self).mono (Nat.le_add_right _ _)
  | cons second rest => exact fits_chain tariff nofun fits

/-- A chain of factors adds a quotient and a product. -/
theorem fits_ofFactors
    {links : List (Token × Expr)}
    (fits : first.Fits counted bound)
    (linksFit : ∀ link ∈ links, link.2.Fits counted bound) :
    (ofFactors first links).Fits counted (bound + 2 * tariff.flat) := by
  have selected (select : Token × Expr → Bool) :
      ∀ x ∈ (links.filter select).map Prod.snd, x.Fits counted bound :=
    List.forall_mem_map.mpr fun link member => linksFit link (List.mem_filter.mp member).1
  have numerator := fits_product tariff
    (List.forall_mem_cons.mpr ⟨fits, selected (·.1 != .divide)⟩)
  unfold ofFactors
  dsimp only
  split
  · exact numerator.mono (by omega)
  · rename_i divided
    obtain ⟨divisor, divisors, equal⟩ := List.exists_cons_of_ne_nil
      (fun none => divided (List.isEmpty_iff.mpr none))
    have denominator := selected (·.1 == .divide)
    rw [equal, List.map_cons] at denominator
    rw [equal, List.map_cons, Nat.two_mul, ← Nat.add_assoc]
    refine fits_chain tariff nofun ?_
    simp only [List.forall_mem_cons]
    exact ⟨numerator, fits_product tariff denominator, by simp⟩

/-- A chain of terms adds a sum and the negations of the subtracted terms. -/
theorem fits_ofTerms
    {links : List (Token × Expr)}
    (fits : first.Fits counted bound)
    (linksFit : ∀ link ∈ links, link.2.Fits counted bound) :
    (ofTerms first links).Fits counted (bound + 2 * tariff.flat) := by
  rw [Nat.two_mul, ← Nat.add_assoc]
  apply fits_sum tariff
  rw [List.forall_mem_cons]
  refine ⟨fits.mono (Nat.le_add_right _ _), List.forall_mem_map.mpr ?_⟩
  rintro ⟨operator, x⟩ member
  have within := linksFit _ member
  dsimp only
  split
  · exact (within.unary .negate).mono (Nat.add_le_add_left (tariff.flat_le _ rfl) _)
  · exact within.mono (Nat.le_add_right _ _)

end Trees

end Expr
end FourFours
