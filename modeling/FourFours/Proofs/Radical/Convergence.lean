import FourFours.Proofs.Radical.Reachable
import FourFours.Proofs.Radical.Truncation
import Mathlib.Analysis.Normed.Group.Continuity
import Mathlib.Analysis.Normed.Group.Real
import Mathlib.Analysis.SpecificLimits.Basic

/-!
# Enclosures converge

As the scale grows, both bounds of an enclosure approach the real number that they
enclose: every operation rounds by less than one unit, and sums, products and square
roots are continuous. So from some scale on an enclosure shows the sign of a number that
is not zero, and with enough guard digits it settles the integer part of one that is no
integer. A schedule that reaches that scale therefore gives an answer.
-/

namespace FourFours
namespace Radical

open Filter Topology

variable {n : Nat}

/-- Integers that approach a real number as the scale at which they count units grows. -/
def Approaches (bound : Nat → Int) (x : ℝ) : Prop :=
  Tendsto (fun p => (bound p : ℝ) / Integer.tenPow p) atTop (𝓝 x)

theorem tendsto_inv_tenPow :
    Tendsto (fun p => ((Integer.tenPow p : Nat) : ℝ)⁻¹) atTop (𝓝 0) := by
  have powers := tendsto_pow_atTop_nhds_zero_of_lt_one (r := (10 : ℝ)⁻¹) (by norm_num)
    (by norm_num)
  refine powers.congr fun p => ?_
  rw [Integer.tenPow_eq, inv_pow]
  push_cast
  rfl

/-- Rounding by at most one unit does not change the limit. -/
theorem approaches_of_rounded
    {bound : Nat → Int}
    {number : Nat → ℝ}
    {x : ℝ}
    (rounded : ∀ p, |(bound p : ℝ) - number p| ≤ 1)
    (limit : Tendsto (fun p => number p / Integer.tenPow p) atTop (𝓝 x)) :
    Approaches bound x := by
  have error : Tendsto (fun p => ((bound p : ℝ) - number p) / Integer.tenPow p) atTop (𝓝 0) := by
    refine squeeze_zero_norm (fun p => ?_) tendsto_inv_tenPow
    have unit := tenPow_pos p
    rw [Real.norm_eq_abs, abs_div, abs_of_pos unit, inv_eq_one_div]
    exact div_le_div_of_nonneg_right (rounded p) unit.le
  have sum := limit.add error
  rw [add_zero] at sum
  refine sum.congr fun p => ?_
  rw [← add_div, add_sub_cancel]

theorem floorDiv_rounded (a : Int) {b : Int} (positive : 0 < b) :
    |((a / b : Int) : ℝ) - a / b| ≤ 1 := by
  have divisor : (0 : ℝ) < b := by exact_mod_cast positive
  have below : ((a / b : Int) : ℝ) ≤ a / b :=
    floorDiv_le positive (div_mul_cancel₀ _ divisor.ne').ge
  have above : (a : ℝ) / b ≤ (a / b : Int) + 1 := by
    rw [div_le_iff₀ divisor]
    exact_mod_cast (Int.lt_ediv_add_one_mul_self a positive).le
  rw [abs_le]
  constructor <;> linarith

theorem ceilDiv_rounded (a : Int) {b : Int} (positive : 0 < b) :
    |((Enclosure.ceilDiv a b : Int) : ℝ) - a / b| ≤ 1 := by
  have opposite := floorDiv_rounded (-a) positive
  rw [abs_sub_comm] at opposite
  rw [Enclosure.ceilDiv]
  push_cast at opposite ⊢
  rwa [neg_div, sub_eq_add_neg, add_comm, ← sub_eq_add_neg, sub_eq_add_neg (-_)] at opposite

/-- Guard digits shift the scale. -/
theorem Approaches.shift {bound : Nat → Int} {x : ℝ} (limit : Approaches bound x) (digits : Nat) :
    Tendsto (fun guardDigits => (bound (digits + guardDigits) : ℝ) / Integer.tenPow guardDigits)
      atTop (𝓝 (x * 10 ^ digits)) := by
  have later : Tendsto (fun guardDigits => digits + guardDigits) atTop atTop := by
    simpa only [Nat.add_comm digits] using tendsto_add_atTop_nat digits
  refine ((limit.comp later).mul_const (10 ^ digits)).congr fun guardDigits => ?_
  have power : ((Integer.tenPow (digits + guardDigits) : Nat) : ℝ) =
      10 ^ digits * Integer.tenPow guardDigits := by
    rw [Integer.tenPow_eq, Integer.tenPow_eq]
    push_cast
    rw [pow_add]
  rw [Function.comp_apply, power, div_mul_eq_mul_div, mul_comm,
    mul_div_mul_left _ _ (by positivity)]

/-- An integer quotient, from the bounds of the exact one. -/
theorem ediv_eq_of_bounds
    {a b m : Int}
    (positive : 0 < b)
    (low : (m : ℝ) < a / b)
    (high : (a : ℝ) / b < m + 1) :
    a / b = m := by
  have divisor : (0 : ℝ) < b := by exact_mod_cast positive
  rw [lt_div_iff₀ divisor] at low
  rw [div_lt_iff₀ divisor] at high
  apply le_antisymm
  · apply Int.lt_add_one_iff.mp
    exact Int.ediv_lt_of_lt_mul positive (by exact_mod_cast high)
  · exact Int.le_ediv_of_mul_le positive (by exact_mod_cast low.le)

theorem floorRoot_rounded (m : Nat) : |(Integer.floorRoot m : ℝ) - √m| ≤ 1 := by
  rw [Integer.floorRoot_eq_sqrt, abs_le]
  have below := Real.nat_sqrt_le_real_sqrt (a := m)
  have above := Real.real_sqrt_le_nat_sqrt_succ (a := m)
  constructor <;> linarith

theorem ceilRoot_rounded (m : Nat) : |(Integer.ceilRoot m : ℝ) - √m| ≤ 1 := by
  have rounded := floorRoot_rounded m
  simp only [Integer.ceilRoot]
  split
  · exact rounded
  · rw [Integer.floorRoot_eq_sqrt, abs_le]
    have below := Real.nat_sqrt_le_real_sqrt (a := m)
    have above := Real.real_sqrt_le_nat_sqrt_succ (a := m)
    push_cast
    constructor <;> linarith

/-! ## Operations on enclosures -/

namespace Enclosure

/-- Both bounds of a sequence of enclosures, one for each scale, approach a number. -/
structure Converges (e : Nat → Enclosure) (x : ℝ) : Prop where
  low : Approaches (fun p => (e p).low) x
  high : Approaches (fun p => (e p).high) x

theorem converges_one : Converges one 1 := by
  have constant : Approaches (fun p => (Integer.tenPow p : Nat)) 1 := by
    refine tendsto_const_nhds.congr fun p => ?_
    exact (div_self (tenPow_pos p).ne').symm
  exact ⟨constant, constant⟩

theorem converges_add
    {e f : Nat → Enclosure}
    {x y : ℝ}
    (left : Converges e x)
    (right : Converges f y) :
    Converges (fun p => (e p).add (f p)) (x + y) := by
  have sum {a b : Nat → Int} (limitLeft : Approaches a x) (limitRight : Approaches b y) :
      Approaches (fun p => a p + b p) (x + y) := by
    refine (Tendsto.add limitLeft limitRight).congr fun p => ?_
    push_cast
    rw [add_div]
  exact ⟨sum left.low right.low, sum left.high right.high⟩

theorem converges_mul
    {e f : Nat → Enclosure}
    {x y : ℝ}
    (left : Converges e x)
    (right : Converges f y) :
    Converges (fun p => (e p).mul p (f p)) (x * y) := by
  have product {a b : Nat → Int} (limitLeft : Approaches a x) (limitRight : Approaches b y) :
      Tendsto (fun p => ((a p * b p : Int) : ℝ) / (Integer.tenPow p : Int) / Integer.tenPow p)
        atTop (𝓝 (x * y)) := by
    refine (Tendsto.mul limitLeft limitRight).congr fun p => ?_
    push_cast
    rw [div_mul_div_comm, div_div]
  have unit (p : Nat) : (0 : Int) < Integer.tenPow p := by exact_mod_cast tenPow_pos p
  exact ⟨approaches_of_rounded (fun p => floorDiv_rounded _ (unit p))
      (product left.low right.low),
    approaches_of_rounded (fun p => ceilDiv_rounded _ (unit p))
      (product left.high right.high)⟩

theorem converges_scale
    {e : Nat → Enclosure}
    {x : ℝ}
    (converges : Converges e x)
    (q : Rat) :
    Converges (fun p => (e p).scale q) (q * x) := by
  have product {a : Nat → Int} (limit : Approaches a x) :
      Tendsto (fun p => ((q.num * a p : Int) : ℝ) / (q.den : Int) / Integer.tenPow p)
        atTop (𝓝 (q * x)) := by
    refine (Tendsto.const_mul (q : ℝ) limit).congr fun p => ?_
    rw [Rat.cast_def]
    push_cast
    rw [div_mul_div_comm, div_div]
  have denominator : (0 : Int) < q.den := by exact_mod_cast q.den_pos
  unfold scale
  split
  · exact ⟨approaches_of_rounded (fun p => floorDiv_rounded _ denominator)
        (product converges.high),
      approaches_of_rounded (fun p => ceilDiv_rounded _ denominator) (product converges.low)⟩
  · exact ⟨approaches_of_rounded (fun p => floorDiv_rounded _ denominator)
        (product converges.low),
      approaches_of_rounded (fun p => ceilDiv_rounded _ denominator) (product converges.high)⟩

/-- The square root of a bound, rounded to its scale. A negative bound counts as 0. -/
theorem sqrt_bound (a : Int) (p : Nat) :
    √((a.toNat * Integer.tenPow p : Nat) : ℝ) / Integer.tenPow p = √(a / Integer.tenPow p) := by
  have unit := tenPow_pos p
  rcases le_or_gt a 0 with nonpositive | positive
  · have quotient : (a : ℝ) / Integer.tenPow p ≤ 0 :=
      div_nonpos_of_nonpos_of_nonneg (by exact_mod_cast nonpositive) unit.le
    rw [Int.toNat_of_nonpos nonpositive, Real.sqrt_eq_zero_of_nonpos quotient]
    simp
  · have bound : ((a.toNat : Nat) : ℝ) = a := by
      exact_mod_cast Int.toNat_of_nonneg positive.le
    have rescaled : (a : ℝ) / Integer.tenPow p =
        a * Integer.tenPow p / (Integer.tenPow p * Integer.tenPow p) :=
      (mul_div_mul_right _ _ unit.ne').symm
    push_cast
    rw [bound, rescaled, Real.sqrt_div' _ (mul_self_nonneg _), Real.sqrt_mul_self unit.le]

theorem converges_sqrt
    {e : Nat → Enclosure}
    {x : ℝ}
    (converges : Converges e x) :
    Converges (fun p => (e p).sqrt p) √x := by
  have root {a : Nat → Int} (limit : Approaches a x) :
      Tendsto (fun p => √(((a p).toNat * Integer.tenPow p : Nat) : ℝ) / Integer.tenPow p)
        atTop (𝓝 √x) :=
    limit.sqrt.congr fun p => (sqrt_bound (a p) p).symm
  exact ⟨approaches_of_rounded (fun p => floorRoot_rounded _) (root converges.low),
    approaches_of_rounded (fun p => ceilRoot_rounded _) (root converges.high)⟩

/-- Both bounds of an enclosure have a given integer part, some guard digits in front. -/
def Settles (e : Enclosure) (guardDigits : Nat) (z : Int) : Prop :=
  e.low / Integer.tenPow guardDigits = z ∧ e.high / Integer.tenPow guardDigits = z

/-- Enclosures of the factors of a product, one sequence for each factor. -/
theorem converges_foldl_mul
    {factors : List (Nat → Enclosure)}
    {roots : List ℝ}
    (converge : List.Forall₂ Converges factors roots)
    {e : Nat → Enclosure}
    {x : ℝ}
    (start : Converges e x) :
    Converges (fun p => (factors.map (· p)).foldl (mul p) (e p)) (x * roots.prod) := by
  induction converge generalizing e x with
  | nil => simpa using start
  | cons head tail inductionHypothesis =>
      simp only [List.map_cons, List.foldl_cons, List.prod_cons, ← mul_assoc]
      exact inductionHypothesis (converges_mul start head)

/-- Two terms with the same coefficient, the roots of the one approached by the other. -/
def ConvergesTerm (term : Rat × List (Nat → Enclosure)) (real : Rat × List ℝ) : Prop :=
  term.1 = real.1 ∧ List.Forall₂ Converges term.2 real.2

theorem converges_ofTerm
    {term : Rat × List (Nat → Enclosure)}
    {real : Rat × List ℝ}
    (converges : ConvergesTerm term real) :
    Converges (fun p => ofTerm p term.1 (term.2.map (· p))) (real.1 * real.2.prod) := by
  obtain ⟨coefficient, factors⟩ := converges
  have product := converges_foldl_mul factors converges_one
  rw [one_mul] at product
  rw [← coefficient]
  exact converges_scale product term.1

/-- The terms at one scale. -/
def termsAt (p : Nat) (terms : List (Rat × List (Nat → Enclosure))) :
    List (Rat × List Enclosure) :=
  terms.map fun (q, roots) => (q, roots.map (· p))

theorem converges_foldl_add
    {terms : List (Rat × List (Nat → Enclosure))}
    {reals : List (Rat × List ℝ)}
    (converge : List.Forall₂ ConvergesTerm terms reals)
    {e : Nat → Enclosure}
    {x : ℝ}
    (start : Converges e x) :
    Converges
      (fun p => ((termsAt p terms).map fun (q, roots) => ofTerm p q roots).foldl add (e p))
      (x + sumOfTerms reals) := by
  induction converge generalizing e x with
  | nil => simpa [termsAt, sumOfTerms] using start
  | cons head tail inductionHypothesis =>
      have sum := inductionHypothesis (converges_add start (converges_ofTerm head))
      simpa [termsAt, sumOfTerms, add_assoc] using sum

/-- The enclosures of a sum of terms converge to the sum. -/
theorem converges_ofTerms
    {terms : List (Rat × List (Nat → Enclosure))}
    {reals : List (Rat × List ℝ)}
    (converge : List.Forall₂ ConvergesTerm terms reals) :
    Converges (fun p => ofTerms p (termsAt p terms)) (sumOfTerms reals) := by
  have start : Converges (fun _ => ⟨0, 0⟩) 0 := by
    have constant : Approaches (fun _ => 0) 0 := by simp [Approaches]
    exact ⟨constant, constant⟩
  have sum := converges_foldl_add converge start
  rwa [zero_add] at sum

end Enclosure

/-- The terms of an element over changed data of the square roots. -/
theorem Element.terms_map
    {α β : Type}
    (f : α → β)
    (x : Element n)
    (family : Family α n) :
    x.terms (family.map f) = (x.terms family).map fun (q, roots) => (q, roots.map f) := by
  induction x with
  | rational q => by_cases zero : q = 0 <;> simp [terms, zero]
  | pair a b constantHypothesis slopeHypothesis =>
      cases family with
      | snoc family last =>
          simp [terms, Family.map, constantHypothesis, slopeHypothesis, Function.comp_def]

namespace Tower

/-- The enclosures of the square roots of a tower, one sequence for each root. -/
def rootSequences : {n : Nat} → Tower n → Family (Nat → Enclosure) n
  | _, .base => .nil
  | _, .adjoin tower radicand _ =>
      .snoc tower.rootSequences fun p =>
        (Enclosure.ofTerms p (Enclosure.termsAt p (radicand.terms tower.rootSequences))).sqrt p

/-- The sequences at one scale are the enclosures at that scale. -/
theorem rootSequences_map (tower : Tower n) (p : Nat) :
    tower.rootSequences.map (· p) = tower.rootEnclosures p := by
  induction tower with
  | base => rfl
  | adjoin tower radicand origin inductionHypothesis =>
      simp only [rootSequences, Family.map, rootEnclosures, Enclosure.termsAt,
        ← Element.terms_map, inductionHypothesis]

theorem enclosure_eq (tower : Tower n) (x : Element n) (p : Nat) :
    tower.enclosure p x =
      Enclosure.ofTerms p (Enclosure.termsAt p (x.terms tower.rootSequences)) := by
  rw [enclosure, ← rootSequences_map, Element.terms_map]
  rfl

/-- The enclosures of every square root of a tower converge to it. -/
theorem rootSequences_converge (tower : Tower n) :
    tower.rootSequences.Forall₂ Enclosure.Converges tower.roots := by
  induction tower with
  | base => trivial
  | adjoin tower radicand origin inductionHypothesis =>
      refine ⟨inductionHypothesis, Enclosure.converges_sqrt ?_⟩
      exact Enclosure.converges_ofTerms (radicand.terms_forall₂ inductionHypothesis)

/-- The enclosures of an element converge to its real number. -/
theorem enclosure_converges (tower : Tower n) (x : Element n) :
    Enclosure.Converges (fun p => tower.enclosure p x) (x.real tower.roots) := by
  simp only [enclosure_eq]
  exact Enclosure.converges_ofTerms (x.terms_forall₂ tower.rootSequences_converge)

/-! ## Signs and integer parts -/

/-- From some scale on, an enclosure shows the sign of a number that is not zero. -/
theorem eventually_sign?
    (tower : Tower n)
    {x : Element n}
    (nonzero : x.real tower.roots ≠ 0) :
    ∀ᶠ p in atTop, (tower.enclosure p x).sign? = some (cmp (x.real tower.roots) 0) := by
  obtain ⟨low, high⟩ := tower.enclosure_converges x
  rcases nonzero.lt_or_gt with negative | positive
  · filter_upwards [high.eventually_lt_const negative] with p below
    have unit := tenPow_pos p
    have highNegative : (tower.enclosure p x).high < 0 := by
      have product := (div_lt_iff₀ unit).mp below
      rw [zero_mul] at product
      exact_mod_cast product
    have lowNegative : ¬0 < (tower.enclosure p x).low := by
      obtain ⟨lowLe, leHigh⟩ := tower.enclosure_contains p x
      have ordered : (tower.enclosure p x).low ≤ (tower.enclosure p x).high := by
        exact_mod_cast lowLe.trans leHigh
      omega
    rw [Enclosure.sign?, if_neg lowNegative, if_pos highNegative,
      (cmp_eq_lt_iff _ _).mpr negative]
  · filter_upwards [low.eventually_const_lt positive] with p above
    have lowPositive : 0 < (tower.enclosure p x).low := by
      have product := (lt_div_iff₀ (tenPow_pos p)).mp above
      rw [zero_mul] at product
      exact_mod_cast product
    rw [Enclosure.sign?, if_pos lowPositive, (cmp_eq_gt_iff _ _).mpr positive]

/-- With enough guard digits, both bounds of an enclosure have the integer part of a number
that is no integer at the scale of its digits. -/
theorem eventually_settles
    (tower : Tower n)
    {x : Element n}
    (digits : Nat)
    (fractional : ∀ z : Int, x.real tower.roots * 10 ^ digits ≠ z) :
    ∀ᶠ guardDigits in atTop, (tower.enclosure (digits + guardDigits) x).Settles guardDigits
      ⌊x.real tower.roots * 10 ^ digits⌋ := by
  obtain ⟨low, high⟩ := tower.enclosure_converges x
  have floorLt : (⌊x.real tower.roots * 10 ^ digits⌋ : ℝ) < x.real tower.roots * 10 ^ digits :=
    (Int.floor_le _).lt_of_ne (fractional _).symm
  have ltFloor := Int.lt_floor_add_one (x.real tower.roots * 10 ^ digits)
  filter_upwards [(low.shift digits).eventually_const_lt floorLt,
    (low.shift digits).eventually_lt_const ltFloor,
    (high.shift digits).eventually_const_lt floorLt,
    (high.shift digits).eventually_lt_const ltFloor]
    with guardDigits lowAbove lowBelow highAbove highBelow
  have unit : (0 : Int) < Integer.tenPow guardDigits := by
    exact_mod_cast tenPow_pos guardDigits
  exact ⟨ediv_eq_of_bounds unit lowAbove lowBelow, ediv_eq_of_bounds unit highAbove highBelow⟩

/-- An enclosure that settles the integer part gives a truncated reading. -/
theorem truncation?_of_settles
    {tower : Tower n}
    {x : Element n}
    {digits guardDigits : Nat}
    {z : Int}
    (fits : digits + guardDigits < 2 ^ 32)
    (settles : (tower.enclosure (digits + guardDigits) x).Settles guardDigits z) :
    tower.truncation? x digits guardDigits = some z := by
  have fitsGuard : guardDigits < 2 ^ 32 := Nat.lt_of_le_of_lt (Nat.le_add_left _ _) fits
  simp only [truncation?, Integer.scaleUnit, Integer.keptDecimals_of_lt fits,
    Integer.keptDecimals_of_lt fitsGuard, settles.1, settles.2, if_true]

/-- A schedule with a scale at which the enclosure shows the sign finds it. -/
theorem sign_of_mem_scales
    {tower : Tower n}
    {x : Element n}
    (irrational : x.rational? = none)
    {p : Nat}
    (member : p ∈ scales 16 (commonScale + x.bits))
    (fits : p < 2 ^ 32)
    (shown : (tower.enclosure p x).sign? ≠ none) :
    tower.sign x = .ok (cmp (x.real tower.roots) 0) := by
  cases found : (scales 16 (commonScale + x.bits)).findSome? fun p =>
      (tower.enclosure (Integer.keptDecimals p) x).sign? with
  | none =>
      have hidden := List.findSome?_eq_none_iff.mp found p member
      rw [Integer.keptDecimals_of_lt fits] at hidden
      contradiction
  | some sign =>
      have decided : tower.sign x = .ok sign := by
        simp only [Tower.sign, irrational, found]
      rw [decided, cmp_of_sign decided]

/-- A schedule with a scale that settles the integer part of both an element and its
opposite finds a reading, if the sign is known. -/
theorem truncate_of_mem_scales
    {tower : Tower n}
    {x : Element n}
    (irrational : x.rational? = none)
    {sign : Ordering}
    (decided : tower.sign x = .ok sign)
    {digits guardDigits : Nat}
    (member : guardDigits ∈ scales 10 (commonScale + max tower.bits x.bits))
    (settled : ∀ y ∈ [x, x.neg], tower.truncation? y digits guardDigits ≠ none) :
    ∃ t, tower.truncate x digits = .ok t := by
  let magnitude := if sign == .lt then x.neg else x
  have settledMagnitude : tower.truncation? magnitude digits guardDigits ≠ none := by
    apply settled
    simp only [magnitude]
    split <;> simp
  cases found : (scales 10 (commonScale + max tower.bits x.bits)).findSome?
      (tower.truncation? magnitude digits) with
  | none =>
      have unsettled := List.findSome?_eq_none_iff.mp found guardDigits member
      contradiction
  | some t =>
      refine ⟨if sign == .lt then -t else t, ?_⟩
      rw [truncate, irrational]
      apply bind_eq_ok_iff.mpr
      refine ⟨sign, decided, ?_⟩
      dsimp only
      rw [found]
      rfl

end Tower

namespace Value

/-- A rational has a sign and a reading to every number of digits. -/
theorem readings_of_rational?
    {v : Value}
    {q : Rat}
    (rational : v.rational? = some q) :
    v.sign = .ok (cmp v.real 0) ∧ ∀ digits, ∃ t, v.truncate digits = .ok t := by
  have element : v.element.rational? = some q := rational
  constructor
  · rw [sign, Tower.sign, element, real_of_rational? rational]
    exact congrArg _ (Tower.rationalSign_eq_cmp q)
  · intro digits
    rw [truncate, Tower.truncate, element]
    exact ⟨_, rfl⟩

/-- Only the cap of a schedule keeps a sign or a reading from being found. A rational has
both. For every other reachable value the enclosures show the sign from some scale on, and
they settle a reading from some number of guard digits on; a schedule that gets there
succeeds. -/
theorem Reachable.readings_settle {v : Value} (reachable : v.Reachable) :
    (∀ q, v.rational? = some q →
      v.sign = .ok (cmp v.real 0) ∧ ∀ digits, ∃ t, v.truncate digits = .ok t) ∧
    (v.rational? = none →
      (∃ least,
        (∀ p ≥ least, (v.tower.enclosure p v.element).sign? = some (cmp v.real 0)) ∧
        ((∃ p ∈ scales 16 (commonScale + v.element.bits), least ≤ p ∧ p < 2 ^ 32) →
          v.sign = .ok (cmp v.real 0))) ∧
      ∀ digits, ∃ least,
        (∀ guardDigits ≥ least, ∀ x ∈ [v.element, v.element.neg],
          (v.tower.enclosure (digits + guardDigits) x).Settles guardDigits
            ⌊x.real v.tower.roots * 10 ^ digits⌋) ∧
        ((∃ guardDigits ∈ scales 10 (commonScale + v.bits),
            least ≤ guardDigits ∧ digits + guardDigits < 2 ^ 32) →
          (∃ sign, v.sign = .ok sign) → ∃ t, v.truncate digits = .ok t)) := by
  have normal := reachable.isNormal
  refine ⟨fun q rational => readings_of_rational? rational, fun irrational => ⟨?_, ?_⟩⟩
  · have nonzero : v.real ≠ 0 := by
      have fractional := normal.fractional irrational 0 0
      simpa using fractional
    obtain ⟨least, shown⟩ := eventually_atTop.mp (v.tower.eventually_sign? nonzero)
    refine ⟨least, shown, ?_⟩
    rintro ⟨p, member, reached, fits⟩
    exact Tower.sign_of_mem_scales irrational member fits
      (shown p reached ▸ Option.some_ne_none _)
  · intro digits
    have opposite (z : Int) : v.element.neg.real v.tower.roots * 10 ^ digits ≠ z := by
      intro whole
      apply normal.fractional irrational digits (-z)
      rw [real]
      rw [Element.real_neg] at whole
      push_cast
      linarith
    obtain ⟨least, settles⟩ := eventually_atTop.mp
      ((v.tower.eventually_settles digits (normal.fractional irrational digits)).and
        (v.tower.eventually_settles digits opposite))
    have both : ∀ guardDigits ≥ least, ∀ x ∈ [v.element, v.element.neg],
        (v.tower.enclosure (digits + guardDigits) x).Settles guardDigits
          ⌊x.real v.tower.roots * 10 ^ digits⌋ := by
      intro guardDigits enough
      simpa using settles guardDigits enough
    refine ⟨least, both, ?_⟩
    rintro ⟨guardDigits, member, reached, fits⟩ ⟨sign, decided⟩
    apply Tower.truncate_of_mem_scales irrational decided member
    intro x candidate
    simp [Tower.truncation?_of_settles fits (both guardDigits reached x candidate)]

theorem enclosures_of_sqrtTwo_settle :
    sqrtTwo.Reachable ∧ ∃ least, ∀ p ≥ least,
      (sqrtTwo.tower.enclosure p sqrtTwo.element).sign? = some (cmp sqrtTwo.real 0) := by
  obtain ⟨⟨least, shown, -⟩, -⟩ := (Reachable.readings_settle reachable_sqrtTwo).2 rfl
  exact ⟨reachable_sqrtTwo, least, shown⟩

end Value
end Radical
end FourFours
