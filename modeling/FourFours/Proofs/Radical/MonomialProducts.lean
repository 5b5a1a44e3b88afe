import FourFours.Integer.DigitsLemmas
import FourFours.Radical.Monomials
import Mathlib.Algebra.Algebra.Hom
import Mathlib.Algebra.BigOperators.Group.Finset.Basic
import Mathlib.Algebra.BigOperators.Ring.List
import Mathlib.Data.Finset.Dedup
import Mathlib.Data.Nat.BitIndices
import Mathlib.Tactic.Ring

/-!
# Products of sums of monomials exist

A product by a monomial calls itself in two ways: for the same sum and fewer square roots, or
for a radicand and what is left of a term. The second call may get a larger mask than the first
one had, but its sum uses earlier square roots only: a square root that meets itself was used
by the sum to begin with. So the calls descend in the square roots that the sum may use, and
among equal ones in the mask, and over `n` square roots they nest at most `(n + 1) * (n + 1)`
deep. Products are in normal form again, and they are products wherever the square roots square
to their radicands.
-/

namespace FourFours
namespace Radical
namespace Monomials

variable {n k i m mask : Nat} {q : Rat} {sum left right : Monomials}

theorem testBit_xor_two_pow (m i j : Nat) :
    (m ^^^ 2 ^ i).testBit j = (m.testBit j ^^ decide (i = j)) := by
  rw [Nat.testBit_xor, Nat.testBit_two_pow]

theorem testBit_or_two_pow (m i j : Nat) :
    (m ||| 2 ^ i).testBit j = (m.testBit j || decide (i = j)) := by
  rw [Nat.testBit_or, Nat.testBit_two_pow]

theorem lt_of_testBit (set : m.testBit i = true) (bound : m < 2 ^ n) : i < n := by
  by_contra beyond
  have small : m < 2 ^ i := bound.trans_le (Nat.pow_le_pow_right (by decide) (by omega))
  rw [Nat.testBit_lt_two_pow small] at set
  contradiction

/-- A mask without its highest bit uses only bits below it. -/
theorem xor_log2_lt (nonzero : mask ≠ 0) : mask ^^^ 2 ^ mask.log2 < 2 ^ mask.log2 := by
  apply Nat.lt_pow_two_of_testBit
  intro j above
  rw [testBit_xor_two_pow]
  rcases above.eq_or_lt with rfl | above
  · simp [Nat.testBit_log2 nonzero]
  · have small : mask < 2 ^ j := (Nat.log2_lt nonzero).mp above
    simp [Nat.testBit_lt_two_pow small, above.ne]

/-- A sum in normal form: the coefficients are nonzero, and the masks ascend and use no square
root from `n` on. -/
structure IsReduced (n : Nat) (sum : Monomials) : Prop where
  coefficient_ne_zero : ∀ term ∈ sum, term.1 ≠ 0
  mask_lt : ∀ term ∈ sum, term.2 < 2 ^ n
  ascending : sum.Pairwise fun left right => left.2 < right.2

theorem isReduced_nil (n : Nat) : IsReduced n [] := by
  constructor <;> simp

theorem isReduced_cons_iff {term : Rat × Nat} {rest : Monomials} :
    IsReduced n (term :: rest) ↔
      term.1 ≠ 0 ∧ term.2 < 2 ^ n ∧ (∀ later ∈ rest, term.2 < later.2) ∧ IsReduced n rest := by
  constructor
  · rintro ⟨nonzero, bound, ascending⟩
    rw [List.forall_mem_cons] at nonzero bound
    rw [List.pairwise_cons] at ascending
    exact ⟨nonzero.1, bound.1, ascending.1, nonzero.2, bound.2, ascending.2⟩
  · rintro ⟨nonzero, bound, first, reduced⟩
    exact ⟨List.forall_mem_cons.mpr ⟨nonzero, reduced.coefficient_ne_zero⟩,
      List.forall_mem_cons.mpr ⟨bound, reduced.mask_lt⟩,
      List.pairwise_cons.mpr ⟨first, reduced.ascending⟩⟩

theorem mem_insertTerm {term : Rat × Nat} (member : term ∈ insertTerm q mask sum) :
    term.2 = mask ∨ term ∈ sum := by
  fun_induction insertTerm q mask sum with
  | case1 => simp_all
  | case2 p m rest before inductionHypothesis =>
      rcases List.mem_cons.mp member with rfl | member
      · exact .inr List.mem_cons_self
      · exact (inductionHypothesis member).imp_right (List.mem_cons_of_mem _)
  | case3 => exact .inr (List.mem_cons_of_mem _ member)
  | case4 =>
      rcases List.mem_cons.mp member with rfl | member
      · exact .inl rfl
      · exact .inr (List.mem_cons_of_mem _ member)
  | case5 =>
      rcases List.mem_cons.mp member with rfl | member
      · exact .inl rfl
      · exact .inr member

namespace IsReduced

theorem mono (reduced : IsReduced n sum) (le : n ≤ k) : IsReduced k sum where
  coefficient_ne_zero := reduced.coefficient_ne_zero
  mask_lt term member :=
    (reduced.mask_lt term member).trans_le (Nat.pow_le_pow_right (by decide) le)
  ascending := reduced.ascending

theorem insertTerm (reduced : IsReduced n sum) (nonzero : q ≠ 0) (bound : mask < 2 ^ n) :
    IsReduced n (insertTerm q mask sum) := by
  fun_induction Monomials.insertTerm q mask sum with
  | case1 => exact isReduced_cons_iff.mpr ⟨nonzero, bound, by simp, reduced⟩
  | case2 p m rest before inductionHypothesis =>
      obtain ⟨nonzeroFirst, boundFirst, first, reducedRest⟩ := isReduced_cons_iff.mp reduced
      refine isReduced_cons_iff.mpr ⟨nonzeroFirst, boundFirst, ?_, inductionHypothesis reducedRest⟩
      intro term member
      rcases mem_insertTerm member with same | member
      · exact same ▸ before
      · exact first term member
  | case3 => exact (isReduced_cons_iff.mp reduced).2.2.2
  | case4 _ _ remains =>
      obtain ⟨-, boundFirst, first, reducedRest⟩ := isReduced_cons_iff.mp reduced
      exact isReduced_cons_iff.mpr ⟨remains, boundFirst, first, reducedRest⟩
  | case5 p m rest notBefore different =>
      have before : mask < m := by omega
      refine isReduced_cons_iff.mpr ⟨nonzero, bound, ?_, reduced⟩
      obtain ⟨-, -, first, -⟩ := isReduced_cons_iff.mp reduced
      exact List.forall_mem_cons.mpr ⟨before, fun term member => before.trans (first term member)⟩

theorem accumulate (reduced : IsReduced n sum) (q : Rat) (bound : mask < 2 ^ n) :
    IsReduced n (accumulate sum q mask) := by
  unfold Monomials.accumulate
  split
  · exact reduced
  · exact reduced.insertTerm ‹_› bound

theorem add (reducedLeft : IsReduced n left) (reducedRight : IsReduced n right) :
    IsReduced n (add left right) := by
  refine List.foldlRecOn right _ reducedLeft ?_
  intro sum reduced term member
  exact reduced.accumulate term.1 (reducedRight.mask_lt term member)

theorem scale (reduced : IsReduced n sum) (q : Rat) : IsReduced n (scale sum q) := by
  unfold Monomials.scale
  split
  · exact isReduced_nil n
  · rename_i nonzero
    constructor
    · refine List.forall_mem_map.mpr fun term member => ?_
      exact mul_ne_zero (reduced.coefficient_ne_zero term member) nonzero
    · exact List.forall_mem_map.mpr reduced.mask_lt
    · exact List.pairwise_map.mpr reduced.ascending

end IsReduced

/-- A loop comes to its end if every round does and keeps what holds at its start. -/
theorem exists_foldlM
    {α β : Type}
    {round : β → α → Option β}
    {items : List α}
    {holds : β → Prop}
    (rounds : ∀ item ∈ items, ∀ b, holds b → ∃ next, round b item = some next ∧ holds next)
    {start : β}
    (initially : holds start) :
    ∃ total, items.foldlM round start = some total ∧ holds total := by
  induction items generalizing start with
  | nil => exact ⟨start, rfl, initially⟩
  | cons item items inductionHypothesis =>
      rw [List.forall_mem_cons] at rounds
      obtain ⟨next, found, holdsNext⟩ := rounds.1 start initially
      rw [List.foldlM_cons, found]
      exact inductionHypothesis rounds.2 holdsNext

/-- The product of a sum and a square root exists. Only a square root that the sum may use can be
in a term already, so only then the replacements matter. -/
theorem exists_mulRoot?
    {root : Nat}
    {replace : Rat → Nat → Option Monomials}
    (reduced : IsReduced k sum)
    (usedBound : k ≤ n)
    (rootBound : root < n)
    (replaces : root < k → ∀ q rest, rest < 2 ^ k →
      ∃ replaced, replace q rest = some replaced ∧ IsReduced n replaced) :
    ∃ product, mulRoot? root replace sum = some product ∧ IsReduced n product := by
  unfold mulRoot?
  simp only [Integer.twoPow_eq]
  refine exists_foldlM ?_ (isReduced_nil n)
  intro term member total reducedTotal
  have bound := reduced.mask_lt term member
  split
  · rename_i meets
    have used := lt_of_testBit meets bound
    obtain ⟨replaced, found, reducedReplaced⟩ := replaces used term.1 (term.2 ^^^ 2 ^ root)
      (Nat.xor_lt_two_pow bound (Nat.pow_lt_pow_right (by decide) used))
    exact ⟨add total replaced, by simp [found], reducedTotal.add reducedReplaced⟩
  · have put : term.2 ||| 2 ^ root < 2 ^ n :=
      Nat.or_lt_two_pow ((reduced.mono usedBound).mask_lt term member)
        (Nat.pow_lt_pow_right (by decide) rootBound)
    exact ⟨_, rfl, reducedTotal.accumulate term.1 put⟩

/-! ## Existence -/

/-- The radicands of `n` square roots, each a sum in normal form over the square roots before. -/
structure IsTower (n : Nat) (radicands : List Monomials) : Prop where
  length_eq : radicands.length = n
  reduced : ∀ i radicand, radicands[i]? = some radicand → IsReduced i radicand

namespace IsTower

variable {radicands : List Monomials} (isTower : IsTower n radicands)

include isTower

theorem exists_radicand (bound : i < n) :
    ∃ radicand, radicands[i]? = some radicand ∧ IsReduced i radicand := by
  have found := List.getElem?_eq_getElem (l := radicands) (isTower.length_eq ▸ bound)
  exact ⟨_, found, isTower.reduced i _ found⟩

/-- The product of a sum and a monomial exists, and uses no square root that neither the sum
nor the monomial may use. The depth allows, for each square root that the sum may use, the calls
that take the square roots of a monomial one by one. -/
theorem exists_mulMonomial?_of_lt
    {used length depth : Nat}
    (usedBound : used ≤ n)
    (lengthBound : length ≤ n)
    (reduced : IsReduced used sum)
    (bound : mask < 2 ^ length)
    (deep : used * (n + 1) + length < depth) :
    ∃ product, mulMonomial? radicands depth sum mask = some product ∧
      IsReduced (max used length) product := by
  induction depth generalizing used length sum mask with
  | zero => omega
  | succ depth inductionHypothesis =>
  rw [mulMonomial?]
  simp only [Integer.twoPow_eq]
  split
  · exact ⟨sum, rfl, reduced.mono (le_max_left used length)⟩
  · rename_i nonzero
    have lower := xor_log2_lt nonzero
    have inside : mask.log2 < length := (Nat.log2_lt nonzero).mpr bound
    generalize mask.log2 = last at lower inside ⊢
    -- the first call: the same sum, and a shorter monomial
    obtain ⟨before, found, reducedBefore⟩ :=
      inductionHypothesis usedBound (by omega) reduced lower (by omega)
    rw [found, Option.bind_eq_bind, Option.bind_some]
    refine exists_mulRoot? reducedBefore (by omega) (by omega) fun usedBefore q rest bound => ?_
    -- the second call: the square root was used by the sum, so the radicand may use fewer
    have usedLast : last < used := by omega
    have deepBelow : last * (n + 1) + used < depth := by
      have := Nat.mul_le_mul_right (n + 1) usedLast
      rw [Nat.succ_mul] at this
      omega
    rw [max_eq_left usedLast.le] at bound
    obtain ⟨radicand, listed, reducedRadicand⟩ := isTower.exists_radicand
      (usedLast.trans_le usedBound)
    obtain ⟨replaced, multiplied, reducedReplaced⟩ := inductionHypothesis
      (by omega) usedBound (reducedRadicand.scale q) bound deepBelow
    exact ⟨replaced, by rw [listed]; exact multiplied, reducedReplaced.mono (by omega)⟩

section

variable {depth : Nat} (deep : (n + 1) * (n + 1) ≤ depth)

include deep

theorem exists_mulMonomial? (reduced : IsReduced n sum) (bound : mask < 2 ^ n) :
    ∃ product, mulMonomial? radicands depth sum mask = some product ∧ IsReduced n product := by
  have enough : n * (n + 1) + n < depth := by
    rw [Nat.succ_mul] at deep
    omega
  simpa using isTower.exists_mulMonomial?_of_lt le_rfl le_rfl reduced bound enough

/-- The product of two sums exists. -/
theorem exists_mul? (reducedLeft : IsReduced n left) (reducedRight : IsReduced n right) :
    ∃ product, mul? radicands depth left right = some product ∧ IsReduced n product := by
  unfold mul?
  split
  · exact ⟨_, rfl, reducedLeft.scale _⟩
  · exact ⟨_, rfl, reducedRight.scale _⟩
  · refine exists_foldlM ?_ (isReduced_nil n)
    intro term member total reducedTotal
    obtain ⟨product, multiplied, reducedProduct⟩ := isTower.exists_mulMonomial? deep
      (reducedLeft.scale term.1) (reducedRight.mask_lt term member)
    exact ⟨add total product, by simp [multiplied], reducedTotal.add reducedProduct⟩

end

end IsTower

/-! ## Meaning -/

section Meaning

variable {R : Type*} [CommRing R] (root : Nat → R)

/-- The product of the square roots of a monomial. -/
def rootProduct (mask : Nat) : R :=
  ∏ i ∈ mask.bitIndices.toFinset, root i

@[simp] theorem rootProduct_zero : rootProduct root 0 = 1 := by
  simp [rootProduct]

/-- A square root that is put in is one more factor. -/
theorem rootProduct_or (absent : m.testBit i = false) :
    rootProduct root (m ||| 2 ^ i) = rootProduct root m * root i := by
  have indices : (m ||| 2 ^ i).bitIndices.toFinset = insert i m.bitIndices.toFinset := by
    ext j
    rw [List.mem_toFinset, Nat.mem_bitIndices, testBit_or_two_pow, Finset.mem_insert,
      List.mem_toFinset, Nat.mem_bitIndices]
    grind
  rw [rootProduct, indices, Finset.prod_insert (by simp [absent]), mul_comm]
  rfl

/-- A square root that is taken out is one factor less. -/
theorem rootProduct_xor (present : m.testBit i = true) :
    rootProduct root (m ^^^ 2 ^ i) * root i = rootProduct root m := by
  have indices : (m ^^^ 2 ^ i).bitIndices.toFinset = m.bitIndices.toFinset.erase i := by
    ext j
    rw [List.mem_toFinset, Nat.mem_bitIndices, testBit_xor_two_pow, Finset.mem_erase,
      List.mem_toFinset, Nat.mem_bitIndices]
    grind
  rw [rootProduct, indices, Finset.prod_erase_mul _ _ (by simp [present])]
  rfl

/-- Only the square roots of a monomial matter. -/
theorem rootProduct_congr
    {root root' : Nat → R}
    (agree : ∀ i < n, root i = root' i)
    (bound : mask < 2 ^ n) :
    rootProduct root mask = rootProduct root' mask := by
  apply Finset.prod_congr rfl
  intro i member
  rw [List.mem_toFinset, Nat.mem_bitIndices] at member
  exact agree i (lt_of_testBit member bound)

variable [Algebra ℚ R]

/-- What a sum stands for, given its square roots. -/
def eval (sum : Monomials) : R :=
  (sum.map fun term => algebraMap ℚ R term.1 * rootProduct root term.2).sum

@[simp] theorem eval_nil : eval root [] = 0 := rfl

@[simp] theorem eval_cons (term : Rat × Nat) (rest : Monomials) :
    eval root (term :: rest) =
      algebraMap ℚ R term.1 * rootProduct root term.2 + eval root rest := by
  simp [eval]

theorem eval_append (left right : Monomials) :
    eval root (left ++ right) = eval root left + eval root right := by
  simp [eval]

theorem eval_congr
    {root root' : Nat → R}
    (agree : ∀ i < n, root i = root' i)
    (bound : ∀ term ∈ sum, term.2 < 2 ^ n) :
    eval root sum = eval root' sum := by
  refine congrArg List.sum (List.map_congr_left fun term member => ?_)
  rw [rootProduct_congr agree (bound term member)]

/-- What a sum stands for is carried from one ring to another with the square roots. -/
theorem map_eval
    {S : Type*} [CommRing S] [Algebra ℚ S]
    (carry : R →ₐ[ℚ] S)
    (sum : Monomials) :
    carry (eval root sum) = eval (fun i => carry (root i)) sum := by
  simp [eval, rootProduct, map_list_sum, Function.comp_def]

theorem eval_insertTerm (q : Rat) (mask : Nat) (sum : Monomials) :
    eval root (insertTerm q mask sum) =
      eval root sum + algebraMap ℚ R q * rootProduct root mask := by
  fun_induction insertTerm q mask sum with
  | case1 => simp
  | case2 p m rest before inductionHypothesis =>
      rw [eval_cons, eval_cons, inductionHypothesis, add_assoc]
  | case3 p rest cancels =>
      rw [eval_cons, add_right_comm, ← add_mul, ← map_add, cancels, map_zero, zero_mul, zero_add]
  | case4 p rest remains =>
      rw [eval_cons, eval_cons, map_add, add_mul, add_right_comm]
  | case5 => rw [eval_cons, add_comm]

theorem eval_accumulate (sum : Monomials) (q : Rat) (mask : Nat) :
    eval root (accumulate sum q mask) =
      eval root sum + algebraMap ℚ R q * rootProduct root mask := by
  unfold accumulate
  split
  · rename_i zero
    rw [zero, map_zero, zero_mul, add_zero]
  · exact eval_insertTerm root q mask sum

@[simp] theorem eval_add (left right : Monomials) :
    eval root (add left right) = eval root left + eval root right := by
  unfold add
  induction right generalizing left with
  | nil => simp
  | cons term rest inductionHypothesis =>
      rw [List.foldl_cons, inductionHypothesis, eval_accumulate, eval_cons, add_assoc]

@[simp] theorem eval_scale (sum : Monomials) (q : Rat) :
    eval root (scale sum q) = eval root sum * algebraMap ℚ R q := by
  unfold scale
  split
  · rename_i zero
    rw [zero, map_zero, mul_zero, eval_nil]
  · induction sum with
    | nil => simp
    | cons term rest inductionHypothesis =>
        rw [List.map_cons, eval_cons, inductionHypothesis, eval_cons, map_mul]
        ring

theorem eval_of_rational? (rational : rational? sum = some q) :
    eval root sum = algebraMap ℚ R q := by
  unfold rational? at rational
  split at rational
  · rw [← Option.some.inj rational, eval_nil, map_zero]
  · simp_all
  · contradiction

/-- Each square root squares to its radicand. -/
def SquaresTo (radicands : List Monomials) : Prop :=
  ∀ i radicand, radicands[i]? = some radicand → root i * root i = eval root radicand

/-- A loop adds up what its rounds contribute. -/
theorem eval_of_foldlM
    {round : Monomials → Rat × Nat → Option Monomials}
    (contribution : Rat × Nat → R)
    (rounds : ∀ total term next, round total term = some next →
      eval root next = eval root total + contribution term)
    {terms start total : Monomials}
    (ended : terms.foldlM round start = some total) :
    eval root total = eval root start + (terms.map contribution).sum := by
  induction terms generalizing start with
  | nil =>
      obtain rfl : start = total := by simpa using ended
      simp
  | cons term terms inductionHypothesis =>
      rw [List.foldlM_cons, Option.bind_eq_bind, Option.bind_eq_some_iff] at ended
      obtain ⟨next, found, ended⟩ := ended
      rw [inductionHypothesis ended, rounds _ _ _ found, List.map_cons, List.sum_cons, add_assoc]

/-- The product of a sum and a square root is a product, if a term with the square root is
replaced by what it stands for. -/
theorem eval_of_mulRoot?
    {i : Nat}
    {replace : Rat → Nat → Option Monomials}
    (replaces : ∀ q rest replaced, replace q rest = some replaced →
      eval root replaced = algebraMap ℚ R q * rootProduct root rest * root i * root i)
    {product : Monomials}
    (multiplied : mulRoot? i replace sum = some product) :
    eval root product = eval root sum * root i := by
  unfold mulRoot? at multiplied
  simp only [Integer.twoPow_eq] at multiplied
  rw [eval_of_foldlM root
    (fun term => algebraMap ℚ R term.1 * rootProduct root term.2 * root i) ?_ multiplied]
  · rw [eval_nil, zero_add, List.sum_map_mul_right]
    rfl
  · intro total term next ended
    split at ended
    · rename_i meets
      rw [Option.bind_eq_bind, Option.bind_eq_some_iff] at ended
      obtain ⟨replaced, replacement, ended⟩ := ended
      obtain rfl := Option.some.inj ended
      rw [eval_add, replaces _ _ _ replacement, ← rootProduct_xor root meets, mul_assoc,
        mul_assoc, mul_assoc, mul_assoc]
    · rename_i apart
      obtain rfl := Option.some.inj ended
      rw [eval_accumulate, rootProduct_or root (by simpa using apart), mul_assoc]

section

variable {root} {radicands : List Monomials} (squares : SquaresTo root radicands)

include squares

/-- The product of a sum and a monomial is a product, wherever the square roots square to their
radicands. -/
theorem eval_of_mulMonomial?
    {depth : Nat}
    {product : Monomials}
    (multiplied : mulMonomial? radicands depth sum mask = some product) :
    eval root product = eval root sum * rootProduct root mask := by
  induction depth generalizing sum mask product with
  | zero => contradiction
  | succ depth inductionHypothesis =>
  rw [mulMonomial?] at multiplied
  simp only [Integer.twoPow_eq] at multiplied
  split at multiplied
  · rename_i zero
    obtain rfl := Option.some.inj multiplied
    rw [zero, rootProduct_zero, mul_one]
  · rename_i nonzero
    rw [Option.bind_eq_bind, Option.bind_eq_some_iff] at multiplied
    obtain ⟨before, found, multiplied⟩ := multiplied
    have highest : mask.testBit mask.log2 = true := Nat.testBit_log2 nonzero
    generalize mask.log2 = last at found multiplied highest
    rw [eval_of_mulRoot? root ?_ multiplied, inductionHypothesis found, mul_assoc,
      rootProduct_xor root highest]
    intro q rest replaced replacement
    rw [Option.bind_eq_some_iff] at replacement
    obtain ⟨radicand, listed, replacement⟩ := replacement
    rw [inductionHypothesis replacement, eval_scale, ← squares _ _ listed]
    ring

/-- The product of two sums is their product. -/
theorem eval_of_mul?
    {depth : Nat}
    {product : Monomials}
    (multiplied : mul? radicands depth left right = some product) :
    eval root product = eval root left * eval root right := by
  unfold mul? at multiplied
  split at multiplied
  · rename_i rational
    obtain rfl := Option.some.inj multiplied
    rw [eval_scale, eval_of_rational? root rational]
  · rename_i rational
    obtain rfl := Option.some.inj multiplied
    rw [eval_scale, eval_of_rational? root rational, mul_comm]
  · rw [eval_of_foldlM root
      (fun term => eval root left * (algebraMap ℚ R term.1 * rootProduct root term.2)) ?_
      multiplied]
    · rw [eval_nil, zero_add, List.sum_map_mul_left]
      rfl
    · intro total term next ended
      simp only [Option.bind_eq_bind, Option.bind_eq_some_iff] at ended
      obtain ⟨product, found, ended⟩ := ended
      obtain rfl := Option.some.inj ended
      rw [eval_add, eval_of_mulMonomial? squares found, eval_scale, mul_assoc]

end

end Meaning

end Monomials
end Radical
end FourFours
