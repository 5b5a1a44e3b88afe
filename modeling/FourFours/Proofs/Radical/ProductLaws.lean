import FourFours.Proofs.Radical.TowerRing

/-!
# Products of sums of monomials are those of a tower

A sum in normal form is the sum of the monomials of exactly one element, and radicands in
normal form are those of a tower. Hence a product that is formed one monomial at a time is the
product that is formed level by level, and it inherits the laws of a commutative ring. They hold
for the stored sums themselves and not only for what they stand for, as a sum in normal form is
determined by the element.
-/

namespace FourFours
namespace Radical

open Monomials

variable {n : Nat}

theorem Element.isReduced_monomials (x : Element n) : Monomials.IsReduced n x.monomials :=
  ⟨x.isReduced.coefficient_ne_zero, x.isReduced.mask_lt, x.isReduced.ascending⟩

namespace Monomials

variable {sum : Monomials}

/-- A sum in normal form falls into the terms without the last square root and those with it. -/
theorem IsReduced.exists_split (reduced : IsReduced (n + 1) sum) :
    ∃ low high, sum = low ++ high.map (fun (q, mask) => (q, mask + 2 ^ n)) ∧
      IsReduced n low ∧ IsReduced n high := by
  induction sum with
  | nil => exact ⟨[], [], rfl, isReduced_nil n, isReduced_nil n⟩
  | cons term rest inductionHypothesis =>
      obtain ⟨q, mask⟩ := term
      obtain ⟨nonzero, bound, first, reducedRest⟩ := isReduced_cons_iff.mp reduced
      obtain ⟨low, high, rfl, reducedLow, reducedHigh⟩ := inductionHypothesis reducedRest
      rw [List.forall_mem_append, List.forall_mem_map] at first
      by_cases without : mask < 2 ^ n
      · exact ⟨(q, mask) :: low, high, rfl,
          isReduced_cons_iff.mpr ⟨nonzero, without, first.1, reducedLow⟩, reducedHigh⟩
      · -- the later masks are larger, so none of them is without the last square root
        obtain rfl : low = [] := List.eq_nil_iff_forall_not_mem.mpr fun term member => by
          have := first.1 term member
          have := reducedLow.mask_lt term member
          omega
        obtain ⟨mask, rfl⟩ := Nat.exists_eq_add_of_le' (not_lt.mp without)
        refine ⟨[], (q, mask) :: high, rfl, reducedLow, isReduced_cons_iff.mpr ⟨nonzero, ?_, ?_,
          reducedHigh⟩⟩
        · rw [Nat.pow_succ] at bound
          dsimp only at bound ⊢
          omega
        · intro term member
          have := first.2 term member
          dsimp only at this ⊢
          omega

/-- A sum in normal form is the sum of the monomials of an element. -/
theorem IsReduced.exists_element (reduced : IsReduced n sum) :
    ∃ x : Element n, x.monomials = sum := by
  induction n generalizing sum with
  | zero =>
      have empty {term : Rat × Nat} (member : term ∈ sum) : term.2 = 0 := by
        have := reduced.mask_lt term member
        omega
      match sum with
      | [] => exact ⟨.rational 0, by simp [Element.monomials_rational]⟩
      | [(q, mask)] =>
          obtain rfl : mask = 0 := empty List.mem_cons_self
          obtain ⟨nonzero, -⟩ := isReduced_cons_iff.mp reduced
          exact ⟨.rational q, by rw [Element.monomials_rational, if_neg nonzero]⟩
      | first :: second :: rest =>
          obtain ⟨-, -, ascends, -⟩ := isReduced_cons_iff.mp reduced
          have := ascends second List.mem_cons_self
          have : second.2 = 0 := empty (by simp)
          omega
  | succ n inductionHypothesis =>
      obtain ⟨low, high, rfl, reducedLow, reducedHigh⟩ := reduced.exists_split
      obtain ⟨a, rfl⟩ := inductionHypothesis reducedLow
      obtain ⟨b, rfl⟩ := inductionHypothesis reducedHigh
      exact ⟨.pair a b, Element.monomials_pair a b⟩

/-- Radicands in normal form are those of a tower. -/
theorem IsTower.exists_tower {radicands : List Monomials} (isTower : IsTower n radicands) :
    ∃ tower : Tower n, tower.radicands = radicands := by
  induction n generalizing radicands with
  | zero => exact ⟨.base, (List.length_eq_zero_iff.mp isTower.length_eq).symm⟩
  | succ n inductionHypothesis =>
      rcases radicands.eq_nil_or_concat' with rfl | ⟨earlier, last, rfl⟩
      · exact absurd isTower.length_eq (by simp)
      have length : earlier.length = n := by simpa using isTower.length_eq
      have below : IsTower n earlier := by
        refine ⟨length, fun i radicand listed => isTower.reduced i radicand ?_⟩
        obtain ⟨inside, -⟩ := List.getElem?_eq_some_iff.mp listed
        rwa [List.getElem?_append_left inside]
      obtain ⟨tower, rfl⟩ := inductionHypothesis below
      have reduced : IsReduced n last := isTower.reduced n last (by simp [length])
      obtain ⟨radicand, rfl⟩ := reduced.exists_element
      exact ⟨tower.adjoin radicand none, rfl⟩

end Monomials

namespace Tower

variable (tower : Tower n)

/-- Sums in normal form that stand for the same element are the same. -/
theorem eq_monomials_of_eval
    {sum : Monomials}
    {x : Element n}
    (reduced : IsReduced n sum)
    (stands : eval tower.root sum = tower.element x) :
    sum = x.monomials := by
  obtain ⟨y, rfl⟩ := reduced.exists_element
  rw [eval_monomials, element_inj] at stands
  rw [stands]

include tower in
/-- Elements are added monomial by monomial. -/
theorem add_monomials (x y : Element n) :
    Monomials.add x.monomials y.monomials = (x.add y).monomials := by
  apply eq_monomials_of_eval tower (x.isReduced_monomials.add y.isReduced_monomials)
  rw [eval_add, eval_monomials, eval_monomials, element_add]

/-- The sum of the monomials of an element is multiplied by a monomial as the element is. -/
theorem exists_mulMonomial?_monomials
    (x : Element n)
    {mask : Nat}
    (bound : mask < 2 ^ n) :
    ∃ product : Element n,
      tower.element product = tower.element x * rootProduct tower.root mask ∧
      ∀ depth, (n + 1) * (n + 1) ≤ depth →
        mulMonomial? tower.radicands depth x.monomials mask = some product.monomials := by
  refine ⟨tower.element x * rootProduct tower.root mask, rfl, fun depth deep => ?_⟩
  obtain ⟨product, multiplied, reduced⟩ :=
    tower.isTower_radicands.exists_mulMonomial? deep x.isReduced_monomials bound
  have stands := eval_of_mulMonomial? tower.squaresTo_radicands multiplied
  rw [eval_monomials] at stands
  rw [multiplied, eq_monomials_of_eval tower reduced stands]

/-- Elements are multiplied monomial by monomial. -/
theorem mul?_monomials
    {depth : Nat}
    (deep : (n + 1) * (n + 1) ≤ depth)
    (x y : Element n) :
    mul? tower.radicands depth x.monomials y.monomials = some (tower.mul x y).monomials := by
  obtain ⟨product, multiplied, reduced⟩ :=
    tower.isTower_radicands.exists_mul? deep x.isReduced_monomials y.isReduced_monomials
  have stands := eval_of_mul? tower.squaresTo_radicands multiplied
  rw [eval_monomials, eval_monomials, ← element_mul] at stands
  rw [multiplied, eq_monomials_of_eval tower reduced stands]

end Tower

namespace Monomials

section

variable {radicands : List Monomials} {left middle right : Monomials} {depth : Nat}

namespace IsTower

variable (isTower : IsTower n radicands) (deep : (n + 1) * (n + 1) ≤ depth)

include isTower deep

theorem mul?_assoc
    (reducedLeft : IsReduced n left)
    (reducedMiddle : IsReduced n middle)
    (reducedRight : IsReduced n right) :
    (mul? radicands depth left middle >>= fun product => mul? radicands depth product right) =
      mul? radicands depth middle right >>= fun product => mul? radicands depth left product := by
  obtain ⟨tower, rfl⟩ := isTower.exists_tower
  obtain ⟨x, rfl⟩ := reducedLeft.exists_element
  obtain ⟨y, rfl⟩ := reducedMiddle.exists_element
  obtain ⟨z, rfl⟩ := reducedRight.exists_element
  simp only [tower.mul?_monomials deep, Option.bind_eq_bind, Option.bind_some,
    tower.isRing.mul_assoc]

theorem mul?_add
    (reducedLeft : IsReduced n left)
    (reducedMiddle : IsReduced n middle)
    (reducedRight : IsReduced n right) :
    mul? radicands depth left (add middle right) = do
      return add (← mul? radicands depth left middle) (← mul? radicands depth left right) := by
  obtain ⟨tower, rfl⟩ := isTower.exists_tower
  obtain ⟨x, rfl⟩ := reducedLeft.exists_element
  obtain ⟨y, rfl⟩ := reducedMiddle.exists_element
  obtain ⟨z, rfl⟩ := reducedRight.exists_element
  have distributes : tower.mul x (y.add z) = (tower.mul x y).add (tower.mul x z) :=
    tower.isRing.mul_add x y z
  simp only [tower.mul?_monomials deep, tower.add_monomials, distributes, Option.bind_eq_bind,
    Option.bind_some, Option.pure_def]

end IsTower

/-- Let every radicand use earlier square roots only. Then the calls that multiply a sum in
normal form by a monomial come to an end, at most `(n + 1) * (n + 1)` of them nested, with a sum
in normal form: it uses none but the given square roots and has no zero coefficient. It stands
for the product in every commutative ring in which the square roots square to their radicands.
So does the product of two sums, which commutes, associates and distributes over addition. It is
the product of the elements over a tower with these radicands. -/
theorem products_of_isTower (isTower : IsTower n radicands) :
    (∀ sum mask, IsReduced n sum → mask < 2 ^ n →
      ∃ product, IsReduced n product ∧
        (∀ depth, (n + 1) * (n + 1) ≤ depth →
          mulMonomial? radicands depth sum mask = some product) ∧
        ∀ (R : Type) [CommRing R] [Algebra ℚ R] (root : Nat → R), SquaresTo root radicands →
          eval root product = eval root sum * rootProduct root mask) ∧
    (∀ left right, IsReduced n left → IsReduced n right →
      ∃ product, IsReduced n product ∧
        (∀ depth, (n + 1) * (n + 1) ≤ depth →
          mul? radicands depth left right = some product ∧
          mul? radicands depth right left = some product) ∧
        ∀ (R : Type) [CommRing R] [Algebra ℚ R] (root : Nat → R), SquaresTo root radicands →
          eval root product = eval root left * eval root right) ∧
    (∀ depth, (n + 1) * (n + 1) ≤ depth → ∀ left middle right,
      IsReduced n left → IsReduced n middle → IsReduced n right →
      (mul? radicands depth left middle >>= fun product => mul? radicands depth product right) =
        (mul? radicands depth middle right >>= fun product =>
          mul? radicands depth left product) ∧
      mul? radicands depth left (add middle right) = do
        return add (← mul? radicands depth left middle) (← mul? radicands depth left right)) ∧
    ∃ tower : Tower n, tower.radicands = radicands ∧
      (∀ sum, IsReduced n sum ↔ ∃ x : Element n, x.monomials = sum) ∧
      ∀ depth, (n + 1) * (n + 1) ≤ depth → ∀ x y : Element n,
        mul? radicands depth x.monomials y.monomials = some (tower.mul x y).monomials := by
  obtain ⟨tower, rfl⟩ := isTower.exists_tower
  refine ⟨?_, ?_, ?_, tower, rfl, fun sum => ⟨IsReduced.exists_element, ?_⟩, ?_⟩
  · intro sum mask reduced bound
    obtain ⟨x, rfl⟩ := reduced.exists_element
    obtain ⟨product, -, multiplied⟩ := tower.exists_mulMonomial?_monomials x bound
    exact ⟨product.monomials, product.isReduced_monomials, multiplied,
      fun R _ _ root squares => eval_of_mulMonomial? squares (multiplied _ le_rfl)⟩
  · intro left right reducedLeft reducedRight
    obtain ⟨x, rfl⟩ := reducedLeft.exists_element
    obtain ⟨y, rfl⟩ := reducedRight.exists_element
    refine ⟨_, (tower.mul x y).isReduced_monomials, fun depth deep => ⟨?_, ?_⟩,
      fun R _ _ root squares => eval_of_mul? squares (tower.mul?_monomials le_rfl x y)⟩
    · exact tower.mul?_monomials deep x y
    · rw [tower.mul?_monomials deep, tower.isRing.mul_comm]
  · intro depth deep left middle right reducedLeft reducedMiddle reducedRight
    exact ⟨isTower.mul?_assoc deep reducedLeft reducedMiddle reducedRight,
      isTower.mul?_add deep reducedLeft reducedMiddle reducedRight⟩
  · rintro ⟨x, rfl⟩
    exact x.isReduced_monomials
  · exact fun depth deep => tower.mul?_monomials deep

end

/-- The radicands of `√2` and `√(1 + √2)`. -/
def nestedRadicands : List Monomials :=
  [[(2, 0)], [(1, 0), (1, 1)]]

theorem isTower_nestedRadicands : IsTower 2 nestedRadicands := by
  refine ⟨rfl, fun i radicand listed => ?_⟩
  match i with
  | 0 =>
      obtain rfl := Option.some.inj listed
      constructor <;> simp
  | 1 =>
      obtain rfl := Option.some.inj listed
      constructor <;> simp
  | i + 2 => simp [nestedRadicands] at listed

/-- The numbers `√2` and `√(1 + √2)`. -/
noncomputable def nestedRoots : Nat → ℝ
  | 0 => √(2 : Nat)
  | _ => √(1 + √(2 : Nat))

theorem squaresTo_nestedRoots : SquaresTo nestedRoots nestedRadicands := by
  intro i radicand listed
  match i with
  | 0 =>
      obtain rfl := Option.some.inj listed
      simp [nestedRoots]
  | 1 =>
      obtain rfl := Option.some.inj listed
      have nonnegative : 0 ≤ 1 + √2 := by positivity
      simp [nestedRoots, rootProduct, Real.mul_self_sqrt nonnegative]
  | i + 2 => simp [nestedRadicands] at listed

/-- With `g` the product of both roots, `g²` is `2 + 2 √2`, and `1 + g` times `1 - g` is
`-1 - 2 √2` in either order. -/
theorem products_of_nestedRadicands :
    let root := nestedRoots
    let left : Monomials := [(1, 0), (1, 3)]
    let right : Monomials := [(1, 0), (-1, 3)]
    IsTower 2 nestedRadicands ∧ SquaresTo root nestedRadicands ∧
      IsReduced 2 [(1, 3)] ∧ 3 < 2 ^ 2 ∧ (2 + 1) * (2 + 1) ≤ 9 ∧
      mulMonomial? nestedRadicands 9 [(1, 3)] 3 = some [(2, 0), (2, 1)] ∧
      eval root [(2, 0), (2, 1)] = eval root [(1, 3)] * rootProduct root 3 ∧
      IsReduced 2 left ∧ IsReduced 2 right ∧
      mul? nestedRadicands 9 left right = some [(-1, 0), (-2, 1)] ∧
      mul? nestedRadicands 9 right left = some [(-1, 0), (-2, 1)] ∧
      eval root [(-1, 0), (-2, 1)] = eval root left * eval root right ∧
      mul? nestedRadicands 9 left (add left right) = some [(2, 0), (2, 3)] := by
  intro root left right
  have isTower := isTower_nestedRadicands
  have squares := squaresTo_nestedRoots
  have reducedBoth : IsReduced 2 [(1, 3)] := by constructor <;> simp
  have reducedLeft : IsReduced 2 left := by constructor <;> simp [left]
  have reducedRight : IsReduced 2 right := by constructor <;> simp [right]
  have deep : (2 + 1) * (2 + 1) ≤ 9 := by decide
  obtain ⟨monomials, products, laws, -⟩ := products_of_isTower isTower
  have square : mulMonomial? nestedRadicands 9 [(1, 3)] 3 = some [(2, 0), (2, 1)] := by
    decide +kernel
  have norm : mul? nestedRadicands 9 left right = some [(-1, 0), (-2, 1)] := by decide +kernel
  have own : mul? nestedRadicands 9 left left = some [(3, 0), (2, 1), (2, 3)] := by
    decide +kernel
  obtain ⟨_, -, found, standsSquare⟩ := monomials [(1, 3)] 3 reducedBoth (by decide)
  obtain rfl := Option.some.inj ((found 9 deep).symm.trans square)
  obtain ⟨_, -, found, standsNorm⟩ := products left right reducedLeft reducedRight
  obtain ⟨found, commuted⟩ := found 9 deep
  obtain rfl := Option.some.inj (found.symm.trans norm)
  obtain ⟨-, distributes⟩ := laws 9 deep left left right reducedLeft reducedLeft reducedRight
  refine ⟨isTower, squares, reducedBoth, by decide, deep, square, standsSquare ℝ root squares,
    reducedLeft, reducedRight, norm, commuted, standsNorm ℝ root squares, ?_⟩
  rw [distributes, own, norm]
  decide +kernel

end Monomials
end Radical
end FourFours
