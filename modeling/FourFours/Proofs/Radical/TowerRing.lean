import FourFours.Proofs.Radical.MonomialProducts
import FourFours.Proofs.Radical.Monomials
import FourFours.Proofs.Radical.Real
import Mathlib.Algebra.Algebra.Hom
import Mathlib.Algebra.Ring.MinimalAxioms

/-!
# The ring of a tower

Over every tower, whatever its radicands are, the elements of its level are a commutative ring.
Neither the sign of a radicand matters nor whether it is a square: the square root that is
adjoined is a new one in any case, which squares to its radicand.
-/

namespace FourFours
namespace Radical

variable {n : Nat}

namespace Element

instance : Zero (Element n) := ⟨zero n⟩

instance : One (Element n) := ⟨one n⟩

instance : Add (Element n) := ⟨add⟩

instance : Neg (Element n) := ⟨neg⟩

theorem pair_add_pair (a b c d : Element n) : pair a b + pair c d = pair (a + c) (b + d) := rfl

theorem zero_succ : (0 : Element (n + 1)) = pair 0 0 := rfl

theorem one_succ : (1 : Element (n + 1)) = pair 1 0 := rfl

protected theorem add_assoc (x y z : Element n) : x + y + z = x + (y + z) := by
  induction x with
  | rational p =>
      cases y
      cases z
      exact congrArg rational (Rat.add_assoc ..)
  | pair a b constantHypothesis slopeHypothesis =>
      cases y
      cases z
      simp only [pair_add_pair, constantHypothesis, slopeHypothesis]

protected theorem zero_add (x : Element n) : 0 + x = x := by
  induction x with
  | rational p => exact congrArg rational (Rat.zero_add p)
  | pair a b constantHypothesis slopeHypothesis =>
      rw [zero_succ, pair_add_pair, constantHypothesis, slopeHypothesis]

protected theorem neg_add_cancel (x : Element n) : -x + x = 0 := by
  induction x with
  | rational p => exact congrArg rational (Rat.neg_add_cancel p)
  | pair a b constantHypothesis slopeHypothesis =>
      exact congrArg₂ pair constantHypothesis slopeHypothesis

end Element

namespace Tower

open Element (pair)
open Monomials

variable {tower : Tower n}

theorem isZero_zero : (0 : Element n).isZero = true :=
  Element.isZero_iff.mpr rfl

protected theorem zero_mul (tower : Tower n) (x : Element n) : tower.mul 0 x = 0 := by
  cases tower with
  | base =>
      cases x
      exact congrArg Element.rational (Rat.zero_mul _)
  | adjoin tower radicand origin =>
      cases x
      rw [Element.zero_succ, mul, if_pos (by simp [isZero_zero])]
      rfl

protected theorem mul_zero (tower : Tower n) (x : Element n) : tower.mul x 0 = 0 := by
  cases tower with
  | base =>
      cases x
      exact congrArg Element.rational (Rat.mul_zero _)
  | adjoin tower radicand origin =>
      cases x
      rw [Element.zero_succ, mul, if_pos (by simp [isZero_zero])]
      rfl

/-- The product without its shortcut for zero. -/
theorem mul_pair_pair
    (tower : Tower n)
    (radicand : Element n)
    (origin : Option Nat)
    (a b c d : Element n) :
    (tower.adjoin radicand origin).mul (pair a b) (pair c d) =
      pair (tower.mul a c + tower.mul (tower.mul b d) radicand)
        (tower.mul a d + tower.mul b c) := by
  rw [mul]
  split
  · rename_i vanishes
    simp only [Bool.or_eq_true, Bool.and_eq_true, Element.isZero_iff] at vanishes
    have zero : Element.zero n = 0 := rfl
    rcases vanishes with ⟨rfl, rfl⟩ | ⟨rfl, rfl⟩ <;>
      simp only [zero, Tower.zero_mul, Tower.mul_zero, Element.zero_add] <;> rfl
  · rfl

/-- The laws of the product of a tower. -/
structure IsRing (tower : Tower n) : Prop where
  mul_assoc : ∀ x y z, tower.mul (tower.mul x y) z = tower.mul x (tower.mul y z)
  mul_comm : ∀ x y, tower.mul x y = tower.mul y x
  one_mul : ∀ x, tower.mul 1 x = x
  mul_add : ∀ x y z, tower.mul x (y + z) = tower.mul x y + tower.mul x z

/-- The ring that the laws make of the elements. -/
abbrev IsRing.commRing (isRing : tower.IsRing) : CommRing (Element n) :=
  letI : Mul (Element n) := ⟨tower.mul⟩
  .ofMinimalAxioms Element.add_assoc Element.zero_add Element.neg_add_cancel
    isRing.mul_assoc isRing.mul_comm isRing.one_mul isRing.mul_add

theorem isRing_base : base.IsRing where
  mul_assoc := by
    rintro ⟨p⟩ ⟨q⟩ ⟨r⟩
    exact congrArg Element.rational (Rat.mul_assoc p q r)
  mul_comm := by
    rintro ⟨p⟩ ⟨q⟩
    exact congrArg Element.rational (Rat.mul_comm p q)
  one_mul := by
    rintro ⟨p⟩
    exact congrArg Element.rational (Rat.one_mul p)
  mul_add := by
    rintro ⟨p⟩ ⟨q⟩ ⟨r⟩
    exact congrArg Element.rational (Rat.mul_add p q r)

theorem IsRing.adjoin (isRing : tower.IsRing) (radicand : Element n) (origin : Option Nat) :
    (tower.adjoin radicand origin).IsRing := by
  let _ := isRing.commRing
  have product (a b c d : Element n) :
      (tower.adjoin radicand origin).mul (pair a b) (pair c d) =
        pair (a * c + b * d * radicand) (a * d + b * c) :=
    mul_pair_pair tower radicand origin a b c d
  constructor
  case mul_assoc =>
    rintro (_ | ⟨a, b⟩) (_ | ⟨c, d⟩) (_ | ⟨e, f⟩)
    simp only [product]
    congr 1 <;> ring
  case mul_comm =>
    rintro (_ | ⟨a, b⟩) (_ | ⟨c, d⟩)
    simp only [product]
    congr 1 <;> ring
  case one_mul =>
    rintro (_ | ⟨a, b⟩)
    rw [Element.one_succ, product]
    congr 1 <;> ring
  case mul_add =>
    rintro (_ | ⟨a, b⟩) (_ | ⟨c, d⟩) (_ | ⟨e, f⟩)
    simp only [product, Element.pair_add_pair]
    congr 1 <;> ring

theorem isRing (tower : Tower n) : tower.IsRing := by
  induction tower with
  | base => exact isRing_base
  | adjoin tower radicand origin inductionHypothesis =>
      exact inductionHypothesis.adjoin radicand origin

/-- The elements over a tower, as a ring. -/
def Elements (_ : Tower n) : Type :=
  Element n

instance (tower : Tower n) : CommRing tower.Elements :=
  tower.isRing.commRing

/-- An element as a member of the ring. -/
def element (tower : Tower n) (x : Element n) : tower.Elements :=
  x

theorem element_inj {x y : Element n} : tower.element x = tower.element y ↔ x = y :=
  Iff.rfl

@[simp] theorem element_mul (tower : Tower n) (x y : Element n) :
    tower.element (tower.mul x y) = tower.element x * tower.element y :=
  rfl

@[simp] theorem element_add (tower : Tower n) (x y : Element n) :
    tower.element (x.add y) = tower.element x + tower.element y :=
  rfl

theorem const_add_const (n : Nat) (p q : Rat) :
    Element.const n p + Element.const n q = Element.const n (p + q) := by
  induction n generalizing p q with
  | zero => rfl
  | succ n inductionHypothesis =>
      simp only [Element.const, Element.pair_add_pair, inductionHypothesis, Rat.add_zero]

theorem const_mul_const (tower : Tower n) (p q : Rat) :
    tower.mul (.const n p) (.const n q) = .const n (p * q) := by
  induction tower with
  | base => rfl
  | @adjoin n tower radicand origin inductionHypothesis =>
      have zero : Element.const n 0 = 0 := rfl
      simp only [Element.const, zero, mul_pair_pair, inductionHypothesis, Tower.zero_mul,
        Tower.mul_zero, Element.zero_add]
      rw [← zero, const_add_const, Rat.add_zero]

instance (tower : Tower n) : Algebra ℚ tower.Elements :=
  RingHom.toAlgebra
    { toFun := Element.const n
      map_one' := rfl
      map_mul' := fun p q => (const_mul_const tower p q).symm
      map_zero' := rfl
      map_add' := fun p q => (const_add_const n p q).symm }

section

variable (tower : Tower n) (radicand : Element n) (origin : Option Nat)

/-- A pair, with its components in the ring below. -/
def ofPair (a b : tower.Elements) : (tower.adjoin radicand origin).Elements :=
  pair a b

theorem ofPair_add_ofPair (a b c d : tower.Elements) :
    ofPair tower radicand origin a b + ofPair tower radicand origin c d =
      ofPair tower radicand origin (a + c) (b + d) :=
  rfl

theorem ofPair_mul_ofPair (a b c d : tower.Elements) :
    ofPair tower radicand origin a b * ofPair tower radicand origin c d =
      ofPair tower radicand origin (a * c + b * d * tower.element radicand)
        (a * d + b * c) :=
  mul_pair_pair tower radicand origin a b c d

/-- The elements over a tower as elements over a tower with one more square root. -/
def lift : tower.Elements →ₐ[ℚ] (tower.adjoin radicand origin).Elements where
  toFun x := ofPair tower radicand origin x 0
  map_one' := rfl
  map_mul' x y := by
    rw [ofPair_mul_ofPair]
    congr 1 <;> ring
  map_zero' := rfl
  map_add' x y := by
    rw [ofPair_add_ofPair, add_zero]
  commutes' _ := rfl

/-- The square root that is adjoined last. -/
def newRoot : (tower.adjoin radicand origin).Elements :=
  ofPair tower radicand origin 0 1

theorem newRoot_mul_newRoot :
    newRoot tower radicand origin * newRoot tower radicand origin =
      lift tower radicand origin (tower.element radicand) := by
  refine (ofPair_mul_ofPair ..).trans ?_
  change _ = ofPair tower radicand origin (tower.element radicand) 0
  congr 1 <;> ring

theorem ofPair_eq (a b : tower.Elements) :
    ofPair tower radicand origin a b =
      lift tower radicand origin a +
        lift tower radicand origin b * newRoot tower radicand origin := by
  change _ = ofPair tower radicand origin a 0 +
    ofPair tower radicand origin b 0 * ofPair tower radicand origin 0 1
  rw [ofPair_mul_ofPair, ofPair_add_ofPair]
  congr 1 <;> ring

end

/-- The square roots of a tower as elements over it. -/
def root : {n : Nat} → (tower : Tower n) → Nat → tower.Elements
  | _, .base, _ => 0
  | n + 1, .adjoin tower radicand origin, i =>
      if i = n then newRoot tower radicand origin
      else lift tower radicand origin (tower.root i)

section

variable (tower : Tower n) (radicand : Element n) (origin : Option Nat)

theorem root_adjoin_of_lt {i : Nat} (below : i < n) :
    (tower.adjoin radicand origin).root i = lift tower radicand origin (tower.root i) :=
  if_neg below.ne

theorem root_adjoin_last : (tower.adjoin radicand origin).root n = newRoot tower radicand origin :=
  if_pos rfl

/-- A sum over the first square roots stands for the same with one more square root. -/
theorem eval_root_adjoin {sum : Monomials} (bound : ∀ term ∈ sum, term.2 < 2 ^ n) :
    eval (tower.adjoin radicand origin).root sum =
      lift tower radicand origin (eval tower.root sum) := by
  rw [map_eval]
  exact eval_congr (fun _ below => root_adjoin_of_lt tower radicand origin below) bound

/-- A further square root in every term is a factor of the sum. -/
theorem eval_root_shift {sum : Monomials} (bound : ∀ term ∈ sum, term.2 < 2 ^ n) :
    eval (tower.adjoin radicand origin).root (sum.map fun (q, mask) => (q, mask + 2 ^ n)) =
      eval (tower.adjoin radicand origin).root sum * newRoot tower radicand origin := by
  induction sum with
  | nil => simp
  | cons term rest inductionHypothesis =>
      obtain ⟨low, boundRest⟩ := List.forall_mem_cons.mp bound
      have apart : term.2 + 2 ^ n = term.2 ||| 2 ^ n := by
        rw [Nat.add_comm, Nat.or_comm]
        simpa using Nat.two_pow_add_eq_or_of_lt low 1
      have absent : term.2.testBit n = false := Nat.testBit_lt_two_pow low
      rw [List.map_cons, eval_cons, inductionHypothesis boundRest, eval_cons]
      dsimp only
      rw [apart, rootProduct_or _ absent, root_adjoin_last]
      ring

end

/-- The monomials of an element stand for it. -/
theorem eval_monomials (tower : Tower n) (x : Element n) :
    eval tower.root x.monomials = tower.element x := by
  induction tower with
  | base =>
      cases x with
      | rational q =>
          rw [Element.monomials_rational]
          split
          · rename_i zero
            rw [zero]
            rfl
          · rw [eval_cons, rootProduct_zero, eval_nil, mul_one, add_zero]
            rfl
  | adjoin tower radicand origin inductionHypothesis =>
      cases x with
      | pair a b =>
          have below (x : Element _) :
              eval (tower.adjoin radicand origin).root x.monomials =
                lift tower radicand origin (tower.element x) := by
            rw [eval_root_adjoin tower radicand origin x.isReduced.mask_lt, inductionHypothesis]
          rw [Element.monomials_pair, eval_append,
            eval_root_shift tower radicand origin b.isReduced.mask_lt, below, below]
          exact (ofPair_eq tower radicand origin a b).symm

/-- The radicands of a tower as sums of monomials, from the first on. -/
def radicands : {n : Nat} → Tower n → List Monomials
  | _, .base => []
  | _, .adjoin tower radicand _ => tower.radicands ++ [radicand.monomials]

theorem length_radicands (tower : Tower n) : tower.radicands.length = n := by
  induction tower with
  | base => rfl
  | adjoin tower radicand origin inductionHypothesis => simp [radicands, inductionHypothesis]

/-- The radicands of a tower, one by one. -/
theorem radicand_cases
    {tower : Tower n}
    {radicand : Element n}
    {origin : Option Nat}
    {i : Nat}
    {listed : Monomials}
    (found : (tower.adjoin radicand origin).radicands[i]? = some listed) :
    i < n ∧ tower.radicands[i]? = some listed ∨ i = n ∧ listed = radicand.monomials := by
  rw [radicands, List.getElem?_append, length_radicands] at found
  split at found
  · exact .inl ⟨‹_›, found⟩
  · obtain ⟨last, rfl⟩ := List.getElem?_eq_some_iff.mp found
    rw [List.length_singleton] at last
    exact .inr ⟨by omega, by simp⟩

theorem isTower_radicands (tower : Tower n) : IsTower n tower.radicands := by
  refine ⟨length_radicands tower, ?_⟩
  induction tower with
  | base => intro i listed found; simp [radicands] at found
  | adjoin tower radicand origin inductionHypothesis =>
      intro i listed found
      rcases radicand_cases found with ⟨-, found⟩ | ⟨rfl, rfl⟩
      · exact inductionHypothesis i listed found
      · exact ⟨radicand.isReduced.coefficient_ne_zero, radicand.isReduced.mask_lt,
          radicand.isReduced.ascending⟩

/-- The square roots of a tower square to its radicands. -/
theorem squaresTo_radicands (tower : Tower n) : SquaresTo tower.root tower.radicands := by
  induction tower with
  | base => intro i listed found; simp [radicands] at found
  | adjoin tower radicand origin inductionHypothesis =>
      intro i listed found
      rcases radicand_cases found with ⟨below, found⟩ | ⟨rfl, rfl⟩
      · have reduced := ((isTower_radicands tower).reduced i listed found).mono below.le
        rw [root_adjoin_of_lt tower radicand origin below, ← map_mul,
          inductionHypothesis i listed found,
          eval_root_adjoin tower radicand origin reduced.mask_lt]
      · rw [root_adjoin_last, newRoot_mul_newRoot,
          eval_root_adjoin tower radicand origin radicand.isReduced.mask_lt, eval_monomials]

end Tower
end Radical
end FourFours
