import FourFours.Evaluation
import FourFours.Integer.DigitsLemmas
import FourFours.Proofs.Radical.Arithmetic
import Mathlib.Algebra.Order.Floor.Semiring
import Mathlib.Algebra.BigOperators.Group.List.Basic
import Mathlib.Data.Nat.Factorial.Basic

/-!
# The meaning of expressions

The ideal meaning of a tree is a real number, if it has one at all: triangular numbers and
factorials are those of natural numbers, square roots those of nonnegative numbers,
exponents are integers, and nothing is divided by zero. The exact evaluation of a tree is
sound: if it returns a value, the tree has a meaning, and the value stands for it. Only for
a decimal literal with more digits than a scale can count the arithmetic takes another
number, so soundness is first proved of the literals as they are taken.
-/

namespace FourFours

open Radical (Value)

namespace Meaning

/-- The natural number that a real number is, if it is one. -/
noncomputable def natural? (x : ℝ) : Option Nat :=
  if (⌊x⌋₊ : ℝ) = x then some ⌊x⌋₊ else none

/-- The integer that a real number is, if it is one. -/
noncomputable def integer? (x : ℝ) : Option Int :=
  if (⌊x⌋ : ℝ) = x then some ⌊x⌋ else none

@[simp] theorem natural?_natCast (n : Nat) : natural? n = some n := by
  simp [natural?]

@[simp] theorem integer?_intCast (n : Int) : integer? n = some n := by
  simp [integer?]

/-- A power with an integer exponent; zero only has powers with positive exponents. -/
noncomputable def power? (x y : ℝ) : Option ℝ := do
  let e ← integer? y
  if x = 0 ∧ e ≤ 0 then none else some (x ^ e)

end Meaning

/-- The number that a decimal literal denotes, if its `k` digits after the point form the
number `f`: the whole part plus `f / 10 ^ k` if they end, plus `f / (10 ^ k - 1)` if they
repeat. -/
def Decimal.number (d : Decimal) : Rat :=
  (d.whole.getD 0 : Int) + (Nat.ofDigitChars 10 d.fraction 0 : Rat) /
    if d.repeating then 10 ^ d.fraction.length - 1 else 10 ^ d.fraction.length

/-- The meaning of a decimal literal is its number, if there are digits after its point and
nothing else. -/
noncomputable def Decimal.meaning (d : Decimal) : Option ℝ :=
  if d.fraction ≠ [] ∧ d.fraction.all Char.isDigit = true then some d.number else none

/-- The real number that the arithmetic takes a decimal literal for. -/
noncomputable def Decimal.real? (d : Decimal) : Option ℝ :=
  d.value.toOption.map fun q => (q : ℝ)

/-- The meaning of an operation on one number. -/
noncomputable def Unary.meaning : Unary → ℝ → Option ℝ
  | .triangular, x => (Meaning.natural? x).map fun n => (n * (n + 1) / 2 : ℝ)
  | .factorial, x => (Meaning.natural? x).map fun n => (n.factorial : ℝ)
  | .root, x => if 0 ≤ x then some √x else none
  | .negate, x => some (-x)

/-- The meaning of an operation on a list of numbers. A quotient and a power take two. -/
noncomputable def Nary.meaning : Nary → List ℝ → Option ℝ
  | _, [] => none
  | .sum, xs => some xs.sum
  | .product, xs => some xs.prod
  | .quotient, [x, y] => if y = 0 then none else some (x / y)
  | .power, [x, y] => Meaning.power? x y
  | _, _ => none

namespace Expr

/-- What a tree means where its decimal literals mean given numbers, from its leaves
upwards. -/
noncomputable def meaningWith (literal : Decimal → Option ℝ) : Expr → Option ℝ
  | integer n => some n
  | decimal d => literal d
  | unary op x => do op.meaning (← x.meaningWith literal)
  | node op xs => do op.meaning (← meanings xs)
where
  /-- The meanings of several trees, if each has one. -/
  meanings : List Expr → Option (List ℝ)
    | [] => some []
    | x :: xs => do return (← x.meaningWith literal) :: (← meanings xs)

/-- The meaning of a tree. -/
noncomputable def meaning (x : Expr) : Option ℝ :=
  x.meaningWith Decimal.meaning

/-- The decimal literals of a tree. -/
def decimals : Expr → List Decimal
  | integer _ => []
  | decimal d => [d]
  | unary _ x => x.decimals
  | node _ xs => decimalsOf xs
where
  /-- The decimal literals of several trees. -/
  decimalsOf : List Expr → List Decimal
    | [] => []
    | x :: xs => x.decimals ++ decimalsOf xs

end Expr

namespace Decimal

variable {d : Decimal}

/-- A literal of digits is taken for its number as long as a scale can count them. -/
theorem value_eq_number
    (nonempty : d.fraction ≠ [])
    (digits : d.fraction.all Char.isDigit = true)
    (short : d.fraction.length < 2 ^ 32) :
    d.value = .ok d.number := by
  have positive : 0 < d.fraction.length := List.length_pos_iff.mpr nonempty
  have large : 10 ≤ 10 ^ d.fraction.length := Nat.le_self_pow positive.ne' 10
  have denominator : (if d.repeating then 10 ^ d.fraction.length - 1
      else 10 ^ d.fraction.length) ≠ 0 := by
    split <;> omega
  have cast : ((if d.repeating then 10 ^ d.fraction.length - 1
      else 10 ^ d.fraction.length : Nat) : Rat) =
      if d.repeating then 10 ^ d.fraction.length - 1 else 10 ^ d.fraction.length := by
    split
    · rw [Nat.cast_sub (by omega), Nat.cast_pow]
      rfl
    · rw [Nat.cast_pow]
      rfl
  rw [value, if_neg (by simp [nonempty, digits])]
  simp only [Integer.scaleUnit_of_lt short, if_neg denominator]
  rw [Rat.mkRat_eq_div, cast, number, add_comm, Int.cast_natCast]

/-- The arithmetic gives a literal its meaning as long as a scale can count its digits. -/
theorem real?_eq_meaning (short : d.fraction.length < 2 ^ 32) : d.real? = d.meaning := by
  by_cases wellFormed : d.fraction ≠ [] ∧ d.fraction.all Char.isDigit = true
  · rw [real?, value_eq_number wellFormed.1 wellFormed.2 short, meaning, if_pos wellFormed]
    rfl
  · have malformed : (d.fraction.isEmpty || !d.fraction.all Char.isDigit) = true := by
      by_contra wellFormed'
      simp only [Bool.or_eq_true, not_or, List.isEmpty_iff, Bool.not_eq_true',
        Bool.not_eq_false] at wellFormed'
      exact wellFormed wellFormed'
    rw [real?, value, if_pos malformed, meaning, if_neg wellFormed]
    rfl

end Decimal

theorem factorial_eq (n : Nat) : factorial n = n.factorial := by
  induction n with
  | zero => rfl
  | succ n inductionHypothesis => rw [factorial, inductionHypothesis, Nat.factorial_succ]

theorem real_of_naturalOperand
    {op : Unary}
    {limit n : Nat}
    {v : Value}
    (operand : naturalOperand op limit v = .ok n) :
    v.real = n := by
  unfold naturalOperand at operand
  split at operand
  · rename_i k read
    split at operand
    · simp at operand
    · rw [Except.ok.injEq] at operand
      rw [Value.real_of_integer? read, ← operand]
      simp
  · simp at operand

/-- An operation on one value computes its meaning. -/
theorem Unary.meaning_of_apply
    {settings : Settings}
    {op : Unary}
    {v u : Value}
    (normal : v.IsNormal)
    (applied : op.apply settings v = .ok u) :
    u.IsNormal ∧ op.meaning v.real = some u.real := by
  cases op with
  | triangular =>
      rw [Unary.apply, triangularOf, bind_eq_ok_iff] at applied
      obtain ⟨n, operand, applied⟩ := applied
      rw [pure_eq_ok_iff] at applied
      subst applied
      refine ⟨Value.isNormal_ofRat _, ?_⟩
      rw [real_of_naturalOperand operand]
      have even : (2 : Int) ∣ n * (n + 1) := Int.even_mul_succ_self n |>.two_dvd
      simp [Unary.meaning, Value.ofInt, Int.cast_div even]
  | factorial =>
      rw [Unary.apply, factorialOf, bind_eq_ok_iff] at applied
      obtain ⟨n, operand, applied⟩ := applied
      split at applied
      · rw [pure_eq_ok_iff] at applied
        subst applied
        refine ⟨Value.isNormal_ofRat _, ?_⟩
        rw [real_of_naturalOperand operand]
        simp [Unary.meaning, Value.ofInt, factorial_eq]
      · contradiction
  | root =>
      obtain ⟨normalRoot, nonnegative, real⟩ := normal.sqrt applied
      exact ⟨normalRoot, by rw [Unary.meaning, if_pos nonnegative, real]⟩
  | negate =>
      rw [Unary.apply, Except.ok.injEq] at applied
      obtain ⟨normalNeg, real⟩ := normal.neg
      subst applied
      exact ⟨normalNeg, by rw [Unary.meaning, real]⟩

/-- A power of two values computes its meaning. -/
theorem power?_of_powerOf
    {settings : Settings}
    {base exponent u : Value}
    (normal : base.IsNormal)
    (raised : powerOf settings base exponent = .ok u) :
    u.IsNormal ∧ Meaning.power? base.real exponent.real = some u.real := by
  unfold powerOf at raised
  split at raised
  · simp at raised
  · rename_i e read
    split at raised
    · simp at raised
    · split at raised
      · simp at raised
      · obtain ⟨normalPower, positive, real⟩ := normal.pow raised
        refine ⟨normalPower, ?_⟩
        have defined : ¬(base.real = 0 ∧ e ≤ 0) := by
          rintro ⟨zero, nonpositive⟩
          exact absurd (positive zero) (not_lt.mpr nonpositive)
        rw [Meaning.power?, Value.real_of_integer? read, Meaning.integer?_intCast,
          Option.bind_eq_bind, Option.bind_some, if_neg defined, real]

namespace Expr

/-- Induction over trees, with the hypothesis for every operand of a node. -/
theorem induction
    {motive : Expr → Prop}
    (integer : ∀ n, motive (.integer n))
    (decimal : ∀ d, motive (.decimal d))
    (unary : ∀ op x, motive x → motive (.unary op x))
    (node : ∀ op xs, (∀ x ∈ xs, motive x) → motive (.node op xs)) :
    (x : Expr) → motive x
  | .integer n => integer n
  | .decimal d => decimal d
  | .unary op x => unary op x (induction integer decimal unary node x)
  | .node op xs => node op xs fun x _ => induction integer decimal unary node x

variable {literal literal' : Decimal → Option ℝ} {settings : Settings}

theorem meanings_cons (x : Expr) (xs : List Expr) :
    meaningWith.meanings literal (x :: xs) =
      Option.map₂ List.cons (x.meaningWith literal) (meaningWith.meanings literal xs) := by
  rw [meaningWith.meanings]
  cases x.meaningWith literal <;> cases meaningWith.meanings literal xs <;> rfl

theorem map_sum_meanings (x : Expr) (xs : List Expr) :
    (meaningWith.meanings literal (x :: xs)).map List.sum =
      Option.map₂ (· + ·) (x.meaningWith literal)
        ((meaningWith.meanings literal xs).map List.sum) := by
  rw [meanings_cons]
  cases x.meaningWith literal <;> cases meaningWith.meanings literal xs <;> simp

theorem map_prod_meanings (x : Expr) (xs : List Expr) :
    (meaningWith.meanings literal (x :: xs)).map List.prod =
      Option.map₂ (· * ·) (x.meaningWith literal)
        ((meaningWith.meanings literal xs).map List.prod) := by
  rw [meanings_cons]
  cases x.meaningWith literal <;> cases meaningWith.meanings literal xs <;> simp

theorem meaningWith_sum (x : Expr) (xs : List Expr) :
    (node .sum (x :: xs)).meaningWith literal =
      (meaningWith.meanings literal (x :: xs)).map List.sum := by
  rw [meaningWith, meanings_cons]
  cases x.meaningWith literal <;> cases meaningWith.meanings literal xs <;> rfl

theorem meaningWith_product (x : Expr) (xs : List Expr) :
    (node .product (x :: xs)).meaningWith literal =
      (meaningWith.meanings literal (x :: xs)).map List.prod := by
  rw [meaningWith, meanings_cons]
  cases x.meaningWith literal <;> cases meaningWith.meanings literal xs <;> rfl

theorem meaningWith_pair (op : Nary) (x y : Expr) :
    (node op [x, y]).meaningWith literal =
      (x.meaningWith literal).bind fun a => (y.meaningWith literal).bind fun b =>
        op.meaning [a, b] := by
  simp only [meaningWith, meaningWith.meanings]
  cases x.meaningWith literal <;> cases y.meaningWith literal <;> rfl

theorem meaningWith_negate (x : Expr) :
    (unary .negate x).meaningWith literal = (x.meaningWith literal).map (- ·) := by
  rw [meaningWith]
  cases x.meaningWith literal <;> rfl

theorem mem_decimalsOf {d : Decimal} {xs : List Expr} :
    d ∈ decimals.decimalsOf xs ↔ ∃ x ∈ xs, d ∈ x.decimals := by
  induction xs with
  | nil => simp [decimals.decimalsOf]
  | cons x xs inductionHypothesis => simp [decimals.decimalsOf, inductionHypothesis]

theorem meanings_congr
    {xs : List Expr}
    (agree : ∀ x ∈ xs, x.meaningWith literal = x.meaningWith literal') :
    meaningWith.meanings literal xs = meaningWith.meanings literal' xs := by
  induction xs with
  | nil => rfl
  | cons x xs inductionHypothesis =>
      obtain ⟨first, rest⟩ := List.forall_mem_cons.mp agree
      rw [meanings_cons, meanings_cons, first, inductionHypothesis rest]

/-- Two ways to take literals give a tree one meaning if they agree on its literals. -/
theorem meaningWith_congr {x : Expr} (agree : ∀ d ∈ x.decimals, literal d = literal' d) :
    x.meaningWith literal = x.meaningWith literal' := by
  induction x using Expr.induction with
  | integer n => rfl
  | decimal d => exact agree d List.mem_cons_self
  | unary op x inductionHypothesis =>
      rw [meaningWith, meaningWith, inductionHypothesis agree]
  | node op xs inductionHypothesis =>
      have operands : meaningWith.meanings literal xs = meaningWith.meanings literal' xs :=
        meanings_congr fun x member => inductionHypothesis x member fun d among =>
          agree d (mem_decimalsOf.mpr ⟨x, member, among⟩)
      rw [meaningWith, meaningWith, operands]

/-- As long as a scale can count the digits of all literals, the arithmetic takes them for
what they mean. -/
theorem meaningWith_real?
    {x : Expr}
    (short : ∀ d ∈ x.decimals, d.fraction.length < 2 ^ 32) :
    x.meaningWith Decimal.real? = x.meaning :=
  meaningWith_congr fun d member => Decimal.real?_eq_meaning (short d member)

/-- Evaluation of a tree, if it has a result, computes its meaning, with the literals as
the arithmetic takes them. -/
def IsSound (settings : Settings) (x : Expr) : Prop :=
  ∀ v, x.value settings = .ok v →
    v.IsNormal ∧ x.meaningWith Decimal.real? = some v.real

/-- Values combined one after another have the meaning of the combined numbers, if every
step does. Sums and products of trees are of this form. -/
theorem accumulated
    {combine : Value → Value → Except Fault Value}
    (op : ℝ → ℝ → ℝ)
    (step : ∀ {v w u : Value}, v.IsNormal → w.IsNormal → combine v w = .ok u →
      u.IsNormal ∧ u.real = op v.real w.real)
    (all : Value → List Expr → Except Fault Value)
    (all_nil : ∀ total, all total [] = .ok total)
    (all_cons : ∀ total x xs, all total (x :: xs) =
      x.value settings >>= fun v => combine total v >>= fun next => all next xs)
    {xs : List Expr}
    (sound : ∀ x ∈ xs, x.IsSound settings)
    {total v : Value}
    (normal : total.IsNormal)
    (valued : all total xs = .ok v) :
    v.IsNormal ∧ ∃ numbers, meaningWith.meanings Decimal.real? xs = some numbers ∧
      v.real = numbers.foldl op total.real := by
  induction xs generalizing total with
  | nil =>
      rw [all_nil, Except.ok.injEq] at valued
      exact ⟨valued ▸ normal, [], rfl, by rw [valued, List.foldl_nil]⟩
  | cons x xs inductionHypothesis =>
      rw [List.forall_mem_cons] at sound
      rw [all_cons, bind_eq_ok_iff] at valued
      obtain ⟨w, first, valued⟩ := valued
      rw [bind_eq_ok_iff] at valued
      obtain ⟨next, combined, valued⟩ := valued
      obtain ⟨normalFirst, meaningFirst⟩ := sound.1 w first
      obtain ⟨normalNext, realNext⟩ := step normal normalFirst combined
      obtain ⟨normalAll, numbers, meanings, real⟩ :=
        inductionHypothesis sound.2 normalNext valued
      refine ⟨normalAll, w.real :: numbers, ?_, ?_⟩
      · simp [meanings_cons, meaningFirst, meanings]
      · rw [real, realNext, List.foldl_cons]

theorem isSound_sum {xs : List Expr} (sound : ∀ x ∈ xs, x.IsSound settings) :
    (node .sum xs).IsSound settings := by
  intro v valued
  cases xs with
  | nil => contradiction
  | cons x xs =>
      obtain ⟨normal, numbers, meanings, real⟩ := accumulated (· + ·) Value.IsNormal.add
        (value.addAll settings) (fun _ => rfl) (fun _ _ _ => rfl) sound
        (Value.isNormal_ofRat 0) valued
      refine ⟨normal, ?_⟩
      rw [Value.real_ofRat, Rat.cast_zero, ← List.sum_eq_foldl] at real
      rw [meaningWith_sum, meanings, real]
      rfl

theorem isSound_product {xs : List Expr} (sound : ∀ x ∈ xs, x.IsSound settings) :
    (node .product xs).IsSound settings := by
  intro v valued
  cases xs with
  | nil => contradiction
  | cons x xs =>
      obtain ⟨normal, numbers, meanings, real⟩ := accumulated (· * ·) Value.IsNormal.mul
        (value.multiplyAll settings) (fun _ => rfl) (fun _ _ _ => rfl) sound
        (Value.isNormal_ofRat 1) valued
      refine ⟨normal, ?_⟩
      rw [Value.real_ofRat, Rat.cast_one, ← List.prod_eq_foldl] at real
      rw [meaningWith_product, meanings, real]
      rfl

/-- An operation with two operands combines two normal values with the meanings of the
operands. -/
theorem exists_operands
    {x y : Expr}
    (sound : ∀ operand ∈ [x, y], operand.IsSound settings)
    {combine : Value → Value → Except Fault Value}
    {v : Value}
    (valued : (x.value settings >>= fun left => y.value settings >>= combine left) = .ok v) :
    ∃ left right : Value, left.IsNormal ∧ right.IsNormal ∧
      x.meaningWith Decimal.real? = some left.real ∧
        y.meaningWith Decimal.real? = some right.real ∧ combine left right = .ok v := by
  simp only [List.forall_mem_cons] at sound
  obtain ⟨soundLeft, soundRight, _⟩ := sound
  rw [bind_eq_ok_iff] at valued
  obtain ⟨left, first, valued⟩ := valued
  rw [bind_eq_ok_iff] at valued
  obtain ⟨right, second, combined⟩ := valued
  obtain ⟨normalLeft, meaningLeft⟩ := soundLeft left first
  obtain ⟨normalRight, meaningRight⟩ := soundRight right second
  exact ⟨left, right, normalLeft, normalRight, meaningLeft, meaningRight, combined⟩

theorem isSound_quotient {xs : List Expr} (sound : ∀ x ∈ xs, x.IsSound settings) :
    (node .quotient xs).IsSound settings := by
  intro v valued
  match xs with
  | [] | [_] | _ :: _ :: _ :: _ => contradiction
  | [x, y] =>
      rw [value] at valued
      obtain ⟨left, right, normalLeft, normalRight, numerator, denominator, divided⟩ :=
        exists_operands sound valued
      obtain ⟨normal, nonzero, real⟩ := normalLeft.div normalRight divided
      refine ⟨normal, ?_⟩
      rw [meaningWith_pair, numerator, denominator, Option.bind_some, Option.bind_some,
        Nary.meaning, if_neg nonzero, real]

theorem isSound_power {xs : List Expr} (sound : ∀ x ∈ xs, x.IsSound settings) :
    (node .power xs).IsSound settings := by
  intro v valued
  match xs with
  | [] | [_] | _ :: _ :: _ :: _ => contradiction
  | [x, y] =>
      rw [value] at valued
      obtain ⟨base, exponent, normalBase, _, meaningBase, meaningExponent, raised⟩ :=
        exists_operands sound valued
      obtain ⟨normal, power⟩ := power?_of_powerOf normalBase raised
      refine ⟨normal, ?_⟩
      rw [meaningWith_pair, meaningBase, meaningExponent, Option.bind_some, Option.bind_some,
        Nary.meaning, power]

/-- Evaluation is sound for every tree. -/
theorem isSound (settings : Settings) (x : Expr) : x.IsSound settings := by
  induction x using Expr.induction with
  | integer n =>
      intro v valued
      rw [value, Except.ok.injEq] at valued
      subst valued
      exact ⟨Value.isNormal_ofRat n, by simp [meaningWith, Value.ofInt]⟩
  | decimal d =>
      intro v valued
      rw [value] at valued
      cases read : d.value with
      | error fault => simp [read, Except.map] at valued
      | ok q =>
          rw [read, Except.map, Except.ok.injEq] at valued
          subst valued
          refine ⟨Value.isNormal_ofRat q, ?_⟩
          rw [meaningWith, Decimal.real?, read, Value.real_ofRat]
          rfl
  | unary op x inductionHypothesis =>
      intro v valued
      rw [value, bind_eq_ok_iff] at valued
      obtain ⟨operand, valuedOperand, applied⟩ := valued
      obtain ⟨normalOperand, meaningOperand⟩ := inductionHypothesis operand valuedOperand
      obtain ⟨normal, result⟩ := Unary.meaning_of_apply normalOperand applied
      refine ⟨normal, ?_⟩
      rw [meaningWith, meaningOperand, Option.bind_eq_bind, Option.bind_some, result]
  | node op xs inductionHypothesis =>
      cases op with
      | sum => exact isSound_sum inductionHypothesis
      | product => exact isSound_product inductionHypothesis
      | quotient => exact isSound_quotient inductionHypothesis
      | power => exact isSound_power inductionHypothesis

/-- If the evaluation of a tree returns a value, the tree has a meaning, and it is the
real number that the value stands for. Only literals with `2 ^ 32` digits behind the point
or more are left out, which a scale cannot count. -/
theorem meaning_eq_of_value
    {settings : Settings}
    {x : Expr}
    {v : Value}
    (short : ∀ d ∈ x.decimals, d.fraction.length < 2 ^ 32)
    (valued : x.value settings = .ok v) :
    x.meaning = some v.real := by
  rw [← meaningWith_real? short]
  exact (isSound settings x v valued).2

/-- The square of the square root of two, and 1.5. -/
def squareOfRoot : Expr :=
  node .sum [node .power [unary .root (integer 2), integer 2], decimal ⟨some 1, ['5'], false⟩]

theorem value_squareOfRoot : squareOfRoot.value .standard = .ok (.ofRat (7 / 2)) := by
  have root : (unary .root (integer 2)).value .standard = .ok Value.sqrtTwo :=
    Value.sqrtRat_two
  have exponent : (Value.ofInt 2).integer? = some 2 := by cbv
  have digits : digitCount 2 = 1 := by cbv
  have size : powerSize Value.sqrtTwo 2 = 4 := by rfl
  have fits : fitsExponent 2 = true := by rfl
  have square : Value.sqrtTwo.pow 2 = .ok (.ofInt 2) := by cbv
  have power : (node .power [unary .root (integer 2), integer 2]).value .standard =
      .ok (.ofRat 2) := by
    rw [value, root]
    simp only [value, bind, Except.bind, powerOf, exponent]
    simp [digits, size, fits, square, Settings.standard, Value.ofInt]
  have half : (Decimal.mk (some 1) ['5'] false).value = .ok (3 / 2) := by
    rw [Decimal.value_eq_number (by simp) (by simp) (by simp)]
    have five : Nat.ofDigitChars 10 ['5'] 0 = 5 := rfl
    norm_num [Decimal.number, five]
  have first : Value.zero.add (.ofRat 2) = .ok (.ofRat 2) := by cbv
  have sum : (2 : Rat) + 3 / 2 = 7 / 2 := by norm_num
  rw [squareOfRoot, value, power]
  simp only [bind, Except.bind, first, value.addAll, value, half, Except.map, Value.add_ofRat, sum]

theorem meaning_squareOfRoot :
    (∀ d ∈ squareOfRoot.decimals, d.fraction.length < 2 ^ 32) ∧
      squareOfRoot.value .standard = .ok (.ofRat (7 / 2)) ∧
      squareOfRoot.meaning = some (Value.ofRat (7 / 2)).real := by
  have short : ∀ d ∈ squareOfRoot.decimals, d.fraction.length < 2 ^ 32 := by
    simp [squareOfRoot, decimals, decimals.decimalsOf]
  exact ⟨short, value_squareOfRoot, meaning_eq_of_value short value_squareOfRoot⟩

end Expr

namespace Decimal

/-- The literal `0.0…04` with some zeros behind its point. -/
def fourBehind (zeros : Nat) : Decimal :=
  ⟨some 0, List.replicate zeros '0' ++ ['4'], false⟩

theorem all_isDigit_fourBehind (zeros : Nat) :
    (fourBehind zeros).fraction.all Char.isDigit = true := by
  simp [fourBehind]

theorem ofDigitChars_fourBehind (zeros : Nat) :
    Nat.ofDigitChars 10 (fourBehind zeros).fraction 0 = 4 := by
  rw [fourBehind, Nat.ofDigitChars_append, Nat.ofDigitChars_replicate_zero, Nat.mul_zero]
  rfl

theorem length_fourBehind (zeros : Nat) : (fourBehind zeros).fraction.length = zeros + 1 := by
  simp [fourBehind]

theorem meaning_fourBehind (zeros : Nat) :
    (fourBehind zeros).meaning = some (4 / 10 ^ (zeros + 1)) := by
  have nonempty : (fourBehind zeros).fraction ≠ [] := by simp [fourBehind]
  rw [meaning, if_pos ⟨nonempty, all_isDigit_fourBehind zeros⟩, number, ofDigitChars_fourBehind,
    length_fourBehind]
  simp [fourBehind]

/-- A scale counts the digits of a literal modulo `2 ^ 32`, so with one zero less than that
the 4 stands right in front of the point. -/
theorem value_fourBehind : (fourBehind (2 ^ 32 - 1)).value = .ok 4 := by
  have unit : Integer.scaleUnit (2 ^ 32 - 1 + 1) = 1 := by decide
  have nonempty : (fourBehind (2 ^ 32 - 1)).fraction.isEmpty = false := by
    rw [List.isEmpty_eq_false_iff, ← List.length_pos_iff, length_fourBehind]
    omega
  have ends : (fourBehind (2 ^ 32 - 1)).repeating = false := rfl
  have whole : (fourBehind (2 ^ 32 - 1)).whole.getD 0 = 0 := rfl
  rw [value, nonempty, all_isDigit_fourBehind, if_neg (by decide)]
  simp only [length_fourBehind, unit, ofDigitChars_fourBehind, ends, whole,
    if_neg Bool.false_ne_true, if_neg one_ne_zero, Rat.mkRat_eq_div]
  norm_num

end Decimal

namespace Expr

/-- The value of a literal with `2 ^ 32` digits after its point is not its meaning. -/
theorem value_fourBehind_wraps :
    (decimal (.fourBehind (2 ^ 32 - 1))).value .standard = .ok (.ofInt 4) ∧
      (decimal (.fourBehind (2 ^ 32 - 1))).meaning ≠ some (Value.ofInt 4).real := by
  constructor
  · rw [value, Decimal.value_fourBehind]
    rfl
  · have large : (1 : ℝ) < 10 ^ (2 ^ 32 - 1 + 1) := one_lt_pow₀ (by norm_num) (by omega)
    have four : (Value.ofInt 4).real = 4 := by simp [Value.ofInt]
    rw [meaning, meaningWith, Decimal.meaning_fourBehind, four, Ne, Option.some.injEq]
    generalize (10 : ℝ) ^ (2 ^ 32 - 1 + 1) = unit at large
    exact ((div_lt_self (by norm_num) large).ne)

end Expr
end FourFours
