import FourFours.Proofs.Meaning
import FourFours.Proofs.Radical.Failure

/-!
# Why a tree has no value

A tree is refused for a reason that can be found in it: an operation in it breaks a rule of
arithmetic on the meanings of its operands, its numbers are too large for the settings, a
node of it is malformed, or a limit of the arithmetic is met. In particular no tree that
has a meaning is refused for breaking a rule, if a scale can count the digits of its decimal
literals.
-/

namespace FourFours

open Radical (Value fail_eq_error_iff)

/-! ## Broken rules -/

/-- The faults that tell of a broken rule of arithmetic. -/
def EvaluationFault.rules : List EvaluationFault :=
  [.divisionByZero, .zeroToZero, .negativeRoot, .notNatural .triangular,
    .notNatural .factorial, .exponentNotInteger]

example : EvaluationFault.rules.map EvaluationFault.message =
    ["division by zero", "zero to the power of zero is undefined",
      "square root of a negative number", "operand of S must be a non-negative integer",
      "operand of ! must be a non-negative integer", "exponent must be an integer"] := by
  decide

/-- The rules that an operation on one number breaks. -/
inductive Unary.Breaks : Unary → ℝ → EvaluationFault → Prop
  | triangular {x : ℝ} : (∀ n : Nat, x ≠ n) → Breaks .triangular x (.notNatural .triangular)
  | factorial {x : ℝ} : (∀ n : Nat, x ≠ n) → Breaks .factorial x (.notNatural .factorial)
  | root {x : ℝ} : x < 0 → Breaks .root x .negativeRoot

/-- The rules that an operation on a list of numbers breaks. -/
inductive Nary.Breaks : Nary → List ℝ → EvaluationFault → Prop
  | quotient (x : ℝ) : Breaks .quotient [x, 0] .divisionByZero
  /-- A negative power is a quotient with a power as divisor. -/
  | negativePower {e : Int} : e < 0 → Breaks .power [0, e] .divisionByZero
  | zeroToZero : Breaks .power [0, 0] .zeroToZero
  | exponent (x : ℝ) {y : ℝ} : (∀ e : Int, y ≠ e) → Breaks .power [x, y] .exponentNotInteger

namespace Meaning

theorem natural?_eq_none {x : ℝ} (fractional : ∀ n : Nat, x ≠ n) : natural? x = none :=
  if_neg fun whole => fractional _ whole.symm

theorem integer?_eq_none {x : ℝ} (fractional : ∀ n : Int, x ≠ n) : integer? x = none :=
  if_neg fun whole => fractional _ whole.symm

/-- Zero has no power with an exponent that is not positive. -/
theorem power?_zero {e : Int} (nonpositive : e ≤ 0) : power? 0 e = none := by
  rw [power?, integer?_intCast, Option.bind_eq_bind, Option.bind_some, if_pos ⟨rfl, nonpositive⟩]

end Meaning

/-- An operation that breaks a rule has no meaning. -/
theorem Unary.Breaks.meaning_eq_none
    {op : Unary}
    {x : ℝ}
    {cause : EvaluationFault}
    (breaks : op.Breaks x cause) :
    op.meaning x = none := by
  cases breaks with
  | triangular fractional | factorial fractional =>
      rw [Unary.meaning, Meaning.natural?_eq_none fractional]
      rfl
  | root negative => exact if_neg (not_le.mpr negative)

theorem Nary.Breaks.meaning_eq_none
    {op : Nary}
    {xs : List ℝ}
    {cause : EvaluationFault}
    (breaks : op.Breaks xs cause) :
    op.meaning xs = none := by
  cases breaks with
  | quotient x => exact if_pos rfl
  | negativePower negative => exact Meaning.power?_zero negative.le
  | zeroToZero => simpa [Nary.meaning] using Meaning.power?_zero le_rfl
  | exponent x fractional =>
      rw [Nary.meaning, Meaning.power?, Meaning.integer?_eq_none fractional]
      rfl

namespace Expr

variable {literal literal' : Decimal → Option ℝ}

/-- Somewhere in a tree, an operation breaks a rule on the meanings of its operands, where
the literals mean given numbers. -/
inductive Breaks (literal : Decimal → Option ℝ) : Expr → EvaluationFault → Prop
  | unary {op : Unary} {x : Expr} {number : ℝ} {cause : EvaluationFault} :
      x.meaningWith literal = some number → op.Breaks number cause →
      Breaks literal (.unary op x) cause
  | node {op : Nary} {xs : List Expr} {numbers : List ℝ} {cause : EvaluationFault} :
      meaningWith.meanings literal xs = some numbers → op.Breaks numbers cause →
      Breaks literal (.node op xs) cause
  | operand {op : Unary} {x : Expr} {cause : EvaluationFault} :
      Breaks literal x cause → Breaks literal (.unary op x) cause
  | operands {op : Nary} {x : Expr} {xs : List Expr} {cause : EvaluationFault} :
      x ∈ xs → Breaks literal x cause → Breaks literal (.node op xs) cause

theorem meanings_eq_none
    {x : Expr}
    {xs : List Expr}
    (member : x ∈ xs)
    (undefined : x.meaningWith literal = none) :
    meaningWith.meanings literal xs = none := by
  induction member with
  | head xs => rw [meanings_cons, undefined, Option.map₂_none_left]
  | tail y _ inductionHypothesis =>
      rw [meanings_cons, inductionHypothesis, Option.map₂_none_right]

/-- A tree in which a rule is broken has no meaning. -/
theorem Breaks.meaning_eq_none
    {x : Expr}
    {cause : EvaluationFault}
    (breaks : x.Breaks literal cause) :
    x.meaningWith literal = none := by
  induction breaks with
  | unary number broken =>
      rw [meaningWith, number, Option.bind_eq_bind, Option.bind_some, broken.meaning_eq_none]
  | node numbers broken =>
      rw [meaningWith, numbers, Option.bind_eq_bind, Option.bind_some, broken.meaning_eq_none]
  | operand _ inductionHypothesis =>
      rw [meaningWith, inductionHypothesis]
      rfl
  | operands member _ inductionHypothesis =>
      rw [meaningWith, meanings_eq_none member inductionHypothesis]
      rfl

/-- Two ways to take literals break the same rules in a tree if they agree on its
literals. -/
theorem Breaks.congr
    {x : Expr}
    {cause : EvaluationFault}
    (breaks : x.Breaks literal cause)
    (agree : ∀ d ∈ x.decimals, literal d = literal' d) :
    x.Breaks literal' cause := by
  induction breaks with
  | @unary op x _ _ number broken =>
      have same : x.meaningWith literal = x.meaningWith literal' := meaningWith_congr agree
      exact .unary (same ▸ number) broken
  | node numbers broken =>
      refine .node ?_ broken
      rw [← numbers]
      exact (meanings_congr fun x member => meaningWith_congr fun d among =>
        agree d (mem_decimalsOf.mpr ⟨x, member, among⟩)).symm
  | operand _ inductionHypothesis => exact .operand (inductionHypothesis agree)
  | operands member _ inductionHypothesis =>
      exact .operands member (inductionHypothesis fun d among =>
        agree d (mem_decimalsOf.mpr ⟨_, member, among⟩))

end Expr

section Operations

variable (settings : Settings)

/-- Why an operation on one number is refused. -/
inductive Unary.Refuses : Unary → ℝ → Fault → Prop
  | rule {op : Unary} {x : ℝ} {cause : EvaluationFault} :
      op.Breaks x cause → Refuses op x (.inEvaluation cause)
  | triangularTooLarge {n : Nat} : settings.triangularDigits < digitCount n →
      Refuses .triangular n (.inEvaluation (.operandTooLarge .triangular))
  | factorialTooLarge {n : Nat} : settings.factorialDigits < digitCount n →
      Refuses .factorial n (.inEvaluation (.operandTooLarge .factorial))
  /-- The digits of the operand are within the settings, but it exceeds 64 bits. -/
  | factorialOutOfRange {n : Nat} : digitCount n ≤ settings.factorialDigits → 2 ^ 64 ≤ n →
      Refuses .factorial n (.internal (.factorialRange n))

/-- Why an operation on a list of numbers is refused. -/
inductive Nary.Refuses : Nary → List ℝ → Fault → Prop
  | rule {op : Nary} {xs : List ℝ} {cause : EvaluationFault} :
      op.Breaks xs cause → Refuses op xs (.inEvaluation cause)
  | exponentTooLarge (x : ℝ) {e : Int} :
      settings.exponentDigits < digitCount e.natAbs ∨ fitsExponent e = false →
      Refuses .power [x, e] (.inEvaluation .exponentTooLarge)
  | resultTooLarge {x : ℝ} (e : Int) : (∀ n : Int, n.natAbs ≤ 1 → x ≠ n) →
      Refuses .power [x, e] (.inEvaluation .resultTooLarge)

variable {settings : Settings} {fault : Fault}

/-- An operand is refused if it is no natural number or has too many digits. -/
theorem naturalOperand_eq_error
    {op : Unary}
    {limit : Nat}
    {v : Value}
    (normal : v.IsNormal)
    (failed : naturalOperand op limit v = .error fault) :
    (∀ n : Nat, v.real ≠ n) ∧ fault = .inEvaluation (.notNatural op) ∨
      ∃ n : Nat, v.real = n ∧ limit < digitCount n ∧
        fault = .inEvaluation (.operandTooLarge op) := by
  unfold naturalOperand at failed
  split at failed
  · rename_i n read
    split at failed
    · rename_i long
      rw [fail_eq_error_iff] at failed
      refine .inr ⟨n, ?_, long, failed.symm⟩
      rw [Value.real_of_integer? read, Int.ofNat_eq_natCast, Int.cast_natCast]
    · contradiction
  · rename_i unnatural
    rw [fail_eq_error_iff] at failed
    refine .inl ⟨fun n equal => ?_, failed.symm⟩
    apply unnatural n
    rw [normal.integer?_eq_some_iff, equal, Int.ofNat_eq_natCast, Int.cast_natCast]

theorem digitCount_le_of_naturalOperand
    {op : Unary}
    {limit n : Nat}
    {v : Value}
    (operand : naturalOperand op limit v = .ok n) :
    digitCount n ≤ limit := by
  unfold naturalOperand at operand
  split at operand
  · split at operand
    · simp at operand
    · rename_i short
      rw [Except.ok.injEq] at operand
      exact operand ▸ Nat.not_lt.mp short
  · simp at operand

/-- An operation on one value fails for a reason, or at a limit of the arithmetic. -/
theorem Unary.refuses_of_apply
    {op : Unary}
    {v : Value}
    (normal : v.IsNormal)
    (failed : op.apply settings v = .error fault) :
    op.Refuses settings v.real fault ∨ fault.IsLimit := by
  cases op with
  | triangular =>
      rw [Unary.apply, triangularOf] at failed
      rcases bind_eq_error_iff.mp failed with failed | ⟨n, _, computed⟩
      · rcases naturalOperand_eq_error normal failed with
          ⟨unnatural, rfl⟩ | ⟨n, equal, long, rfl⟩
        · exact .inl (.rule (.triangular unnatural))
        · exact .inl (equal ▸ .triangularTooLarge long)
      · simp at computed
  | factorial =>
      rw [Unary.apply, factorialOf] at failed
      rcases bind_eq_error_iff.mp failed with failed | ⟨n, operand, computed⟩
      · rcases naturalOperand_eq_error normal failed with
          ⟨unnatural, rfl⟩ | ⟨n, equal, long, rfl⟩
        · exact .inl (.rule (.factorial unnatural))
        · exact .inl (equal ▸ .factorialTooLarge long)
      · split at computed
        · simp at computed
        · rename_i large
          rw [Except.error.injEq] at computed
          rw [real_of_naturalOperand operand, ← computed]
          exact .inl (.factorialOutOfRange (digitCount_le_of_naturalOperand operand)
            (Nat.not_lt.mp large))
  | root =>
      rcases Value.sqrt_eq_error failed with ⟨negative, rfl⟩ | limit
      · exact .inl (.rule (.root negative))
      · exact .inr limit
  | negate => contradiction

/-- A power of two values fails for a reason. -/
theorem refuses_of_powerOf
    {base exponent : Value}
    (normalBase : base.IsNormal)
    (normalExponent : exponent.IsNormal)
    (failed : powerOf settings base exponent = .error fault) :
    Nary.power.Refuses settings [base.real, exponent.real] fault := by
  unfold powerOf at failed
  split at failed
  · rename_i fractional
    rw [fail_eq_error_iff] at failed
    rw [← failed]
    refine .rule (.exponent _ fun e equal => ?_)
    rw [← normalExponent.integer?_eq_some_iff, fractional] at equal
    contradiction
  · rename_i e read
    rw [Value.real_of_integer? read]
    split at failed
    · rename_i long
      rw [fail_eq_error_iff] at failed
      rw [← failed]
      exact .exponentTooLarge _ (by simpa using long)
    · split at failed
      · rename_i large
        rw [fail_eq_error_iff] at failed
        rw [← failed]
        refine .resultTooLarge e fun n small equal => ?_
        rw [← normalBase.integer?_eq_some_iff] at equal
        simp [hasSmallPowers, equal, small] at large
      · obtain ⟨zero, ⟨rfl, rfl⟩ | ⟨negative, rfl⟩⟩ := normalBase.pow_eq_error failed
        · rw [zero, Int.cast_zero]
          exact .rule .zeroToZero
        · rw [zero]
          exact .rule (.negativePower negative)

end Operations

/-! ## Trees -/

namespace Expr

/-- Why a tree is refused: the reason stands at the tree itself or at a tree within it. The
operands mean what the arithmetic takes them for. -/
inductive Refused (settings : Settings) : Expr → Fault → Prop
  | limit {x : Expr} {fault : Fault} : fault.IsLimit → Refused settings x fault
  | decimal {d : Decimal} : d.meaning = none →
      Refused settings (.decimal d) (.internal (.badDecimal d))
  /-- A scale counts none of the digits that repeat. -/
  | zeroDenominator {d : Decimal} : d.repeating = true → 2 ^ 32 ∣ d.fraction.length →
      Refused settings (.decimal d) (.breakdown .zeroDenominator)
  | noOperand (op : Nary) : Refused settings (.node op []) (.internal (.noOperand op))
  | operandCount {op : Nary} {xs : List Expr} : op ∈ [.quotient, .power] → xs.length ≠ 2 →
      Refused settings (.node op xs) (.internal (.operandCount op xs.length))
  | unary {op : Unary} {x : Expr} {number : ℝ} {fault : Fault} :
      x.meaningWith Decimal.real? = some number → op.Refuses settings number fault →
      Refused settings (.unary op x) fault
  | node {op : Nary} {xs : List Expr} {numbers : List ℝ} {fault : Fault} :
      meaningWith.meanings Decimal.real? xs = some numbers → op.Refuses settings numbers fault →
      Refused settings (.node op xs) fault
  | operand {op : Unary} {x : Expr} {fault : Fault} :
      Refused settings x fault → Refused settings (.unary op x) fault
  | operands {op : Nary} {x : Expr} {xs : List Expr} {fault : Fault} :
      x ∈ xs → Refused settings x fault → Refused settings (.node op xs) fault

variable {settings : Settings} {fault : Fault}

/-- A literal without a value is malformed, or repeats with no denominator. -/
theorem refused_of_decimal {d : Decimal} (failed : d.value = .error fault) :
    (decimal d).Refused settings fault := by
  unfold Decimal.value at failed
  split at failed
  · rename_i malformed
    rw [← Except.error.inj failed]
    refine .decimal (if_neg ?_)
    rintro ⟨nonempty, digits⟩
    simp [nonempty, digits] at malformed
  · have positive := Integer.scaleUnit_pos d.fraction.length
    cases repeats : d.repeating with
    | false =>
        simp only [repeats, Bool.false_eq_true, if_false, if_neg positive.ne'] at failed
        contradiction
    | true =>
        simp only [repeats, if_true] at failed
        split at failed
        · rename_i zero
          have one : 10 ^ Integer.keptDecimals d.fraction.length = 1 :=
            Nat.le_antisymm (Nat.sub_eq_zero_iff_le.mp zero) positive
          rw [← Except.error.inj failed]
          exact .zeroDenominator repeats
            (Nat.dvd_of_mod_eq_zero ((Nat.pow_eq_one.mp one).resolve_left (by decide)))
        · contradiction

/-- Values combined one after another fail at an operand, or at a limit. -/
theorem operand_or_limit_of_accumulated
    {combine : Value → Value → Except Fault Value}
    (limits : ∀ {v w : Value} {fault : Fault}, combine v w = .error fault → fault.IsLimit)
    (all : Value → List Expr → Except Fault Value)
    (all_nil : ∀ total, all total [] = .ok total)
    (all_cons : ∀ total x xs, all total (x :: xs) =
      x.value settings >>= fun v => combine total v >>= fun next => all next xs)
    {xs : List Expr}
    {total : Value}
    (failed : all total xs = .error fault) :
    (∃ x ∈ xs, x.value settings = .error fault) ∨ fault.IsLimit := by
  induction xs generalizing total with
  | nil =>
      rw [all_nil] at failed
      contradiction
  | cons x xs inductionHypothesis =>
      rw [all_cons] at failed
      rcases bind_eq_error_iff.mp failed with first | ⟨v, _, failed⟩
      · exact .inl ⟨x, List.mem_cons_self, first⟩
      rcases bind_eq_error_iff.mp failed with combined | ⟨next, _, failed⟩
      · exact .inr (limits combined)
      rcases inductionHypothesis failed with ⟨y, member, operand⟩ | limit
      · exact .inl ⟨y, List.mem_cons_of_mem _ member, operand⟩
      · exact .inr limit

/-- A tree is only refused for a reason. -/
def IsRefusable (settings : Settings) (x : Expr) : Prop :=
  ∀ fault, x.value settings = .error fault → x.Refused settings fault

theorem Refused.of_operand_or_limit
    {op : Nary}
    {xs : List Expr}
    (refusable : ∀ x ∈ xs, x.IsRefusable settings)
    (failed : (∃ x ∈ xs, x.value settings = .error fault) ∨ fault.IsLimit) :
    (Expr.node op xs).Refused settings fault := by
  rcases failed with ⟨x, member, operand⟩ | limit
  · exact .operands member (refusable x member fault operand)
  · exact .limit limit

theorem isRefusable_sum {xs : List Expr} (refusable : ∀ x ∈ xs, x.IsRefusable settings) :
    (node .sum xs).IsRefusable settings := by
  intro fault failed
  cases xs with
  | nil => exact Except.error.inj failed ▸ .noOperand .sum
  | cons x xs =>
      exact .of_operand_or_limit refusable (operand_or_limit_of_accumulated Value.isLimit_of_add
        (value.addAll settings) (fun _ => rfl) (fun _ _ _ => rfl) failed)

theorem isRefusable_product {xs : List Expr} (refusable : ∀ x ∈ xs, x.IsRefusable settings) :
    (node .product xs).IsRefusable settings := by
  intro fault failed
  cases xs with
  | nil => exact Except.error.inj failed ▸ .noOperand .product
  | cons x xs =>
      exact .of_operand_or_limit refusable (operand_or_limit_of_accumulated Value.isLimit_of_mul
        (value.multiplyAll settings) (fun _ => rfl) (fun _ _ _ => rfl) failed)

/-- An operation with two operands fails at one of them, or on their values, which are
normal and have the meanings of the operands. -/
theorem operand_or_combine_of_value
    {x y : Expr}
    {combine : Value → Value → Except Fault Value}
    (failed : (x.value settings >>= fun left => y.value settings >>= combine left) =
      .error fault) :
    (∃ operand ∈ [x, y], operand.value settings = .error fault) ∨
      ∃ left right : Value, left.IsNormal ∧ right.IsNormal ∧
        meaningWith.meanings Decimal.real? [x, y] = some [left.real, right.real] ∧
          combine left right = .error fault := by
  rcases bind_eq_error_iff.mp failed with first | ⟨left, valuedLeft, failed⟩
  · exact .inl ⟨x, by simp, first⟩
  rcases bind_eq_error_iff.mp failed with second | ⟨right, valuedRight, combined⟩
  · exact .inl ⟨y, by simp, second⟩
  obtain ⟨normalLeft, meaningLeft⟩ := isSound settings x left valuedLeft
  obtain ⟨normalRight, meaningRight⟩ := isSound settings y right valuedRight
  refine .inr ⟨left, right, normalLeft, normalRight, ?_, combined⟩
  simp [meaningWith.meanings, meaningLeft, meaningRight]

theorem isRefusable_quotient {xs : List Expr} (refusable : ∀ x ∈ xs, x.IsRefusable settings) :
    (node .quotient xs).IsRefusable settings := by
  intro fault failed
  match xs with
  | [] => exact Except.error.inj failed ▸ .noOperand .quotient
  | [_] | _ :: _ :: _ :: _ => exact Except.error.inj failed ▸ .operandCount (by simp) (by simp)
  | [x, y] =>
      rw [value] at failed
      rcases operand_or_combine_of_value failed with
        operand | ⟨left, right, _, normalRight, meanings, divided⟩
      · exact .of_operand_or_limit refusable (.inl operand)
      · rcases normalRight.div_eq_error divided with ⟨zero, rfl⟩ | limit
        · rw [zero] at meanings
          exact .node meanings (.rule (.quotient _))
        · exact .limit limit

theorem isRefusable_power {xs : List Expr} (refusable : ∀ x ∈ xs, x.IsRefusable settings) :
    (node .power xs).IsRefusable settings := by
  intro fault failed
  match xs with
  | [] => exact Except.error.inj failed ▸ .noOperand .power
  | [_] | _ :: _ :: _ :: _ => exact Except.error.inj failed ▸ .operandCount (by simp) (by simp)
  | [x, y] =>
      rw [value] at failed
      rcases operand_or_combine_of_value failed with
        operand | ⟨base, exponent, normalBase, normalExponent, meanings, raised⟩
      · exact .of_operand_or_limit refusable (.inl operand)
      · exact .node meanings (refuses_of_powerOf normalBase normalExponent raised)

/-- Every tree is only refused for a reason. -/
theorem isRefusable (settings : Settings) (x : Expr) : x.IsRefusable settings := by
  induction x using Expr.induction with
  | integer n =>
      intro fault failed
      contradiction
  | decimal d =>
      intro fault failed
      rw [value, map_eq_error_iff] at failed
      exact refused_of_decimal failed
  | unary op x inductionHypothesis =>
      intro fault failed
      rw [value] at failed
      rcases bind_eq_error_iff.mp failed with operand | ⟨v, valued, applied⟩
      · exact .operand (inductionHypothesis fault operand)
      · obtain ⟨normal, number⟩ := isSound settings x v valued
        rcases Unary.refuses_of_apply normal applied with refused | limit
        · exact .unary number refused
        · exact .limit limit
  | node op xs inductionHypothesis =>
      cases op with
      | sum => exact isRefusable_sum inductionHypothesis
      | product => exact isRefusable_product inductionHypothesis
      | quotient => exact isRefusable_quotient inductionHypothesis
      | power => exact isRefusable_power inductionHypothesis

/-- A tree refused for breaking a rule breaks it. -/
theorem Refused.breaks
    {x : Expr}
    {cause : EvaluationFault}
    (rule : cause ∈ EvaluationFault.rules)
    (refused : x.Refused settings (.inEvaluation cause)) :
    x.Breaks Decimal.real? cause := by
  generalize fault_eq : Fault.inEvaluation cause = fault at refused
  induction refused with
  | limit limit =>
      cases limit with
      | tooManyRadicals =>
          cases fault_eq
          simp [EvaluationFault.rules] at rule
      | undecidedSign exact => contradiction
  | decimal | zeroDenominator | noOperand | operandCount => contradiction
  | unary number refuses =>
      cases refuses with
      | rule broken =>
          cases fault_eq
          exact .unary number broken
      | triangularTooLarge | factorialTooLarge =>
          cases fault_eq
          simp [EvaluationFault.rules] at rule
      | factorialOutOfRange => contradiction
  | node numbers refuses =>
      cases refuses with
      | rule broken =>
          cases fault_eq
          exact .node numbers broken
      | exponentTooLarge | resultTooLarge =>
          cases fault_eq
          simp [EvaluationFault.rules] at rule
  | operand _ inductionHypothesis => exact .operand (inductionHypothesis fault_eq)
  | operands member _ inductionHypothesis => exact .operands member (inductionHypothesis fault_eq)

/-- A tree that is refused for breaking a rule of arithmetic has no meaning, because an
operation in it breaks that rule on the meanings of its operands. Only literals with `2 ^ 32`
digits behind the point or more are left out, which a scale cannot count. -/
theorem breaks_of_value
    {settings : Settings}
    {x : Expr}
    {cause : EvaluationFault}
    (short : ∀ d ∈ x.decimals, d.fraction.length < 2 ^ 32)
    (rule : cause ∈ EvaluationFault.rules)
    (refused : x.value settings = .error (.inEvaluation cause)) :
    x.meaning = none ∧ x.Breaks Decimal.meaning cause := by
  have broken := (isRefusable settings x _ refused).breaks rule
  have breaks := broken.congr fun d member => Decimal.real?_eq_meaning (short d member)
  exact ⟨breaks.meaning_eq_none, breaks⟩

/-- A half divided by `√(3 + 2 √2) - √2 - 1`. -/
def quotientByCancelled : Expr :=
  node .quotient
    [decimal ⟨none, ['5'], false⟩,
      node .sum
        [unary .root (node .sum [integer 3, node .product [integer 2, unary .root (integer 2)]]),
          unary .negate (unary .root (integer 2)), unary .negate (integer 1)]]

/-- The roots in the divisor cancel, and the quotient has no meaning. -/
theorem breaks_quotientByCancelled :
    (∀ d ∈ quotientByCancelled.decimals, d.fraction.length < 2 ^ 32) ∧
      .divisionByZero ∈ EvaluationFault.rules ∧
      quotientByCancelled.value .standard = .error (.inEvaluation .divisionByZero) ∧
      quotientByCancelled.meaning = none ∧
      quotientByCancelled.Breaks Decimal.meaning .divisionByZero := by
  have short : ∀ d ∈ quotientByCancelled.decimals, d.fraction.length < 2 ^ 32 := by
    simp [quotientByCancelled, decimals, decimals.decimalsOf]
  have rule : .divisionByZero ∈ EvaluationFault.rules := by decide
  have refused : quotientByCancelled.value .standard =
      .error (.inEvaluation .divisionByZero) := by
    decide +kernel
  exact ⟨short, rule, refused, breaks_of_value short rule refused⟩

/-- The square root of `0.5 - 0.0…04`, with some zeros behind the second point. -/
def rootLessFour (zeros : Nat) : Expr :=
  unary .root (node .sum
    [decimal ⟨some 0, ['5'], false⟩, unary .negate (decimal (.fourBehind zeros))])

theorem value_half : (Decimal.mk (some 0) ['5'] false).value = .ok (1 / 2) := by
  have five : Nat.ofDigitChars 10 ['5'] 0 = 5 := rfl
  rw [Decimal.value_eq_number (by simp) (by simp) (by simp)]
  norm_num [Decimal.number, five]

theorem meaning_rootLessFour (zeros : Nat) :
    (rootLessFour zeros).meaning =
      Unary.root.meaning (1 / 2 + (-(4 / 10 ^ (zeros + 1)) + 0)) := by
  have half : (Decimal.mk (some 0) ['5'] false).meaning = some ((1 / 2 : Rat) : ℝ) := by
    rw [← Decimal.real?_eq_meaning (by simp), Decimal.real?, value_half]
    rfl
  rw [rootLessFour, meaning, meaningWith, meaningWith_sum, map_sum_meanings, map_sum_meanings,
    meaningWith, meaningWith_negate, meaningWith, half, Decimal.meaning_fourBehind, Rat.cast_div,
    Rat.cast_one, Rat.cast_ofNat]
  rfl

theorem value_rootLessFour
    {zeros : Nat}
    {q : Rat}
    (four : (Decimal.fourBehind zeros).value = .ok q) :
    (rootLessFour zeros).value .standard = (Value.ofRat (1 / 2 + -q)).sqrt := by
  have first : Value.zero.add (.ofRat (1 / 2)) = .ok (.ofRat (1 / 2)) := by cbv
  have negated : (unary .negate (decimal (.fourBehind zeros))).value .standard =
      .ok (.ofRat (-q)) := by
    rw [value, value, four]
    rfl
  rw [rootLessFour, value, value, value, value_half]
  simp only [bind, Except.bind, Except.map, first, value.addAll, negated, Value.add_ofRat,
    Unary.apply]

/-- With `2 ^ 32` digits behind the second point the number is taken for -3.5, and the root is
refused although it has a meaning. -/
theorem value_rootLessFour_wraps :
    (rootLessFour (2 ^ 32 - 1)).value .standard = .error (.inEvaluation .negativeRoot) ∧
      (rootLessFour (2 ^ 32 - 1)).meaning ≠ none := by
  constructor
  · rw [value_rootLessFour Decimal.value_fourBehind]
    cbv
  · have large : (10 : ℝ) ≤ 10 ^ (2 ^ 32 - 1 + 1) := le_self_pow₀ (by norm_num) (by omega)
    rw [meaning_rootLessFour]
    generalize (10 : ℝ) ^ (2 ^ 32 - 1 + 1) = unit at large
    have small : 4 / unit ≤ 1 / 2 := by
      rw [div_le_iff₀ (by linarith)]
      linarith
    have nonnegative : 0 ≤ 1 / 2 + (-(4 / unit) + 0) := by linarith
    rw [Unary.meaning, if_pos nonnegative]
    exact Option.some_ne_none _

end Expr
end FourFours
