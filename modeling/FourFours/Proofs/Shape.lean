import FourFours.Proofs.Grammar.Decision
import FourFours.Proofs.Radical.TinyRadicand
import FourFours.Proofs.Refusal

/-!
# The shape of trees that are read

Sums and products that are read have at least two operands, quotients and powers have two,
integers are not negative, and decimals have digits behind their point. On such a tree the
evaluation meets no malformed node, so a typed text has an internal fault only where the
precision schedule runs out.
-/

namespace FourFours

/-- Whether an operation takes a number of operands. -/
def Nary.Takes : Nary → Nat → Prop
  | .sum, count | .product, count => 2 ≤ count
  | .quotient, count | .power, count => count = 2

/-- The decimal literals that can be written. -/
structure Decimal.IsWellFormed (d : Decimal) : Prop where
  nonempty : d.fraction ≠ []
  digits : d.fraction.all Char.isDigit = true
  whole_nonneg : ∀ n ∈ d.whole, 0 ≤ n

namespace Expr

/-- The trees whose nodes have operands that suit them and whose literals can be written. -/
inductive IsWellFormed : Expr → Prop
  | integer {n : Int} : 0 ≤ n → IsWellFormed (.integer n)
  | decimal {d : Decimal} : d.IsWellFormed → IsWellFormed (.decimal d)
  | unary (op : Unary) {x : Expr} : IsWellFormed x → IsWellFormed (.unary op x)
  | node {op : Nary} {xs : List Expr} : op.Takes xs.length →
      (∀ x ∈ xs, IsWellFormed x) → IsWellFormed (.node op xs)

/-- The sum of one or more well-formed terms is well formed, also if it is a single one. -/
theorem isWellFormed_sum
    {first : Expr}
    {rest : List Expr}
    (wellFormed : ∀ x ∈ first :: rest, x.IsWellFormed) :
    (sum (first :: rest)).IsWellFormed := by
  cases rest with
  | nil => exact wellFormed first List.mem_cons_self
  | cons second rest => exact .node (Nat.le_add_left 2 rest.length) wellFormed

/-- The product of one or more well-formed factors is well formed, also if it is a single
one. -/
theorem isWellFormed_product
    {first : Expr}
    {rest : List Expr}
    (wellFormed : ∀ x ∈ first :: rest, x.IsWellFormed) :
    (product (first :: rest)).IsWellFormed := by
  cases rest with
  | nil => exact wellFormed first List.mem_cons_self
  | cons second rest => exact .node (Nat.le_add_left 2 rest.length) wellFormed

end Expr

namespace Grammar

open FourFours.Expr (AllProper)

variable {first x : Expr} {links : List (Bool × Expr)}

theorem isWellFormed_sumTree
    (wellFormedFirst : first.IsWellFormed)
    (wellFormedRest : ∀ link ∈ links, link.2.IsWellFormed) :
    (sumTree first links).IsWellFormed := by
  apply Expr.isWellFormed_sum
  rw [List.forall_mem_cons]
  refine ⟨wellFormedFirst, List.forall_mem_map.mpr ?_⟩
  rintro ⟨subtracted, x⟩ member
  have wellFormed := wellFormedRest _ member
  cases subtracted with
  | false => exact wellFormed
  | true => exact .unary .negate wellFormed

theorem isWellFormed_productTree
    (wellFormedFirst : first.IsWellFormed)
    (wellFormedRest : ∀ link ∈ links, link.2.IsWellFormed) :
    (productTree first links).IsWellFormed := by
  have selected (select : Bool × Expr → Bool) :
      ∀ x ∈ (links.filter select).map Prod.snd, x.IsWellFormed :=
    List.forall_mem_map.mpr fun link member => wellFormedRest link (List.mem_of_mem_filter member)
  have numerator := Expr.isWellFormed_product
    (List.forall_mem_cons.mpr ⟨wellFormedFirst, selected (!·.1)⟩)
  have divisors := selected (·.1)
  unfold productTree
  split
  · exact numerator
  · generalize (links.filter (·.1)).map Prod.snd = divisorList at *
    cases divisorList with
    | nil => contradiction
    | cons divisor rest =>
        refine .node rfl ?_
        simp only [List.forall_mem_cons]
        exact ⟨numerator, Expr.isWellFormed_product divisors, by simp⟩

theorem isWellFormed_factorialTree (count : Nat) (wellFormed : x.IsWellFormed) :
    (factorialTree count x).IsWellFormed := by
  induction count generalizing x with
  | zero => exact wellFormed
  | succ count inductionHypothesis => exact inductionHypothesis (.unary .factorial wellFormed)

theorem Literal.number_nonneg (run : List Char) : 0 ≤ number run :=
  Int.natCast_nonneg _

theorem Literal.isWellFormed_tree {literal : Literal} (proper : AllProper literal.tokens) :
    literal.tree.IsWellFormed := by
  cases literal with
  | integer run => exact .integer (number_nonneg run)
  | decimal whole fraction repeating =>
      have written : .digits fraction ∈ (decimal whole fraction repeating).tokens := by
        cases whole <;> cases repeating <;> simp [tokens, fractionTokens]
      obtain ⟨nonempty, digits⟩ := proper _ written
      refine .decimal ⟨nonempty, digits, ?_⟩
      intro n member
      obtain ⟨run, -, rfl⟩ := Option.mem_map.mp member
      exact number_nonneg run

/-- What a derivation stands for is well formed. -/
def IsWellFormed : {category : Category} → Derivation category → Prop
  | .terms, d | .factors, d => ∀ link ∈ d.meaning, link.2.IsWellFormed
  | .sum _, d | .product _, d | .power _, d | .signed _, d | .postfixed _, d | .atom _, d =>
      Expr.IsWellFormed d.meaning

/-- The meaning of every derivation with proper runs of digits is well formed. -/
theorem isWellFormed
    {category : Category}
    (derivation : Derivation category)
    (proper : AllProper derivation.tokens) :
    IsWellFormed derivation := by
  induction derivation with
  | sum first rest firstHypothesis restHypothesis =>
      obtain ⟨properFirst, properRest⟩ := List.forall_mem_append.mp proper
      exact isWellFormed_sumTree (firstHypothesis properFirst) (restHypothesis properRest)
  | noTerms | noFactors => exact fun link member => absurd member List.not_mem_nil
  | term flag operand rest operandHypothesis restHypothesis
  | factor flag operand rest operandHypothesis restHypothesis =>
      obtain ⟨properOperand, properRest⟩ := List.forall_mem_append.mp proper.tail
      exact List.forall_mem_cons.mpr
        ⟨operandHypothesis properOperand, restHypothesis properRest⟩
  | product first rest firstHypothesis restHypothesis =>
      obtain ⟨properFirst, properRest⟩ := List.forall_mem_append.mp proper
      exact isWellFormed_productTree (firstHypothesis properFirst) (restHypothesis properRest)
  | base operand inductionHypothesis
  | unsigned operand inductionHypothesis => exact inductionHypothesis proper
  | raised operand exponent operandHypothesis exponentHypothesis =>
      obtain ⟨properOperand, properRest⟩ := List.forall_mem_append.mp proper
      have properExponent := AllProper.tail properRest
      refine .node rfl ?_
      simp only [List.forall_mem_cons]
      exact ⟨operandHypothesis properOperand, exponentHypothesis properExponent, by simp⟩
  | negated operand inductionHypothesis
  | triangular operand inductionHypothesis
  | root operand inductionHypothesis => exact .unary _ (inductionHypothesis proper.tail)
  | postfixed operand factorials inductionHypothesis =>
      obtain ⟨properOperand, -⟩ := List.forall_mem_append.mp proper
      exact isWellFormed_factorialTree factorials (inductionHypothesis properOperand)
  | group inner inductionHypothesis =>
      obtain ⟨properInner, -⟩ := List.forall_mem_append.mp proper.tail
      exact inductionHypothesis properInner
  | literal written => exact Literal.isWellFormed_tree proper
  | positive written => exact Literal.isWellFormed_tree proper.tail

end Grammar

namespace Expr

open Grammar

theorem yields_normalize (text : List Char) : Yields (fun _ => True) (Token.normalize text) := by
  unfold Token.normalize
  split
  · exact ⟨_, rfl⟩
  · trivial

theorem exists_cause_of_tokenize
    {normal : List Char}
    {fault : Fault}
    (failed : Token.tokenize normal = .error fault) :
    ∃ cause, fault = .inSyntax cause := by
  induction normal with
  | nil => contradiction
  | cons c rest inductionHypothesis =>
      rw [Token.tokenize] at failed
      split at failed
      · exact inductionHypothesis (map_eq_error_iff.mp failed)
      · split at failed
        · exact inductionHypothesis (map_eq_error_iff.mp failed)
        · exact ⟨_, (Except.error.inj failed).symm⟩

theorem yields_tokenize (normal : List Char) : Yields AllProper (Token.tokenize normal) := by
  cases cut : Token.tokenize normal with
  | ok tokens => exact Token.isProper_of_tokenize cut
  | error fault => exact exists_cause_of_tokenize cut

/-- A typed text is read to a well-formed tree, or refused with a syntax fault. -/
theorem yields_read (text : String) : Yields IsWellFormed (Expr.read text) := by
  refine (yields_normalize text.toList).bind fun normal _ => ?_
  refine (yields_tokenize normal).bind fun tokens proper => ?_
  refine (yields_ofTokens proper).mono ?_
  rintro x ⟨sentence, rfl, rfl, -⟩
  exact isWellFormed sentence proper

theorem not_takes_zero (op : Nary) : ¬op.Takes 0 := by
  cases op <;> simp [Nary.Takes]

/-- A number with at most 19 digits fits into 64 bits. -/
theorem lt_of_digitCount_le {n : Nat} (short : digitCount n ≤ 19) : n < 2 ^ 64 := by
  rw [digitCount, Integer.digits_eq_toDigits,
    Nat.length_toDigits_le_iff (by decide) (by decide)] at short
  exact short.trans (by decide)

/-- A well-formed tree has no internal fault but a sign that is not found. -/
theorem Refused.exists_undecidedSign
    {settings : Settings}
    (limit : settings.factorialDigits ≤ 19)
    {x : Expr}
    (wellFormed : x.IsWellFormed)
    {cause : InternalFault}
    (refused : x.Refused settings (.internal cause)) :
    ∃ exact, cause = .undecidedSign exact := by
  generalize fault_eq : Fault.internal cause = fault at refused
  induction refused with
  | limit limit =>
      cases limit with
      | tooManyRadicals => contradiction
      | undecidedSign exact => exact ⟨exact, Fault.internal.inj fault_eq⟩
  | decimal undefined =>
      cases wellFormed with
      | decimal wellFormed =>
          rw [Decimal.meaning, if_pos ⟨wellFormed.nonempty, wellFormed.digits⟩] at undefined
          contradiction
  | zeroDenominator => contradiction
  | noOperand op =>
      cases wellFormed with
      | node takes => exact absurd takes (not_takes_zero op)
  | operandCount binary count =>
      cases wellFormed with
      | node takes =>
          simp only [List.mem_cons, List.not_mem_nil, or_false] at binary
          rcases binary with rfl | rfl <;> exact absurd takes count
  | unary _ refuses =>
      cases refuses with
      | factorialOutOfRange short large =>
          exact absurd (lt_of_digitCount_le (short.trans limit)) (Nat.not_lt.mpr large)
      | _ => contradiction
  | node _ refuses => cases refuses <;> contradiction
  | operand _ inductionHypothesis =>
      cases wellFormed with
      | unary op wellFormed => exact inductionHypothesis wellFormed fault_eq
  | operands member _ inductionHypothesis =>
      cases wellFormed with
      | node _ wellFormed => exact inductionHypothesis (wellFormed _ member) fault_eq

end Expr

namespace Reading

open Radical (Value)

/-- A rational is not read only where its decimals cannot be padded. -/
theorem ofRat_eq_error
    {settings : Settings}
    {q : Rat}
    {fault : Fault}
    (failed : ofRat settings q = .error fault) :
    fault = .breakdown .widthOutOfRange := by
  unfold ofRat at failed
  split at failed
  · contradiction
  · split at failed
    · split at failed
      · exact (checkWidth_then_eq_error_iff.mp failed).2
      · exact (checkWidth_then_eq_error_iff.mp failed).2
    · exact (checkWidth_then_eq_error_iff.mp failed).2

/-- Only the precision schedule and the width of the text make a reading fail. -/
theorem ofValue_eq_error
    {settings : Settings}
    {v : Value}
    {fault : Fault}
    (failed : ofValue settings v = .error fault) :
    fault = .internal (.undecidedSign v.text) ∨
      fault = .internal (.undecidedDigits v.text) ∨ fault = .breakdown .widthOutOfRange := by
  unfold ofValue at failed
  split at failed
  · exact .inr (.inr (ofRat_eq_error failed))
  · rcases bind_eq_error_iff.mp failed with unread | ⟨n, _, unwritten⟩
    · rcases Radical.Tower.truncate_eq_error unread with sign | digits
      · exact .inl sign
      · exact .inr (.inl digits)
    · split at unwritten
      · simp at unwritten
      · exact .inr (.inr (checkWidth_then_eq_error_iff.mp unwritten).2)

/-- Nothing is read from an irrational value without a sign. -/
theorem ofValue_of_sign
    {settings : Settings}
    {v : Value}
    {fault : Fault}
    (irrational : v.rational? = none)
    (undecided : v.sign = .error fault) :
    ofValue settings v = .error fault := by
  rw [ofValue, irrational]
  simp only [Value.truncate_of_sign_error irrational undecided]
  rfl

end Reading

namespace Calculator

open Radical (Value)

/-- Every typed text that is read gives a well-formed tree, and where the operands of
factorials have at most 19 digits, an evaluation of a typed text only has an internal fault
if a sign or the digits of a reading are not found. -/
theorem internal_of_evaluate
    {settings : Settings}
    (limit : settings.factorialDigits ≤ 19)
    (text : String) :
    (∀ x, Expr.read text = .ok x → x.IsWellFormed) ∧
      ∀ cause, evaluate settings text = .error (.internal cause) → ∃ exact,
        cause = .undecidedSign exact ∧
            cause.message = "cannot decide the sign of " ++ exact ∨
          cause = .undecidedDigits exact ∧ cause.message = "cannot read " ++ exact := by
  have shape := Expr.yields_read text
  constructor
  · intro x read
    rwa [read] at shape
  · intro cause failed
    rcases bind_eq_error_iff.mp failed with unread | ⟨x, read, failed⟩
    · rw [unread] at shape
      obtain ⟨syntaxCause, equal⟩ := shape
      contradiction
    rw [read] at shape
    rcases bind_eq_error_iff.mp failed with unvalued | ⟨v, _, unread⟩
    · obtain ⟨exact, rfl⟩ :=
        (Expr.isRefusable settings x _ unvalued).exists_undecidedSign limit shape
      exact ⟨exact, .inl ⟨rfl, rfl⟩⟩
    · rcases Reading.ofValue_eq_error unread with equal | equal | equal
      · cases equal
        exact ⟨v.text, .inl ⟨rfl, rfl⟩⟩
      · cases equal
        exact ⟨v.text, .inr ⟨rfl, rfl⟩⟩
      · contradiction

open Grammar

/-- The sentence `R(R2/10^9000)`. -/
def tinyRoot : Sentence :=
  .sum
    (.product
      (.base (.root (.unsigned (.postfixed (.group
        (.sum
          (.product (.base (.root (.unsigned (.postfixed (.literal (.integer ['2'])) 0))))
            (.factor true
              (.raised (.unsigned (.postfixed (.literal (.integer ['1', '0'])) 0))
                (.base (.unsigned (.postfixed (.literal (.integer ['9', '0', '0', '0'])) 0))))
              .noFactors))
          .noTerms)) 0))))
      .noFactors)
    .noTerms

theorem read_tinyRoot : Expr.read "R(R2/10^9000)" = .ok tinyRoot.meaning :=
  have normal : Token.normalize "R(R2/10^9000)".toList = .ok "R(R2/10^9000)".toList := by
    decide +kernel
  Expr.read_of_tokenize normal rfl (by decide)

/-- A power of an integer that stays within the settings. -/
theorem powerOf_ofInt
    {settings : Settings}
    {b : Int}
    {k : Nat}
    (positive : 0 < k)
    (fits : fitsExponent k = true)
    (short : digitCount k ≤ settings.exponentDigits)
    (small : powerSize (.ofInt b) k ≤ settings.powerBits) :
    powerOf settings (.ofInt b) (.ofInt k) = .ok (.ofRat ((b : Rat) ^ k)) := by
  have within : ¬((decide (settings.exponentDigits < digitCount (k : Int).natAbs) ||
      !fitsExponent k) = true) := by
    simp [fits, short]
  have limited : ¬((!hasSmallPowers (.ofInt b) &&
      decide (settings.powerBits < powerSize (.ofInt b) k)) = true) := by
    simp [small]
  simp only [powerOf, Value.integer?_ofInt]
  rw [if_neg within, if_neg limited]
  exact Value.pow_ofRat b (by exact_mod_cast positive)

/-- The value of `√(√2 / 10 ^ k)`. -/
theorem value_rootOfQuotient
    {k : Nat}
    (positive : 0 < k)
    (fits : fitsExponent k = true)
    (short : digitCount k ≤ Settings.standard.exponentDigits)
    (small : powerSize (.ofInt 10) k ≤ Settings.standard.powerBits)
    (shortUnit : Integer.bitLength (Integer.tenPow k) < 2 ^ 31) :
    (Expr.unary .root (.node .quotient [.unary .root (.integer 2),
      .node .power [.integer 10, .integer k]])).value .standard =
        .ok (Value.rootOfDividedRoot (Integer.tenPow k)) := by
  have unitPositive : 0 < Integer.tenPow k := Nat.pow_pos (by omega)
  have unit : ((10 : Int) : Rat) ^ k = (Integer.tenPow k : Nat) := by
    rw [Integer.tenPow_eq]
    push_cast
    rfl
  have root : (Expr.unary .root (.integer 2)).value .standard = .ok Value.sqrtTwo :=
    Value.sqrtRat_two
  have power := powerOf_ofInt positive fits short small
  have quotient : Value.sqrtTwo.div (.ofRat (Integer.tenPow k : Nat)) =
      .ok (Value.dividedRoot (Integer.tenPow k)) := by
    rw [Value.reachable_sqrtTwo.isNormal.div_ofRat (by exact_mod_cast unitPositive.ne'),
      Value.scale_sqrtTwo unitPositive]
  rw [Expr.value, Expr.value, root, Expr.value, Expr.value, Expr.value]
  simp only [bind, Except.bind, power, unit, quotient]
  exact Value.sqrt_dividedRoot unitPositive shortUnit

theorem evaluate_tinyRoot :
    evaluate .standard "R(R2/10^9000)" =
      .error (.internal (.undecidedSign (Value.rootOfDividedRoot (Integer.tenPow 9000)).text)) := by
  have valued : tinyRoot.meaning.value .standard =
      .ok (Value.rootOfDividedRoot (Integer.tenPow 9000)) :=
    value_rootOfQuotient (k := 9000) (by decide) (by decide) (by decide +kernel)
      (by decide +kernel) (by decide +kernel)
  have large : 2 * Integer.tenPow Radical.commonScale ≤ Integer.tenPow 9000 := by decide +kernel
  exact (evaluate_of_value read_tinyRoot valued).trans
    (Reading.ofValue_of_sign (Radical.Element.rational?_last 1)
      (Value.sign_rootOfDividedRoot large))

/-- The precision schedule runs out on `R(R2/10^9000)`, and that is the fault that is told. -/
theorem internal_of_evaluate_tinyRoot :
    Settings.standard.factorialDigits ≤ 19 ∧
      (Expr.read "R(R2/10^9000)" = .ok tinyRoot.meaning ∧ tinyRoot.meaning.IsWellFormed) ∧
      ∃ cause exact,
        evaluate .standard "R(R2/10^9000)" = .error (.internal cause) ∧
          (cause = .undecidedSign exact ∧
              cause.message = "cannot decide the sign of " ++ exact ∨
            cause = .undecidedDigits exact ∧ cause.message = "cannot read " ++ exact) := by
  have limit : Settings.standard.factorialDigits ≤ 19 := by decide
  obtain ⟨wellFormed, internal⟩ := internal_of_evaluate limit "R(R2/10^9000)"
  obtain ⟨exact, told⟩ := internal _ evaluate_tinyRoot
  exact ⟨limit, ⟨read_tinyRoot, wellFormed _ read_tinyRoot⟩, _, exact, evaluate_tinyRoot, told⟩

end Calculator
end FourFours
