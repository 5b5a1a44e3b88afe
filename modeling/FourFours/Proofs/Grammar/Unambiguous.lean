import FourFours.Expr.Grammar
import Mathlib.Data.List.Basic

/-!
# The grammar is unambiguous

A phrase ends where no token of its own category can follow: every token has a looseness,
and a phrase is continued only by tokens that are at most as loose as its category. Two
derivations of one category whose tokens are followed by looser ones are equal, because
the first token of a phrase tells which rule derives it.
-/

namespace FourFours

/-- How loosely a token continues what stands before it; 5 for tokens that never do. -/
def Token.looseness : Token → Nat
  | .point => 0
  | .factorial => 1
  | .power => 2
  | .times | .divide => 3
  | .plus | .minus => 4
  | _ => 5

namespace Grammar

/-- The looseness of the tokens that may continue a phrase. -/
def Category.looseness : Category → Nat
  | .atom _ => 0
  | .postfixed _ | .signed _ => 1
  | .power _ => 2
  | .product _ | .factors => 3
  | .sum _ | .terms => 4

/-- A token list does not continue a phrase of a category. -/
def Ends (category : Category) (rest : List Token) : Prop :=
  ∀ token ∈ rest.head?, category.looseness < token.looseness

theorem ends_nil (category : Category) : Ends category [] := by
  simp [Ends]

@[simp] theorem ends_cons {category : Category} {token : Token} {rest : List Token} :
    Ends category (token :: rest) ↔ category.looseness < token.looseness := by
  simp [Ends]

/-- What ends a looser phrase ends a tighter one. -/
theorem Ends.tighten
    {loose tight : Category}
    {rest : List Token}
    (ends : Ends loose rest)
    (le : tight.looseness ≤ loose.looseness) :
    Ends tight rest :=
  fun token member => Nat.lt_of_le_of_lt le (ends token member)

@[simp] theorem looseness_termOperator (subtracted : Bool) :
    (termOperator subtracted).looseness = 4 := by
  cases subtracted <;> rfl

@[simp] theorem looseness_factorOperator (divides : Bool) :
    (factorOperator divides).looseness = 3 := by
  cases divides <;> rfl

theorem termOperator_injective : Function.Injective termOperator := by
  intro left right equal
  cases left <;> cases right <;> simp_all [termOperator]

theorem factorOperator_injective : Function.Injective factorOperator := by
  intro left right equal
  cases left <;> cases right <;> simp_all [factorOperator]

namespace Derivation

/-- The terms behind the first do not continue the first. -/
theorem ends_terms (derivation : Derivation .terms) {rest : List Token}
    (ends : Ends .terms rest) (atStart : Bool) :
    Ends (.product atStart) (derivation.tokens ++ rest) := by
  cases derivation with
  | noTerms => exact ends.tighten (by simp [Category.looseness])
  | term => simp [tokens, Category.looseness]

/-- The factors behind the first do not continue the first. -/
theorem ends_factors (derivation : Derivation .factors) {rest : List Token}
    (ends : Ends .factors rest) (atStart : Bool) :
    Ends (.power atStart) (derivation.tokens ++ rest) := by
  cases derivation with
  | noFactors => exact ends.tighten (by simp [Category.looseness])
  | factor => simp [tokens, Category.looseness]

end Derivation

theorem ends_factorials (count : Nat) {rest : List Token}
    (atStart : Bool) (ends : Ends (.postfixed atStart) rest) :
    Ends (.atom atStart) (.replicate count .factorial ++ rest) := by
  cases count with
  | zero => exact ends.tighten (by simp [Category.looseness])
  | succ count => simp [List.replicate_succ, Category.looseness, Token.looseness]

/-- Whether a token begins an atom; at the start of a group also a plus sign does. -/
def beginsAtom (atStart : Bool) : Token → Bool
  | .digits _ | .point | .opening => true
  | .plus => atStart
  | _ => false

/-- Whether a token begins an operand, with signs in front of it or not. -/
def beginsPhrase (atStart : Bool) : Token → Bool
  | .plus | .minus => atStart
  | token => token.beginsOperand

theorem beginsPhrase_of_beginsAtom {atStart : Bool} {token : Token}
    (begins : beginsAtom atStart token = true) :
    beginsPhrase atStart token = true := by
  cases token <;> simp_all [beginsAtom, beginsPhrase, Token.beginsOperand]

/-- Whether a token begins a literal. -/
def beginsLiteral : Token → Bool
  | .digits _ | .point => true
  | _ => false

theorem Literal.exists_head (literal : Literal) :
    ∃ token rest, literal.tokens = token :: rest ∧ beginsLiteral token = true := by
  match literal with
  | .integer run => exact ⟨_, _, rfl, rfl⟩
  | .decimal none fraction repeating => exact ⟨_, _, rfl, rfl⟩
  | .decimal (some whole) fraction repeating => exact ⟨_, _, rfl, rfl⟩

/-- A literal does not begin with any other token. -/
theorem Literal.tokens_ne
    (literal : Literal)
    {token : Token}
    (foreign : beginsLiteral token = false)
    (rest tail : List Token) :
    literal.tokens ++ rest ≠ token :: tail := by
  obtain ⟨head, _, equal, begins⟩ := literal.exists_head
  rw [equal, List.cons_append]
  intro same
  rw [(List.cons.inj same).1, foreign] at begins
  contradiction

namespace Derivation

variable {atStart : Bool}

theorem exists_head_atom (derivation : Derivation (.atom atStart)) :
    ∃ token rest, derivation.tokens = token :: rest ∧ beginsAtom atStart token = true := by
  cases derivation with
  | group inner => exact ⟨_, _, rfl, rfl⟩
  | literal written =>
      obtain ⟨token, rest, equal, begins⟩ := written.exists_head
      exact ⟨token, rest, equal, by cases token <;> simp_all [beginsLiteral, beginsAtom]⟩
  | positive written => exact ⟨_, _, rfl, rfl⟩

theorem exists_head_postfixed (derivation : Derivation (.postfixed atStart)) :
    ∃ token rest, derivation.tokens = token :: rest ∧ beginsAtom atStart token = true := by
  cases derivation with
  | postfixed operand factorials =>
      obtain ⟨token, rest, equal, begins⟩ := operand.exists_head_atom
      exact ⟨token, _, by rw [tokens, equal, List.cons_append], begins⟩

/-- An operand without signs does not begin with a sign. -/
theorem tokens_ne_of_postfixed
    (derivation : Derivation (.postfixed atStart))
    {token : Token}
    (foreign : beginsAtom atStart token = false)
    (rest tail : List Token) :
    derivation.tokens ++ rest ≠ token :: tail := by
  obtain ⟨head, _, equal, begins⟩ := derivation.exists_head_postfixed
  rw [equal, List.cons_append]
  intro same
  rw [(List.cons.inj same).1, foreign] at begins
  contradiction

theorem exists_head_signed (derivation : Derivation (.signed atStart)) :
    ∃ token rest, derivation.tokens = token :: rest ∧
      beginsPhrase atStart token = true := by
  cases derivation with
  | negated operand => exact ⟨_, _, rfl, rfl⟩
  | triangular operand => exact ⟨_, _, rfl, rfl⟩
  | root operand => exact ⟨_, _, rfl, rfl⟩
  | unsigned operand =>
      obtain ⟨token, rest, equal, begins⟩ := operand.exists_head_postfixed
      exact ⟨token, rest, equal, beginsPhrase_of_beginsAtom begins⟩

theorem exists_head_power (derivation : Derivation (.power atStart)) :
    ∃ token rest, derivation.tokens = token :: rest ∧
      beginsPhrase atStart token = true := by
  cases derivation with
  | base operand => exact operand.exists_head_signed
  | raised operand exponent =>
      obtain ⟨token, rest, equal, begins⟩ := operand.exists_head_signed
      exact ⟨token, _, by rw [tokens, equal, List.cons_append], begins⟩

theorem exists_head_product (derivation : Derivation (.product atStart)) :
    ∃ token rest, derivation.tokens = token :: rest ∧
      beginsPhrase atStart token = true := by
  cases derivation with
  | product first factors =>
      obtain ⟨token, rest, equal, begins⟩ := first.exists_head_power
      exact ⟨token, _, by rw [tokens, equal, List.cons_append], begins⟩

theorem exists_head_sum (derivation : Derivation (.sum atStart)) :
    ∃ token rest, derivation.tokens = token :: rest ∧
      beginsPhrase atStart token = true := by
  cases derivation with
  | sum first terms =>
      obtain ⟨token, rest, equal, begins⟩ := first.exists_head_product
      exact ⟨token, _, by rw [tokens, equal, List.cons_append], begins⟩

end Derivation

/-- Two chains of factorials that nothing continues have the same length. -/
theorem factorials_unique
    {count count' : Nat}
    {rest rest' : List Token}
    {atStart : Bool}
    (ends : Ends (.postfixed atStart) rest)
    (ends' : Ends (.postfixed atStart) rest')
    (equal : List.replicate count Token.factorial ++ rest =
      List.replicate count' .factorial ++ rest') :
    count = count' ∧ rest = rest' := by
  induction count generalizing count' with
  | zero =>
      cases count' with
      | zero => exact ⟨rfl, equal⟩
      | succ count' =>
          simp only [List.replicate_zero, List.nil_append] at equal
          simp [equal, List.replicate_succ, Category.looseness, Token.looseness] at ends
  | succ count inductionHypothesis =>
      cases count' with
      | zero =>
          simp only [List.replicate_zero, List.nil_append] at equal
          simp [← equal, List.replicate_succ, Category.looseness, Token.looseness] at ends'
      | succ count' =>
          simp only [List.replicate_succ, List.cons_append, List.cons.injEq,
            true_and] at equal
          obtain ⟨rfl, same⟩ := inductionHypothesis equal
          exact ⟨rfl, same⟩

/-- Two literals that nothing continues are equal if their tokens are. -/
theorem Literal.unique
    {literal literal' : Literal}
    {rest rest' : List Token}
    {atStart : Bool}
    (ends : Ends (.atom atStart) rest)
    (ends' : Ends (.atom atStart) rest')
    (equal : literal.tokens ++ rest = literal'.tokens ++ rest') :
    literal = literal' ∧ rest = rest' := by
  have noPoint {tail : List Token} (ends : Ends (.atom atStart) (.point :: tail)) : False := by
    simp [Category.looseness, Token.looseness] at ends
  match literal, literal' with
  | .integer _, .integer _ => simpa [tokens] using equal
  | .integer _, .decimal none _ _ => simp [tokens] at equal
  | .decimal none _ _, .integer _ => simp [tokens] at equal
  | .integer _, .decimal (some _) _ _ =>
      simp only [tokens, List.cons_append, List.nil_append, List.cons.injEq] at equal
      exact (noPoint (equal.2 ▸ ends)).elim
  | .decimal (some _) _ _, .integer _ =>
      simp only [tokens, List.cons_append, List.nil_append, List.cons.injEq] at equal
      exact (noPoint (equal.2 ▸ ends')).elim
  | .decimal none _ _, .decimal (some _) _ _ => simp [tokens] at equal
  | .decimal (some _) _ _, .decimal none _ _ => simp [tokens] at equal
  | .decimal none _ repeating, .decimal none _ repeating' =>
      cases repeating <;> cases repeating' <;>
        simp_all [tokens, fractionTokens]
  | .decimal (some _) _ repeating, .decimal (some _) _ repeating' =>
      cases repeating <;> cases repeating' <;>
        simp_all [tokens, fractionTokens]

namespace Derivation

/-- A derivation is determined by its tokens: two derivations of one category agree if
their tokens do, up to token lists that continue neither. -/
theorem unique
    {category : Category}
    (derivation derivation' : Derivation category)
    {rest rest' : List Token}
    (ends : Ends category rest)
    (ends' : Ends category rest')
    (equal : derivation.tokens ++ rest = derivation'.tokens ++ rest') :
    derivation = derivation' ∧ rest = rest' := by
  induction derivation generalizing rest rest' with
  | sum first terms firstHypothesis termsHypothesis =>
      cases derivation' with
      | sum first' terms' =>
          simp only [tokens, List.append_assoc] at equal
          obtain ⟨rfl, remaining⟩ := firstHypothesis first' (terms.ends_terms ends _)
            (terms'.ends_terms ends' _) equal
          obtain ⟨rfl, same⟩ := termsHypothesis terms' ends ends' remaining
          exact ⟨rfl, same⟩
  | noTerms =>
      cases derivation' with
      | noTerms => exact ⟨rfl, equal⟩
      | term =>
          simp only [tokens, List.nil_append, List.cons_append] at equal
          simp [equal, Category.looseness] at ends
  | term subtracted operand terms operandHypothesis termsHypothesis =>
      cases derivation' with
      | noTerms =>
          simp only [tokens, List.nil_append, List.cons_append] at equal
          simp [← equal, Category.looseness] at ends'
      | term subtracted' operand' terms' =>
          simp only [tokens, List.cons_append, List.append_assoc, List.cons.injEq] at equal
          obtain ⟨operators, equal⟩ := equal
          obtain rfl := termOperator_injective operators
          obtain ⟨rfl, remaining⟩ := operandHypothesis operand' (terms.ends_terms ends _)
            (terms'.ends_terms ends' _) equal
          obtain ⟨rfl, same⟩ := termsHypothesis terms' ends ends' remaining
          exact ⟨rfl, same⟩
  | product first factors firstHypothesis factorsHypothesis =>
      cases derivation' with
      | product first' factors' =>
          simp only [tokens, List.append_assoc] at equal
          obtain ⟨rfl, remaining⟩ := firstHypothesis first' (factors.ends_factors ends _)
            (factors'.ends_factors ends' _) equal
          obtain ⟨rfl, same⟩ := factorsHypothesis factors' ends ends' remaining
          exact ⟨rfl, same⟩
  | noFactors =>
      cases derivation' with
      | noFactors => exact ⟨rfl, equal⟩
      | factor =>
          simp only [tokens, List.nil_append, List.cons_append] at equal
          simp [equal, Category.looseness] at ends
  | factor divides operand factors operandHypothesis factorsHypothesis =>
      cases derivation' with
      | noFactors =>
          simp only [tokens, List.nil_append, List.cons_append] at equal
          simp [← equal, Category.looseness] at ends'
      | factor divides' operand' factors' =>
          simp only [tokens, List.cons_append, List.append_assoc, List.cons.injEq] at equal
          obtain ⟨operators, equal⟩ := equal
          obtain rfl := factorOperator_injective operators
          obtain ⟨rfl, remaining⟩ := operandHypothesis operand' (factors.ends_factors ends _)
            (factors'.ends_factors ends' _) equal
          obtain ⟨rfl, same⟩ := factorsHypothesis factors' ends ends' remaining
          exact ⟨rfl, same⟩
  | base operand operandHypothesis =>
      have tighter {flag : Bool} : Ends (.signed flag) rest :=
        ends.tighten (by simp [Category.looseness])
      cases derivation' with
      | base operand' =>
          obtain ⟨rfl, same⟩ := operandHypothesis operand' tighter
            (ends'.tighten (by simp [Category.looseness])) equal
          exact ⟨rfl, same⟩
      | raised operand' exponent' =>
          simp only [tokens, List.append_assoc, List.cons_append] at equal
          obtain ⟨_, rfl⟩ := operandHypothesis operand' tighter
            (by simp [Category.looseness, Token.looseness]) equal
          simp [Category.looseness, Token.looseness] at ends
  | raised operand exponent operandHypothesis exponentHypothesis =>
      have hat {flag : Bool} {tail : List Token} : Ends (.signed flag) (.power :: tail) := by
        simp [Category.looseness, Token.looseness]
      cases derivation' with
      | base operand' =>
          simp only [tokens, List.append_assoc, List.cons_append] at equal
          obtain ⟨_, rfl⟩ := operandHypothesis operand' hat
            (ends'.tighten (by simp [Category.looseness])) equal
          simp [Category.looseness, Token.looseness] at ends'
      | raised operand' exponent' =>
          simp only [tokens, List.append_assoc, List.cons_append] at equal
          obtain ⟨rfl, remaining⟩ := operandHypothesis operand' hat hat equal
          obtain ⟨rfl, same⟩ :=
            exponentHypothesis exponent' ends ends' (List.cons.inj remaining).2
          exact ⟨rfl, same⟩
  | negated operand operandHypothesis =>
      cases derivation' with
      | negated operand' =>
          obtain ⟨rfl, same⟩ := operandHypothesis operand' ends ends' (List.cons.inj equal).2
          exact ⟨rfl, same⟩
      | triangular | root => simp [tokens] at equal
      | unsigned operand' => exact absurd equal.symm (operand'.tokens_ne_of_postfixed rfl _ _)
  | triangular operand operandHypothesis =>
      cases derivation' with
      | triangular operand' =>
          obtain ⟨rfl, same⟩ := operandHypothesis operand' ends ends' (List.cons.inj equal).2
          exact ⟨rfl, same⟩
      | negated | root => simp [tokens] at equal
      | unsigned operand' => exact absurd equal.symm (operand'.tokens_ne_of_postfixed rfl _ _)
  | root operand operandHypothesis =>
      cases derivation' with
      | root operand' =>
          obtain ⟨rfl, same⟩ := operandHypothesis operand' ends ends' (List.cons.inj equal).2
          exact ⟨rfl, same⟩
      | negated | triangular => simp [tokens] at equal
      | unsigned operand' => exact absurd equal.symm (operand'.tokens_ne_of_postfixed rfl _ _)
  | unsigned operand operandHypothesis =>
      cases derivation' with
      | negated | triangular | root =>
          exact absurd equal (operand.tokens_ne_of_postfixed rfl _ _)
      | unsigned operand' =>
          obtain ⟨rfl, same⟩ := operandHypothesis operand' ends ends' equal
          exact ⟨rfl, same⟩
  | postfixed operand factorials operandHypothesis =>
      cases derivation' with
      | postfixed operand' factorials' =>
          simp only [tokens, List.append_assoc] at equal
          obtain ⟨rfl, remaining⟩ := operandHypothesis operand' (ends_factorials _ _ ends)
            (ends_factorials _ _ ends') equal
          obtain ⟨rfl, same⟩ := factorials_unique ends ends' remaining
          exact ⟨rfl, same⟩
  | group inner innerHypothesis =>
      have closes {tail : List Token} : Ends (.sum true) (.closing :: tail) := by
        simp [Category.looseness, Token.looseness]
      cases derivation' with
      | group inner' =>
          simp only [tokens, List.cons_append, List.append_assoc, List.nil_append,
            List.cons.injEq, true_and] at equal
          obtain ⟨rfl, same⟩ := innerHypothesis inner' closes closes equal
          exact ⟨rfl, (List.cons.inj same).2⟩
      | literal written' => exact absurd equal.symm (written'.tokens_ne rfl _ _)
      | positive => simp [tokens] at equal
  | literal written =>
      cases derivation' with
      | group | positive => exact absurd equal (written.tokens_ne rfl _ _)
      | literal written' =>
          obtain ⟨rfl, same⟩ := Literal.unique ends ends' equal
          exact ⟨rfl, same⟩
  | positive written =>
      cases derivation' with
      | group => simp [tokens] at equal
      | literal written' => exact absurd equal.symm (written'.tokens_ne rfl _ _)
      | positive written' =>
          obtain ⟨rfl, same⟩ := Literal.unique ends ends' (List.cons.inj equal).2
          exact ⟨rfl, same⟩

end Derivation
end Grammar
end FourFours
