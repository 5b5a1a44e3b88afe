import FourFours.Expr
import FourFours.Token

/-!
# The grammar of expressions

Which token lists spell an expression, said without a reader. A derivation is a tree of
grammar rules; it determines the tokens that it spells, the expression that they stand for,
and how deep brackets, signs, exponents and factorials nest in it.

The categories carry a flag that tells whether a phrase stands at the start of a group,
that is, at the beginning of the input or just after an opening bracket. Only there may a
negation stand, or a plus sign in front of a literal.
-/

namespace FourFours
namespace Grammar

/-- A literal: an integer, or digits behind a point with or without digits before it. -/
inductive Literal
  | integer (run : List Char)
  /-- The digits behind the point stand in brackets if they repeat for ever. -/
  | decimal (whole : Option (List Char)) (fraction : List Char) (repeating : Bool)

namespace Literal

/-- The number that a run of digits stands for. -/
def number (run : List Char) : Int :=
  Nat.ofDigitChars 10 run 0

/-- The tokens of the digits behind a point. -/
def fractionTokens (fraction : List Char) (repeating : Bool) : List Token :=
  if repeating then [.opening, .digits fraction, .closing] else [.digits fraction]

/-- The tokens of a literal. -/
def tokens : Literal → List Token
  | integer run => [.digits run]
  | decimal none fraction repeating => .point :: fractionTokens fraction repeating
  | decimal (some whole) fraction repeating =>
      .digits whole :: .point :: fractionTokens fraction repeating

/-- The tree of a literal. -/
def tree : Literal → Expr
  | integer run => .integer (number run)
  | decimal whole fraction repeating => .decimal ⟨whole.map number, fraction, repeating⟩

end Literal

/-- The categories of phrases, from the loosest to the tightest. -/
inductive Category
  /-- A chain of added and subtracted products. -/
  | sum (atStart : Bool)
  /-- The terms of a sum behind the first, each with its operator. -/
  | terms
  /-- A chain of multiplied and dividing powers. -/
  | product (atStart : Bool)
  /-- The factors of a product behind the first, each with its operator. -/
  | factors
  | power (atStart : Bool)
  /-- An operand with the signs in front of it. -/
  | signed (atStart : Bool)
  /-- An atom with the factorials behind it. -/
  | postfixed (atStart : Bool)
  /-- A group in brackets or a literal. -/
  | atom (atStart : Bool)

/-- A derivation of a phrase of some category. -/
inductive Derivation : Category → Type
  | sum {atStart : Bool} (first : Derivation (.product atStart))
      (rest : Derivation .terms) : Derivation (.sum atStart)
  | noTerms : Derivation .terms
  | term (subtracted : Bool) (operand : Derivation (.product false))
      (rest : Derivation .terms) : Derivation .terms
  | product {atStart : Bool} (first : Derivation (.power atStart))
      (rest : Derivation .factors) : Derivation (.product atStart)
  | noFactors : Derivation .factors
  | factor (divides : Bool) (operand : Derivation (.power false))
      (rest : Derivation .factors) : Derivation .factors
  | base {atStart : Bool} (operand : Derivation (.signed atStart)) :
      Derivation (.power atStart)
  | raised {atStart : Bool} (operand : Derivation (.signed atStart))
      (exponent : Derivation (.power false)) : Derivation (.power atStart)
  | negated (operand : Derivation (.signed false)) : Derivation (.signed true)
  | triangular {atStart : Bool} (operand : Derivation (.signed false)) :
      Derivation (.signed atStart)
  | root {atStart : Bool} (operand : Derivation (.signed false)) :
      Derivation (.signed atStart)
  | unsigned {atStart : Bool} (operand : Derivation (.postfixed atStart)) :
      Derivation (.signed atStart)
  | postfixed {atStart : Bool} (operand : Derivation (.atom atStart))
      (factorials : Nat) : Derivation (.postfixed atStart)
  | group {atStart : Bool} (inner : Derivation (.sum true)) : Derivation (.atom atStart)
  | literal {atStart : Bool} (literal : Literal) : Derivation (.atom atStart)
  | positive (literal : Literal) : Derivation (.atom true)

/-- What a phrase stands for: an expression, or operands with their operators. The flag of
an operand tells whether it is subtracted, or whether it divides. -/
abbrev Category.Meaning : Category → Type
  | terms | factors => List (Bool × Expr)
  | _ => Expr

/-- The operator in front of a term. -/
def termOperator (subtracted : Bool) : Token :=
  if subtracted then .minus else .plus

/-- The operator in front of a factor. -/
def factorOperator (divides : Bool) : Token :=
  if divides then .divide else .times

/-- The tree of a sum: subtracted terms are negated. -/
def sumTree (first : Expr) (rest : List (Bool × Expr)) : Expr :=
  .sum (first :: rest.map fun (subtracted, x) =>
    if subtracted then .unary .negate x else x)

/-- The tree of a product: all multiplied factors, divided by all divisors at once. -/
def productTree (first : Expr) (rest : List (Bool × Expr)) : Expr :=
  let numerator := Expr.product (first :: (rest.filter (!·.1)).map Prod.snd)
  match (rest.filter (·.1)).map Prod.snd with
  | [] => numerator
  | divisors => .node .quotient [numerator, .product divisors]

/-- The tree of an operand with a number of factorials behind it. -/
def factorialTree : Nat → Expr → Expr
  | 0, x => x
  | count + 1, x => factorialTree count (.unary .factorial x)

namespace Derivation

/-- The tokens that a derivation spells. -/
def tokens : {category : Category} → Derivation category → List Token
  | _, sum first rest => first.tokens ++ rest.tokens
  | _, noTerms => []
  | _, term subtracted operand rest =>
      termOperator subtracted :: (operand.tokens ++ rest.tokens)
  | _, product first rest => first.tokens ++ rest.tokens
  | _, noFactors => []
  | _, factor divides operand rest =>
      factorOperator divides :: (operand.tokens ++ rest.tokens)
  | _, base operand => operand.tokens
  | _, raised operand exponent => operand.tokens ++ .power :: exponent.tokens
  | _, negated operand => .minus :: operand.tokens
  | _, triangular operand => .triangular :: operand.tokens
  | _, root operand => .root :: operand.tokens
  | _, unsigned operand => operand.tokens
  | _, postfixed operand factorials => operand.tokens ++ .replicate factorials .factorial
  | _, group inner => .opening :: (inner.tokens ++ [.closing])
  | _, literal written => written.tokens
  | _, positive written => .plus :: written.tokens

/-- What a derivation stands for. -/
def meaning : {category : Category} → Derivation category → category.Meaning
  | _, sum first rest => sumTree first.meaning rest.meaning
  | _, noTerms => []
  | _, term subtracted operand rest => (subtracted, operand.meaning) :: rest.meaning
  | _, product first rest => productTree first.meaning rest.meaning
  | _, noFactors => []
  | _, factor divides operand rest => (divides, operand.meaning) :: rest.meaning
  | _, base operand => operand.meaning
  | _, raised operand exponent => .node .power [operand.meaning, exponent.meaning]
  | _, negated operand => .unary .negate operand.meaning
  | _, triangular operand => .unary .triangular operand.meaning
  | _, root operand => .unary .root operand.meaning
  | _, unsigned operand => operand.meaning
  | _, postfixed operand factorials => factorialTree factorials operand.meaning
  | _, group inner => inner.meaning
  | _, literal written => written.tree
  | _, positive written => written.tree

/-- How deep a derivation nests: the brackets, signs and exponents that are open at once,
together with the factorials of the chain that is being spelled. -/
def nesting : {category : Category} → Derivation category → Nat
  | _, sum first rest => max first.nesting rest.nesting
  | _, noTerms => 0
  | _, term _ operand rest => max operand.nesting rest.nesting
  | _, product first rest => max first.nesting rest.nesting
  | _, noFactors => 0
  | _, factor _ operand rest => max operand.nesting rest.nesting
  | _, base operand => operand.nesting
  | _, raised operand exponent => max operand.nesting (exponent.nesting + 1)
  | _, negated operand => operand.nesting + 1
  | _, triangular operand => operand.nesting + 1
  | _, root operand => operand.nesting + 1
  | _, unsigned operand => operand.nesting
  | _, postfixed operand factorials => max operand.nesting factorials
  | _, group inner => inner.nesting + 1
  | _, literal _ => 0
  | _, positive _ => 0

end Derivation

/-- A derivation of a whole expression. -/
abbrev Sentence :=
  Derivation (.sum true)

end Grammar
end FourFours
