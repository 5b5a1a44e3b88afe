import FourFours.Token
import FourFours.Expr.Printer

/-!
# Faults

Why an expression has no result. A syntax fault is found while its text is read, an
evaluation fault breaks a rule of arithmetic or a limit of the settings, and an internal
fault means that a tree is malformed or that the precision schedule ran out. A breakdown
is no fault that is told: the program stops at a step that cannot be carried out. What
a session or a batch does after a breakdown is what it does after any fault; no run of
the program gets that far.
-/

namespace FourFours

/-- A fault in the text of an expression. -/
inductive SyntaxFault
  | empty
  | unmatchedBracket
  | emptyBracket
  | tooDeep
  | strayCharacter (c : Char)
  /-- An operator at a place where an operand has to begin. -/
  | missingLeft (operator : Token)
  /-- An operator that no operand follows. -/
  | missingRight (operator : Token)
  /-- A sign in front of an operand that is not there. -/
  | missingOperand (operator : Token)
  /-- A fragment that does not form an expression. -/
  | malformed (fragment : List Token)
  deriving DecidableEq, Repr

/-- A rule of arithmetic, or a limit, that an evaluation breaks. -/
inductive EvaluationFault
  | divisionByZero
  | zeroToZero
  | negativeRoot
  /-- The operand of a triangular number or a factorial is no natural number. -/
  | notNatural (op : Unary)
  | operandTooLarge (op : Unary)
  | exponentNotInteger
  | exponentTooLarge
  | resultTooLarge
  | tooManyRadicals
  deriving DecidableEq, Repr

/-- A malformed tree, or an approximation that the precision schedule cannot settle. -/
inductive InternalFault
  | badInteger (run : List Char)
  | badDecimal (literal : Decimal)
  | noOperand (op : Nary)
  | operandCount (op : Nary) (count : Nat)
  | factorialRange (operand : Nat)
  /-- A nonzero value, in its exact form, for which no inverse was found. -/
  | noInverse (exact : String)
  /-- A value, in its exact form, that no enclosure separates from zero. -/
  | undecidedSign (exact : String)
  /-- A value, in its exact form, whose leading digits no enclosure settles. -/
  | undecidedDigits (exact : String)
  deriving DecidableEq, Repr

/-- A step that the program does not survive. -/
inductive Breakdown
  /-- A fraction with the denominator zero. -/
  | zeroDenominator
  /-- Decimals that have to be padded to a width of more than 16 bits. -/
  | widthOutOfRange
  deriving DecidableEq, Repr

/-- Why an expression has no result. -/
inductive Fault
  | inSyntax (cause : SyntaxFault)
  | inEvaluation (cause : EvaluationFault)
  | internal (cause : InternalFault)
  | breakdown (cause : Breakdown)
  deriving DecidableEq, Repr

namespace SyntaxFault

/-- The wording of a syntax fault. -/
def message : SyntaxFault → String
  | empty => "empty expression"
  | unmatchedBracket => "unmatched bracket"
  | emptyBracket => "empty bracket"
  | tooDeep => "expression is too deeply nested"
  | strayCharacter c => "invalid character '" ++ c.toString ++ "' in expression"
  | missingLeft t => "missing left operand of " ++ String.ofList t.lexeme ++ " operator"
  | missingRight t => "missing right operand of " ++ String.ofList t.lexeme ++ " operator"
  | missingOperand t => "missing operand of " ++ String.ofList t.lexeme ++ " operator"
  | malformed fragment => "invalid expression: " ++ String.ofList (Token.spell fragment)

end SyntaxFault

/-- The sign of an operation on one operand. -/
def Unary.sign : Unary → String
  | .triangular => "S"
  | .root => "R"
  | .factorial => "!"
  | .negate => "-"

/-- The name of an operation on a list of operands. -/
def Nary.name : Nary → String
  | .sum => "Add"
  | .product => "Mul"
  | .quotient => "Div"
  | .power => "Pow"

namespace EvaluationFault

/-- The wording of an evaluation fault. -/
def message : EvaluationFault → String
  | divisionByZero => "division by zero"
  | zeroToZero => "zero to the power of zero is undefined"
  | negativeRoot => "square root of a negative number"
  | notNatural op => "operand of " ++ op.sign ++ " must be a non-negative integer"
  | operandTooLarge op => "operand of " ++ op.sign ++ " is too large"
  | exponentNotInteger => "exponent must be an integer"
  | exponentTooLarge => "exponent is too large"
  | resultTooLarge => "result is too large"
  | tooManyRadicals => "too many distinct radicals"

end EvaluationFault

namespace InternalFault

/-- The wording of an internal fault. -/
def message : InternalFault → String
  | badInteger run => "invalid integer literal: " ++ String.ofList run
  | badDecimal literal => "malformed decimal literal: " ++ literal.text
  | noOperand op => op.name ++ " node without operand"
  | operandCount op count =>
      op.name ++ " node expects 2 operands, got " ++ toString count
  | factorialRange operand => "factorial operand out of range: " ++ toString operand
  | noInverse exact => "cannot invert " ++ exact
  | undecidedSign exact => "cannot decide the sign of " ++ exact
  | undecidedDigits exact => "cannot read " ++ exact

end InternalFault

/-- The last words of a program that breaks down. -/
def Breakdown.message : Breakdown → String
  | zeroDenominator => "denominator == 0"
  | widthOutOfRange => "Formatting argument out of range"

namespace Fault

/-- The wording of a fault. -/
def message : Fault → String
  | inSyntax cause => cause.message
  | inEvaluation cause => cause.message
  | internal cause => cause.message
  | breakdown cause => cause.message

/-- The wording of a fault, behind the name of its kind. -/
def describe : Fault → String
  | inSyntax cause => "syntax error: " ++ cause.message
  | inEvaluation cause => "evaluation error: " ++ cause.message
  | internal cause => "internal error: " ++ cause.message
  | breakdown cause => cause.message

end Fault
end FourFours
