import FourFours.Expr

/-!
# Typeset markup of expressions

A tree written in the mathematical markup of a typesetter. Which operand is enclosed in
large brackets depends only on the pair of an operation and its operand, never on a
value:

* a factorial encloses everything but a literal, a factorial and a root;
* a negation encloses a sum and a negation;
* a triangular number encloses a sum, a product, a power and a negation;
* a sum encloses a subtracted sum;
* a product encloses a sum, and a negation that is not its first factor;
* a power encloses every base but a literal and a root.
-/

namespace FourFours
namespace Expr

/-- A text inside a pair of large brackets. -/
def enclosed (text : String) : String :=
  "\\left(" ++ text ++ "\\right)"

/-- A text inside a pair of braces. -/
def braced (text : String) : String :=
  "\x7b" ++ text ++ "\x7d"

/-- A text, enclosed if a condition holds. -/
def enclosedIf (condition : Bool) (text : String) : String :=
  if condition then enclosed text else text

/-- Whether a tree is a sum. -/
def isSum : Expr → Bool
  | node .sum _ => true
  | _ => false

/-- Whether a tree is a negation. -/
def isNegation : Expr → Bool
  | unary .negate _ => true
  | _ => false

/-- Whether an operation on one operand encloses that operand. A root never does: its
sign already covers the operand. -/
def enclosesOperand : Unary → Expr → Bool
  | .root, _ => false
  | .factorial, integer _ | .factorial, decimal _ => false
  | .factorial, unary .factorial _ | .factorial, unary .root _ => false
  | .factorial, _ => true
  | .negate, x => x.isSum || x.isNegation
  | .triangular, node .quotient _ => false
  | .triangular, node _ _ => true
  | .triangular, x => x.isNegation

/-- Whether a power encloses its base. -/
def enclosedAsBase : Expr → Bool
  | integer _ | decimal _ | unary .root _ => false
  | _ => true

/-- The markup of a decimal literal; a repeating fraction is overlined. -/
def decimalMarkup (d : Decimal) : String :=
  let whole := match d.whole with
    | some n => toString n
    | none => ""
  let fraction := String.ofList d.fraction
  whole ++ "." ++ if d.repeating then "\\overline" ++ braced fraction else fraction

/-- The markup of a tree. A quotient or power without exactly two operands has none. -/
def markup : Expr → String
  | integer n => toString n
  | decimal d => decimalMarkup d
  | unary .root x => "\\sqrt" ++ braced x.markup
  | unary .triangular x =>
      if enclosesOperand .triangular x then "\\Sigma" ++ enclosed x.markup
      else "\\Sigma " ++ x.markup
  | unary .factorial x => enclosedIf (enclosesOperand .factorial x) x.markup ++ "!"
  | unary .negate x => "-" ++ enclosedIf (enclosesOperand .negate x) x.markup
  | node .sum [] => ""
  | node .sum (x :: xs) => x.markup ++ laterTerms xs
  | node .product [] => ""
  | node .product (x :: xs) => enclosedIf x.isSum x.markup ++ laterFactors xs
  | node .quotient [x, y] => "\\frac" ++ braced x.markup ++ braced y.markup
  | node .power [x, y] => enclosedIf x.enclosedAsBase x.markup ++ "^" ++ braced y.markup
  | node _ _ => ""
where
  /-- The terms of a sum after the first, each with its sign. -/
  laterTerms : List Expr → String
    | [] => ""
    | unary .negate y :: xs => " - " ++ enclosedIf y.isSum y.markup ++ laterTerms xs
    | x :: xs => " + " ++ x.markup ++ laterTerms xs
  /-- The factors of a product after the first, each with its sign. -/
  laterFactors : List Expr → String
    | [] => ""
    | x :: xs =>
        " \\times " ++ enclosedIf (x.isSum || x.isNegation) x.markup ++ laterFactors xs

end Expr
end FourFours
