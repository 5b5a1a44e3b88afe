import FourFours.Expr

/-!
# Bracketed text of expressions

A tree written with a bracket around every operand, so that its shape can be read off
the text without any rule of precedence.
-/

namespace FourFours

/-- A decimal literal as it is written. -/
def Decimal.text (d : Decimal) : String :=
  let whole := match d.whole with
    | some n => toString n
    | none => ""
  if d.repeating then
    whole ++ ".(" ++ String.ofList d.fraction ++ ")"
  else
    whole ++ "." ++ String.ofList d.fraction

/-- The separator between the operands of a node. -/
def Nary.separator : Nary → String
  | .sum => "+"
  | .product => "*"
  | .quotient => "/"
  | .power => "^"

/-- The fully bracketed text of a tree. -/
def Expr.text : Expr → String
  | .integer n => toString n
  | .decimal d => d.text
  | .unary .triangular x => "S(" ++ x.text ++ ")"
  | .unary .root x => "R(" ++ x.text ++ ")"
  | .unary .factorial x => "(" ++ x.text ++ ")!"
  | .unary .negate x => "-(" ++ x.text ++ ")"
  | .node _ [] => "()"
  | .node op (x :: xs) => "(" ++ x.text ++ laterOperands op xs ++ ")"
where
  /-- The operands of a node after the first, each behind the separator. -/
  laterOperands (op : Nary) : List Expr → String
    | [] => ""
    | x :: xs => op.separator ++ x.text ++ laterOperands op xs

end FourFours
