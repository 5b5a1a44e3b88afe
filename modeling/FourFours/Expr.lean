/-!
# Expressions

The tree of an expression, without any value attached. Sums, products, quotients and
powers carry a list of operands; a subtraction is a sum with a negated operand. The
reader of expressions only builds quotients and powers with two operands and sums and
products with at least two.
-/

namespace FourFours

/-- A decimal literal: the digits after the point end, or repeat for ever. -/
structure Decimal where
  /-- The part before the point, if one is written. -/
  whole : Option Int
  /-- The digits after the point, as written. -/
  fraction : List Char
  /-- Whether the fraction repeats for ever. -/
  repeating : Bool
  deriving DecidableEq, Repr

/-- The operations on one operand. -/
inductive Unary
  /-- The triangular number of the operand. -/
  | triangular
  /-- The square root. -/
  | root
  | factorial
  | negate
  deriving DecidableEq, Repr

/-- The operations on a list of operands. -/
inductive Nary
  | sum
  | product
  | quotient
  | power
  deriving DecidableEq, Repr

/-- An expression tree. -/
inductive Expr
  | integer (n : Int)
  | decimal (d : Decimal)
  | unary (op : Unary) (operand : Expr)
  | node (op : Nary) (operands : List Expr)
  deriving Repr

namespace Expr

/-- The product of some factors; a single factor stands for itself. -/
def product : List Expr → Expr
  | [factor] => factor
  | factors => node .product factors

/-- The sum of some terms; a single term stands for itself. -/
def sum : List Expr → Expr
  | [term] => term
  | terms => node .sum terms

/-- The number of nodes of a tree, leaves included. -/
def size : Expr → Nat
  | integer _ | decimal _ => 1
  | unary _ operand => 1 + operand.size
  | node _ operands => 1 + sizes operands
where
  /-- The number of nodes of several trees together. -/
  sizes : List Expr → Nat
    | [] => 0
    | operand :: operands => operand.size + sizes operands

end Expr
end FourFours
