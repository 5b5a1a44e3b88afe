import FourFours.Expr.Printer
import FourFours.Proofs.Markup.Grammar

/-!
# The bracketed text determines the tree

Brackets stand around every operand, but around a base with factorials, around the operands of
a node and around repeating decimals they are the same brackets. On trees that are read the text
still has one reading: a node has at least two operands, so a separator stands where a factorial
closes its bracket, and a literal goes on until a character that is no digit and no point.
-/

namespace FourFours

open Markup

/-- Every node has two operands or more. -/
theorem Nary.Takes.exists_cons_cons
    {α : Type}
    {op : Nary}
    {xs : List α}
    (takes : op.Takes xs.length) :
    ∃ x y zs, xs = x :: y :: zs := by
  match xs with
  | [] | [_] => cases op <;> simp [Takes] at takes
  | x :: y :: zs => exact ⟨x, y, zs, rfl⟩

/-- What stands in front of the bracketed operand. -/
def Unary.opening : Unary → List Char
  | .triangular => ['S', '(']
  | .root => ['R', '(']
  | .factorial => ['(']
  | .negate => ['-', '(']

/-- What stands behind the bracketed operand. -/
def Unary.closing : Unary → List Char
  | .factorial => [')', '!']
  | _ => [')']

/-- The character between the operands of a node. -/
def Nary.mark : Nary → Char
  | .sum => '+'
  | .product => '*'
  | .quotient => '/'
  | .power => '^'

/-- What stands in front of an operand tells the operation. -/
theorem Unary.opening_unique
    {op op' : Unary}
    {tail tail' : List Char}
    (equal : op.opening ++ tail = op'.opening ++ tail') :
    op = op' ∧ tail = tail' := by
  cases op <;> cases op' <;> simp_all [opening]

theorem Unary.eq_factorial_of_opening
    {op : Unary}
    {tail tail' : List Char}
    (equal : op.opening ++ tail = '(' :: tail') :
    op = .factorial ∧ tail = tail' :=
  opening_unique (show op.opening ++ tail = factorial.opening ++ tail' from equal)

theorem Nary.mark_injective {op op' : Nary} (equal : op.mark = op'.mark) : op = op' := by
  cases op <;> cases op' <;> first | rfl | contradiction

theorem Nary.mark_ne_bracket (op : Nary) : op.mark ≠ ')' := by
  cases op <;> decide

namespace Expr

/-- The text of the operands of a node after the first, up to the bracket that closes it. -/
def laterText (op : Nary) : List Expr → List Char
  | [] => [')']
  | x :: xs => op.mark :: (x.text.toList ++ laterText op xs)

theorem toList_laterOperands (op : Nary) (xs : List Expr) :
    (text.laterOperands op xs).toList ++ [')'] = laterText op xs := by
  induction xs with
  | nil => rfl
  | cons x xs inductionHypothesis =>
      have separator : op.separator.toList = [op.mark] := by
        cases op <;> rfl
      rw [text.laterOperands, String.toList_append, String.toList_append, separator, laterText,
        ← inductionHypothesis]
      simp

theorem toList_text_node (op : Nary) (x : Expr) (xs : List Expr) :
    (node op (x :: xs)).text.toList = '(' :: (x.text.toList ++ laterText op xs) := by
  rw [← toList_laterOperands]
  simp [text]

theorem toList_text_unary (op : Unary) (x : Expr) :
    (unary op x).text.toList = op.opening ++ (x.text.toList ++ op.closing) := by
  cases op <;> simp [text, Unary.opening, Unary.closing]

theorem toList_text_literal (literal : Literal) :
    literal.tree.text.toList = literal.whole ++ literal.behindWith ['('] [')'] := by
  cases literal with
  | integer n => simp [Literal.tree, text, Literal.whole, Literal.behindWith]
  | decimal d wellFormed =>
      cases whole : d.whole <;> cases repeating : d.repeating <;>
        simp [Literal.tree, text, Decimal.text, Literal.whole, Literal.behindWith, whole, repeating]

theorem ends_closing (op : Unary) (rest : List Char) : Ends .base (op.closing ++ rest) := by
  cases op <;> exact Nat.zero_lt_succ 4

theorem ends_laterText (op : Nary) (xs : List Expr) (rest : List Char) :
    Ends .base (laterText op xs ++ rest) := by
  cases xs with
  | nil => exact Nat.zero_lt_succ 4
  | cons x xs => cases op <;> exact Nat.zero_lt_succ _

/-- Two trees whose texts a text begins with are the same, where none of the texts goes on. -/
def ToldApart (x y : Expr) : Prop :=
  ∀ ⦃rest rest' : List Char⦄, Ends .base rest → Ends .base rest' →
    x.text.toList ++ rest = y.text.toList ++ rest' → x = y ∧ rest = rest'

theorem ToldApart.symm {x y : Expr} (apart : ToldApart x y) : ToldApart y x := by
  intro rest rest' ends ends' equal
  obtain ⟨rfl, same⟩ := apart ends' ends equal.symm
  exact ⟨rfl, same.symm⟩

/-- A literal begins with a digit or a point, another tree with a sign or a bracket. -/
theorem toldApart_literal
    (literal : Literal)
    {y : Expr}
    (wellFormed : y.IsWellFormed) :
    ToldApart literal.tree y := by
  intro rest rest' ends ends' equal
  obtain ⟨c, tail, head, begins⟩ := literal.exists_head_behindWith ['('] [')']
  have foreign {d : Char} {other : List Char} (notLiteral : (d.isDigit || d == '.') = false) :
      literal.tree.text.toList ++ rest ≠ d :: other := by
    rw [toList_text_literal, head, List.cons_append]
    intro same
    rw [(List.cons.inj same).1, notLiteral] at begins
    contradiction
  have literals (literal' : Literal) (alike : literal.tree.text.toList ++ rest =
      literal'.tree.text.toList ++ rest') : literal.tree = literal'.tree ∧ rest = rest' := by
    simp only [toList_text_literal, List.append_assoc] at alike
    obtain ⟨rfl, same⟩ := Literal.unique_of_behindWith (by decide) (by decide) ends ends' alike
    exact ⟨rfl, same⟩
  cases wellFormed with
  | integer nonnegative =>
      rename_i n
      lift n to Nat using nonnegative
      exact literals (.integer n) equal
  | decimal wellFormed => exact literals (.decimal _ wellFormed) equal
  | unary op wellFormed =>
      rw [toList_text_unary] at equal
      cases op <;> exact absurd equal (foreign (by decide))
  | node takes wellFormed =>
      obtain ⟨y, z, zs, rfl⟩ := takes.exists_cons_cons
      rw [toList_text_node] at equal
      exact absurd equal (foreign (by decide))

theorem toldApart_integer
    {n : Int}
    (nonnegative : 0 ≤ n)
    {y : Expr}
    (wellFormed : y.IsWellFormed) :
    ToldApart (integer n) y := by
  lift n to Nat using nonnegative
  exact toldApart_literal (.integer n) wellFormed

theorem toldApart_decimal
    {d : Decimal}
    (written : d.IsWellFormed)
    {y : Expr}
    (wellFormed : y.IsWellFormed) :
    ToldApart (decimal d) y :=
  toldApart_literal (.decimal d written) wellFormed

theorem toldApart_unary {x y : Expr} (apart : ToldApart x y) (op op' : Unary) :
    ToldApart (unary op x) (unary op' y) := by
  intro rest rest' ends ends' equal
  simp only [toList_text_unary, List.append_assoc] at equal
  obtain ⟨rfl, behind⟩ := Unary.opening_unique equal
  obtain ⟨rfl, same⟩ := apart (ends_closing op rest) (ends_closing op rest') behind
  exact ⟨rfl, List.append_cancel_left same⟩

/-- Only a factorial begins with a bracket like a node, and no separator stands in that
bracket. -/
theorem toldApart_unary_node
    {x y : Expr}
    (apart : ToldApart x y)
    (op : Unary)
    (op' : Nary)
    (z : Expr)
    (zs : List Expr) :
    ToldApart (unary op x) (node op' (y :: z :: zs)) := by
  intro rest rest' ends ends' equal
  simp only [toList_text_unary, toList_text_node, List.cons_append, List.append_assoc] at equal
  obtain ⟨rfl, inner⟩ := Unary.eq_factorial_of_opening equal
  obtain ⟨-, behind⟩ := apart (ends_closing .factorial rest)
    (ends_laterText op' (z :: zs) rest') inner
  exact absurd (List.cons.inj behind).1.symm op'.mark_ne_bracket

/-- The operands of a node are found one after another, up to the bracket that closes it. -/
theorem laterText_unique
    {op : Nary}
    {xs ys : List Expr}
    {rest rest' : List Char}
    (apart : ∀ x ∈ xs, ∀ y, y.IsWellFormed → ToldApart x y)
    (wellFormed : ∀ y ∈ ys, y.IsWellFormed)
    (equal : laterText op xs ++ rest = laterText op ys ++ rest') :
    xs = ys ∧ rest = rest' := by
  induction xs generalizing ys with
  | nil =>
      cases ys with
      | nil => exact ⟨rfl, (List.cons.inj equal).2⟩
      | cons y ys => exact absurd (List.cons.inj equal).1.symm op.mark_ne_bracket
  | cons x xs inductionHypothesis =>
      cases ys with
      | nil => exact absurd (List.cons.inj equal).1 op.mark_ne_bracket
      | cons y ys =>
          obtain ⟨apartFirst, apartRest⟩ := List.forall_mem_cons.mp apart
          obtain ⟨wellFormedFirst, wellFormedRest⟩ := List.forall_mem_cons.mp wellFormed
          simp only [laterText, List.cons_append, List.append_assoc] at equal
          obtain ⟨rfl, behind⟩ := apartFirst y wellFormedFirst (ends_laterText op xs rest)
            (ends_laterText op ys rest') (List.cons.inj equal).2
          obtain ⟨rfl, same⟩ := inductionHypothesis apartRest wellFormedRest behind
          exact ⟨rfl, same⟩

/-- The first separator of a node tells its operation. -/
theorem toldApart_node
    {xs ys : List Expr}
    {op op' : Nary}
    (takes : op.Takes xs.length)
    (takes' : op'.Takes ys.length)
    (apart : ∀ x ∈ xs, ∀ y, y.IsWellFormed → ToldApart x y)
    (wellFormed : ∀ y ∈ ys, y.IsWellFormed) :
    ToldApart (node op xs) (node op' ys) := by
  intro rest rest' ends ends' equal
  obtain ⟨x, second, xs, rfl⟩ := takes.exists_cons_cons
  obtain ⟨y, second', ys, rfl⟩ := takes'.exists_cons_cons
  obtain ⟨apartFirst, apartRest⟩ := List.forall_mem_cons.mp apart
  obtain ⟨wellFormedFirst, wellFormedRest⟩ := List.forall_mem_cons.mp wellFormed
  simp only [toList_text_node, List.cons_append, List.append_assoc] at equal
  obtain ⟨rfl, behind⟩ := apartFirst y wellFormedFirst (ends_laterText op _ rest)
    (ends_laterText op' _ rest') (List.cons.inj equal).2
  obtain rfl := Nary.mark_injective (List.cons.inj behind).1
  obtain ⟨operands, same⟩ := laterText_unique apartRest wellFormedRest behind
  rw [operands]
  exact ⟨rfl, same⟩

/-- Well-formed trees are told apart by their texts. -/
theorem toldApart {x : Expr} (wellFormed : x.IsWellFormed) :
    ∀ y, y.IsWellFormed → ToldApart x y := by
  induction wellFormed with
  | integer nonnegative => exact fun y wellFormed' => toldApart_integer nonnegative wellFormed'
  | decimal written => exact fun y wellFormed' => toldApart_decimal written wellFormed'
  | unary op wellFormed apart =>
      intro y wellFormed'
      cases wellFormed' with
      | integer nonnegative => exact (toldApart_integer nonnegative (.unary op wellFormed)).symm
      | decimal written => exact (toldApart_decimal written (.unary op wellFormed)).symm
      | unary op' wellFormed' => exact toldApart_unary (apart _ wellFormed') op op'
      | node takes wellFormed' =>
          obtain ⟨y, z, zs, rfl⟩ := takes.exists_cons_cons
          exact toldApart_unary_node (apart y (wellFormed' y List.mem_cons_self)) op _ z zs
  | node takes wellFormed apart =>
      intro y wellFormed'
      cases wellFormed' with
      | integer nonnegative => exact (toldApart_integer nonnegative (.node takes wellFormed)).symm
      | decimal written => exact (toldApart_decimal written (.node takes wellFormed)).symm
      | unary op' wellFormed' =>
          obtain ⟨x, z, zs, rfl⟩ := takes.exists_cons_cons
          have first := apart x List.mem_cons_self _ wellFormed'
          exact (toldApart_unary_node first.symm op' _ z zs).symm
      | node takes' wellFormed' => exact toldApart_node takes takes' apart wellFormed'

/-- Nodes without operands, which no text is read to, have one text whatever they are. -/
example : (node .sum []).text = (node .product []).text := by
  rfl

/-- Two typed texts whose trees have the same bracketed text are read to the same tree. -/
theorem eq_of_text_eq
    {text text' : String}
    {x y : Expr}
    (read : Expr.read text = .ok x)
    (read' : Expr.read text' = .ok y)
    (equal : x.text = y.text) :
    x = y := by
  have wellFormed := yields_read text
  have wellFormed' := yields_read text'
  rw [read] at wellFormed
  rw [read'] at wellFormed'
  have alike : x.text.toList ++ [] = y.text.toList ++ [] := by
    rw [equal]
  exact (toldApart wellFormed y wellFormed' (ends_nil .base) (ends_nil .base) alike).1

/-- The brackets that precedence makes needless do not show in the tree. -/
theorem eq_of_text_eq_sumOfProduct :
    ∃ x y, Expr.read "4+4*4" = .ok x ∧ Expr.read "(4)+(4*4)" = .ok y ∧
      x.text = "(4+(4*4))" ∧ y.text = "(4+(4*4))" ∧ x = y := by
  have read : Expr.read "4+4*4" =
      .ok (.node .sum [.integer 4, .node .product [.integer 4, .integer 4]]) := by rfl
  have read' : Expr.read "(4)+(4*4)" =
      .ok (.node .sum [.integer 4, .node .product [.integer 4, .integer 4]]) := by rfl
  have written : (Expr.node .sum [.integer 4, .node .product [.integer 4, .integer 4]]).text =
      "(4+(4*4))" := by decide +kernel
  exact ⟨_, _, read, read', written, written, eq_of_text_eq read read' rfl⟩

end Expr
end FourFours
