import FourFours.Expr.Markup
import FourFours.Integer.DigitsLemmas
import FourFours.Proofs.Meaning
import FourFours.Proofs.Shape

/-!
# The grammar of markup

A markup does not tell how sums are nested in sums and products in products, nor whether a
sign belongs to a product or to its first factor. What it does tell is a derivation in the
grammar of this module, whose chains are flat and whose signs belong to single factors. A
derivation determines a text and a number. Conversely its text determines the derivation:
what may follow a phrase never continues it, and the first characters of a phrase tell which
rule derives it.
-/

namespace FourFours
namespace Markup

/-- A literal that can be written. -/
inductive Literal
  | integer (n : Nat)
  | decimal (d : Decimal) (wellFormed : d.IsWellFormed)

/-- The tree of a literal. -/
def Literal.tree : Literal → Expr
  | integer n => .integer n
  | decimal d _ => .decimal d

/-- The categories of phrases, from the loosest to the tightest. -/
inductive Category
  | sum
  /-- The terms of a sum behind the first, each with its sign. -/
  | terms
  | product
  /-- The factors of a product behind the first, each with its sign. -/
  | factors
  /-- A power with the minus signs in front of it. -/
  | signed
  | power
  /-- What may stand behind the sign of a triangular number without brackets. -/
  | operand
  /-- A base with the factorials behind it. -/
  | postfixed
  /-- What may be raised to a power without brackets, or stands in brackets. -/
  | base

/-- A derivation of a phrase of some category. -/
inductive Derivation : Category → Type
  | sum (first : Derivation .product) (rest : Derivation .terms) : Derivation .sum
  | noTerms : Derivation .terms
  | term (subtracted : Bool) (operand : Derivation .product)
      (rest : Derivation .terms) : Derivation .terms
  | product (first : Derivation .signed) (rest : Derivation .factors) : Derivation .product
  | noFactors : Derivation .factors
  | factor (operand : Derivation .signed) (rest : Derivation .factors) : Derivation .factors
  | negated (operand : Derivation .signed) : Derivation .signed
  | unsigned (operand : Derivation .power) : Derivation .signed
  | unraised (operand : Derivation .operand) : Derivation .power
  | raised (operand : Derivation .base) (exponent : Derivation .sum) : Derivation .power
  | plain (operand : Derivation .postfixed) : Derivation .operand
  | fraction (numerator denominator : Derivation .sum) : Derivation .operand
  | triangular (operand : Derivation .operand) : Derivation .operand
  | triangularGroup (inner : Derivation .sum) : Derivation .operand
  | postfixed (operand : Derivation .base) (factorials : Nat) : Derivation .postfixed
  | literal (literal : Literal) : Derivation .base
  | root (inner : Derivation .sum) : Derivation .base
  | group (inner : Derivation .sum) : Derivation .base

/-- The sign in front of a term. -/
def termSign (subtracted : Bool) : List Char :=
  [' ', if subtracted then '-' else '+', ' ']

/-- The sign in front of a factor. -/
def timesSign : List Char :=
  [' ', '\\', 't', 'i', 'm', 'e', 's', ' ']

/-- The sign of a triangular number. -/
def sigmaSign : List Char :=
  ['\\', 'S', 'i', 'g', 'm', 'a']

def rootOpening : List Char :=
  ['\\', 's', 'q', 'r', 't', '{']

def fractionOpening : List Char :=
  ['\\', 'f', 'r', 'a', 'c', '{']

def overlineOpening : List Char :=
  ['\\', 'o', 'v', 'e', 'r', 'l', 'i', 'n', 'e', '{']

def groupOpening : List Char :=
  ['\\', 'l', 'e', 'f', 't', '(']

def groupClosing : List Char :=
  ['\\', 'r', 'i', 'g', 'h', 't', ')']

namespace Derivation

/-- The text of a derivation. -/
@[simp] def text : {category : Category} → Derivation category → List Char
  | _, sum first rest => first.text ++ rest.text
  | _, noTerms => []
  | _, term subtracted operand rest => termSign subtracted ++ (operand.text ++ rest.text)
  | _, product first rest => first.text ++ rest.text
  | _, noFactors => []
  | _, factor operand rest => timesSign ++ (operand.text ++ rest.text)
  | _, negated operand => '-' :: operand.text
  | _, unsigned operand => operand.text
  | _, unraised operand => operand.text
  | _, raised operand exponent => operand.text ++ ('^' :: '{' :: (exponent.text ++ ['}']))
  | _, plain operand => operand.text
  | _, fraction numerator denominator =>
      fractionOpening ++ (numerator.text ++ ('}' :: '{' :: (denominator.text ++ ['}'])))
  | _, triangular operand => sigmaSign ++ ' ' :: operand.text
  | _, triangularGroup inner => sigmaSign ++ (groupOpening ++ (inner.text ++ groupClosing))
  | _, postfixed operand factorials => operand.text ++ .replicate factorials '!'
  | _, literal written => written.tree.markup.toList
  | _, root inner => rootOpening ++ (inner.text ++ ['}'])
  | _, group inner => groupOpening ++ (inner.text ++ groupClosing)

/-- The number that a derivation stands for, if there is one: that of the whole phrase, or
of the terms or factors behind the first. Its decimals stand for given numbers. -/
@[simp] noncomputable def number (decimal : Decimal → Option ℝ) :
    {category : Category} → Derivation category → Option ℝ
  | _, sum first rest => Option.map₂ (· + ·) (first.number decimal) (rest.number decimal)
  | _, noTerms => some 0
  | _, term subtracted operand rest =>
      Option.map₂ (· + ·)
        (if subtracted then (operand.number decimal).map (- ·) else operand.number decimal)
        (rest.number decimal)
  | _, product first rest => Option.map₂ (· * ·) (first.number decimal) (rest.number decimal)
  | _, noFactors => some 1
  | _, factor operand rest => Option.map₂ (· * ·) (operand.number decimal) (rest.number decimal)
  | _, negated operand => (operand.number decimal).map (- ·)
  | _, unsigned operand => operand.number decimal
  | _, unraised operand => operand.number decimal
  | _, raised operand exponent =>
      (operand.number decimal).bind fun x =>
        (exponent.number decimal).bind fun y => Nary.power.meaning [x, y]
  | _, plain operand => operand.number decimal
  | _, fraction numerator denominator =>
      (numerator.number decimal).bind fun x =>
        (denominator.number decimal).bind fun y => Nary.quotient.meaning [x, y]
  | _, triangular operand => (operand.number decimal).bind Unary.triangular.meaning
  | _, triangularGroup inner => (inner.number decimal).bind Unary.triangular.meaning
  | _, postfixed operand factorials =>
      (fun number => number.bind Unary.factorial.meaning)^[factorials] (operand.number decimal)
  | _, literal written => written.tree.meaningWith decimal
  | _, root inner => (inner.number decimal).bind Unary.root.meaning
  | _, group inner => inner.number decimal

end Derivation

/-! ## Where phrases end -/

/-- How loosely a text continues what stands before it; 5 if it never does. -/
def looseness : List Char → Nat
  | [] => 5
  | c :: rest =>
      if c.isDigit then 0
      else
        match c with
        | '.' => 0
        | '!' => 1
        | '^' => 2
        | ' ' => if rest.head? = some '\\' then 3 else 4
        | _ => 5

/-- The looseness of the texts that may continue a phrase. -/
def Category.looseness : Category → Nat
  | .base => 0
  | .operand | .postfixed => 1
  | .power | .signed => 2
  | .product | .factors => 3
  | .sum | .terms => 4

/-- A text does not continue a phrase of a category. -/
def Ends (category : Category) (rest : List Char) : Prop :=
  category.looseness < looseness rest

/-- What ends a looser phrase ends a tighter one. -/
theorem Ends.tighten
    {loose tight : Category}
    {rest : List Char}
    (ends : Ends loose rest)
    (le : tight.looseness ≤ loose.looseness) :
    Ends tight rest :=
  Nat.lt_of_le_of_lt le ends

theorem looseness_termSign (subtracted : Bool) (rest : List Char) :
    looseness (termSign subtracted ++ rest) = 4 := by
  cases subtracted <;> rfl

theorem termSign_injective {subtracted subtracted' : Bool} {rest rest' : List Char}
    (equal : termSign subtracted ++ rest = termSign subtracted' ++ rest') :
    subtracted = subtracted' ∧ rest = rest' := by
  cases subtracted <;> cases subtracted' <;> simp_all [termSign]

theorem looseness_times (rest : List Char) : looseness (timesSign ++ rest) = 3 := rfl

/-- An exponent continues nothing tighter than a power. -/
theorem ends_hat {category : Category} (tight : category.looseness < 2) (rest : List Char) :
    Ends category ('^' :: rest) := tight

theorem Category.looseness_lt (category : Category) : category.looseness < 5 := by
  cases category <;> decide

/-- A closing brace ends every phrase. -/
theorem ends_brace (category : Category) (rest : List Char) : Ends category ('}' :: rest) :=
  category.looseness_lt

/-- A closing bracket ends every phrase. -/
theorem ends_bracket (category : Category) (rest : List Char) :
    Ends category (groupClosing ++ rest) :=
  category.looseness_lt

theorem ends_nil (category : Category) : Ends category [] :=
  category.looseness_lt

namespace Derivation

/-- The terms behind the first do not continue the first. -/
theorem ends_terms (derivation : Derivation .terms) {rest : List Char}
    (ends : Ends .terms rest) :
    Ends .product (derivation.text ++ rest) := by
  cases derivation with
  | noTerms =>
      simp only [text, List.nil_append]
      exact ends.tighten (by decide)
  | term subtracted =>
      simp only [text, List.append_assoc, Ends, looseness_termSign]
      decide

/-- The factors behind the first do not continue the first. -/
theorem ends_factors (derivation : Derivation .factors) {rest : List Char}
    (ends : Ends .factors rest) :
    Ends .signed (derivation.text ++ rest) := by
  cases derivation with
  | noFactors =>
      simp only [text, List.nil_append]
      exact ends.tighten (by decide)
  | factor =>
      simp only [text, List.append_assoc, Ends, looseness_times]
      decide

end Derivation

theorem ends_factorials (count : Nat) {rest : List Char} (ends : Ends .postfixed rest) :
    Ends .base (.replicate count '!' ++ rest) := by
  cases count with
  | zero => exact ends.tighten (by decide)
  | succ count => exact Nat.zero_lt_one

/-- Two chains of factorials that nothing continues have the same length. -/
theorem factorials_unique
    {count count' : Nat}
    {rest rest' : List Char}
    (ends : Ends .postfixed rest)
    (ends' : Ends .postfixed rest')
    (equal : List.replicate count '!' ++ rest = List.replicate count' '!' ++ rest') :
    count = count' ∧ rest = rest' := by
  have continued {tail : List Char} : ¬Ends .postfixed ('!' :: tail) := Nat.lt_irrefl 1
  induction count generalizing count' with
  | zero =>
      cases count' with
      | zero => exact ⟨rfl, equal⟩
      | succ count' =>
          rw [List.replicate_zero, List.nil_append] at equal
          exact absurd (equal ▸ ends) continued
  | succ count inductionHypothesis =>
      cases count' with
      | zero =>
          rw [List.replicate_zero, List.nil_append] at equal
          exact absurd (equal ▸ ends') continued
      | succ count' =>
          obtain ⟨rfl, same⟩ := inductionHypothesis (List.cons.inj equal).2
          exact ⟨rfl, same⟩

/-! ## Literals -/

/-- Runs of digits are equal if they are cut off the same text. -/
theorem run_unique
    {run run' rest rest' : List Char}
    (digits : ∀ c ∈ run, c.isDigit = true)
    (digits' : ∀ c ∈ run', c.isDigit = true)
    (ends : ∀ c ∈ rest.head?, c.isDigit = false)
    (ends' : ∀ c ∈ rest'.head?, c.isDigit = false)
    (equal : run ++ rest = run' ++ rest') :
    run = run' ∧ rest = rest' := by
  have nothing {tail : List Char} (ends : ∀ c ∈ tail.head?, c.isDigit = false) :
      tail.takeWhile Char.isDigit = [] := by
    cases tail with
    | nil => rfl
    | cons c tail => simp [ends c rfl]
  have runs : run = run' := by
    have taken := congrArg (List.takeWhile Char.isDigit) equal
    rwa [List.takeWhile_append_of_pos digits, List.takeWhile_append_of_pos digits',
      nothing ends, nothing ends', List.append_nil, List.append_nil] at taken
  exact ⟨runs, List.append_cancel_left (runs ▸ equal)⟩

namespace Literal

/-- The digits of a literal up to its point, or all of them. -/
def whole : Literal → List Char
  | integer n => (toString (n : Int)).toList
  | decimal d _ => (d.whole.map fun n => (toString n).toList).getD []

/-- What a literal consists of from its point on. -/
def behind : Literal → List Char
  | integer _ => []
  | decimal d _ =>
      '.' :: if d.repeating then overlineOpening ++ (d.fraction ++ ['}']) else d.fraction

/-- What a literal consists of from its point on, where decimals that repeat stand between an
opening and a closing. -/
def behindWith (opening closing : List Char) : Literal → List Char
  | integer _ => []
  | decimal d _ =>
      '.' :: if d.repeating then opening ++ (d.fraction ++ closing) else d.fraction

theorem behind_eq_behindWith (literal : Literal) :
    literal.behind = literal.behindWith overlineOpening ['}'] := by
  cases literal <;> rfl

theorem markup_tree (literal : Literal) :
    literal.tree.markup.toList = literal.whole ++ literal.behind := by
  cases literal with
  | integer n => simp [tree, Expr.markup, whole, behind]
  | decimal d wellFormed =>
      cases whole : d.whole <;> cases repeating : d.repeating <;>
        simp [tree, Expr.markup, Expr.decimalMarkup, Expr.braced, Literal.whole, behind, whole,
          repeating, overlineOpening]

theorem toString_natCast (n : Nat) : (toString (n : Int)).toList = Nat.toDigits 10 n := by
  rw [← Integer.text_eq_toString, Integer.text, if_neg (by omega), String.toList_ofList,
    Int.natAbs_natCast, Integer.digits_eq_toDigits]

theorem isDigit_of_mem_toString {n : Int} (nonnegative : 0 ≤ n) :
    ∀ c ∈ (toString n).toList, c.isDigit = true := by
  intro c member
  lift n to Nat using nonnegative
  rw [toString_natCast] at member
  exact Nat.isDigit_of_mem_toDigits (by omega) (by omega) member

theorem isDigit_of_mem_whole (literal : Literal) : ∀ c ∈ literal.whole, c.isDigit = true := by
  cases literal with
  | integer n => exact isDigit_of_mem_toString (Int.natCast_nonneg n)
  | decimal d wellFormed =>
      cases digits : d.whole with
      | none => simp [whole, digits]
      | some n => simpa [whole, digits] using
          isDigit_of_mem_toString (wellFormed.whole_nonneg n digits)

theorem isDigit_head_of_ends {rest : List Char} (ends : Ends .base rest) :
    ∀ c ∈ rest.head?, c.isDigit = false := by
  cases rest with
  | nil => simp
  | cons c rest =>
      by_contra digit
      simp only [List.head?_cons, Option.mem_some_iff, forall_eq', Bool.not_eq_false] at digit
      simp [Ends, looseness, digit] at ends

/-- A literal begins with a digit or a point. -/
theorem exists_head_behindWith (literal : Literal) (opening closing : List Char) :
    ∃ c tail, literal.whole ++ literal.behindWith opening closing = c :: tail ∧
      (c.isDigit || c == '.') = true := by
  cases run : literal.whole with
  | cons c run =>
      have digit := literal.isDigit_of_mem_whole c (run ▸ List.mem_cons_self)
      exact ⟨c, _, rfl, by rw [digit, Bool.true_or]⟩
  | nil =>
      cases literal with
      | integer n =>
          rw [whole, toString_natCast] at run
          exact absurd run Nat.toDigits_ne_nil
      | decimal d wellFormed => exact ⟨_, _, rfl, rfl⟩

theorem isDigit_head_behindWith
    (literal : Literal)
    (opening closing : List Char)
    {rest : List Char}
    (ends : Ends .base rest) :
    ∀ c ∈ (literal.behindWith opening closing ++ rest).head?, c.isDigit = false := by
  cases literal with
  | integer n => exact isDigit_head_of_ends ends
  | decimal d wellFormed =>
      simp only [behindWith, List.cons_append, List.head?_cons, Option.mem_some_iff, forall_eq']
      decide

theorem toString_injective
    {n n' : Int}
    (nonnegative : 0 ≤ n)
    (nonnegative' : 0 ≤ n')
    (equal : (toString n).toList = (toString n').toList) :
    n = n' := by
  lift n to Nat using nonnegative
  lift n' to Nat using nonnegative'
  rw [toString_natCast, toString_natCast] at equal
  have numbers := congrArg (Nat.ofDigitChars 10 · 0) equal
  simpa only [Nat.ofDigitChars_ten_toDigits, Int.natCast_inj] using numbers

/-- The digits before the point of a decimal tell its whole part. -/
theorem whole_unique
    {d d' : Decimal}
    (wellFormed : d.IsWellFormed)
    (wellFormed' : d'.IsWellFormed)
    (equal : (decimal d wellFormed).whole = (decimal d' wellFormed').whole) :
    d.whole = d'.whole := by
  have nonempty {n : Int} (nonnegative : 0 ≤ n) : (toString n).toList ≠ [] := by
    lift n to Nat using nonnegative
    rw [toString_natCast]
    exact Nat.toDigits_ne_nil
  obtain ⟨left, _, _⟩ := d
  obtain ⟨right, _, _⟩ := d'
  cases left with
  | none =>
      cases right with
      | none => rfl
      | some n' => exact absurd equal.symm (nonempty (wellFormed'.whole_nonneg n' rfl))
  | some n =>
      have nonnegative := wellFormed.whole_nonneg n rfl
      cases right with
      | none => exact absurd equal (nonempty nonnegative)
      | some n' =>
          exact congrArg some
            (toString_injective nonnegative (wellFormed'.whole_nonneg n' rfl) equal)

section

variable {mark mark' : Char} {opening closing rest rest' : List Char}
  (opens : mark.isDigit = false)
  (closes : mark'.isDigit = false)

include opens closes

/-- What a decimal consists of from its point on tells its fraction, if decimals that repeat
stand between marks that are no digits. -/
theorem fraction_unique
    {d d' : Decimal}
    (wellFormed : d.IsWellFormed)
    (wellFormed' : d'.IsWellFormed)
    (ends : Ends .base rest)
    (ends' : Ends .base rest')
    (equal : (decimal d wellFormed).behindWith (mark :: opening) (mark' :: closing) ++ rest =
      (decimal d' wellFormed').behindWith (mark :: opening) (mark' :: closing) ++ rest') :
    d.fraction = d'.fraction ∧ d.repeating = d'.repeating ∧ rest = rest' := by
  have digits := List.all_eq_true.mp wellFormed.digits
  have digits' := List.all_eq_true.mp wellFormed'.digits
  have closed {tail : List Char} : ∀ c ∈ (mark' :: tail).head?, c.isDigit = false := by
    simpa using closes
  have notOpened {run tail tail' : List Char} (digits : ∀ c ∈ run, c.isDigit = true)
      (nonempty : run ≠ []) : run ++ tail ≠ mark :: tail' := by
    obtain ⟨c, run, rfl⟩ := List.exists_cons_of_ne_nil nonempty
    intro same
    have head := digits c List.mem_cons_self
    rw [(List.cons.inj same).1, opens] at head
    contradiction
  simp only [behindWith, List.cons_append, List.cons.injEq, true_and] at equal
  cases repeats : d.repeating <;> cases repeats' : d'.repeating <;>
    simp only [repeats, repeats', if_true, if_neg Bool.false_ne_true, List.append_assoc,
      List.cons_append] at equal
  · obtain ⟨fractions, same⟩ := run_unique digits digits' (isDigit_head_of_ends ends)
      (isDigit_head_of_ends ends') equal
    exact ⟨fractions, rfl, same⟩
  · exact absurd equal (notOpened digits wellFormed.nonempty)
  · exact absurd equal.symm (notOpened digits' wellFormed'.nonempty)
  · obtain ⟨fractions, same⟩ := run_unique digits digits' closed closed
      (List.append_cancel_left (List.cons.inj equal).2)
    exact ⟨fractions, rfl, List.append_cancel_left (List.cons.inj same).2⟩

/-- Two literals that nothing continues are equal if they are written alike. -/
theorem unique_of_behindWith
    {literal literal' : Literal}
    (ends : Ends .base rest)
    (ends' : Ends .base rest')
    (equal : literal.whole ++ (literal.behindWith (mark :: opening) (mark' :: closing) ++ rest) =
      literal'.whole ++ (literal'.behindWith (mark :: opening) (mark' :: closing) ++ rest')) :
    literal = literal' ∧ rest = rest' := by
  have noPoint {tail : List Char} : ¬Ends .base ('.' :: tail) := Nat.lt_irrefl 0
  obtain ⟨wholes, remaining⟩ := run_unique literal.isDigit_of_mem_whole
    literal'.isDigit_of_mem_whole (literal.isDigit_head_behindWith _ _ ends)
    (literal'.isDigit_head_behindWith _ _ ends') equal
  match literal, literal' with
  | .integer n, .integer n' =>
      have numbers := toString_injective (Int.natCast_nonneg n) (Int.natCast_nonneg n') wholes
      exact ⟨congrArg integer (Int.ofNat_inj.mp numbers), remaining⟩
  | .integer _, .decimal _ _ =>
      simp only [behindWith, List.nil_append, List.cons_append] at remaining
      exact absurd (remaining ▸ ends) noPoint
  | .decimal _ _, .integer _ =>
      simp only [behindWith, List.nil_append, List.cons_append] at remaining
      exact absurd (remaining ▸ ends') noPoint
  | .decimal d wellFormed, .decimal d' wellFormed' =>
      obtain ⟨fractions, repeats, same⟩ :=
        fraction_unique opens closes wellFormed wellFormed' ends ends' remaining
      have parts := whole_unique wellFormed wellFormed' wholes
      obtain ⟨_, _, _⟩ := d
      obtain ⟨_, _, _⟩ := d'
      obtain rfl := parts
      obtain rfl := fractions
      obtain rfl := repeats
      exact ⟨rfl, same⟩

end

/-- Two literals that nothing continues are equal if their texts are. -/
theorem unique
    {literal literal' : Literal}
    {rest rest' : List Char}
    (ends : Ends .base rest)
    (ends' : Ends .base rest')
    (equal : literal.tree.markup.toList ++ rest = literal'.tree.markup.toList ++ rest') :
    literal = literal' ∧ rest = rest' := by
  simp only [markup_tree, behind_eq_behindWith, List.append_assoc] at equal
  exact unique_of_behindWith (by decide) (by decide) ends ends' equal

end Literal

end Markup
end FourFours
