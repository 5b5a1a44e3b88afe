import FourFours.CommandLine.Display
import FourFours.Proofs.Markup.Meaning

/-!
# Markup is well nested

Braces and large brackets come in pairs, and a typesetter refuses a text in which they cross or
stay open. A scan from left to right that keeps what is open on a stack tells whether a text is
well nested. The text of a derivation, wherever it stands, closes what it opens and nothing else,
so the scan passes over it. No expression has an empty markup, hence the markup is empty exactly
where there is no expression.
-/

namespace FourFours
namespace Markup

/-- What comes in pairs. -/
inductive Pair
  | braces
  | brackets
  deriving DecidableEq, Repr

/-- What opens a pair. -/
def Pair.opening : Pair → List Char
  | braces => ['{']
  | brackets => groupOpening

/-- What closes a pair. -/
def Pair.closing : Pair → List Char
  | braces => ['}']
  | brackets => groupClosing

/-- One half of a pair. -/
inductive Mark
  | opens (pair : Pair)
  | closes (pair : Pair)
  deriving DecidableEq, Repr

/-- How a mark is written. -/
def Mark.text : Mark → List Char
  | opens pair => pair.opening
  | closes pair => pair.closing

/-- The mark at the front of a text, if it begins with one. -/
def markAt (text : List Char) : Option Mark :=
  [Mark.opens .braces, .closes .braces, .opens .brackets, .closes .brackets].find? fun mark =>
    mark.text.isPrefixOf text

/-- Whether a text closes the pairs that are open, the innermost first, and every pair that it
opens, each after what is opened inside of it. -/
def nestedBehind : List Pair → List Char → Bool
  | opened, [] => opened.isEmpty
  | opened, c :: rest =>
      match markAt (c :: rest), opened with
      | none, opened => nestedBehind opened rest
      | some (.opens pair), opened => nestedBehind (pair :: opened) rest
      | some (.closes pair), inner :: outer => inner == pair && nestedBehind outer rest
      | some (.closes _), [] => false

example : nestedBehind [] ('{' :: groupOpening ++ '}' :: groupClosing) = false := by decide

/-- A text closes what it opens and nothing else. -/
def IsNeutral (text : List Char) : Prop :=
  ∀ opened rest, nestedBehind opened (text ++ rest) = nestedBehind opened rest

/-- A character that no mark begins with. -/
def isPlain (c : Char) : Bool :=
  c != '{' && c != '}' && c != '\\'

theorem nestedBehind_of_markAt_none
    {c : Char}
    {rest : List Char}
    (unmarked : markAt (c :: rest) = none)
    (opened : List Pair) :
    nestedBehind opened (c :: rest) = nestedBehind opened rest := by
  simp only [nestedBehind, unmarked]

theorem markAt_plain {c : Char} (plain : isPlain c = true) (rest : List Char) :
    markAt (c :: rest) = none := by
  simp only [isPlain, Bool.and_eq_true, bne_iff_ne] at plain
  simp [markAt, Mark.text, Pair.opening, Pair.closing, groupOpening, groupClosing,
    List.isPrefixOf, Ne.symm plain.1.1, Ne.symm plain.1.2, Ne.symm plain.2]

/-- Both marks that begin with a backslash are told by the letter behind it. -/
theorem markAt_command
    {c : Char}
    (noLeft : c ≠ 'l')
    (noRight : c ≠ 'r')
    (rest : List Char) :
    markAt ('\\' :: c :: rest) = none := by
  simp [markAt, Mark.text, Pair.opening, Pair.closing, groupOpening, groupClosing,
    List.isPrefixOf, Ne.symm noLeft, Ne.symm noRight]

theorem isNeutral_nil : IsNeutral [] :=
  fun _ _ => rfl

namespace IsNeutral

variable {text text' : List Char}

theorem append (neutral : IsNeutral text) (neutral' : IsNeutral text') :
    IsNeutral (text ++ text') := by
  intro opened rest
  rw [List.append_assoc, neutral, neutral']

theorem cons {c : Char} (plain : isPlain c = true) (neutral : IsNeutral text) :
    IsNeutral (c :: text) := by
  intro opened rest
  rw [List.cons_append, nestedBehind_of_markAt_none (markAt_plain plain _), neutral]

/-- A command that is no large bracket. -/
theorem command
    {c : Char}
    (noLeft : c ≠ 'l')
    (noRight : c ≠ 'r')
    (neutral : IsNeutral (c :: text)) :
    IsNeutral ('\\' :: c :: text) := by
  intro opened rest
  rw [List.cons_append, List.cons_append,
    nestedBehind_of_markAt_none (markAt_command noLeft noRight _), ← List.cons_append, neutral]

end IsNeutral

theorem isNeutral_of_plain {text : List Char} (plain : text.all isPlain = true) :
    IsNeutral text := by
  induction text with
  | nil => exact isNeutral_nil
  | cons c text inductionHypothesis =>
      rw [List.all_cons, Bool.and_eq_true] at plain
      exact (inductionHypothesis plain.2).cons plain.1

theorem nestedBehind_opening (pair : Pair) (opened : List Pair) (rest : List Char) :
    nestedBehind opened (pair.opening ++ rest) = nestedBehind (pair :: opened) rest := by
  cases pair with
  | braces => rfl
  | brackets =>
      have letters : IsNeutral ['l', 'e', 'f', 't', '('] := isNeutral_of_plain rfl
      exact letters (.brackets :: opened) rest

theorem nestedBehind_closing (pair : Pair) (opened : List Pair) (rest : List Char) :
    nestedBehind (pair :: opened) (pair.closing ++ rest) = nestedBehind opened rest := by
  cases pair with
  | braces => rfl
  | brackets =>
      have letters : IsNeutral ['r', 'i', 'g', 'h', 't', ')'] := isNeutral_of_plain rfl
      exact letters opened rest

/-- A neutral text between the marks of a pair. -/
theorem IsNeutral.between {text : List Char} (neutral : IsNeutral text) (pair : Pair) :
    IsNeutral (pair.opening ++ (text ++ pair.closing)) := by
  intro opened rest
  rw [List.append_assoc, nestedBehind_opening, List.append_assoc, neutral, nestedBehind_closing]

theorem isPlain_of_isDigit {c : Char} (digit : c.isDigit = true) : isPlain c = true := by
  simp only [isPlain, Bool.and_eq_true, bne_iff_ne]
  refine ⟨⟨?_, ?_⟩, ?_⟩ <;>
    · rintro rfl
      contradiction

theorem isNeutral_of_isDigit {run : List Char} (digits : ∀ c ∈ run, c.isDigit = true) :
    IsNeutral run :=
  isNeutral_of_plain (List.all_eq_true.mpr fun c member => isPlain_of_isDigit (digits c member))

theorem Literal.isNeutral_behind (literal : Literal) : IsNeutral literal.behind := by
  cases literal with
  | integer n => exact isNeutral_nil
  | decimal d wellFormed =>
      have fraction : IsNeutral d.fraction :=
        isNeutral_of_isDigit (List.all_eq_true.mp wellFormed.digits)
      have overline : IsNeutral ['\\', 'o', 'v', 'e', 'r', 'l', 'i', 'n', 'e'] :=
        (isNeutral_of_plain rfl).command (by decide) (by decide)
      refine IsNeutral.cons rfl ?_
      cases d.repeating with
      | false => exact fraction
      | true => exact overline.append (fraction.between .braces)

theorem Literal.isNeutral (literal : Literal) : IsNeutral literal.tree.markup.toList := by
  rw [markup_tree]
  exact (isNeutral_of_isDigit literal.isDigit_of_mem_whole).append literal.isNeutral_behind

theorem isNeutral_termSign (subtracted : Bool) : IsNeutral (termSign subtracted) := by
  cases subtracted <;> exact isNeutral_of_plain rfl

theorem isNeutral_timesSign : IsNeutral timesSign :=
  .cons rfl ((isNeutral_of_plain rfl).command (by decide) (by decide))

theorem isNeutral_sigmaSign : IsNeutral sigmaSign :=
  (isNeutral_of_plain rfl).command (by decide) (by decide)

namespace Derivation

/-- The text of a derivation is neutral: it adds to the texts of its parts only plain characters,
commands that open nothing, and whole pairs around a part. -/
theorem isNeutral_text {category : Category} (derivation : Derivation category) :
    IsNeutral derivation.text := by
  induction derivation with
  | noTerms | noFactors => exact isNeutral_nil
  | sum _ _ first rest | product _ _ first rest => exact first.append rest
  | term subtracted _ _ operand rest =>
      exact (isNeutral_termSign subtracted).append (operand.append rest)
  | factor _ _ operand rest => exact isNeutral_timesSign.append (operand.append rest)
  | negated _ operand => exact operand.cons rfl
  | unsigned _ operand | unraised _ operand | plain _ operand => exact operand
  | raised _ _ operand exponent =>
      exact operand.append (.cons rfl (exponent.between .braces))
  | fraction numerator denominator above below =>
      have name : IsNeutral ['\\', 'f', 'r', 'a', 'c'] :=
        (isNeutral_of_plain rfl).command (by decide) (by decide)
      have parts := name.append ((above.between .braces).append (below.between .braces))
      simpa [fractionOpening, Pair.opening, Pair.closing] using parts
  | triangular _ operand => exact isNeutral_sigmaSign.append (operand.cons rfl)
  | triangularGroup _ inner => exact isNeutral_sigmaSign.append (inner.between .brackets)
  | postfixed _ factorials operand =>
      refine operand.append (isNeutral_of_plain (List.all_eq_true.mpr fun c member => ?_))
      rw [List.eq_of_mem_replicate member]
      rfl
  | literal written => exact written.isNeutral
  | root _ inner =>
      have name : IsNeutral ['\\', 's', 'q', 'r', 't'] :=
        (isNeutral_of_plain rfl).command (by decide) (by decide)
      exact name.append (inner.between .braces)
  | group _ inner => exact inner.between .brackets

/-- Only a chain of further operands can have an empty text. -/
theorem text_ne_nil {category : Category} (derivation : Derivation category)
    (noTerms : category ≠ .terms) (noFactors : category ≠ .factors) :
    derivation.text ≠ [] := by
  induction derivation with
  | literal written =>
      obtain ⟨c, tail, equal, -⟩ := written.exists_head
      simp [equal]
  | noTerms | noFactors | term | factor => contradiction
  | _ => simp_all [fractionOpening, sigmaSign, rootOpening, groupOpening]

end Derivation

theorem isNeutral_markup {x : Expr} (wellFormed : x.IsWellFormed) :
    IsNeutral x.markup.toList ∧ x.markup ≠ "" := by
  obtain ⟨derivation, spelled, -⟩ := (isDisplayed_of_isWellFormed Decimal.meaning wellFormed).sum
  refine ⟨spelled ▸ derivation.isNeutral_text, fun empty => ?_⟩
  rw [empty] at spelled
  exact derivation.text_ne_nil nofun nofun spelled

end Markup

namespace CommandLine

/-- The markup of a typed text is empty exactly if the text is no expression, and always well
nested. So what is displayed if the markup is asked for is either the fault of the text or a
markup that is not empty. -/
theorem display_markup (text : String) :
    (Calculator.markup text = "" ↔ ∃ fault, Expr.read text = .error fault) ∧
      Markup.nestedBehind [] (Calculator.markup text).toList = true ∧
      ∀ workings settings,
        (∃ fault, Expr.read text = .error fault ∧
            display ⟨true, workings⟩ settings text = .error fault) ∨
          (display ⟨true, workings⟩ settings text = .ok (Calculator.markup text) ∧
            Calculator.markup text ≠ "") := by
  have wellFormed := Expr.yields_read text
  cases read : Expr.read text with
  | error fault =>
      have empty : Calculator.markup text = "" := by simp only [Calculator.markup, read]
      refine ⟨iff_of_true empty ⟨fault, rfl⟩, by rw [empty]; rfl, fun _ _ => .inl ⟨fault, rfl, ?_⟩⟩
      simp [display, read, bind, Except.bind]
  | ok x =>
      rw [read] at wellFormed
      obtain ⟨neutral, nonempty⟩ := Markup.isNeutral_markup wellFormed
      have shown : Calculator.markup text = x.markup := by simp only [Calculator.markup, read]
      rw [shown]
      refine ⟨iff_of_false nonempty (by simp), ?_, fun _ _ => .inr ⟨?_, nonempty⟩⟩
      · simpa [Markup.nestedBehind] using neutral [] []
      · simp [display, read, bind, Except.bind, pure, Except.pure]

end CommandLine
end FourFours
