import FourFours.Calculator
import FourFours.Proofs.Markup.Unambiguous

/-!
# The markup of an expression determines its meaning

The markup of every tree that can be read is the text of a derivation with the meaning of
the tree as its number: the brackets of the markup stand wherever the operand would not be a
phrase of the category that its place asks for. Since a derivation is determined by its text,
two trees with the same markup have the same meaning. That holds whatever numbers decimals
stand for, so it holds of the values as well.
-/

namespace FourFours
namespace Markup

open FourFours.Expr (enclosed braced enclosedIf enclosesOperand)

namespace Derivation

/-- The terms of two chains one after the other. -/
def appendTerms : Derivation .terms → Derivation .terms → Derivation .terms
  | noTerms, behind => behind
  | term subtracted operand rest, behind => term subtracted operand (rest.appendTerms behind)

/-- The factors of two chains one after the other. -/
def appendFactors : Derivation .factors → Derivation .factors → Derivation .factors
  | noFactors, behind => behind
  | factor operand rest, behind => factor operand (rest.appendFactors behind)

theorem text_appendTerms (terms behind : Derivation .terms) :
    (terms.appendTerms behind).text = terms.text ++ behind.text := by
  fun_induction appendTerms terms behind with
  | case1 behind => rfl
  | case2 behind subtracted operand rest inductionHypothesis =>
      simp only [text, inductionHypothesis, List.append_assoc]

theorem text_appendFactors (factors behind : Derivation .factors) :
    (factors.appendFactors behind).text = factors.text ++ behind.text := by
  fun_induction appendFactors factors behind with
  | case1 behind => rfl
  | case2 behind operand rest inductionHypothesis =>
      simp only [text, inductionHypothesis, List.append_assoc]

variable {decimal : Decimal → Option ℝ}

theorem number_appendTerms (terms behind : Derivation .terms) :
    (terms.appendTerms behind).number decimal =
      Option.map₂ (· + ·) (terms.number decimal) (behind.number decimal) := by
  fun_induction appendTerms terms behind with
  | case1 behind => simp
  | case2 behind subtracted operand rest inductionHypothesis =>
      simp only [number, inductionHypothesis]
      exact (Option.map₂_assoc add_assoc).symm

theorem number_appendFactors (factors behind : Derivation .factors) :
    (factors.appendFactors behind).number decimal =
      Option.map₂ (· * ·) (factors.number decimal) (behind.number decimal) := by
  fun_induction appendFactors factors behind with
  | case1 behind => simp
  | case2 behind operand rest inductionHypothesis =>
      simp only [number, inductionHypothesis]
      exact (Option.map₂_assoc mul_assoc).symm

end Derivation

section

variable (decimal : Decimal → Option ℝ)

/-- A text is that of a derivation with a given number. -/
def Displays (category : Category) (text : String) (number : Option ℝ) : Prop :=
  ∃ derivation : Derivation category,
    derivation.text = text.toList ∧ derivation.number decimal = number

end

variable {decimal : Decimal → Option ℝ}

namespace Displays

variable {text text' : String} {number number' : Option ℝ}

theorem postfixed (shown : Displays decimal .base text number) :
    Displays decimal .postfixed text number := by
  obtain ⟨operand, spelled, rfl⟩ := shown
  exact ⟨.postfixed operand 0, by simpa using spelled, rfl⟩

theorem operand (shown : Displays decimal .postfixed text number) :
    Displays decimal .operand text number := by
  obtain ⟨operand, spelled, rfl⟩ := shown
  exact ⟨.plain operand, spelled, rfl⟩

theorem power (shown : Displays decimal .operand text number) :
    Displays decimal .power text number := by
  obtain ⟨operand, spelled, rfl⟩ := shown
  exact ⟨.unraised operand, spelled, rfl⟩

theorem product (shown : Displays decimal .power text number) :
    Displays decimal .product text number := by
  obtain ⟨operand, spelled, rfl⟩ := shown
  exact ⟨.product (.unsigned operand) .noFactors, by simpa using spelled,
    by simp⟩

theorem sum (shown : Displays decimal .product text number) :
    Displays decimal .sum text number := by
  obtain ⟨operand, spelled, rfl⟩ := shown
  exact ⟨.sum operand .noTerms, by simpa using spelled,
    by simp⟩

theorem enclosed (shown : Displays decimal .sum text number) :
    Displays decimal .base (Expr.enclosed text) number := by
  obtain ⟨inner, spelled, rfl⟩ := shown
  exact ⟨.group inner, by simp [spelled, Expr.enclosed, groupOpening,
    groupClosing], rfl⟩

/-- A text that is enclosed unless it is a product is a product. -/
theorem enclosedIf
    {condition : Bool}
    (shown : Displays decimal .sum text number)
    (bare : condition = false → Displays decimal .product text number) :
    Displays decimal .product (Expr.enclosedIf condition text) number := by
  cases condition with
  | false => exact bare rfl
  | true => exact shown.enclosed.postfixed.operand.power.product

theorem root (shown : Displays decimal .sum text number) :
    Displays decimal .base ("\\sqrt" ++ braced text) (number.bind Unary.root.meaning) := by
  obtain ⟨inner, spelled, rfl⟩ := shown
  exact ⟨.root inner, by simp [spelled, braced, rootOpening], rfl⟩

theorem factorial (shown : Displays decimal .postfixed text number) :
    Displays decimal .postfixed (text ++ "!") (number.bind Unary.factorial.meaning) := by
  obtain ⟨derivation, spelled, rfl⟩ := shown
  cases derivation with
  | postfixed operand factorials =>
      refine ⟨.postfixed operand (factorials + 1), ?_, ?_⟩
      · simp [← spelled, List.replicate_succ']
      · simp only [Derivation.number, Function.iterate_succ_apply']

theorem triangular (shown : Displays decimal .operand text number) :
    Displays decimal .operand ("\\Sigma " ++ text) (number.bind Unary.triangular.meaning) := by
  obtain ⟨operand, spelled, rfl⟩ := shown
  exact ⟨.triangular operand, by simp [spelled, sigmaSign], rfl⟩

theorem triangularGroup (shown : Displays decimal .sum text number) :
    Displays decimal .operand ("\\Sigma" ++ Expr.enclosed text)
      (number.bind Unary.triangular.meaning) := by
  obtain ⟨inner, spelled, rfl⟩ := shown
  exact ⟨.triangularGroup inner, by simp [spelled, Expr.enclosed, sigmaSign,
    groupOpening, groupClosing], rfl⟩

theorem fraction
    (shown : Displays decimal .sum text number)
    (shown' : Displays decimal .sum text' number') :
    Displays decimal .operand ("\\frac" ++ braced text ++ braced text')
      (number.bind fun x => number'.bind fun y => Nary.quotient.meaning [x, y]) := by
  obtain ⟨numerator, spelled, rfl⟩ := shown
  obtain ⟨denominator, spelled', rfl⟩ := shown'
  exact ⟨.fraction numerator denominator, by simp [spelled, spelled', braced,
    fractionOpening], rfl⟩

theorem raised
    (shown : Displays decimal .base text number)
    (shown' : Displays decimal .sum text' number') :
    Displays decimal .power (text ++ "^" ++ braced text')
      (number.bind fun x => number'.bind fun y => Nary.power.meaning [x, y]) := by
  obtain ⟨operand, spelled, rfl⟩ := shown
  obtain ⟨exponent, spelled', rfl⟩ := shown'
  exact ⟨.raised operand exponent, by simp [spelled, spelled', braced], rfl⟩

/-- The sign of a product is that of its first factor. -/
theorem negated (shown : Displays decimal .product text number) :
    Displays decimal .product ("-" ++ text) (number.map (- ·)) := by
  obtain ⟨derivation, spelled, rfl⟩ := shown
  cases derivation with
  | product first rest =>
      refine ⟨.product (.negated first) rest, ?_, ?_⟩
      · simp [← spelled]
      · simp only [Derivation.number]
        cases first.number decimal <;> cases rest.number decimal <;> simp

/-- Factors that are products themselves join the chain. -/
theorem mul
    (shown : Displays decimal .product text number)
    (shown' : Displays decimal .product text' number') :
    Displays decimal .product (text ++ " \\times " ++ text')
      (Option.map₂ (· * ·) number number') := by
  obtain ⟨derivation, spelled, rfl⟩ := shown
  obtain ⟨derivation', spelled', rfl⟩ := shown'
  cases derivation with
  | product first rest =>
      cases derivation' with
      | product first' rest' =>
          refine ⟨.product first (rest.appendFactors (.factor first' rest')), ?_, ?_⟩
          · simp [Derivation.text_appendFactors, ← spelled, ← spelled',
              timesSign]
          · simp only [Derivation.number, Derivation.number_appendFactors]
            exact (Option.map₂_assoc mul_assoc).symm

/-- Terms that are sums themselves join the chain. -/
theorem add
    (shown : Displays decimal .sum text number)
    (shown' : Displays decimal .sum text' number') :
    Displays decimal .sum (text ++ " + " ++ text') (Option.map₂ (· + ·) number number') := by
  obtain ⟨⟨first, rest⟩, spelled, rfl⟩ := shown
  obtain ⟨⟨first', rest'⟩, spelled', rfl⟩ := shown'
  refine ⟨.sum first (rest.appendTerms (.term false first' rest')), ?_, ?_⟩
  · simp [Derivation.text_appendTerms, ← spelled, ← spelled', termSign]
  · simp only [Derivation.number, Derivation.number_appendTerms]
    exact (Option.map₂_assoc add_assoc).symm

theorem sub
    (shown : Displays decimal .sum text number)
    (shown' : Displays decimal .product text' number') :
    Displays decimal .sum (text ++ " - " ++ text')
      (Option.map₂ (· + ·) number (number'.map (- ·))) := by
  obtain ⟨⟨first, rest⟩, spelled, rfl⟩ := shown
  obtain ⟨operand, spelled', rfl⟩ := shown'
  refine ⟨.sum first (rest.appendTerms (.term true operand .noTerms)), ?_, ?_⟩
  · simp [Derivation.text_appendTerms, ← spelled, ← spelled', termSign]
  · have last : Option.map₂ (· + ·) ((operand.number decimal).map (- ·)) (some (0 : ℝ)) =
        (operand.number decimal).map (- ·) := by
      cases operand.number decimal <;> simp
    simp only [Derivation.number, Derivation.number_appendTerms, if_true, last]
    exact (Option.map₂_assoc add_assoc).symm

end Displays

/-- The markup of a tree displays its meaning, with the given numbers for its decimals. The
places of a markup that put an operand in brackets under some condition get a phrase of their
category either way. -/
structure IsDisplayed (decimal : Decimal → Option ℝ) (x : Expr) : Prop where
  sum : Displays decimal .sum x.markup (x.meaningWith decimal)
  product : x.isSum = false → Displays decimal .product x.markup (x.meaningWith decimal)
  operand : enclosesOperand .triangular x = false →
    Displays decimal .operand x.markup (x.meaningWith decimal)
  postfixed : enclosesOperand .factorial x = false →
    Displays decimal .postfixed x.markup (x.meaningWith decimal)
  base : x.enclosedAsBase = false → Displays decimal .base x.markup (x.meaningWith decimal)
  /-- The operand of a negation is also a subtracted term. -/
  subtrahend : ∀ y, x = .unary .negate y →
    Displays decimal .product (enclosedIf y.isSum y.markup) (y.meaningWith decimal)

variable {x : Expr}

theorem isDisplayed_of_base
    (shown : Displays decimal .base x.markup (x.meaningWith decimal))
    (noNegation : x.isNegation = false) :
    IsDisplayed decimal x where
  sum := shown.postfixed.operand.power.product.sum
  product _ := shown.postfixed.operand.power.product
  operand _ := shown.postfixed.operand
  postfixed _ := shown.postfixed
  base _ := shown
  subtrahend := by
    rintro y rfl
    contradiction

/-- An atomic phrase that is not a base is enclosed wherever a base is asked for. -/
theorem isDisplayed_of_operand
    (shown : Displays decimal .operand x.markup (x.meaningWith decimal))
    (postfixed : enclosesOperand .factorial x = false →
      Displays decimal .postfixed x.markup (x.meaningWith decimal))
    (noBase : x.enclosedAsBase = true)
    (noNegation : x.isNegation = false) :
    IsDisplayed decimal x where
  sum := shown.power.product.sum
  product _ := shown.power.product
  operand _ := shown
  postfixed := postfixed
  base bare := by simp [noBase] at bare
  subtrahend := by
    rintro y rfl
    contradiction

theorem isDisplayed_of_product
    (shown : Displays decimal .product x.markup (x.meaningWith decimal))
    (noOperand : enclosesOperand .triangular x = true)
    (noPostfixed : enclosesOperand .factorial x = true)
    (noBase : x.enclosedAsBase = true)
    (subtrahend : ∀ y, x = .unary .negate y →
      Displays decimal .product (enclosedIf y.isSum y.markup) (y.meaningWith decimal)) :
    IsDisplayed decimal x where
  sum := shown.sum
  product _ := shown
  operand bare := by simp [noOperand] at bare
  postfixed bare := by simp [noPostfixed] at bare
  base bare := by simp [noBase] at bare
  subtrahend := subtrahend

theorem isDisplayed_integer {n : Int} (nonnegative : 0 ≤ n) : IsDisplayed decimal (.integer n) := by
  lift n to Nat using nonnegative
  exact isDisplayed_of_base ⟨.literal (.integer n), rfl, rfl⟩ rfl

theorem isDisplayed_decimal {d : Decimal} (wellFormed : d.IsWellFormed) :
    IsDisplayed decimal (.decimal d) :=
  isDisplayed_of_base ⟨.literal (.decimal d wellFormed), rfl, rfl⟩ rfl

theorem IsDisplayed.unary (shown : IsDisplayed decimal x) (op : Unary) :
    IsDisplayed decimal (.unary op x) := by
  cases op with
  | root => exact isDisplayed_of_base shown.sum.root rfl
  | factorial =>
      have operand : Displays decimal .postfixed
          (enclosedIf (enclosesOperand .factorial x) x.markup) (x.meaningWith decimal) := by
        cases encloses : enclosesOperand .factorial x with
        | false => exact shown.postfixed encloses
        | true => exact shown.sum.enclosed.postfixed
      have whole : Displays decimal .postfixed (Expr.unary .factorial x).markup
          ((Expr.unary .factorial x).meaningWith decimal) := operand.factorial
      exact isDisplayed_of_operand whole.operand (fun _ => whole) rfl rfl
  | triangular =>
      have whole : Displays decimal .operand (Expr.unary .triangular x).markup
          ((Expr.unary .triangular x).meaningWith decimal) := by
        rw [Expr.markup]
        split
        · exact shown.sum.triangularGroup
        · rename_i bare
          exact (shown.operand (by simpa using bare)).triangular
      exact isDisplayed_of_operand whole (by simp [enclosesOperand]) rfl rfl
  | negate =>
      have enclosed : Displays decimal .product
          (enclosedIf (enclosesOperand .negate x) x.markup) (x.meaningWith decimal) :=
        shown.sum.enclosedIf fun bare => shown.product (Bool.or_eq_false_iff.mp bare).1
      have whole : Displays decimal .product (Expr.unary .negate x).markup
          ((Expr.unary .negate x).meaningWith decimal) := by
        rw [Expr.meaningWith_negate]
        exact enclosed.negated
      refine isDisplayed_of_product whole rfl rfl rfl ?_
      rintro y equal
      obtain ⟨-, rfl⟩ := Expr.unary.inj equal
      exact shown.sum.enclosedIf shown.product

/-- The terms of a sum behind the first continue its markup. -/
theorem displays_laterTerms
    {xs : List Expr}
    (shown : ∀ x ∈ xs, IsDisplayed decimal x)
    {text : String}
    {number : Option ℝ}
    (before : Displays decimal .sum text number) :
    Displays decimal .sum (text ++ Expr.markup.laterTerms xs)
      (Option.map₂ (· + ·) number ((Expr.meaningWith.meanings decimal xs).map List.sum)) := by
  induction xs generalizing text number with
  | nil =>
      rw [Expr.markup.laterTerms, String.append_empty]
      simpa [Expr.meaningWith.meanings] using before
  | cons x xs inductionHypothesis =>
      obtain ⟨first, rest⟩ := List.forall_mem_cons.mp shown
      have step : ∃ term, Expr.markup.laterTerms (x :: xs) = term ++ Expr.markup.laterTerms xs ∧
          Displays decimal .sum (text ++ term)
            (Option.map₂ (· + ·) number (x.meaningWith decimal)) := by
        by_cases negation : ∃ y, x = .unary .negate y
        · obtain ⟨y, rfl⟩ := negation
          refine ⟨" - " ++ enclosedIf y.isSum y.markup, rfl, ?_⟩
          rw [← String.append_assoc, Expr.meaningWith_negate]
          exact before.sub (first.subtrahend y rfl)
        · refine ⟨" + " ++ x.markup, ?_, ?_⟩
          · rw [Expr.markup.laterTerms]
            exact fun y equal => negation ⟨y, equal⟩
          · rw [← String.append_assoc]
            exact before.add first.sum
      obtain ⟨term, markup, shownTerm⟩ := step
      rw [markup, ← String.append_assoc, Expr.map_sum_meanings, ← Option.map₂_assoc add_assoc]
      exact inductionHypothesis rest shownTerm

/-- The factors of a product behind the first continue its markup. -/
theorem displays_laterFactors
    {xs : List Expr}
    (shown : ∀ x ∈ xs, IsDisplayed decimal x)
    {text : String}
    {number : Option ℝ}
    (before : Displays decimal .product text number) :
    Displays decimal .product (text ++ Expr.markup.laterFactors xs)
      (Option.map₂ (· * ·) number ((Expr.meaningWith.meanings decimal xs).map List.prod)) := by
  induction xs generalizing text number with
  | nil =>
      rw [Expr.markup.laterFactors, String.append_empty]
      simpa [Expr.meaningWith.meanings] using before
  | cons x xs inductionHypothesis =>
      obtain ⟨first, rest⟩ := List.forall_mem_cons.mp shown
      have enclosed : Displays decimal .product
          (enclosedIf (x.isSum || x.isNegation) x.markup) (x.meaningWith decimal) :=
        first.sum.enclosedIf fun bare => first.product (Bool.or_eq_false_iff.mp bare).1
      rw [Expr.markup.laterFactors, ← String.append_assoc, ← String.append_assoc,
        Expr.map_prod_meanings, ← Option.map₂_assoc mul_assoc]
      exact inductionHypothesis rest (before.mul enclosed)

theorem isDisplayed_node
    {op : Nary}
    {xs : List Expr}
    (takes : op.Takes xs.length)
    (shown : ∀ x ∈ xs, IsDisplayed decimal x) :
    IsDisplayed decimal (.node op xs) := by
  cases op with
  | sum =>
      cases xs with
      | nil => simp [Nary.Takes] at takes
      | cons x xs =>
          obtain ⟨first, rest⟩ := List.forall_mem_cons.mp shown
          have whole := displays_laterTerms rest first.sum
          rw [← Expr.map_sum_meanings, ← Expr.meaningWith_sum] at whole
          exact {
            sum := whole
            product := by simp [Expr.isSum]
            operand := by simp [enclosesOperand]
            postfixed := by simp [enclosesOperand]
            base := by simp [Expr.enclosedAsBase]
            subtrahend := by simp }
  | product =>
      cases xs with
      | nil => simp [Nary.Takes] at takes
      | cons x xs =>
          obtain ⟨first, rest⟩ := List.forall_mem_cons.mp shown
          have whole := displays_laterFactors rest (first.sum.enclosedIf first.product)
          rw [← Expr.map_prod_meanings, ← Expr.meaningWith_product] at whole
          exact isDisplayed_of_product whole rfl rfl rfl (by simp)
  | quotient =>
      obtain ⟨x, y, rfl⟩ := List.length_eq_two.mp takes
      simp only [List.forall_mem_cons] at shown
      obtain ⟨numerator, denominator, -⟩ := shown
      have whole := numerator.sum.fraction denominator.sum
      rw [← Expr.meaningWith_pair] at whole
      exact isDisplayed_of_operand whole (by simp [enclosesOperand]) rfl rfl
  | power =>
      obtain ⟨x, y, rfl⟩ := List.length_eq_two.mp takes
      simp only [List.forall_mem_cons] at shown
      obtain ⟨base, exponent, -⟩ := shown
      have enclosed : Displays decimal .base
          (enclosedIf x.enclosedAsBase x.markup) (x.meaningWith decimal) := by
        cases encloses : x.enclosedAsBase with
        | false => exact base.base encloses
        | true => exact base.sum.enclosed
      have whole := enclosed.raised exponent.sum
      rw [← Expr.meaningWith_pair] at whole
      exact isDisplayed_of_product whole.product rfl rfl rfl (by simp)

/-- The markup of every well-formed tree displays its meaning. -/
theorem isDisplayed_of_isWellFormed (decimal : Decimal → Option ℝ) (wellFormed : x.IsWellFormed) :
    IsDisplayed decimal x := by
  induction wellFormed with
  | integer nonnegative => exact isDisplayed_integer nonnegative
  | decimal wellFormed => exact isDisplayed_decimal wellFormed
  | unary op _ shown => exact shown.unary op
  | node takes _ shown => exact isDisplayed_node takes shown

/-- Two well-formed trees with the same markup have the same meaning, whatever numbers the
decimals stand for. -/
theorem meaningWith_unique
    {x y : Expr}
    (wellFormed : x.IsWellFormed)
    (wellFormed' : y.IsWellFormed)
    (same : x.markup = y.markup)
    (decimal : Decimal → Option ℝ) :
    x.meaningWith decimal = y.meaningWith decimal := by
  obtain ⟨derivation, spelled, number⟩ := (isDisplayed_of_isWellFormed decimal wellFormed).sum
  obtain ⟨derivation', spelled', number'⟩ :=
    (isDisplayed_of_isWellFormed decimal wellFormed').sum
  have texts : derivation.text ++ [] = derivation'.text ++ [] := by
    rw [spelled, spelled', same]
  obtain ⟨rfl, -⟩ := derivation.unique derivation' (ends_nil _) (ends_nil _) texts
  rw [← number, ← number']

end Markup

namespace Calculator

/-- Two texts with the same markup are expressions of the same ideal number, or of none, and
whatever their evaluations return is the same number. -/
theorem meaning_eq_of_markup_eq
    {text text' : String}
    {x y : Expr}
    (readLeft : Expr.read text = .ok x)
    (readRight : Expr.read text' = .ok y)
    (same : markup text = markup text') :
    x.meaning = y.meaning ∧
      ∀ settings settings' v w, x.value settings = .ok v → y.value settings' = .ok w →
        v.real = w.real := by
  have wellFormed := Expr.yields_read text
  have wellFormed' := Expr.yields_read text'
  rw [readLeft] at wellFormed
  rw [readRight] at wellFormed'
  simp only [markup, readLeft, readRight] at same
  have meanings := Markup.meaningWith_unique wellFormed wellFormed' same
  refine ⟨meanings Decimal.meaning, fun settings settings' v w valued valued' => ?_⟩
  have soundLeft := (Expr.isSound settings x v valued).2
  have soundRight := (Expr.isSound settings' y w valued').2
  rw [meanings Decimal.real?, soundRight, Option.some.injEq] at soundLeft
  exact soundLeft.symm

/-- A negated product is displayed like a product with a negated first factor. -/
theorem meaning_eq_of_markup_eq_negatedProduct :
    Expr.read "-(4*4)" = .ok (.unary .negate (.node .product [.integer 4, .integer 4])) ∧
      Expr.read "(-4)*4" = .ok (.node .product [.unary .negate (.integer 4), .integer 4]) ∧
      markup "-(4*4)" = markup "(-4)*4" ∧
      (Expr.unary .negate (.node .product [.integer 4, .integer 4])).meaning =
        (Expr.node .product [.unary .negate (.integer 4), .integer 4]).meaning := by
  have readLeft : Expr.read "-(4*4)" =
      .ok (.unary .negate (.node .product [.integer 4, .integer 4])) := by rfl
  have readRight : Expr.read "(-4)*4" =
      .ok (.node .product [.unary .negate (.integer 4), .integer 4]) := by rfl
  have same : markup "-(4*4)" = markup "(-4)*4" := by decide +kernel
  exact ⟨readLeft, readRight, same, (meaning_eq_of_markup_eq readLeft readRight same).1⟩

end Calculator
end FourFours
