import FourFours.Proofs.Grammar.Written
import FourFours.Proofs.Meaning
import FourFours.Proofs.Radical.Confined
import FourFours.Proofs.Radical.Enclosure

/-!
# The exact form is an expression

With the root signs of the alphabet in place, the exact form of a value spells a sentence.
The calculation that the sentence describes takes no roots but those of the value's own
tower, so it stays in the field of that tower and settles on the number of the value.
-/

namespace FourFours

namespace Expr

open Radical

variable {settings : Settings} {field : Subfield ℝ} {number : ℝ} {x : Expr}

/-- The calculation of a tree settles on a number within a field. -/
def SettlesOn (settings : Settings) (field : Subfield ℝ) (number : ℝ) (x : Expr) : Prop :=
  Value.Settles field number (x.value settings)

theorem product_singleton (x : Expr) : product [x] = x := rfl

theorem settlesOn_integer (n : Nat) : (integer n).SettlesOn settings field n := by
  have settles := Value.settles_ofRat (n : Rat) field
  rwa [Rat.cast_natCast] at settles

theorem SettlesOn.negate (settles : x.SettlesOn settings field number) :
    (unary .negate x).SettlesOn settings field (-number) := by
  rw [SettlesOn, value]
  exact settles.bind fun v lies real => real ▸ lies.settles_neg

theorem SettlesOn.div_integer
    (settles : x.SettlesOn settings field number)
    {n : Nat}
    (nonzero : n ≠ 0) :
    (node .quotient [x, integer n]).SettlesOn settings field (number / n) := by
  rw [SettlesOn, value]
  refine settles.bind fun v lies real => ?_
  have quotient := lies.settles_div_ofRat (q := n) (Nat.cast_ne_zero.mpr nonzero)
  rwa [real, Rat.cast_natCast] at quotient

section

variable [FiniteDimensional ℚ field] (small : degree field ≤ 2 ^ radicalLimit)

include small

theorem SettlesOn.root
    (settles : x.SettlesOn settings field number)
    (positive : 0 < number)
    (member : √number ∈ field) :
    (unary .root x).SettlesOn settings field √number := by
  rw [SettlesOn, value]
  refine settles.bind fun v lies real => ?_
  subst real
  exact lies.settles_sqrt small positive member

omit [FiniteDimensional ℚ field] small in
/-- Values combined one after another settle if every step does. -/
theorem settles_accumulate
    {combine : Value → Value → Except Fault Value}
    (op : ℝ → ℝ → ℝ)
    (step : ∀ {v w : Value}, v.LiesIn field → w.LiesIn field →
      Value.Settles field (op v.real w.real) (combine v w))
    (all : Value → List Expr → Except Fault Value)
    (all_nil : ∀ total, all total [] = .ok total)
    (all_cons : ∀ total x xs, all total (x :: xs) =
      x.value settings >>= fun v => combine total v >>= fun next => all next xs)
    {numbers : List ℝ}
    {xs : List Expr}
    (settle : List.Forall₂ (SettlesOn settings field) numbers xs)
    {total : Value}
    (lies : total.LiesIn field) :
    Value.Settles field (numbers.foldl op total.real) (all total xs) := by
  induction settle generalizing total with
  | nil =>
      rw [all_nil]
      exact ⟨lies, rfl⟩
  | cons first _ inductionHypothesis =>
      rw [all_cons]
      refine first.bind fun v liesFirst real => ?_
      subst real
      refine (step lies liesFirst).bind fun next liesNext realNext => ?_
      rw [List.foldl_cons, ← realNext]
      exact inductionHypothesis liesNext

theorem settlesOn_sum
    {numbers : List ℝ}
    {xs : List Expr}
    (settle : List.Forall₂ (SettlesOn settings field) (number :: numbers) (x :: xs)) :
    (sum (x :: xs)).SettlesOn settings field (number + numbers.sum) := by
  cases settle with
  | cons first rest =>
      cases rest with
      | nil => simpa [sum] using first
      | cons second rest =>
          have total := settles_accumulate (· + ·) (Value.LiesIn.settles_add small)
            (value.addAll settings) (fun _ => rfl) (fun _ _ _ => rfl)
            (.cons first (.cons second rest)) (Value.liesIn_ofRat 0 field)
          rw [Value.real_ofRat, Rat.cast_zero, ← List.sum_eq_foldl] at total
          exact total

theorem settlesOn_product
    {numbers : List ℝ}
    {xs : List Expr}
    (settle : List.Forall₂ (SettlesOn settings field) (number :: numbers) (x :: xs)) :
    (product (x :: xs)).SettlesOn settings field (number * numbers.prod) := by
  cases settle with
  | cons first rest =>
      cases rest with
      | nil => simpa [product] using first
      | cons second rest =>
          have total := settles_accumulate (· * ·) (Value.LiesIn.settles_mul small)
            (value.multiplyAll settings) (fun _ => rfl) (fun _ _ _ => rfl)
            (.cons first (.cons second rest)) (Value.liesIn_ofRat 1 field)
          rw [Value.real_ofRat, Rat.cast_one, ← List.prod_eq_foldl] at total
          exact total

end
end Expr

namespace Radical

open Grammar FourFours.Expr

/-- The factors of a term behind the first, each with its operator. -/
def laterFactorTexts : List String → String
  | [] => ""
  | text :: texts => "*" ++ text ++ laterFactorTexts texts

theorem intercalate_eq_laterFactorTexts (text : String) (texts : List String) :
    "*".intercalate (text :: texts) = text ++ laterFactorTexts texts := by
  induction texts generalizing text with
  | nil => simp [laterFactorTexts]
  | cons next texts inductionHypothesis =>
      rw [String.intercalate_cons_cons, inductionHypothesis, laterFactorTexts]
      simp only [String.append_assoc]

/-- A text spells a factor, wherever it stands, whose tree settles on a number. -/
def IsFactor
    (settings : Settings)
    (field : Subfield ℝ)
    (depth : Nat)
    (text : String)
    (number : ℝ) : Prop :=
  ∀ atStart, ∃ derivation : Derivation (.signed atStart),
    derivation.IsWritten depth text ∧ derivation.meaning.SettlesOn settings field number

/-- A text spells the factors of a term behind the first, which multiply by a number. -/
def IsMultiplier
    (settings : Settings)
    (field : Subfield ℝ)
    (depth : Nat)
    (text : String)
    (number : ℝ) : Prop :=
  ∃ derivation : Derivation .factors, derivation.IsWritten depth text ∧
    ∀ x first, SettlesOn settings field first x →
      (productTree x derivation.meaning).SettlesOn settings field (first * number)

/-- The texts of the square roots of a term spell the real ones. -/
def WritesTerm
    (settings : Settings)
    (field : Subfield ℝ)
    (depth : Nat)
    (term : Rat × List String)
    (real : Rat × List ℝ) : Prop :=
  term.1 = real.1 ∧ List.Forall₂ (IsFactor settings field depth) term.2 real.2

/-- What a term stands for: its coefficient times its square roots. -/
noncomputable def termNumber (term : Rat × List ℝ) : ℝ :=
  term.1 * term.2.prod

variable {settings : Settings} {field : Subfield ℝ} {depth : Nat} {number : ℝ}
  {text : String} {texts : List String} {numbers : List ℝ}

theorem isFactor_integer (n : Nat) : IsFactor settings field depth (Integer.text n) n := by
  refine fun atStart => ⟨.ofNat atStart n, .ofNat n, ?_⟩
  rw [Derivation.meaning_ofNat]
  exact settlesOn_integer n

/-- The later factors of a term as a derivation. -/
theorem exists_factors
    (factors : List.Forall₂ (IsFactor settings field depth) texts numbers) :
    ∃ derivation : Derivation .factors,
      derivation.IsWritten depth (laterFactorTexts texts) ∧
        ∃ xs, derivation.meaning = xs.map ((false, ·)) ∧
          List.Forall₂ (SettlesOn settings field) numbers xs := by
  induction factors with
  | nil => exact ⟨.noFactors, .noFactors, [], rfl, .nil⟩
  | cons first _ inductionHypothesis =>
      obtain ⟨operand, writtenOperand, settles⟩ := first false
      obtain ⟨rest, writtenRest, xs, meaning, settle⟩ := inductionHypothesis
      refine ⟨_, writtenOperand.factor writtenRest false, operand.meaning :: xs, ?_,
        .cons settles settle⟩
      simp [Derivation.meaning, meaning]

section

variable [FiniteDimensional ℚ field] (small : degree field ≤ 2 ^ radicalLimit)

include small

theorem isMultiplier_factors
    (factors : List.Forall₂ (IsFactor settings field depth) texts numbers) :
    IsMultiplier settings field depth (laterFactorTexts texts) numbers.prod := by
  obtain ⟨derivation, written, xs, meaning, settle⟩ := exists_factors factors
  refine ⟨derivation, written, fun x first settles => ?_⟩
  have product := settlesOn_product small (.cons settles settle)
  simpa [productTree, meaning, List.filter_map, Function.comp_def] using product

/-- A division right behind the first factor divides the product of all factors. -/
theorem isMultiplier_divided
    (factors : List.Forall₂ (IsFactor settings field depth) texts numbers)
    {divisor : Nat}
    (nonzero : divisor ≠ 0) :
    IsMultiplier settings field depth
      ("/" ++ Integer.text divisor ++ laterFactorTexts texts) (numbers.prod / divisor) := by
  obtain ⟨derivation, written, xs, meaning, settle⟩ := exists_factors factors
  refine ⟨_, (Derivation.IsWritten.ofNat divisor).factor written true,
    fun x first settles => ?_⟩
  have quotient := (settlesOn_product small (.cons settles settle)).div_integer nonzero
  rw [mul_div_assoc] at quotient
  simpa [productTree, Derivation.meaning, Derivation.meaning_ofNat, meaning, List.filter_map,
    Function.comp_def, product_singleton] using quotient

/-- A term without its sign is a factor and a multiplier of that factor. -/
theorem exists_split
    {roots : List ℝ}
    {q : Rat}
    (nonnegative : 0 ≤ q)
    (factors : List.Forall₂ (IsFactor settings field depth) texts roots) :
    ∃ text rest first multiplier,
      "*".intercalate (factorTexts q texts) = text ++ rest ∧
        IsFactor settings field depth text first ∧
        IsMultiplier settings field depth rest multiplier ∧
        first * multiplier = q * roots.prod := by
  by_cases withCoefficient : (texts.isEmpty || q ≠ 1) = true
  · obtain ⟨n, numerator⟩ := Int.eq_ofNat_of_zero_le (Rat.num_nonneg.mpr nonnegative)
    rw [factorTexts, if_pos withCoefficient, intercalate_eq_laterFactorTexts, rationalText,
      numerator]
    split
    · rename_i whole
      refine ⟨_, _, _, _, rfl, isFactor_integer n, isMultiplier_factors small factors, ?_⟩
      rw [← (Rat.den_eq_one_iff q).mp whole, numerator]
      push_cast
      rfl
    · refine ⟨_, _, _, _, ?_, isFactor_integer n,
        isMultiplier_divided small factors q.den_nz, ?_⟩
      · simp only [String.append_assoc]
      · have quotient : (q : ℝ) = n / q.den := by
          rw [Rat.cast_def, numerator]
          push_cast
          rfl
        rw [quotient]
        ring
  · -- the coefficient 1 is left out, and the first root comes first
    rw [factorTexts, if_neg withCoefficient]
    simp only [Bool.or_eq_true, decide_eq_true_eq, not_or, not_not] at withCoefficient
    obtain ⟨nonempty, rfl⟩ := withCoefficient
    cases factors with
    | nil => contradiction
    | cons first rest =>
        refine ⟨_, _, _, _, intercalate_eq_laterFactorTexts _ _, first,
          isMultiplier_factors small rest, ?_⟩
        rw [List.prod_cons, Rat.cast_one, one_mul]

/-- A term behind its operator, as a product. -/
theorem exists_product
    {roots : List ℝ}
    (q : Rat)
    (factors : List.Forall₂ (IsFactor settings field depth) texts roots)
    (atStart : Bool) :
    ∃ derivation : Derivation (.product atStart),
      derivation.IsWritten depth (termText q texts) ∧
        derivation.meaning.SettlesOn settings field (q.abs * roots.prod) := by
  obtain ⟨text, rest, first, multiplier, split, isFactor, ⟨later, writtenLater, multiplies⟩,
    equal⟩ := exists_split small Rat.abs_nonneg factors
  obtain ⟨factor, writtenFactor, settles⟩ := isFactor atStart
  rw [termText, split, ← equal]
  exact ⟨_, writtenFactor.product writtenLater, multiplies _ _ settles⟩

/-- A negative term in front of a sum, as a product that begins with a sign. -/
theorem exists_negative_product
    {roots : List ℝ}
    (q : Rat)
    (factors : List.Forall₂ (IsFactor settings field depth) texts roots) :
    ∃ derivation : Derivation (.product true),
      derivation.IsWritten (depth + 1) ("-" ++ termText q texts) ∧
        derivation.meaning.SettlesOn settings field (-(q.abs * roots.prod)) := by
  obtain ⟨text, rest, first, multiplier, split, isFactor, ⟨later, writtenLater, multiplies⟩,
    equal⟩ := exists_split small Rat.abs_nonneg factors
  obtain ⟨factor, writtenFactor, settles⟩ := isFactor false
  rw [termText, split, ← equal, ← String.append_assoc, ← neg_mul]
  exact ⟨_, writtenFactor.negated.product (writtenLater.mono (Nat.le_succ depth)),
    multiplies _ _ settles.negate⟩

/-- The terms of a sum behind the first as a derivation. -/
theorem exists_terms
    {terms : List (Rat × List String)}
    {reals : List (Rat × List ℝ)}
    (related : List.Forall₂ (WritesTerm settings field depth) terms reals) :
    ∃ derivation : Derivation .terms, derivation.IsWritten depth (laterTermTexts terms) ∧
      List.Forall₂ (SettlesOn settings field) (reals.map termNumber)
        (derivation.meaning.map fun (subtracted, x) =>
          if subtracted then .unary .negate x else x) := by
  induction related with
  | nil => exact ⟨.noTerms, .noTerms, .nil⟩
  | @cons term real terms reals same _ inductionHypothesis =>
      obtain ⟨q, texts⟩ := term
      obtain ⟨_, roots⟩ := real
      obtain ⟨rfl, factors⟩ := same
      obtain ⟨operand, writtenOperand, settles⟩ := exists_product small q factors false
      obtain ⟨rest, writtenRest, settle⟩ := inductionHypothesis
      rw [laterTermTexts, List.map_cons, termNumber]
      by_cases negative : q < 0
      · rw [if_pos negative]
        refine ⟨_, writtenOperand.term writtenRest true, .cons ?_ settle⟩
        rw [Rat.abs_of_nonpos negative.le, Rat.cast_neg, neg_mul] at settles
        have opposite := settles.negate
        rwa [neg_neg] at opposite
      · rw [if_neg negative]
        refine ⟨_, writtenOperand.term writtenRest false, .cons ?_ settle⟩
        rwa [Rat.abs_of_nonneg (not_lt.mp negative)] at settles

/-- A sum of terms as a sentence. -/
theorem exists_sentence
    {terms : List (Rat × List String)}
    {reals : List (Rat × List ℝ)}
    (related : List.Forall₂ (WritesTerm settings field depth) terms reals) :
    ∃ sentence : Sentence, sentence.IsWritten (depth + 1) (sumText terms) ∧
      sentence.meaning.SettlesOn settings field (sumOfTerms reals) := by
  cases related with
  | nil =>
      have zero : sumText [] = Integer.text (0 : Nat) ++ "" ++ "" := by cbv
      rw [zero]
      refine ⟨_, .sum (.product (.ofNat 0) .noFactors) .noTerms, ?_⟩
      have settles : (integer (0 : Nat)).SettlesOn settings field (0 : Nat) := settlesOn_integer 0
      rw [Nat.cast_zero, ← Derivation.meaning_ofNat true] at settles
      exact settles
  | @cons term real terms reals same related =>
      obtain ⟨q, texts⟩ := term
      obtain ⟨_, roots⟩ := real
      obtain ⟨rfl, factors⟩ := same
      obtain ⟨rest, writtenRest, settle⟩ := exists_terms small related
      have writtenDeeper := writtenRest.mono (Nat.le_succ depth)
      have total : sumOfTerms ((q, roots) :: reals) =
          termNumber (q, roots) + (reals.map termNumber).sum := rfl
      rw [sumText, total]
      by_cases negative : q < 0
      · rw [if_pos negative]
        obtain ⟨first, writtenFirst, settles⟩ := exists_negative_product small q factors
        refine ⟨_, writtenFirst.sum writtenDeeper, settlesOn_sum small (.cons ?_ settle)⟩
        rwa [Rat.abs_of_nonpos negative.le, Rat.cast_neg, neg_mul, neg_neg] at settles
      · rw [if_neg negative, String.empty_append]
        obtain ⟨first, writtenFirst, settles⟩ := exists_product small q factors true
        refine ⟨_, (writtenFirst.mono (Nat.le_succ depth)).sum writtenDeeper,
          settlesOn_sum small (.cons ?_ settle)⟩
        rwa [Rat.abs_of_nonneg (not_lt.mp negative)] at settles

/-- The square roots of a tower in a small field are written as factors. -/
theorem isFactor_rootTexts
    {n : Nat}
    {tower : Tower n}
    (proper : tower.IsProper)
    (le : tower.field ≤ field)
    (deep : 3 * n ≤ depth) :
    tower.rootTexts.Forall₂ (IsFactor settings field depth) tower.roots := by
  induction tower generalizing depth with
  | base => trivial
  | @adjoin n tower radicand origin inductionHypothesis =>
      have le_below := (tower.field_le_field_adjoin radicand origin).trans le
      refine ⟨inductionHypothesis proper.1 le_below (by omega), fun atStart => ?_⟩
      -- a sign, the brackets and the root make the radicand nest three levels less deep
      have roots : tower.rootTexts.Forall₂ (IsFactor settings field (depth - 3)) tower.roots :=
        inductionHypothesis proper.1 le_below (by omega)
      obtain ⟨sentence, written, settles⟩ := exists_sentence small (radicand.terms_forall₂ roots)
      refine ⟨.rootOf atStart sentence, written.rootOf.mono (by omega), ?_⟩
      rw [Derivation.meaning_rootOf]
      exact settles.root small proper.2.1 (le (tower.root_mem_field radicand origin))

end

/-- The exact form of a value as it can be typed in. -/
def Value.typedForm (v : Value) : String :=
  String.ofList (rootSigns v.text.toList)

/-- The exact form of a normal value is a sentence that calculates its number. -/
theorem Value.IsNormal.exists_sentence
    {v : Value}
    (normal : v.IsNormal)
    (settings : Settings) :
    ∃ sentence : Sentence, sentence.IsWritten 256 v.text ∧
      sentence.meaning.SettlesOn settings v.tower.field v.real := by
  have := normal.proper.finiteDimensional
  have small : degree v.tower.field ≤ 2 ^ radicalLimit := by
    rw [normal.proper.degree_field]
    exact Nat.pow_le_pow_right (by omega) normal.level_le
  have level_le : v.level ≤ 8 := normal.level_le
  have roots : v.tower.rootTexts.Forall₂ (IsFactor settings v.tower.field 24) v.tower.roots :=
    isFactor_rootTexts small normal.proper le_rfl (by omega)
  obtain ⟨sentence, written, settles⟩ :=
    Radical.exists_sentence small (v.element.terms_forall₂ roots)
  exact ⟨sentence, written.mono (by omega), settles⟩

end Radical

namespace Expr

open Radical

/-- The exact form of a value can be typed in again: it is read as a tree, and the
calculation of that tree either returns the same number or stops at a sign that no
enclosure of the schedule shows. -/
theorem value_typedForm
    {settings : Settings}
    {x : Expr}
    {v : Value}
    (evaluated : x.value settings = .ok v) :
    ∃ y, read v.typedForm = .ok y ∧
      ((∃ w, y.value settings = .ok w ∧ w.real = v.real) ∨
        ∃ exact, y.value settings = .error (.internal (.undecidedSign exact))) := by
  have normal := (isSound settings x v evaluated).1
  obtain ⟨sentence, written, settles⟩ := normal.exists_sentence settings
  refine ⟨sentence.meaning, ?_, ?_⟩
  · have form : v.typedForm = String.ofList (Token.spell sentence.tokens) := by
      have spelled := written.writes []
      simp only [List.append_nil, rootSigns] at spelled
      rw [Value.typedForm, spelled]
    rw [form]
    exact read_spell written.proper written.nesting_le
  · rw [SettlesOn] at settles
    cases outcome : sentence.meaning.value settings with
    | ok w =>
        rw [outcome] at settles
        exact .inl ⟨w, rfl, settles.2⟩
    | error fault =>
        rw [outcome] at settles
        obtain ⟨exact, rfl⟩ := settles
        exact .inr ⟨exact, rfl⟩

/-- The square root of two, divided by minus two. -/
def dividedRoot : Expr :=
  node .quotient [unary .root (integer 2), integer (-2)]

theorem value_dividedRoot :
    dividedRoot.value .standard = .ok (Value.sqrtTwo.scale (-2 : Rat)⁻¹) := by
  have root : (unary .root (integer 2)).value .standard = .ok Value.sqrtTwo :=
    Value.sqrtRat_two
  rw [dividedRoot, value, root]
  exact Value.reachable_sqrtTwo.isNormal.div_ofRat (q := -2) (by decide)

theorem value_typedForm_dividedRoot :
    dividedRoot.value .standard = .ok (Value.sqrtTwo.scale (-2 : Rat)⁻¹) ∧
      (Value.sqrtTwo.scale (-2 : Rat)⁻¹).typedForm = "-1/2*R(2)" ∧
      ∃ y, read (Value.sqrtTwo.scale (-2 : Rat)⁻¹).typedForm = .ok y ∧
        ((∃ w, y.value .standard = .ok w ∧
            w.real = (Value.sqrtTwo.scale (-2 : Rat)⁻¹).real) ∨
          ∃ exact, y.value .standard = .error (.internal (.undecidedSign exact))) :=
  ⟨value_dividedRoot, by decide +kernel, value_typedForm value_dividedRoot⟩

end Expr
end FourFours
