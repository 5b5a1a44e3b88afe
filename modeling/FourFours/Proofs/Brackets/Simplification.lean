import FourFours.Proofs.Brackets.Pairs
import FourFours.Proofs.Meaning
import FourFours.Proofs.Reading.Agreement
import Mathlib.Logic.Relation

/-!
# Simplified texts

Simplifying a text drops matching brackets, one pair after the other, as long as that leaves
the reading as it is. Nothing else changes, no further pair can be dropped from the result,
and a text without a reading is refused with its own fault. What is kept is the reading and
not the value: a pair also goes if the value changes behind the decimals that are read.
-/

namespace FourFours
namespace Brackets

open Radical

/-- Whether a text turns into another one with a given reading if two matching brackets are
dropped. -/
def DropsTo (reference : String) (text shorter : List Char) : Prop :=
  DropsPair text shorter ∧ Calculator.evaluate .standard (String.ofList shorter) = .ok reference

theorem hasReading_iff (reference : String) (text : List Char) :
    hasReading reference text = true ↔
      Calculator.evaluate .standard (String.ofList text) = .ok reference := by
  rw [hasReading, reading]
  cases Calculator.evaluate .standard (String.ofList text) with
  | ok result => simp
  | error fault => simp

variable {reference : String} {text shorter : List Char}

theorem dropsTo_of_dropOne? (dropped : dropOne? reference text = some shorter) :
    DropsTo reference text shorter := by
  obtain ⟨pair, member, equal⟩ := List.mem_map.mp (List.mem_of_find?_eq_some dropped)
  exact ⟨(dropsPair_iff text shorter).mpr ⟨pair, member, equal⟩,
    (hasReading_iff reference shorter).mp (List.find?_some dropped)⟩

/-- No pair is dropped just if none can be without changing the reading. -/
theorem dropOne?_eq_none_iff :
    dropOne? reference text = none ↔ ∀ shorter, ¬DropsTo reference text shorter := by
  rw [dropOne?, List.find?_eq_none, List.forall_mem_map]
  simp only [DropsTo, dropsPair_iff, hasReading_iff]
  constructor
  · rintro stuck _ ⟨⟨pair, member, rfl⟩, evaluated⟩
    exact stuck pair member evaluated
  · intro stuck pair member evaluated
    exact stuck _ ⟨⟨pair, member, rfl⟩, evaluated⟩

theorem reflTransGen_dropAll (reference : String) (text : List Char) :
    Relation.ReflTransGen (DropsTo reference) text (dropAll reference text) := by
  fun_induction dropAll reference text with
  | case1 text shorter dropped inductionHypothesis =>
      exact .head (dropsTo_of_dropOne? dropped) inductionHypothesis
  | case2 text stuck => exact .refl

theorem dropOne?_dropAll (reference : String) (text : List Char) :
    dropOne? reference (dropAll reference text) = none := by
  fun_induction dropAll reference text with
  | case1 text shorter dropped inductionHypothesis => exact inductionHypothesis
  | case2 text stuck => exact stuck

theorem dropAll_of_dropOne? (dropped : dropOne? reference text = some shorter) :
    dropAll reference text = dropAll reference shorter := by
  fun_cases dropAll reference text with
  | case1 first equal =>
      rw [equal, Option.some.injEq] at dropped
      rw [dropped]
  | case2 stuck => simp [stuck] at dropped

theorem dropAll_eq_self (stuck : dropOne? reference text = none) :
    dropAll reference text = text := by
  fun_cases dropAll reference text with
  | case1 shorter dropped => simp [stuck] at dropped
  | case2 => rfl

/-- Dropping pairs keeps the reading. -/
theorem evaluate_of_reflTransGen
    (evaluated : Calculator.evaluate .standard (String.ofList text) = .ok reference)
    (steps : Relation.ReflTransGen (DropsTo reference) text shorter) :
    Calculator.evaluate .standard (String.ofList shorter) = .ok reference := by
  cases steps with
  | refl => exact evaluated
  | tail _ last => exact last.2

theorem simplify_of_evaluate
    {text : String}
    (evaluated : Calculator.evaluate .standard text = .ok reference) :
    simplify text = .ok (String.ofList (dropAll reference text.toList)) := by
  simp only [simplify, reading, String.ofList_toList, evaluated]
  rfl

/-- Only one pair is dropped if none can be dropped afterwards. -/
theorem simplify_of_dropOne?
    {text : String}
    (evaluated : Calculator.evaluate .standard text = .ok reference)
    (first : dropOne? reference text.toList = some shorter)
    (stuck : dropOne? reference shorter = none) :
    simplify text = .ok (String.ofList shorter) := by
  rw [simplify_of_evaluate evaluated, dropAll_of_dropOne? first, dropAll_eq_self stuck]

/-- A text without a reading is refused with its fault. Any other is simplified: from the
result no pair of matching brackets can be dropped without changing the reading, so
simplifying it again changes nothing. -/
theorem simplify_outcome (text : String) :
    (∀ fault, simplify text = .error fault ↔
      Calculator.evaluate .standard text = .error fault) ∧
    ∀ reading, Calculator.evaluate .standard text = .ok reading →
      ∃ shorter, simplify text = .ok shorter ∧
        Relation.ReflTransGen DropsPair text.toList shorter.toList ∧
        Calculator.evaluate .standard shorter = .ok reading ∧
        (∀ candidate, DropsPair shorter.toList candidate →
          Calculator.evaluate .standard (String.ofList candidate) ≠ .ok reading) ∧
        simplify shorter = .ok shorter := by
  constructor
  · intro fault
    rw [simplify, bind_eq_error_iff, reading, String.ofList_toList]
    simp
  · intro reading evaluated
    have steps := reflTransGen_dropAll reading text.toList
    have stuck := dropOne?_dropAll reading text.toList
    have start : Calculator.evaluate .standard (String.ofList text.toList) = .ok reading := by
      rwa [String.ofList_toList]
    have kept := evaluate_of_reflTransGen start steps
    refine ⟨_, simplify_of_evaluate evaluated, ?_, kept, ?_, ?_⟩
    · rw [String.toList_ofList]
      exact Relation.ReflTransGen.mono (fun _ _ step => step.1) _ _ steps
    · rw [String.toList_ofList]
      intro candidate drops unchanged
      exact dropOne?_eq_none_iff.mp stuck candidate ⟨drops, unchanged⟩
    · rw [simplify_of_evaluate kept, String.toList_ofList, dropAll_eq_self stuck]

theorem balanced_of_bracketless
    {text : List Char}
    (bracketless : ∀ c ∈ text, c ≠ '(' ∧ c ≠ ')') :
    Balanced text := by
  induction text with
  | nil => exact .nil
  | cons c text inductionHypothesis =>
      obtain ⟨⟨opens, closes⟩, rest⟩ := List.forall_mem_cons.mp bracketless
      exact .other opens closes (inductionHypothesis rest)

/-- The brackets of a factor that is a sum cannot be dropped. -/
theorem simplify_outcome_product :
    Calculator.evaluate .standard "4*(4+4)" = .ok "32" ∧
      simplify "4*(4+4)" = .ok "4*(4+4)" ∧
      DropsPair "4*(4+4)".toList "4*4+4".toList ∧
      Calculator.evaluate .standard "4*4+4" ≠ .ok "32" := by
  have evaluated : Calculator.evaluate .standard "4*(4+4)" = .ok "32" := by decide +kernel
  have stuck : dropOne? "32" "4*(4+4)".toList = none := by decide +kernel
  have simplified := simplify_of_evaluate evaluated
  rw [dropAll_eq_self stuck, String.ofList_toList] at simplified
  have drops : DropsPair "4*(4+4)".toList "4*4+4".toList :=
    ⟨['4', '*'], ['4', '+', '4'], [], balanced_of_bracketless (by simp), by decide, by decide⟩
  obtain ⟨shorter, equal, -, -, irreducible, -⟩ :=
    (simplify_outcome "4*(4+4)").2 "32" evaluated
  rw [simplified, Except.ok.injEq] at equal
  subst equal
  refine ⟨evaluated, simplified, drops, ?_⟩
  have differs := irreducible _ drops
  rwa [String.ofList_toList] at differs

/-- A text with a reading has a value from which it is read. -/
theorem exists_value_of_evaluate
    {settings : Settings}
    {text reading : String}
    (evaluated : Calculator.evaluate settings text = .ok reading) :
    ∃ x v, Expr.read text = .ok x ∧ x.value settings = .ok v ∧ v.IsNormal ∧
      Reading.ofValue settings v = .ok reading := by
  obtain ⟨x, read, evaluated⟩ := bind_eq_ok_iff.mp evaluated
  obtain ⟨v, valued, evaluated⟩ := bind_eq_ok_iff.mp evaluated
  exact ⟨x, v, read, valued, (Expr.isSound settings x v valued).1, evaluated⟩

theorem evaluate_of_simplify
    {text shorter : String}
    (simplified : simplify text = .ok shorter) :
    ∃ reading, Calculator.evaluate .standard text = .ok reading ∧
      Calculator.evaluate .standard shorter = .ok reading := by
  obtain ⟨result, evaluated, equal⟩ := bind_eq_ok_iff.mp simplified
  rw [pure_eq_ok_iff] at equal
  subst equal
  have kept := evaluate_of_reflTransGen evaluated (reflTransGen_dropAll result text.toList)
  rw [reading, String.ofList_toList] at evaluated
  exact ⟨result, evaluated, kept⟩

/-- A text and its simplified form have values that agree in their first 20 decimals. They
are the same number if both have a finite expansion of at most 200 decimals, and also if one
of them has such an expansion of more than 20. -/
theorem values_of_simplify
    {text shorter : String}
    (simplified : simplify text = .ok shorter) :
    ∃ x v y w, Expr.read text = .ok x ∧ x.value .standard = .ok v ∧
      Expr.read shorter = .ok y ∧ y.value .standard = .ok w ∧
      towardZero (v.real * 10 ^ 20) = towardZero (w.real * 10 ^ 20) ∧
      ((∃ decimals ≤ 200, Reading.HasExpansion v.real decimals) →
        (∃ decimals ≤ 200, Reading.HasExpansion w.real decimals) → v.real = w.real) ∧
      ∀ decimals, 20 < decimals → decimals ≤ 200 →
        Reading.HasExpansion v.real decimals ∨ Reading.HasExpansion w.real decimals →
          v.real = w.real := by
  obtain ⟨reading, evaluated, evaluated'⟩ := evaluate_of_simplify simplified
  obtain ⟨x, v, read, valued, normal, shown⟩ := exists_value_of_evaluate evaluated
  obtain ⟨y, w, read', valued', normal', shown'⟩ := exists_value_of_evaluate evaluated'
  have alike : Reading.ReadAlike .standard v.real w.real :=
    Reading.readAlike_of_ofValue (by decide) normal normal' shown shown'
  exact ⟨x, v, y, w, read, valued, read', valued', alike.rounded, alike.exact, alike.long⟩

theorem simplify_dividedPower : simplify "(4/4)/4^11" = .ok "4/4/4^11" := by
  have evaluated : Calculator.evaluate .standard "(4/4)/4^11" = .ok "0.0000002384185791015625" := by
    decide +kernel
  have first : dropOne? "0.0000002384185791015625" "(4/4)/4^11".toList =
      some "4/4/4^11".toList := by decide +kernel
  have stuck : dropOne? "0.0000002384185791015625" "4/4/4^11".toList = none := by decide
  rw [simplify_of_dropOne? evaluated first stuck, String.ofList_toList]

/-- A quotient with an expansion of 22 decimals keeps its value. -/
theorem values_of_simplify_dividedPower :
    simplify "(4/4)/4^11" = .ok "4/4/4^11" ∧
      ∃ x v y w, Expr.read "(4/4)/4^11" = .ok x ∧ x.value .standard = .ok v ∧
        Expr.read "4/4/4^11" = .ok y ∧ y.value .standard = .ok w ∧
        Reading.HasExpansion v.real 22 ∧ v.real = w.real := by
  have rational : ((Expr.read "(4/4)/4^11" >>= Expr.value .standard).toOption.map
      Value.rational?) = some (some (1 / 4 ^ 11 : Rat)) := by decide +kernel
  obtain ⟨v, evaluated, rational⟩ := exists_of_map_toOption rational
  obtain ⟨x, read, valued⟩ := bind_eq_ok_iff.mp evaluated
  have expansion : Reading.HasExpansion v.real 22 :=
    ⟨1 / 4 ^ 11, 22, 0, Value.real_of_rational? rational, by decide +kernel, rfl⟩
  obtain ⟨x', v', y, w, read', valued', readShorter, valuedShorter, -, -, long⟩ :=
    values_of_simplify simplify_dividedPower
  obtain rfl : x' = x := Except.ok.inj (read'.symm.trans read)
  obtain rfl : v' = v := Except.ok.inj (valued'.symm.trans valued)
  exact ⟨simplify_dividedPower, x', v', y, w, read, valued, readShorter, valuedShorter, expansion,
    long 22 (by decide) (by decide) (.inl expansion)⟩

theorem simplify_tinyQuotient : simplify "4/(44!*4)" = .ok "4/44!*4" := by
  have evaluated : Calculator.evaluate .standard "4/(44!*4)" = .ok "0" := by decide +kernel
  have first : dropOne? "0" "4/(44!*4)".toList = some "4/44!*4".toList := by decide +kernel
  have stuck : dropOne? "0" "4/44!*4".toList = none := by decide
  rw [simplify_of_dropOne? evaluated first stuck, String.ofList_toList]

/-- Simplifying can change the value: without its brackets a divisor loses a factor, and both
quotients are too small to be told apart. -/
theorem simplify_changes_value :
    simplify "4/(44!*4)" = .ok "4/44!*4" ∧
      ∃ x v y w, Expr.read "4/(44!*4)" = .ok x ∧ x.value .standard = .ok v ∧
        Expr.read "4/44!*4" = .ok y ∧ y.value .standard = .ok w ∧ v.real ≠ w.real := by
  have left : ((Expr.read "4/(44!*4)" >>= Expr.value .standard).toOption.map Value.rational?) =
      some (some (4 / (factorial 44 * 4) : Rat)) := by decide +kernel
  have right : ((Expr.read "4/44!*4" >>= Expr.value .standard).toOption.map Value.rational?) =
      some (some (4 / factorial 44 * 4 : Rat)) := by decide +kernel
  obtain ⟨v, evaluated, rational⟩ := exists_of_map_toOption left
  obtain ⟨w, evaluated', rational'⟩ := exists_of_map_toOption right
  obtain ⟨x, read, valued⟩ := bind_eq_ok_iff.mp evaluated
  obtain ⟨y, read', valued'⟩ := bind_eq_ok_iff.mp evaluated'
  refine ⟨simplify_tinyQuotient, x, v, y, w, read, valued, read', valued', ?_⟩
  rw [Value.real_of_rational? rational, Value.real_of_rational? rational']
  have differs : (4 / (factorial 44 * 4) : Rat) ≠ 4 / factorial 44 * 4 := by decide +kernel
  exact_mod_cast differs

end Brackets
end FourFours
