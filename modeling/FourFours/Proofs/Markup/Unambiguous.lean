import FourFours.Proofs.Markup.Grammar

/-!
# Markup is unambiguous

Two derivations of one category are equal if their texts are, up to texts that continue
neither: the first characters of a phrase tell which rule derives it, and each part of it
ends where a looser sign, a closing brace or a closing bracket follows.
-/

namespace FourFours
namespace Markup

/-- Whether a text begins like a base: with a digit, a point, a root or a bracket. -/
def beginsBase : List Char → Bool
  | '\\' :: c :: _ => c == 's' || c == 'l'
  | c :: _ => c.isDigit || c == '.'
  | [] => false

/-- A literal begins with a digit or a point. -/
theorem Literal.exists_head (literal : Literal) :
    ∃ c tail, literal.tree.markup.toList = c :: tail ∧ (c.isDigit || c == '.') = true := by
  rw [markup_tree, behind_eq_behindWith]
  exact literal.exists_head_behindWith _ _

/-- A literal does not begin with a backslash. -/
theorem Literal.text_ne
    (literal : Literal)
    {c : Char}
    (foreign : (c.isDigit || c == '.') = false)
    (rest tail : List Char) :
    literal.tree.markup.toList ++ rest ≠ c :: tail := by
  obtain ⟨head, tail, equal, begins⟩ := literal.exists_head
  rw [equal, List.cons_append]
  intro same
  rw [(List.cons.inj same).1, foreign] at begins
  contradiction

namespace Derivation

theorem beginsBase_text (derivation : Derivation .base) (rest : List Char) :
    beginsBase (derivation.text ++ rest) = true := by
  cases derivation with
  | literal written =>
      obtain ⟨c, tail, equal, begins⟩ := written.exists_head
      rw [text, equal, List.cons_append, beginsBase]
      · exact begins
      · rintro d rest rfl
        contradiction
  | root inner => rfl
  | group inner => rfl

theorem text_base_ne
    (derivation : Derivation .base)
    {text : List Char}
    (foreign : beginsBase text = false)
    (rest : List Char) :
    derivation.text ++ rest ≠ text := by
  rintro rfl
  rw [derivation.beginsBase_text] at foreign
  contradiction

theorem text_postfixed_ne
    (derivation : Derivation .postfixed)
    {text : List Char}
    (foreign : beginsBase text = false)
    (rest : List Char) :
    derivation.text ++ rest ≠ text := by
  cases derivation with
  | postfixed operand factorials =>
      simp only [Derivation.text, List.append_assoc]
      exact operand.text_base_ne foreign _

/-- A power does not begin with a sign. -/
theorem text_power_ne
    (derivation : Derivation .power)
    (rest tail : List Char) :
    derivation.text ++ rest ≠ '-' :: tail := by
  cases derivation with
  | unraised operand =>
      cases operand with
      | plain operand =>
          rw [text, text]
          exact operand.text_postfixed_ne rfl _
      | fraction => simp [fractionOpening]
      | triangular | triangularGroup => simp [sigmaSign]
  | raised operand exponent =>
      simp only [text, List.append_assoc]
      exact operand.text_base_ne rfl _

/-- A derivation is determined by its text. -/
theorem unique
    {category : Category}
    (derivation derivation' : Derivation category)
    {rest rest' : List Char}
    (ends : Ends category rest)
    (ends' : Ends category rest')
    (equal : derivation.text ++ rest = derivation'.text ++ rest') :
    derivation = derivation' ∧ rest = rest' := by
  induction derivation generalizing rest rest' with
  | sum first terms firstHypothesis termsHypothesis =>
      cases derivation' with
      | sum first' terms' =>
          simp only [text, List.append_assoc] at equal
          obtain ⟨rfl, remaining⟩ := firstHypothesis first' (terms.ends_terms ends)
            (terms'.ends_terms ends') equal
          obtain ⟨rfl, same⟩ := termsHypothesis terms' ends ends' remaining
          exact ⟨rfl, same⟩
  | noTerms =>
      cases derivation' with
      | noTerms => exact ⟨rfl, equal⟩
      | term subtracted =>
          simp only [text, List.nil_append, List.append_assoc] at equal
          rw [equal, Ends, looseness_termSign] at ends
          exact absurd ends (Nat.lt_irrefl 4)
  | term subtracted operand terms operandHypothesis termsHypothesis =>
      cases derivation' with
      | noTerms =>
          simp only [text, List.nil_append, List.append_assoc] at equal
          rw [← equal, Ends, looseness_termSign] at ends'
          exact absurd ends' (Nat.lt_irrefl 4)
      | term subtracted' operand' terms' =>
          simp only [text, List.append_assoc] at equal
          obtain ⟨rfl, behind⟩ := termSign_injective equal
          obtain ⟨rfl, remaining⟩ := operandHypothesis operand' (terms.ends_terms ends)
            (terms'.ends_terms ends') behind
          obtain ⟨rfl, same⟩ := termsHypothesis terms' ends ends' remaining
          exact ⟨rfl, same⟩
  | product first factors firstHypothesis factorsHypothesis =>
      cases derivation' with
      | product first' factors' =>
          simp only [text, List.append_assoc] at equal
          obtain ⟨rfl, remaining⟩ := firstHypothesis first' (factors.ends_factors ends)
            (factors'.ends_factors ends') equal
          obtain ⟨rfl, same⟩ := factorsHypothesis factors' ends ends' remaining
          exact ⟨rfl, same⟩
  | noFactors =>
      cases derivation' with
      | noFactors => exact ⟨rfl, equal⟩
      | factor =>
          simp only [text, List.nil_append, List.append_assoc] at equal
          rw [equal, Ends, looseness_times] at ends
          exact absurd ends (Nat.lt_irrefl 3)
  | factor operand factors operandHypothesis factorsHypothesis =>
      cases derivation' with
      | noFactors =>
          simp only [text, List.nil_append, List.append_assoc] at equal
          rw [← equal, Ends, looseness_times] at ends'
          exact absurd ends' (Nat.lt_irrefl 3)
      | factor operand' factors' =>
          simp only [text, List.append_assoc, List.append_cancel_left_eq] at equal
          obtain ⟨rfl, remaining⟩ := operandHypothesis operand' (factors.ends_factors ends)
            (factors'.ends_factors ends') equal
          obtain ⟨rfl, same⟩ := factorsHypothesis factors' ends ends' remaining
          exact ⟨rfl, same⟩
  | negated operand operandHypothesis =>
      cases derivation' with
      | negated operand' =>
          obtain ⟨rfl, same⟩ := operandHypothesis operand' ends ends' (List.cons.inj equal).2
          exact ⟨rfl, same⟩
      | unsigned operand' => exact absurd equal.symm (operand'.text_power_ne _ _)
  | unsigned operand operandHypothesis =>
      cases derivation' with
      | negated operand' => exact absurd equal (operand.text_power_ne _ _)
      | unsigned operand' =>
          obtain ⟨rfl, same⟩ := operandHypothesis operand' ends ends' equal
          exact ⟨rfl, same⟩
  | unraised operand operandHypothesis =>
      cases derivation' with
      | unraised operand' =>
          obtain ⟨rfl, same⟩ := operandHypothesis operand' (ends.tighten (by decide))
            (ends'.tighten (by decide)) equal
          exact ⟨rfl, same⟩
      | raised operand' exponent' =>
          -- the base of the power, as an operand, would be followed by the exponent
          have asOperand : (plain (.postfixed operand' 0)).text = operand'.text := by
            simp
          simp only [text, List.append_assoc, List.cons_append] at equal
          rw [← asOperand] at equal
          obtain ⟨-, rfl⟩ := operandHypothesis _ (ends.tighten (by decide))
            (ends_hat (by decide) _) equal
          exact absurd ends (Nat.lt_irrefl 2)
  | raised operand exponent operandHypothesis exponentHypothesis =>
      cases derivation' with
      | unraised operand' =>
          simp only [text, List.append_assoc, List.cons_append] at equal
          cases operand' with
          | plain operand' =>
              cases operand' with
              | postfixed operand' factorials =>
                  simp only [text, List.append_assoc] at equal
                  obtain ⟨-, remaining⟩ := operandHypothesis operand' (ends_hat (by decide) _)
                    (ends_factorials factorials (ends'.tighten (by decide))) equal
                  rw [← List.nil_append ('^' :: _), ← List.replicate_zero] at remaining
                  obtain ⟨-, rfl⟩ := factorials_unique (ends_hat (by decide) _)
                    (ends'.tighten (by decide)) remaining
                  exact absurd ends' (Nat.lt_irrefl 2)
          | fraction | triangular | triangularGroup =>
              exact absurd equal (operand.text_base_ne rfl _)
      | raised operand' exponent' =>
          simp only [text, List.append_assoc, List.cons_append] at equal
          obtain ⟨rfl, remaining⟩ := operandHypothesis operand' (ends_hat (by decide) _)
            (ends_hat (by decide) _) equal
          simp only [List.cons.injEq, true_and] at remaining
          obtain ⟨rfl, same⟩ :=
            exponentHypothesis exponent' (ends_brace _ _) (ends_brace _ _) remaining
          exact ⟨rfl, (List.cons.inj same).2⟩
  | plain operand operandHypothesis =>
      cases derivation' with
      | plain operand' =>
          obtain ⟨rfl, same⟩ := operandHypothesis operand' ends ends' equal
          exact ⟨rfl, same⟩
      | fraction | triangular | triangularGroup =>
          exact absurd equal (operand.text_postfixed_ne rfl _)
  | fraction numerator denominator numeratorHypothesis denominatorHypothesis =>
      cases derivation' with
      | plain operand' => exact absurd equal.symm (operand'.text_postfixed_ne rfl _)
      | fraction numerator' denominator' =>
          simp only [text, List.append_assoc, List.cons_append, List.append_cancel_left_eq]
            at equal
          obtain ⟨rfl, remaining⟩ :=
            numeratorHypothesis numerator' (ends_brace _ _) (ends_brace _ _) equal
          simp only [List.cons.injEq, true_and] at remaining
          obtain ⟨rfl, same⟩ :=
            denominatorHypothesis denominator' (ends_brace _ _) (ends_brace _ _) remaining
          exact ⟨rfl, (List.cons.inj same).2⟩
      | triangular | triangularGroup => simp [fractionOpening, sigmaSign] at equal
  | triangular operand operandHypothesis =>
      cases derivation' with
      | plain operand' => exact absurd equal.symm (operand'.text_postfixed_ne rfl _)
      | fraction => simp [fractionOpening, sigmaSign] at equal
      | triangular operand' =>
          simp only [text, List.append_assoc, List.cons_append, List.append_cancel_left_eq,
            List.cons.injEq, true_and] at equal
          obtain ⟨rfl, same⟩ := operandHypothesis operand' ends ends' equal
          exact ⟨rfl, same⟩
      | triangularGroup => simp [groupOpening] at equal
  | triangularGroup inner innerHypothesis =>
      cases derivation' with
      | plain operand' => exact absurd equal.symm (operand'.text_postfixed_ne rfl _)
      | fraction => simp [fractionOpening, sigmaSign] at equal
      | triangular => simp [groupOpening] at equal
      | triangularGroup inner' =>
          simp only [text, List.append_assoc, List.append_cancel_left_eq] at equal
          obtain ⟨rfl, same⟩ :=
            innerHypothesis inner' (ends_bracket _ _) (ends_bracket _ _) equal
          exact ⟨rfl, List.append_cancel_left same⟩
  | postfixed operand factorials operandHypothesis =>
      cases derivation' with
      | postfixed operand' factorials' =>
          simp only [text, List.append_assoc] at equal
          obtain ⟨rfl, remaining⟩ := operandHypothesis operand' (ends_factorials _ ends)
            (ends_factorials _ ends') equal
          obtain ⟨rfl, same⟩ := factorials_unique ends ends' remaining
          exact ⟨rfl, same⟩
  | literal written =>
      cases derivation' with
      | literal written' =>
          obtain ⟨rfl, same⟩ := Literal.unique ends ends' equal
          exact ⟨rfl, same⟩
      | root | group => exact absurd equal (written.text_ne rfl _ _)
  | root inner innerHypothesis =>
      cases derivation' with
      | literal written' => exact absurd equal.symm (written'.text_ne rfl _ _)
      | root inner' =>
          simp only [text, List.append_assoc, List.cons_append, List.append_cancel_left_eq]
            at equal
          obtain ⟨rfl, same⟩ := innerHypothesis inner' (ends_brace _ _) (ends_brace _ _) equal
          exact ⟨rfl, (List.cons.inj same).2⟩
      | group => simp [rootOpening, groupOpening] at equal
  | group inner innerHypothesis =>
      cases derivation' with
      | literal written' => exact absurd equal.symm (written'.text_ne rfl _ _)
      | root => simp [rootOpening, groupOpening] at equal
      | group inner' =>
          simp only [text, List.append_assoc, List.append_cancel_left_eq] at equal
          obtain ⟨rfl, same⟩ :=
            innerHypothesis inner' (ends_bracket _ _) (ends_bracket _ _) equal
          exact ⟨rfl, List.append_cancel_left same⟩

end Derivation
end Markup
end FourFours
