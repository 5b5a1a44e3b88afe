import FourFours.Proofs.Grammar.Tokens
import FourFours.Proofs.Meaning

/-!
# The decimal literals of a tree that is read

Every decimal literal of a tree that is read is written with a run of digits of its text. So
it has no more digits after its point than the text has in normal form.
-/

namespace FourFours
namespace Token

variable {text run : List Char} {tokens : List Token}

/-- A run of digits that is cut out of a text is no longer than the text has digits. -/
theorem length_le_of_digits_mem
    (members : ∀ c ∈ text, inAlphabet c = true)
    (cut : tokenize text = .ok tokens)
    (member : digits run ∈ tokens) :
    run.length ≤ text.countP Char.isDigit := by
  obtain ⟨tokens', cut', spelled, -⟩ := exists_tokens members
  obtain rfl : tokens' = tokens := Except.ok.inj (cut'.symm.trans cut)
  obtain ⟨-, allDigits⟩ := isProper_of_tokenize cut _ member
  have within : run.Sublist text := by
    rw [← spelled, spell, List.flatMap]
    exact List.sublist_flatten_of_mem (List.mem_map_of_mem (f := lexeme) member)
  calc
    run.length = run.countP Char.isDigit :=
      (List.countP_eq_length.mpr (List.all_eq_true.mp allDigits)).symm
    _ ≤ text.countP Char.isDigit := within.countP_le

end Token

namespace Expr

theorem decimals_sum (xs : List Expr) : (sum xs).decimals = decimals.decimalsOf xs := by
  match xs with
  | [] | _ :: _ :: _ => rfl
  | [x] => exact (List.append_nil x.decimals).symm

theorem decimals_product (xs : List Expr) : (product xs).decimals = decimals.decimalsOf xs := by
  match xs with
  | [] | _ :: _ :: _ => rfl
  | [x] => exact (List.append_nil x.decimals).symm

theorem mem_decimals_pair {d : Decimal} {op : Nary} {x y : Expr} :
    d ∈ (node op [x, y]).decimals ↔ d ∈ x.decimals ∨ d ∈ y.decimals := by
  simp [decimals, decimals.decimalsOf]

end Expr

namespace Grammar

variable {d : Decimal} {first x : Expr} {links : List (Bool × Expr)}

theorem mem_decimals_of_sumTree (member : d ∈ (sumTree first links).decimals) :
    d ∈ first.decimals ∨ ∃ link ∈ links, d ∈ link.2.decimals := by
  rw [sumTree, Expr.decimals_sum, Expr.mem_decimalsOf, List.exists_mem_cons_iff] at member
  refine member.imp_right ?_
  rintro ⟨x, among, inside⟩
  obtain ⟨⟨subtracted, term⟩, linked, rfl⟩ := List.mem_map.mp among
  refine ⟨_, linked, ?_⟩
  cases subtracted <;> exact inside

theorem mem_decimals_of_productTree (member : d ∈ (productTree first links).decimals) :
    d ∈ first.decimals ∨ ∃ link ∈ links, d ∈ link.2.decimals := by
  have selected (select : Bool × Expr → Bool)
      (inside : ∃ x ∈ (links.filter select).map Prod.snd, d ∈ x.decimals) :
      ∃ link ∈ links, d ∈ link.2.decimals := by
    obtain ⟨x, among, inside⟩ := inside
    obtain ⟨link, linked, rfl⟩ := List.mem_map.mp among
    exact ⟨link, List.mem_of_mem_filter linked, inside⟩
  have numerator (inside : d ∈ (Expr.product
      (first :: (links.filter (!·.1)).map Prod.snd)).decimals) :
      d ∈ first.decimals ∨ ∃ link ∈ links, d ∈ link.2.decimals := by
    rw [Expr.decimals_product, Expr.mem_decimalsOf, List.exists_mem_cons_iff] at inside
    exact inside.imp_right (selected _)
  unfold productTree at member
  split at member
  · exact numerator member
  · rcases Expr.mem_decimals_pair.mp member with inside | inside
    · exact numerator inside
    · rw [Expr.decimals_product, Expr.mem_decimalsOf] at inside
      exact .inr (selected _ inside)

theorem decimals_factorialTree (count : Nat) (x : Expr) :
    (factorialTree count x).decimals = x.decimals := by
  induction count generalizing x with
  | zero => rfl
  | succ count inductionHypothesis => exact inductionHypothesis _

/-- A decimal literal is written with the digits behind its point as one run. -/
theorem Literal.digits_mem_tokens {literal : Literal} (member : d ∈ literal.tree.decimals) :
    .digits d.fraction ∈ literal.tokens := by
  cases literal with
  | integer run => simp [tree, Expr.decimals] at member
  | decimal whole fraction repeating =>
      obtain rfl := List.mem_singleton.mp member
      cases whole <;> cases repeating <;> simp [tokens, fractionTokens]

/-- A decimal literal occurs in what a phrase stands for. -/
def Contains (d : Decimal) : {category : Category} → Derivation category → Prop
  | .terms, phrase | .factors, phrase => ∃ link ∈ phrase.meaning, d ∈ link.2.decimals
  | .sum _, phrase | .product _, phrase | .power _, phrase | .signed _, phrase
  | .postfixed _, phrase | .atom _, phrase => d ∈ Expr.decimals phrase.meaning

/-- The digits behind the point of a literal are one of the runs of digits of a phrase in
which it occurs. -/
theorem digits_mem_tokens
    {category : Category}
    (phrase : Derivation category)
    (contained : Contains d phrase) :
    .digits d.fraction ∈ phrase.tokens := by
  induction phrase with
  | sum first rest firstHypothesis restHypothesis =>
      exact List.mem_append.mpr ((mem_decimals_of_sumTree contained).imp
        firstHypothesis restHypothesis)
  | product first rest firstHypothesis restHypothesis =>
      exact List.mem_append.mpr ((mem_decimals_of_productTree contained).imp
        firstHypothesis restHypothesis)
  | noTerms | noFactors =>
      obtain ⟨link, member, -⟩ := contained
      contradiction
  | term flag operand rest operandHypothesis restHypothesis
  | factor flag operand rest operandHypothesis restHypothesis =>
      exact List.mem_cons_of_mem _ (List.mem_append.mpr
        (((List.exists_mem_cons_iff _ _ _).mp contained).imp operandHypothesis restHypothesis))
  | base operand inductionHypothesis
  | unsigned operand inductionHypothesis => exact inductionHypothesis contained
  | raised operand exponent operandHypothesis exponentHypothesis =>
      exact List.mem_append.mpr ((Expr.mem_decimals_pair.mp contained).imp
        operandHypothesis fun inside => List.mem_cons_of_mem _ (exponentHypothesis inside))
  | negated operand inductionHypothesis
  | triangular operand inductionHypothesis
  | root operand inductionHypothesis =>
      exact List.mem_cons_of_mem _ (inductionHypothesis contained)
  | postfixed operand factorials inductionHypothesis =>
      have inside : Contains d operand := by
        change d ∈ (factorialTree factorials operand.meaning).decimals at contained
        rwa [decimals_factorialTree] at contained
      exact List.mem_append_left _ (inductionHypothesis inside)
  | group inner inductionHypothesis =>
      exact List.mem_cons_of_mem _ (List.mem_append_left _ (inductionHypothesis contained))
  | literal written => exact written.digits_mem_tokens contained
  | positive written => exact List.mem_cons_of_mem _ (written.digits_mem_tokens contained)

end Grammar

namespace Expr

/-- The decimal literals of a tree that is read have no more digits behind their points
than its text has in normal form. -/
theorem length_le_of_read
    {text : String}
    {x : Expr}
    (read : Expr.read text = .ok x) :
    ∀ d ∈ x.decimals, d.fraction.length ≤ (Token.fold text.toList).countP Char.isDigit := by
  intro d member
  obtain ⟨normal, normalized, parsed⟩ := bind_eq_ok_iff.mp read
  obtain ⟨tokens, cut, accepted⟩ := bind_eq_ok_iff.mp parsed
  have proper : AllProper tokens := Token.isProper_of_tokenize cut
  have derived := yields_ofTokens proper
  rw [accepted] at derived
  obtain ⟨sentence, rfl, rfl, -⟩ := derived
  rw [← (Token.normalize_eq_ok_iff.mp normalized).1]
  exact Token.length_le_of_digits_mem (Token.inAlphabet_of_normalize normalized) cut
    (Grammar.digits_mem_tokens sentence member)

end Expr
end FourFours
