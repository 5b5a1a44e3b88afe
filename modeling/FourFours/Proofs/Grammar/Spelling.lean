import FourFours.Proofs.Grammar.Decision
import Mathlib.Data.List.Chain
import Mathlib.Tactic.IntervalCases

/-!
# Sentences are read from their spelling

The lexemes of a token list side by side are cut into the same tokens again, as long as no
two runs of digits are neighbours. The tokens of a derivation never are, so every sentence
that does not nest too deep is read back from its spelling.
-/

namespace FourFours

theorem Text.mem_of_isDigit {c : Char} (digit : c.isDigit = true) :
    c ∈ ['0', '1', '2', '3', '4', '5', '6', '7', '8', '9'] := by
  obtain ⟨lower, upper⟩ : 48 ≤ c.toNat ∧ c.toNat ≤ 57 := by
    simpa [Char.isDigit, UInt32.le_iff_toNat_le] using digit
  rw [← Char.ofNat_toNat c]
  interval_cases c.toNat <;> decide

namespace Token

/-- A character of the alphabet is no blank, and its plain upper case is itself. -/
theorem plain_of_inAlphabet {c : Char} (member : inAlphabet c = true) :
    Text.isWhiteSpace c = false ∧ Text.uppercase (plainSymbol c) = [c] := by
  -- as a test of a list, not of all characters with a hypothesis
  have plain (characters : List Char)
      (test : (characters.all fun c =>
        !Text.isWhiteSpace c && Text.uppercase (plainSymbol c) == [c]) = true) :
      ∀ c ∈ characters, Text.isWhiteSpace c = false ∧ Text.uppercase (plainSymbol c) = [c] := by
    simpa using test
  rw [inAlphabet, Bool.or_eq_true] at member
  rcases member with digit | symbol
  · exact plain _ (by decide) c (Text.mem_of_isDigit digit)
  · obtain ⟨token, found⟩ := Option.isSome_iff_exists.mp symbol
    obtain ⟨before, behind, equal, -⟩ := List.lookup_eq_some_iff.mp found
    exact plain (symbols.map Prod.fst) (by decide) c (by simp [equal])

/-- From a text over the alphabet only the blanks are dropped. -/
theorem fold_of_inAlphabet
    {text : List Char}
    (members : ∀ c ∈ text, Text.isWhiteSpace c = false → inAlphabet c = true) :
    fold text = text.filter fun c => !Text.isWhiteSpace c := by
  have plain : ∀ c ∈ text.filter fun c => !Text.isWhiteSpace c,
      Text.uppercase (plainSymbol c) = [c] := by
    intro c member
    obtain ⟨typed, visible⟩ := List.mem_filter.mp member
    exact (plain_of_inAlphabet (members c typed (by simpa using visible))).2
  calc
    fold text = (text.filter fun c => !Text.isWhiteSpace c).flatMap fun c => [c] :=
      List.flatMap_congr plain
    _ = text.filter fun c => !Text.isWhiteSpace c := List.flatMap_singleton' _

/-- A text over the alphabet is its own normal form. -/
theorem normalize_of_inAlphabet {text : List Char} (members : ∀ c ∈ text, inAlphabet c = true) :
    normalize text = .ok text := by
  have folded : fold text = text := by
    rw [fold_of_inAlphabet fun c member _ => members c member, List.filter_eq_self]
    intro c member
    simp [plain_of_inAlphabet (members c member)]
  have clean : text.find? (fun c => !inAlphabet c) = none := by
    rw [List.find?_eq_none]
    intro c member
    simp [members c member]
  rw [normalize, folded, clean]

/-- Whether a token is a run of digits. -/
def isRun : Token → Bool
  | digits _ => true
  | _ => false

/-- No two runs of digits are neighbours. -/
def IsSeparated (tokens : List Token) : Prop :=
  tokens.IsChain fun left right => ¬(left.isRun = true ∧ right.isRun = true)

/-- A symbol is written with its own character, which is no digit. -/
theorem exists_lexeme_of_isRun_eq_false {token : Token} (symbol : token.isRun = false) :
    ∃ c, token.lexeme = [c] ∧ c.isDigit = false ∧ ofChar? c = some token := by
  cases token with
  | digits run => contradiction
  | _ => exact ⟨_, rfl, rfl, rfl⟩

theorem inAlphabet_of_mem_lexeme
    {token : Token}
    (proper : token.IsProper)
    {c : Char}
    (member : c ∈ token.lexeme) :
    inAlphabet c = true := by
  cases kind : token.isRun with
  | true =>
      cases token with
      | digits run => simp [inAlphabet, List.all_eq_true.mp proper.2 c member]
      | _ => contradiction
  | false =>
      obtain ⟨symbol, lexeme, _, found⟩ := exists_lexeme_of_isRun_eq_false kind
      rw [lexeme, List.mem_singleton] at member
      simp [inAlphabet, member, found]

/-- A run of digits is cut off whole, unless more digits follow. -/
theorem tokenize_append_of_digits
    {run text : List Char}
    {tokens : List Token}
    (proper : (digits run).IsProper)
    (cut : tokenize text = .ok tokens)
    (apart : ∀ token ∈ tokens.head?, token.isRun = false) :
    tokenize (run ++ text) = .ok (.digits run :: tokens) := by
  obtain ⟨nonempty, allDigits⟩ := proper
  induction run with
  | nil => contradiction
  | cons c run inductionHypothesis =>
      obtain ⟨digit, restDigits⟩ := by simpa using allDigits
      rw [List.cons_append, tokenize, if_pos digit]
      cases run with
      | nil =>
          rw [List.nil_append, cut]
          cases tokens with
          | nil => rfl
          | cons token tokens =>
              have symbol := apart token rfl
              cases token with
              | digits run => exact absurd symbol (by simp [isRun])
              | _ => rfl
      | cons d run =>
          rw [inductionHypothesis (by simp) (by simpa using restDigits)]
          rfl

/-- The spelling of separated tokens is cut into those tokens. -/
theorem tokenize_spell
    {tokens : List Token}
    (proper : ∀ token ∈ tokens, token.IsProper)
    (separated : IsSeparated tokens) :
    tokenize (spell tokens) = .ok tokens := by
  induction tokens with
  | nil => rfl
  | cons token tokens inductionHypothesis =>
      obtain ⟨properToken, properRest⟩ := List.forall_mem_cons.mp proper
      obtain ⟨apart, separatedRest⟩ := List.isChain_cons.mp separated
      have cut := inductionHypothesis properRest separatedRest
      rw [spell, List.flatMap_cons, ← spell]
      cases kind : token.isRun with
      | true =>
          cases token with
          | digits run =>
              exact tokenize_append_of_digits properToken cut fun next member => by
                simpa [isRun] using apart next member
          | _ => contradiction
      | false =>
          obtain ⟨c, lexeme, symbol, found⟩ := exists_lexeme_of_isRun_eq_false kind
          rw [lexeme, List.singleton_append, tokenize, if_neg (by simp [symbol]), found, cut]
          rfl

/-- A spelling is in normal form. -/
theorem normalize_spell {tokens : List Token} (proper : ∀ token ∈ tokens, token.IsProper) :
    normalize (spell tokens) = .ok (spell tokens) := by
  apply normalize_of_inAlphabet
  intro c member
  obtain ⟨token, tokenMember, lexemeMember⟩ := List.mem_flatMap.mp member
  exact inAlphabet_of_mem_lexeme (proper token tokenMember) lexemeMember

variable {token : Token} {left right : List Token}

/-- A symbol in front keeps tokens apart. -/
theorem IsSeparated.cons (separated : IsSeparated right) (symbol : token.isRun = false) :
    IsSeparated (token :: right) :=
  List.isChain_cons.mpr ⟨fun _ _ both => by simp [symbol] at both, separated⟩

/-- Tokens behind which a symbol stands, or nothing at all, stay apart. -/
theorem IsSeparated.append
    (separatedLeft : IsSeparated left)
    (separatedRight : IsSeparated right)
    (symbol : ∀ token ∈ right.head?, token.isRun = false) :
    IsSeparated (left ++ right) := by
  refine List.isChain_append.mpr ⟨separatedLeft, separatedRight, fun _ _ token member both => ?_⟩
  rw [symbol token member] at both
  exact Bool.false_ne_true both.2

end Token

namespace Grammar

open Token (IsSeparated)

theorem Literal.isSeparated_tokens (literal : Literal) : IsSeparated literal.tokens := by
  have fraction (run : List Char) (repeating : Bool) :
      IsSeparated (.point :: fractionTokens run repeating) := by
    refine .cons ?_ rfl
    cases repeating with
    | false => exact .singleton _
    | true => exact .cons (.append (.singleton _) (.singleton _) (by simp [Token.isRun])) rfl
  match literal with
  | .integer run => exact .singleton _
  | .decimal none run repeating => exact fraction run repeating
  | .decimal (some whole) run repeating =>
      exact .append (.singleton (.digits whole)) (fraction run repeating) (by simp [Token.isRun])

theorem Derivation.isRun_head_terms (rest : Derivation .terms) :
    ∀ token ∈ rest.tokens.head?, token.isRun = false := by
  cases rest with
  | noTerms => simp [tokens]
  | term subtracted => cases subtracted <;> simp [tokens, termOperator, Token.isRun]

theorem Derivation.isRun_head_factors (rest : Derivation .factors) :
    ∀ token ∈ rest.tokens.head?, token.isRun = false := by
  cases rest with
  | noFactors => simp [tokens]
  | factor divides => cases divides <;> simp [tokens, factorOperator, Token.isRun]

/-- In the tokens of a derivation no two runs of digits are neighbours. -/
theorem Derivation.isSeparated_tokens {category : Category} (derivation : Derivation category) :
    IsSeparated derivation.tokens := by
  induction derivation with
  | sum first rest firstHypothesis restHypothesis =>
      exact firstHypothesis.append restHypothesis rest.isRun_head_terms
  | product first rest firstHypothesis restHypothesis =>
      exact firstHypothesis.append restHypothesis rest.isRun_head_factors
  | noTerms | noFactors => exact .nil
  | term subtracted operand rest operandHypothesis restHypothesis =>
      have behind := operandHypothesis.append restHypothesis rest.isRun_head_terms
      cases subtracted <;> exact behind.cons rfl
  | factor divides operand rest operandHypothesis restHypothesis =>
      have behind := operandHypothesis.append restHypothesis rest.isRun_head_factors
      cases divides <;> exact behind.cons rfl
  | base operand inductionHypothesis
  | unsigned operand inductionHypothesis => exact inductionHypothesis
  | raised operand exponent operandHypothesis exponentHypothesis =>
      exact operandHypothesis.append (.cons exponentHypothesis rfl) (by simp [Token.isRun])
  | negated operand inductionHypothesis
  | triangular operand inductionHypothesis
  | root operand inductionHypothesis => exact inductionHypothesis.cons rfl
  | postfixed operand factorials inductionHypothesis =>
      refine inductionHypothesis.append ?_ ?_
      · exact List.isChain_replicate_of_rel _ (by simp [Token.isRun])
      · cases factorials <;> simp [List.replicate_succ, Token.isRun]
  | group inner inductionHypothesis =>
      exact .cons (inductionHypothesis.append (.singleton _) (by simp [Token.isRun])) rfl
  | literal written => exact written.isSeparated_tokens
  | positive written => exact .cons written.isSeparated_tokens rfl

end Grammar

namespace Expr

open Grammar

/-- A sentence that does not nest too deep is read from its spelling as its tree. -/
theorem read_spell
    {sentence : Sentence}
    (proper : AllProper sentence.tokens)
    (within : sentence.nesting ≤ 256) :
    read (String.ofList (Token.spell sentence.tokens)) = .ok sentence.meaning := by
  apply read_of_tokenize _ (Token.tokenize_spell proper sentence.isSeparated_tokens) within
  rw [String.toList_ofList]
  exact Token.normalize_spell proper

end Expr
end FourFours
