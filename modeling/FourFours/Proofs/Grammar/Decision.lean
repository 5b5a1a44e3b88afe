import FourFours.Calculator
import FourFours.Proofs.Grammar.Sound

/-!
# The reader decides the grammar

A token list of some text is read to an expression exactly if a derivation that nests at
most 256 deep spells it and stands for that expression. The derivation of a token list is
unique; where it nests deeper the list is refused for its depth, and where there is none
the list is refused with a syntax fault.
-/

namespace FourFours

namespace Token

theorem isProper_of_ofChar? {c : Char} {token : Token} (found : ofChar? c = some token) :
    token.IsProper := by
  have symbolsProper : ∀ symbol ∈ symbols, symbol.2.IsProper := by
    simp [symbols, IsProper]
  obtain ⟨before, behind, equal, -⟩ := List.lookup_eq_some_iff.mp found
  exact symbolsProper (c, token) (by simp [equal])

/-- A digit in front of a proper token list leaves it proper. -/
theorem isProper_consDigit
    {c : Char}
    (digit : c.isDigit = true)
    {tokens : List Token}
    (proper : ∀ token ∈ tokens, token.IsProper) :
    ∀ token ∈ consDigit c tokens, token.IsProper := by
  have single : (digits [c]).IsProper := by simp [IsProper, digit]
  cases tokens with
  | nil => simpa [consDigit] using single
  | cons head rest =>
      cases head with
      | digits run =>
          obtain ⟨-, allDigits⟩ := proper (.digits run) List.mem_cons_self
          rw [consDigit, List.forall_mem_cons]
          refine ⟨?_, fun token member => proper token (List.mem_cons_of_mem _ member)⟩
          simp [IsProper, digit, allDigits]
      | _ => exact List.forall_mem_cons.mpr ⟨single, proper⟩

/-- The runs of digits of a text are proper. -/
theorem isProper_of_tokenize
    {text : List Char}
    {tokens : List Token}
    (cut : tokenize text = .ok tokens) :
    ∀ token ∈ tokens, token.IsProper := by
  induction text generalizing tokens with
  | nil =>
      cases cut
      simp
  | cons c rest inductionHypothesis =>
      rw [tokenize] at cut
      cases restCut : tokenize rest with
      | error fault =>
          rw [restCut] at cut
          split at cut
          · cases cut
          · split at cut <;> cases cut
      | ok restTokens =>
          have properRest := inductionHypothesis restCut
          rw [restCut] at cut
          split at cut
          · rename_i digit
            cases cut
            exact isProper_consDigit digit properRest
          · split at cut
            · rename_i symbol found
              cases cut
              exact List.forall_mem_cons.mpr ⟨isProper_of_ofChar? found, properRest⟩
            · cases cut

end Token

namespace Expr

open Grammar

theorem balanced_literal (written : Literal) (nesting : Nat) (rest : List Token) :
    balanced nesting (written.tokens ++ rest) = balanced nesting rest := by
  match written with
  | .integer run => rfl
  | .decimal none fraction repeating => cases repeating <;> rfl
  | .decimal (some whole) fraction repeating => cases repeating <;> rfl

theorem balanced_factorials (count nesting : Nat) (rest : List Token) :
    balanced nesting (.replicate count .factorial ++ rest) = balanced nesting rest := by
  induction count with
  | zero => rfl
  | succ count inductionHypothesis =>
      rw [List.replicate_succ, List.cons_append, ← inductionHypothesis]
      rfl

/-- The brackets of a derivation pair up within it. -/
theorem balanced_tokens
    {category : Category}
    (derivation : Derivation category)
    (nesting : Nat)
    (rest : List Token) :
    balanced nesting (derivation.tokens ++ rest) = balanced nesting rest := by
  induction derivation generalizing nesting rest with
  | sum first links firstHypothesis linksHypothesis
  | product first links firstHypothesis linksHypothesis =>
      rw [Derivation.tokens, List.append_assoc, firstHypothesis, linksHypothesis]
  | noTerms | noFactors => rfl
  | term flag operand links operandHypothesis linksHypothesis
  | factor flag operand links operandHypothesis linksHypothesis =>
      rw [Derivation.tokens, List.cons_append, List.append_assoc]
      cases flag <;> exact (operandHypothesis nesting _).trans (linksHypothesis nesting rest)
  | base operand inductionHypothesis
  | unsigned operand inductionHypothesis => exact inductionHypothesis nesting rest
  | raised operand exponent operandHypothesis exponentHypothesis =>
      rw [Derivation.tokens, List.append_assoc, operandHypothesis]
      exact exponentHypothesis nesting rest
  | negated operand inductionHypothesis
  | triangular operand inductionHypothesis
  | root operand inductionHypothesis => exact inductionHypothesis nesting rest
  | postfixed operand factorials inductionHypothesis =>
      rw [Derivation.tokens, List.append_assoc, inductionHypothesis, balanced_factorials]
  | group inner inductionHypothesis =>
      rw [Derivation.tokens, List.cons_append, List.append_assoc]
      exact inductionHypothesis (nesting + 1) _
  | literal written => exact balanced_literal written nesting rest
  | positive written => exact balanced_literal written nesting rest

theorem tokens_sentence_ne_nil (sentence : Sentence) : sentence.tokens ≠ [] := by
  obtain ⟨token, rest, equal, -⟩ := sentence.exists_head_sum
  simp [equal]

/-- A sentence is read if it nests at most as deep as the limit, and is too deep otherwise. -/
theorem ofTokens_tokens (sentence : Sentence) (proper : AllProper sentence.tokens) :
    ofTokens sentence.tokens =
      resultWithin depthLimit sentence.nesting sentence.meaning := by
  have closed : balanced 0 sentence.tokens = true := by
    have paired := balanced_tokens sentence 0 []
    rwa [List.append_nil] at paired
  have read : (tier depthLimit).sum true sentence.tokens =
      resultWithin depthLimit sentence.nesting (sentence.meaning, []) := by
    have whole := reads depthLimit sentence proper [] (ends_nil _)
    rwa [List.append_nil] at whole
  rw [ofTokens, if_neg (by simp [tokens_sentence_ne_nil]), if_neg (by simp [closed]), read]
  exact resultWithin_bind_ok rfl

/-- What is read from a whole token list is the meaning of a sentence that spells it. -/
theorem yields_ofTokens {tokens : List Token} (proper : AllProper tokens) :
    Yields (fun x => ∃ sentence : Sentence, sentence.tokens = tokens ∧
        sentence.meaning = x ∧ sentence.nesting ≤ depthLimit)
      (ofTokens tokens) := by
  rw [ofTokens]
  split
  · exact yields_refuse _ _
  split
  · exact yields_refuse _ _
  have reading : Yields (IsDerived (.sum true) depthLimit tokens)
      ((tier depthLimit).sum true tokens) := by
    rw [tier_eq]
    exact (isSoundTier depthLimit).sum proper
  apply reading.bind
  rintro ⟨x, rest⟩ ⟨sentence, spelled, meaning, nesting⟩
  split
  · rename_i equal
    obtain ⟨rfl, rfl⟩ := Prod.mk.inj equal
    rw [List.append_nil] at spelled
    exact ⟨sentence, spelled, meaning, nesting⟩
  · exact yields_refuse _ _

/-- The reader accepts exactly the sentences that nest at most 256 deep, each with the tree
that it stands for. No two sentences spell the same tokens; one that nests deeper is refused
as too deep, and what no sentence spells is refused with a syntax fault. -/
theorem ofTokens_decides_grammar
    {text : List Char}
    {tokens : List Token}
    (cut : Token.tokenize text = .ok tokens) :
    (∀ x, ofTokens tokens = .ok x ↔
      ∃ sentence : Sentence, sentence.tokens = tokens ∧ sentence.meaning = x ∧
        sentence.nesting ≤ 256) ∧
    (∀ sentence sentence' : Sentence, sentence.tokens = tokens → sentence'.tokens = tokens →
      sentence = sentence') ∧
    (∀ sentence : Sentence, sentence.tokens = tokens → 256 < sentence.nesting →
      ofTokens tokens = .error (.inSyntax .tooDeep) ∧
        SyntaxFault.tooDeep.message = "expression is too deeply nested") ∧
    ((∀ sentence : Sentence, sentence.tokens ≠ tokens) →
      ∃ cause, ofTokens tokens = .error (.inSyntax cause)) := by
  have proper : AllProper tokens := Token.isProper_of_tokenize cut
  have sound := yields_ofTokens proper
  refine ⟨fun x => ⟨fun read => ?_, ?_⟩, ?_, ?_, fun underivable => ?_⟩
  · rwa [read] at sound
  · rintro ⟨sentence, rfl, rfl, within⟩
    rw [ofTokens_tokens sentence proper]
    exact if_pos within
  · rintro sentence sentence' spelled spelled'
    exact (sentence.unique sentence' (ends_nil _) (ends_nil _)
      (congrArg (· ++ []) (spelled.trans spelled'.symm))).1
  · rintro sentence rfl deep
    rw [ofTokens_tokens sentence proper]
    exact ⟨if_neg (Nat.not_le.mpr deep), rfl⟩
  · cases read : ofTokens tokens with
    | ok x =>
        rw [read] at sound
        obtain ⟨sentence, spelled, -⟩ := sound
        exact absurd spelled (underivable sentence)
    | error fault =>
        rw [read] at sound
        obtain ⟨cause, rfl⟩ := sound
        exact ⟨cause, rfl⟩

/-- The sentence of a negated root of a factorial. -/
def negatedRoot : Sentence :=
  .sum
    (.product
      (.base (.negated (.root (.unsigned (.postfixed (.literal (.integer ['4'])) 1)))))
      .noFactors)
    .noTerms

theorem ofTokens_negatedRoot :
    Token.tokenize ['-', 'R', '4', '!'] = .ok negatedRoot.tokens ∧
      ofTokens negatedRoot.tokens =
        .ok (.unary .negate (.unary .root (.unary .factorial (.integer 4)))) :=
  have cut : Token.tokenize ['-', 'R', '4', '!'] = .ok negatedRoot.tokens := rfl
  ⟨cut, ((ofTokens_decides_grammar cut).1 _).mpr ⟨negatedRoot, rfl, rfl, by decide⟩⟩

/-- A typed text that spells a sentence without nesting too deep is read as its tree. -/
theorem read_of_tokenize
    {text : String}
    {characters : List Char}
    {sentence : Sentence}
    (normal : Token.normalize text.toList = .ok characters)
    (cut : Token.tokenize characters = .ok sentence.tokens)
    (within : sentence.nesting ≤ 256) :
    read text = .ok sentence.meaning := by
  have accepted : ofTokens sentence.tokens = .ok sentence.meaning := by
    rw [ofTokens_tokens sentence (Token.isProper_of_tokenize cut)]
    exact if_pos within
  rw [read, normal]
  simp only [bind, Except.bind, parse, cut, accepted]

end Expr

/-- The evaluation of a text whose tree has a value ends with the reading of that value. -/
theorem Calculator.evaluate_of_value
    {settings : Settings}
    {text : String}
    {x : Expr}
    {v : Radical.Value}
    (read : Expr.read text = .ok x)
    (valued : x.value settings = .ok v) :
    evaluate settings text = Reading.ofValue settings v := by
  simp only [evaluate, read, bind, Except.bind, Expr.reading, valued]

end FourFours
