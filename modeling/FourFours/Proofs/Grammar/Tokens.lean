import FourFours.Proofs.Grammar.Spelling

/-!
# Tokens and text are two forms of the same thing

A text in normal form is cut into tokens that spell it. Their runs of digits are proper and
never neighbours, and every token list of that kind is what its spelling is cut into. So
nothing is lost in either direction. The displayed form only adds blanks between tokens, which
the normal form drops again.
-/

namespace FourFours
namespace Token

theorem normalize_eq_ok_iff {text characters : List Char} :
    normalize text = .ok characters ↔
      characters = fold text ∧ ∀ c ∈ fold text, inAlphabet c = true := by
  rw [normalize]
  cases stray : (fold text).find? fun c => !inAlphabet c with
  | some c =>
      have outside := List.find?_some stray
      have member := List.mem_of_find?_eq_some stray
      simp only [reduceCtorEq, false_iff, not_and, not_forall]
      exact fun _ => ⟨c, member, by simpa using outside⟩
  | none =>
      rw [List.find?_eq_none] at stray
      simp only [Except.ok.injEq, eq_comm, iff_self_and]
      exact fun _ c member => by simpa using stray c member

/-- Texts side by side have their normal forms side by side. -/
theorem normalize_append
    {left right left' right' : List Char}
    (normalLeft : normalize left = .ok left')
    (normalRight : normalize right = .ok right') :
    normalize (left ++ right) = .ok (left' ++ right') := by
  rw [normalize_eq_ok_iff] at normalLeft normalRight ⊢
  obtain ⟨rfl, membersLeft⟩ := normalLeft
  obtain ⟨rfl, membersRight⟩ := normalRight
  have folded : fold (left ++ right) = fold left ++ fold right := by
    rw [fold, List.filter_append, List.flatMap_append]
    rfl
  exact ⟨folded.symm, folded ▸ List.forall_mem_append.mpr ⟨membersLeft, membersRight⟩⟩

theorem inAlphabet_of_normalize
    {text normal : List Char}
    (normalized : normalize text = .ok normal) :
    ∀ c ∈ normal, inAlphabet c = true := by
  obtain ⟨rfl, members⟩ := normalize_eq_ok_iff.mp normalized
  exact members

variable {c : Char} {token : Token} {tokens : List Token}

theorem consDigit_append
    (c : Char)
    (symbol : token.isRun = false)
    (tokens tokens' : List Token) :
    consDigit c (tokens ++ token :: tokens') = consDigit c tokens ++ token :: tokens' := by
  cases tokens with
  | nil => cases token <;> first | rfl | contradiction
  | cons first tokens => cases first <;> rfl

/-- A symbol cuts a text in two. -/
theorem tokenize_append_of_symbol
    {left right : List Char}
    {tokens' : List Token}
    (symbol : token.isRun = false)
    (cutLeft : tokenize left = .ok tokens)
    (cutRight : tokenize right = .ok tokens') :
    tokenize (left ++ (token.lexeme ++ right)) = .ok (tokens ++ token :: tokens') := by
  induction left generalizing tokens with
  | nil =>
      obtain ⟨c, lexeme, noDigit, found⟩ := exists_lexeme_of_isRun_eq_false symbol
      rw [tokenize, Except.ok.injEq] at cutLeft
      subst cutLeft
      rw [lexeme, List.nil_append, List.singleton_append, tokenize, if_neg (by simp [noDigit]),
        found, cutRight]
      rfl
  | cons c left inductionHypothesis =>
      rw [tokenize] at cutLeft
      rw [List.cons_append, tokenize]
      split at cutLeft
      · rename_i digit
        cases cut : tokenize left with
        | error fault => simp [cut, Except.map] at cutLeft
        | ok rest =>
            rw [cut, Except.map, Except.ok.injEq] at cutLeft
            rw [if_pos digit, inductionHypothesis cut, ← cutLeft,
              ← consDigit_append c symbol]
            rfl
      · rename_i noDigit
        rw [if_neg noDigit]
        cases found : ofChar? c with
        | none => simp [found] at cutLeft
        | some first =>
            rw [found] at cutLeft
            cases cut : tokenize left with
            | error fault => simp [cut, Except.map] at cutLeft
            | ok rest =>
                rw [cut] at cutLeft
                rw [inductionHypothesis cut, ← Except.ok.inj cutLeft]
                rfl

/-- A symbol is written with the character that it was read from. -/
theorem lexeme_of_ofChar? (found : ofChar? c = some token) :
    token.lexeme = [c] ∧ token.isRun = false := by
  have each : ∀ symbol ∈ symbols, symbol.2.lexeme = [symbol.1] ∧ symbol.2.isRun = false := by
    decide
  obtain ⟨before, behind, equal, -⟩ := List.lookup_eq_some_iff.mp found
  exact each (c, token) (by simp [equal])

theorem spell_cons (token : Token) (tokens : List Token) :
    spell (token :: tokens) = token.lexeme ++ spell tokens :=
  List.flatMap_cons

theorem spell_consDigit (c : Char) (tokens : List Token) :
    spell (consDigit c tokens) = c :: spell tokens := by
  cases tokens with
  | nil => rfl
  | cons token tokens => cases token <;> rfl

/-- A digit in front either joins the first run or stands before a symbol. -/
theorem isSeparated_consDigit (separated : IsSeparated tokens) :
    IsSeparated (consDigit c tokens) := by
  cases tokens with
  | nil => exact .singleton _
  | cons token tokens =>
      cases kind : token.isRun with
      | true =>
          cases token with
          | digits run =>
              obtain ⟨apart, behind⟩ := List.isChain_cons.mp separated
              exact List.isChain_cons.mpr ⟨apart, behind⟩
          | _ => contradiction
      | false =>
          have apart : consDigit c (token :: tokens) = [digits [c]] ++ token :: tokens :=
            consDigit_append c kind [] tokens
          rw [apart]
          exact .append (.singleton _) separated (by simpa using kind)

/-- A text over the alphabet is cut into separated tokens that spell it. -/
theorem exists_tokens {text : List Char} (members : ∀ c ∈ text, inAlphabet c = true) :
    ∃ tokens, tokenize text = .ok tokens ∧ spell tokens = text ∧ IsSeparated tokens := by
  induction text with
  | nil => exact ⟨[], rfl, rfl, .nil⟩
  | cons c text inductionHypothesis =>
      obtain ⟨member, membersBehind⟩ := List.forall_mem_cons.mp members
      obtain ⟨tokens, cut, spelled, separated⟩ := inductionHypothesis membersBehind
      rw [tokenize, cut]
      split
      · refine ⟨consDigit c tokens, rfl, ?_, isSeparated_consDigit separated⟩
        rw [spell_consDigit, spelled]
      · rename_i noDigit
        obtain ⟨symbol, found⟩ : ∃ symbol, ofChar? c = some symbol :=
          Option.isSome_iff_exists.mp (by simpa [inAlphabet, noDigit] using member)
        obtain ⟨lexeme, isSymbol⟩ := lexeme_of_ofChar? found
        refine ⟨symbol :: tokens, by rw [found]; rfl, ?_, separated.cons isSymbol⟩
        rw [spell_cons, lexeme, spelled, List.singleton_append]

/-- The blanks of a displayed token list are all that its normal form drops. -/
theorem normalize_display (proper : ∀ token ∈ tokens, token.IsProper) :
    normalize (display tokens) = .ok (spell tokens) := by
  have blank : normalize [' '] = .ok [] := by decide +kernel
  induction tokens with
  | nil => rfl
  | cons token tokens inductionHypothesis =>
      obtain ⟨properToken, properRest⟩ := List.forall_mem_cons.mp proper
      have normalToken : normalize token.lexeme = .ok token.lexeme :=
        normalize_of_inAlphabet fun c member => inAlphabet_of_mem_lexeme properToken member
      have normalRest := inductionHypothesis properRest
      cases tokens with
      | nil =>
          have alone : display [token] = token.lexeme := by simp [display]
          rw [alone, spell_cons, spell, List.flatMap_nil, List.append_nil]
          exact normalToken
      | cons next tokens =>
          have spaced : display (token :: next :: tokens) =
              token.lexeme ++ ([' '] ++ display (next :: tokens)) := by
            simp [display, List.intercalate]
          have normalBehind := normalize_append blank normalRest
          rw [spaced, spell_cons]
          exact normalize_append normalToken normalBehind

/-- Cutting a text and spelling its tokens undo each other. The normal form of every text is
cut into tokens that spell it, with proper runs of digits of which no two are neighbours; and
every token list of that kind is cut out of its spelling, and out of its displayed form once
that is brought into normal form. -/
theorem tokenize_inverts_spell :
    (∀ text normal, normalize text = .ok normal →
      ∃ tokens, tokenize normal = .ok tokens ∧ spell tokens = normal ∧
        (∀ token ∈ tokens, token.IsProper) ∧ IsSeparated tokens) ∧
    ∀ tokens, (∀ token ∈ tokens, token.IsProper) → IsSeparated tokens →
      tokenize (spell tokens) = .ok tokens ∧
        ∃ normal, normalize (display tokens) = .ok normal ∧ tokenize normal = .ok tokens := by
  refine ⟨fun text normal normalized => ?_, fun tokens proper separated => ?_⟩
  · obtain ⟨tokens, cut, spelled, separated⟩ :=
      exists_tokens (inAlphabet_of_normalize normalized)
    exact ⟨tokens, cut, spelled, isProper_of_tokenize cut, separated⟩
  · have cut := tokenize_spell proper separated
    exact ⟨cut, spell tokens, normalize_display proper, cut⟩

/-- A typographic sum with blanks in it, and the tokens that it is cut into. -/
theorem tokenize_inverts_spell_typographic :
    (normalize "√ 04×.(4) + s4!".toList = .ok "R04*.(4)+S4!".toList ∧
      ∃ tokens, tokenize "R04*.(4)+S4!".toList = .ok tokens ∧
        spell tokens = "R04*.(4)+S4!".toList ∧
        (∀ token ∈ tokens, token.IsProper) ∧ IsSeparated tokens) ∧
    tokenize (spell [.root, .digits ['0', '4'], .factorial]) =
      .ok [.root, .digits ['0', '4'], .factorial] ∧
    ∃ normal, normalize (display [.root, .digits ['0', '4'], .factorial]) = .ok normal ∧
      tokenize normal = .ok [.root, .digits ['0', '4'], .factorial] := by
  have normalized : normalize "√ 04×.(4) + s4!".toList = .ok "R04*.(4)+S4!".toList := by
    decide +kernel
  have proper : ∀ token ∈ [root, digits ['0', '4'], factorial], token.IsProper := by
    simp [IsProper]
  have separated : IsSeparated [root, digits ['0', '4'], factorial] := by
    simp [IsSeparated, isRun]
  exact ⟨⟨normalized, tokenize_inverts_spell.1 _ _ normalized⟩,
    tokenize_inverts_spell.2 _ proper separated⟩

end Token
end FourFours
