import FourFours.Proofs.Grammar.Complete

/-!
# The reader reads nothing but derivations

What a reader returns stands for a derivation of its category that spells the tokens it
consumed and nests within the levels that were left. On tokens whose runs of digits are
proper a reader fails with a syntax fault only.
-/

namespace FourFours
namespace Expr

open Grammar

/-- A reading fails with a syntax fault, or its result has a property. -/
def Yields {α : Type} (property : α → Prop) : Except Fault α → Prop
  | .ok a => property a
  | .error fault => ∃ cause, fault = .inSyntax cause

theorem yields_refuse {α : Type} (property : α → Prop) (cause : SyntaxFault) :
    Yields property (refuse cause) :=
  ⟨cause, rfl⟩

/-- Readings in a row: the second may rely on what the first yields. -/
theorem Yields.bind
    {α β : Type}
    {property : α → Prop}
    {property' : β → Prop}
    {reading : Except Fault α}
    {next : α → Except Fault β}
    (yields : Yields property reading)
    (continued : ∀ a, property a → Yields property' (next a)) :
    Yields property' (reading >>= next) := by
  cases reading with
  | error fault => exact yields
  | ok a => exact continued a yields

theorem Yields.mono
    {α : Type}
    {property property' : α → Prop}
    {reading : Except Fault α}
    (yields : Yields property reading)
    (implies : ∀ a, property a → property' a) :
    Yields property' reading := by
  cases reading with
  | error fault => exact yields
  | ok a => exact implies a yields

theorem yields_requireOperand (cause : SyntaxFault) (tokens : List Token) :
    Yields (fun _ => True) (requireOperand cause tokens) := by
  cases tokens with
  | nil => exact yields_refuse _ _
  | cons token rest =>
      rw [requireOperand]
      split
      · trivial
      · exact yields_refuse _ _

/-- All runs of digits in a token list are proper. -/
def AllProper (tokens : List Token) : Prop :=
  ∀ token ∈ tokens, token.IsProper

/-- The result of a reading stands for a derivation of the tokens that it consumed, within
the levels left. -/
def IsDerived
    (category : Category)
    (levels : Nat)
    (tokens : List Token)
    (result : category.Meaning × List Token) : Prop :=
  ∃ derivation : Derivation category, derivation.tokens ++ result.2 = tokens ∧
    derivation.meaning = result.1 ∧ derivation.nesting ≤ levels

theorem AllProper.tail {token : Token} {tokens : List Token}
    (proper : AllProper (token :: tokens)) :
    AllProper tokens :=
  fun token member => proper token (List.mem_cons_of_mem _ member)

theorem IsDerived.allProper
    {category : Category}
    {levels : Nat}
    {tokens : List Token}
    {result : category.Meaning × List Token}
    (derived : IsDerived category levels tokens result)
    (proper : AllProper tokens) :
    AllProper result.2 := by
  obtain ⟨derivation, rfl, -, -⟩ := derived
  exact fun token member => proper token (List.mem_append_right _ member)

theorem yields_readInteger {run : List Char} (proper : (Token.digits run).IsProper) :
    Yields (fun n => n = Literal.number run) (readInteger run) := by
  rw [readInteger_eq proper]
  rfl

/-- The result of reading a literal. -/
def IsLiteral (tokens : List Token) (result : Expr × List Token) : Prop :=
  ∃ literal : Literal, literal.tokens ++ result.2 = tokens ∧ literal.tree = result.1

/-- The digits behind a point complete the literal that begins before it. -/
theorem yields_readFraction
    (written : List Token)
    (whole : Option (List Char))
    (tokens : List Token) :
    Yields (fun result => ∃ fraction repeating,
        Literal.fractionTokens fraction repeating ++ result.2 = tokens ∧
          (Literal.decimal whole fraction repeating).tree = result.1)
      (readFraction written (whole.map Literal.number) tokens) := by
  unfold readFraction
  split
  · exact ⟨_, false, rfl, rfl⟩
  · exact ⟨_, true, rfl, rfl⟩
  · exact yields_refuse _ _

theorem yields_readLiteral {tokens : List Token} (proper : AllProper tokens) :
    Yields (IsLiteral tokens) (readLiteral tokens) := by
  unfold readLiteral
  split
  · rename_i run rest
    apply (yields_readInteger (proper (.digits run) (by simp))).bind
    rintro _ rfl
    apply (yields_readFraction _ (some run) rest).mono
    rintro ⟨x, rest'⟩ ⟨fraction, repeating, rfl, equal⟩
    exact ⟨.decimal (some run) fraction repeating, rfl, equal⟩
  · rename_i run rest noPoint
    apply (yields_readInteger (proper (.digits run) (by simp))).bind
    rintro _ rfl
    exact ⟨.integer run, rfl, rfl⟩
  · rename_i rest
    apply (yields_readFraction _ none rest).mono
    rintro ⟨x, rest'⟩ ⟨fraction, repeating, rfl, equal⟩
    exact ⟨.decimal none fraction repeating, rfl, equal⟩
  · exact yields_refuse _ _

/-- The readers of a tier are sound: they yield derivations within the levels left. -/
structure IsSoundTier (levels : Nat) : Prop where
  sum : ∀ {atStart : Bool} {tokens : List Token}, AllProper tokens →
    Yields (IsDerived (.sum atStart) levels tokens)
      (readSum levels (lowerTier levels) atStart tokens)
  power : ∀ {atStart : Bool} {tokens : List Token}, AllProper tokens →
    Yields (IsDerived (.power atStart) levels tokens)
      (readPower levels (lowerTier levels) atStart tokens)
  signed : ∀ {atStart : Bool} {tokens : List Token}, AllProper tokens →
    Yields (IsDerived (.signed atStart) levels tokens)
      (readSigned levels (lowerTier levels) atStart tokens)

/-- The result of reading one level deeper. -/
theorem yields_deeper
    {levels : Nat}
    {select : Tier → Reader}
    {atStart : Bool}
    {tokens : List Token}
    {property : Nat → Expr × List Token → Prop}
    (below : ∀ left < levels, Yields (property left) (select (tier left) atStart tokens)) :
    Yields (fun result => ∃ left < levels, property left result)
      (deeper (lowerTier levels) select atStart tokens) := by
  cases levels with
  | zero => exact yields_refuse _ _
  | succ levels =>
      exact (below levels levels.lt_succ_self).mono fun _ holds =>
        ⟨levels, levels.lt_succ_self, holds⟩

section Operands

variable
  {levels : Nat}
  (below : ∀ left < levels, IsSoundTier left)
  {atStart : Bool}
  {tokens : List Token}
  (proper : AllProper tokens)

include below proper

theorem yields_readGroup :
    Yields (fun result => ∃ inner : Sentence,
        inner.tokens ++ .closing :: result.2 = tokens ∧ inner.meaning = result.1 ∧
          inner.nesting < levels)
      (readGroup (lowerTier levels) tokens) := by
  unfold readGroup
  split
  · exact yields_refuse _ _
  · have reading : Yields (fun result => ∃ left < levels,
        IsDerived (.sum true) left tokens result)
        (deeper (lowerTier levels) Tier.sum true tokens) :=
      yields_deeper fun left lt => by
        rw [tier_eq]
        exact (below left lt).sum proper
    apply reading.bind
    rintro ⟨x, rest⟩ ⟨left, lt, inner, spelled, meaning, nesting⟩
    split
    · rename_i equal
      obtain ⟨rfl, rfl⟩ := Prod.mk.inj equal
      exact ⟨inner, spelled, meaning, Nat.lt_of_le_of_lt nesting lt⟩
    · exact yields_refuse _ _
    · exact yields_refuse _ _

theorem yields_readAtom :
    Yields (IsDerived (.atom atStart) levels tokens)
      (readAtom (lowerTier levels) atStart tokens) := by
  have literal {atStart : Bool} {tokens : List Token} (proper : AllProper tokens) :
      Yields (IsDerived (.atom atStart) levels tokens) (readLiteral tokens) := by
    apply (yields_readLiteral proper).mono
    rintro ⟨x, rest⟩ ⟨written, spelled, meaning⟩
    exact ⟨.literal written, spelled, meaning, Nat.zero_le _⟩
  have positive {tokens : List Token} (proper : AllProper (.plus :: tokens)) :
      Yields (IsDerived (.atom true) levels (.plus :: tokens)) (readLiteral tokens) := by
    apply (yields_readLiteral proper.tail).mono
    rintro ⟨x, rest⟩ ⟨written, rfl, meaning⟩
    exact ⟨.positive written, rfl, meaning, Nat.zero_le _⟩
  unfold readAtom
  split
  · exact yields_refuse _ _
  · apply (yields_readGroup below proper.tail).mono
    rintro ⟨x, rest⟩ ⟨inner, rfl, meaning, nesting⟩
    exact ⟨.group inner, by simp [Derivation.tokens], meaning, nesting⟩
  · exact literal proper
  · exact literal proper
  · exact positive proper
  · exact positive proper
  all_goals exact yields_refuse _ _

omit below proper in
/-- The factorials that are read are those in front, as many as levels are left. -/
theorem yields_readFactorials (x : Expr) :
    Yields (fun result => ∃ count ≤ levels,
        List.replicate count .factorial ++ result.2 = tokens ∧
          factorialTree count x = result.1)
      (readFactorials levels x tokens) := by
  fun_induction readFactorials levels x tokens with
  | case1 => exact yields_refuse _ _
  | case2 levels x rest inductionHypothesis =>
      apply inductionHypothesis.mono
      rintro ⟨y, rest'⟩ ⟨count, within, rfl, tree⟩
      exact ⟨count + 1, Nat.succ_le_succ within, rfl, tree⟩
  | case3 levels x rest => exact ⟨0, Nat.zero_le _, rfl, rfl⟩

theorem yields_readPostfixed :
    Yields (IsDerived (.postfixed atStart) levels tokens)
      (readPostfixed levels (lowerTier levels) atStart tokens) := by
  apply (yields_readAtom below proper).bind
  rintro ⟨x, rest⟩ ⟨operand, rfl, rfl, nesting⟩
  apply (yields_readFactorials operand.meaning).mono
  rintro ⟨y, rest'⟩ ⟨count, within, rfl, tree⟩
  exact ⟨.postfixed operand count, by simp [Derivation.tokens], tree,
    Nat.max_le.mpr ⟨nesting, within⟩⟩

/-- An operand with a sign in front of it is derived by the rule for that sign. -/
theorem yields_sign
    {sign : Token}
    {op : Unary}
    (cause : SyntaxFault)
    (rule : Derivation (.signed false) → Derivation (.signed atStart))
    (rule_tokens : ∀ operand, (rule operand).tokens = sign :: operand.tokens)
    (rule_meaning : ∀ operand, (rule operand).meaning = .unary op operand.meaning)
    (rule_nesting : ∀ operand, (rule operand).nesting = operand.nesting + 1) :
    Yields (IsDerived (.signed atStart) levels (sign :: tokens))
      (requireOperand cause tokens >>= fun _ =>
        deeper (lowerTier levels) Tier.signed false tokens >>= fun (x, rest) =>
          pure (.unary op x, rest)) := by
  apply (yields_requireOperand cause tokens).bind
  intro _ _
  have reading : Yields (fun result => ∃ left < levels,
      IsDerived (.signed false) left tokens result)
      (deeper (lowerTier levels) Tier.signed false tokens) :=
    yields_deeper fun left lt => by
      rw [tier_eq]
      exact (below left lt).signed proper
  apply reading.bind
  rintro ⟨x, rest⟩ ⟨left, lt, operand, rfl, rfl, nesting⟩
  refine ⟨rule operand, ?_, rule_meaning operand, ?_⟩
  · rw [rule_tokens, List.cons_append]
  · rw [rule_nesting]
    exact Nat.lt_of_le_of_lt nesting lt

theorem yields_readSigned :
    Yields (IsDerived (.signed atStart) levels tokens)
      (readSigned levels (lowerTier levels) atStart tokens) := by
  unfold readSigned
  split
  · exact yields_sign below proper.tail _ .negated (fun _ => rfl) (fun _ => rfl) fun _ => rfl
  · exact yields_sign below proper.tail _ .triangular (fun _ => rfl) (fun _ => rfl)
      fun _ => rfl
  · exact yields_sign below proper.tail _ .root (fun _ => rfl) (fun _ => rfl) fun _ => rfl
  · apply (yields_readPostfixed below proper).mono
    rintro ⟨x, rest⟩ ⟨operand, spelled, meaning, nesting⟩
    exact ⟨.unsigned operand, spelled, meaning, nesting⟩

theorem yields_readPower :
    Yields (IsDerived (.power atStart) levels tokens)
      (readPower levels (lowerTier levels) atStart tokens) := by
  apply (yields_readSigned below proper).bind
  rintro ⟨base, rest⟩ derived
  have properRest := derived.allProper proper
  obtain ⟨operand, rfl, rfl, nesting⟩ := derived
  split
  · rename_i x rest equal
    obtain ⟨rfl, rfl⟩ := Prod.mk.inj equal
    apply (yields_requireOperand _ _).bind
    intro _ _
    have reading : Yields (fun result => ∃ left < levels,
        IsDerived (.power false) left rest result)
        (deeper (lowerTier levels) Tier.power false rest) :=
      yields_deeper fun left lt => by
        rw [tier_eq]
        exact (below left lt).power properRest.tail
    apply reading.bind
    rintro ⟨y, rest'⟩ ⟨left, lt, exponent, rfl, rfl, nestingExponent⟩
    exact ⟨.raised operand exponent, by simp [Derivation.tokens], rfl,
      Nat.max_le.mpr ⟨nesting, Nat.lt_of_le_of_lt nestingExponent lt⟩⟩
  · exact ⟨.base operand, rfl, rfl, nesting⟩

end Operands

/-- The links of a chain are derived, if the empty chain is and every operand that is read
extends a derived chain. -/
theorem yields_readLinks
    {isLink : Token → Bool}
    {operator : Bool → Token}
    {reader : Reader}
    (operandDerived : List Token → Expr × List Token → Prop)
    (linksDerived : List Token → List (Bool × Expr) × List Token → Prop)
    (exists_flag : ∀ token, isLink token = true → ∃ flag, operator flag = token)
    (operand : ∀ tokens, AllProper tokens →
      Yields (fun result => operandDerived tokens result ∧ AllProper result.2)
        (reader false tokens))
    (nil : ∀ tokens, linksDerived tokens ([], tokens))
    (cons : ∀ flag tokens x rest links rest', operandDerived tokens (x, rest) →
      linksDerived rest (links, rest') →
        linksDerived (operator flag :: tokens) ((flag, x) :: links, rest'))
    {tokens : List Token}
    (proper : AllProper tokens)
    (count : Nat) :
    Yields (fun result => ∃ links, linksDerived tokens (links, result.2) ∧
        result.1 = links.map fun (flag, x) => (operator flag, x))
      (readLinks isLink reader count tokens) := by
  induction count generalizing tokens with
  | zero => exact ⟨[], nil tokens, rfl⟩
  | succ count inductionHypothesis =>
      cases tokens with
      | nil => exact ⟨[], nil [], rfl⟩
      | cons token rest =>
          rw [readLinks]
          split
          · rename_i link
            obtain ⟨flag, rfl⟩ := exists_flag token link
            apply (yields_requireOperand _ _).bind
            intro _ _
            apply (operand rest proper.tail).bind
            rintro ⟨x, rest'⟩ ⟨derived, properRest⟩
            apply (inductionHypothesis properRest).bind
            rintro ⟨_, rest''⟩ ⟨links, derivedLinks, rfl⟩
            exact ⟨(flag, x) :: links, cons flag rest x rest' links rest'' derived derivedLinks,
              rfl⟩
          · exact ⟨[], nil _, rfl⟩

section Chains

variable
  {levels : Nat}
  (below : ∀ left < levels, IsSoundTier left)
  {atStart : Bool}
  {tokens : List Token}
  (proper : AllProper tokens)

include below proper

/-- The factors behind the first one are derived. -/
theorem yields_factors :
    Yields (fun result => ∃ links, IsDerived .factors levels tokens (links, result.2) ∧
        result.1 = links.map fun (divides, x) => (factorOperator divides, x))
      (readLinks isFactorLink (readPower levels (lowerTier levels)) tokens.length tokens) := by
  apply yields_readLinks (IsDerived (.power false) levels) (IsDerived .factors levels)
  case exists_flag =>
    intro token link
    simp only [isFactorLink, Bool.or_eq_true, beq_iff_eq] at link
    rcases link with rfl | rfl
    · exact ⟨false, rfl⟩
    · exact ⟨true, rfl⟩
  case operand =>
    intro tokens proper
    apply (yields_readPower below proper).mono
    exact fun result derived => ⟨derived, derived.allProper proper⟩
  case nil => exact fun tokens => ⟨.noFactors, rfl, rfl, Nat.zero_le _⟩
  case cons =>
    rintro divides tokens x rest links rest' ⟨operand, rfl, rfl, nesting⟩
      ⟨factors, rfl, rfl, nesting'⟩
    exact ⟨.factor divides operand factors, by simp [Derivation.tokens], rfl,
      Nat.max_le.mpr ⟨nesting, nesting'⟩⟩
  case proper => exact proper

theorem yields_readProduct :
    Yields (IsDerived (.product atStart) levels tokens)
      (readProduct levels (lowerTier levels) atStart tokens) := by
  apply (yields_readPower below proper).bind
  rintro ⟨x, rest⟩ derived
  have properRest := derived.allProper proper
  obtain ⟨first, rfl, rfl, nesting⟩ := derived
  apply (yields_factors below properRest).bind
  rintro ⟨_, rest'⟩ ⟨links, ⟨factors, rfl, rfl, nesting'⟩, rfl⟩
  exact ⟨.product first factors, by simp [Derivation.tokens],
    (ofFactors_eq_productTree _ _).symm, Nat.max_le.mpr ⟨nesting, nesting'⟩⟩

/-- The terms behind the first one are derived. -/
theorem yields_terms :
    Yields (fun result => ∃ links, IsDerived .terms levels tokens (links, result.2) ∧
        result.1 = links.map fun (subtracted, x) => (termOperator subtracted, x))
      (readLinks isTermLink (readProduct levels (lowerTier levels)) tokens.length tokens) := by
  apply yields_readLinks (IsDerived (.product false) levels) (IsDerived .terms levels)
  case exists_flag =>
    intro token link
    simp only [isTermLink, Bool.or_eq_true, beq_iff_eq] at link
    rcases link with rfl | rfl
    · exact ⟨false, rfl⟩
    · exact ⟨true, rfl⟩
  case operand =>
    intro tokens proper
    apply (yields_readProduct below proper).mono
    exact fun result derived => ⟨derived, derived.allProper proper⟩
  case nil => exact fun tokens => ⟨.noTerms, rfl, rfl, Nat.zero_le _⟩
  case cons =>
    rintro subtracted tokens x rest links rest' ⟨operand, rfl, rfl, nesting⟩
      ⟨terms, rfl, rfl, nesting'⟩
    exact ⟨.term subtracted operand terms, by simp [Derivation.tokens], rfl,
      Nat.max_le.mpr ⟨nesting, nesting'⟩⟩
  case proper => exact proper

theorem yields_readSum :
    Yields (IsDerived (.sum atStart) levels tokens)
      (readSum levels (lowerTier levels) atStart tokens) := by
  apply (yields_readProduct below proper).bind
  rintro ⟨x, rest⟩ derived
  have properRest := derived.allProper proper
  obtain ⟨first, rfl, rfl, nesting⟩ := derived
  apply (yields_terms below properRest).bind
  rintro ⟨_, rest'⟩ ⟨links, ⟨terms, rfl, rfl, nesting'⟩, rfl⟩
  exact ⟨.sum first terms, by simp [Derivation.tokens],
    (ofTerms_eq_sumTree _ _).symm, Nat.max_le.mpr ⟨nesting, nesting'⟩⟩

end Chains

/-- At every level the readers yield derivations. -/
theorem isSoundTier (levels : Nat) : IsSoundTier levels := by
  induction levels using Nat.strongRecOn with
  | ind levels below =>
      exact ⟨yields_readSum below, yields_readPower below, yields_readSigned below⟩

end Expr
end FourFours
