import FourFours.Expr.Parser
import FourFours.Proofs.Grammar.Unambiguous

/-!
# The reader reads every derivation

With a number of levels left, each reader reads the tokens of a derivation of its category,
whatever follows that does not continue the phrase: it returns what the derivation stands
for if the derivation nests at most that deep, and finds it too deep otherwise.
-/

namespace FourFours

/-- A run of digits is not empty and holds nothing but digits. -/
def Token.IsProper : Token → Prop
  | .digits run => run ≠ [] ∧ run.all Char.isDigit = true
  | _ => True

namespace Expr

open Grammar

/-- The readers one level deeper, if a level is left. -/
def lowerTier : Nat → Option Tier
  | 0 => none
  | levels + 1 => some (tier levels)

theorem tier_eq (levels : Nat) :
    tier levels = ⟨readSum levels (lowerTier levels), readPower levels (lowerTier levels),
      readSigned levels (lowerTier levels)⟩ := by
  cases levels <;> rfl

/-- The result of reading what nests to some depth when a number of levels is left. -/
def resultWithin {α : Type} (levels nesting : Nat) (result : α) : Except Fault α :=
  if nesting ≤ levels then .ok result else refuse .tooDeep

theorem resultWithin_zero {α : Type} (levels : Nat) (result : α) :
    resultWithin levels 0 result = .ok result := by
  simp [resultWithin]

/-- Two readings in a row nest as deep as the deeper one. -/
theorem resultWithin_bind
    {α β : Type}
    {levels nesting nesting' : Nat}
    {first : α}
    {next : α → Except Fault β}
    {result : β}
    (continued : next first = resultWithin levels nesting' result) :
    (resultWithin levels nesting first >>= next) =
      resultWithin levels (max nesting nesting') result := by
  by_cases within : nesting ≤ levels
  · have deepest : max nesting nesting' ≤ levels ↔ nesting' ≤ levels := by omega
    simp only [resultWithin, if_pos within, deepest]
    exact continued
  · rw [resultWithin, if_neg within, resultWithin, if_neg (by omega)]
    rfl

/-- A reading whose result is changed afterwards. -/
theorem resultWithin_bind_ok
    {α β : Type}
    {levels nesting : Nat}
    {first : α}
    {next : α → Except Fault β}
    {result : β}
    (continued : next first = .ok result) :
    (resultWithin levels nesting first >>= next) = resultWithin levels nesting result := by
  have changed : (resultWithin levels nesting first >>= next) =
      resultWithin levels (max nesting 0) result :=
    resultWithin_bind (continued.trans (resultWithin_zero levels result).symm)
  rwa [Nat.max_zero] at changed

/-- Reading one level deeper leaves one level less. -/
theorem deeper_eq
    {select : Tier → Reader}
    {atStart : Bool}
    {tokens : List Token}
    {nesting : Nat}
    {result : Expr × List Token}
    (reads : ∀ levels, select (tier levels) atStart tokens =
      resultWithin levels nesting result)
    (levels : Nat) :
    deeper (lowerTier levels) select atStart tokens =
      resultWithin levels (nesting + 1) result := by
  cases levels with
  | zero => simp [deeper, lowerTier, resultWithin]
  | succ levels => simp [deeper, lowerTier, reads, resultWithin]

theorem isTermLink_termOperator (subtracted : Bool) :
    isTermLink (termOperator subtracted) = true := by
  cases subtracted <;> rfl

theorem isFactorLink_factorOperator (divides : Bool) :
    isFactorLink (factorOperator divides) = true := by
  cases divides <;> rfl

theorem ofTerms_eq_sumTree (first : Expr) (rest : List (Bool × Expr)) :
    ofTerms first (rest.map fun (subtracted, x) => (termOperator subtracted, x)) =
      sumTree first rest := by
  have operator (subtracted : Bool) : (termOperator subtracted == .minus) = subtracted := by
    cases subtracted <;> rfl
  simp only [ofTerms, sumTree, List.map_map, Function.comp_def, operator]

theorem ofFactors_eq_productTree (first : Expr) (rest : List (Bool × Expr)) :
    ofFactors first (rest.map fun (divides, x) => (factorOperator divides, x)) =
      productTree first rest := by
  have divisor (divides : Bool) : (factorOperator divides == .divide) = divides := by
    cases divides <;> rfl
  have multiplied (divides : Bool) : (factorOperator divides != .divide) = !divides := by
    cases divides <;> rfl
  simp only [ofFactors, productTree, List.filter_map, List.map_map, Function.comp_def, divisor,
    multiplied, List.isEmpty_map]
  cases rest.filter (·.1) <;> simp

theorem requireOperand_of_head
    {cause : SyntaxFault}
    {tokens tail : List Token}
    (head : ∃ token rest, tokens = token :: rest ∧ beginsPhrase false token = true) :
    requireOperand cause (tokens ++ tail) = .ok () := by
  obtain ⟨token, rest, rfl, begins⟩ := head
  have operand : token.beginsOperand = true := by
    cases token <;> simp_all [beginsPhrase]
  simp [requireOperand, operand]

theorem readInteger_eq {run : List Char} (proper : (Token.digits run).IsProper) :
    readInteger run = .ok (Literal.number run) := by
  obtain ⟨nonempty, digits⟩ := proper
  simp [readInteger, Literal.number, nonempty, digits]

/-- A literal is read to its end, unless a point follows it. -/
theorem readLiteral_eq
    {literal : Literal}
    (proper : ∀ token ∈ literal.tokens, token.IsProper)
    {rest : List Token}
    {atStart : Bool}
    (ends : Ends (.atom atStart) rest) :
    readLiteral (literal.tokens ++ rest) = .ok (literal.tree, rest) := by
  have fractionRead (written : List Token) (whole : Option Int) (fraction : List Char)
      (repeating : Bool) :
      readFraction written whole (Literal.fractionTokens fraction repeating ++ rest) =
        .ok (.decimal ⟨whole, fraction, repeating⟩, rest) := by
    cases repeating <;> rfl
  match literal with
  | .integer run =>
      have run_eq := readInteger_eq (proper _ (List.mem_singleton.mpr rfl))
      cases rest with
      | nil => simp [Literal.tokens, readLiteral, run_eq, Literal.tree, bind, Except.bind, pure,
          Except.pure]
      | cons token rest =>
          have noPoint : token ≠ .point := by
            rintro rfl
            simp [Category.looseness, Token.looseness] at ends
          simp only [Literal.tokens, List.cons_append, List.nil_append]
          rw [readLiteral]
          · rw [run_eq]
            rfl
          · simpa using noPoint
  | .decimal none fraction repeating =>
      simp [Literal.tokens, readLiteral, fractionRead, Literal.tree]
  | .decimal (some whole) fraction repeating =>
      have whole_eq := readInteger_eq (proper (.digits whole) (by simp [Literal.tokens]))
      simp [Literal.tokens, readLiteral, whole_eq, fractionRead, Literal.tree, bind, Except.bind]

/-- As many factorials are read as levels are left. -/
theorem readFactorials_eq
    {atStart : Bool}
    {rest : List Token}
    (ends : Ends (.postfixed atStart) rest)
    (count levels : Nat)
    (x : Expr) :
    readFactorials levels x (.replicate count .factorial ++ rest) =
      resultWithin levels count (factorialTree count x, rest) := by
  induction count generalizing levels x with
  | zero =>
      rw [resultWithin_zero, List.replicate_zero, List.nil_append, factorialTree]
      cases rest with
      | nil => cases levels <;> rfl
      | cons token rest =>
          have noFactorial : token ≠ .factorial := by
            rintro rfl
            simp [Category.looseness, Token.looseness] at ends
          rw [readFactorials]
          all_goals simp [noFactorial]
  | succ count inductionHypothesis =>
      rw [List.replicate_succ, List.cons_append]
      cases levels with
      | zero => simp [readFactorials, resultWithin]
      | succ levels =>
          rw [readFactorials, inductionHypothesis]
          simp [resultWithin, factorialTree]

/-- A reader reads a phrase of some category: its tokens, nesting and meaning are given. -/
def ReadsPhrase
    (reader : Reader)
    (levels : Nat)
    (category : Category)
    (atStart : Bool)
    (tokens : List Token)
    (nesting : Nat)
    (meaning : Expr) : Prop :=
  ∀ rest, Ends category rest →
    reader atStart (tokens ++ rest) = resultWithin levels nesting (meaning, rest)

/-- The links of a chain are read with every bound on their number that suffices. -/
def ReadsLinks
    (isLink : Token → Bool)
    (operator : Bool → Token)
    (reader : Reader)
    (levels : Nat)
    (category : Category)
    (tokens : List Token)
    (nesting : Nat)
    (meaning : List (Bool × Expr)) : Prop :=
  ∀ count rest, tokens.length ≤ count → Ends category rest →
    readLinks isLink reader count (tokens ++ rest) =
      resultWithin levels nesting (meaning.map fun (flag, x) => (operator flag, x), rest)

/-- With a number of levels left, the reader of its category reads a derivation. -/
def Reads (levels : Nat) : {category : Category} → Derivation category → Prop
  | .sum atStart, d => ReadsPhrase (readSum levels (lowerTier levels)) levels
      (.sum atStart) atStart d.tokens d.nesting d.meaning
  | .terms, d => ReadsLinks isTermLink termOperator (readProduct levels (lowerTier levels))
      levels .terms d.tokens d.nesting d.meaning
  | .product atStart, d => ReadsPhrase (readProduct levels (lowerTier levels)) levels
      (.product atStart) atStart d.tokens d.nesting d.meaning
  | .factors, d => ReadsLinks isFactorLink factorOperator (readPower levels (lowerTier levels))
      levels .factors d.tokens d.nesting d.meaning
  | .power atStart, d => ReadsPhrase (readPower levels (lowerTier levels)) levels
      (.power atStart) atStart d.tokens d.nesting d.meaning
  | .signed atStart, d => ReadsPhrase (readSigned levels (lowerTier levels)) levels
      (.signed atStart) atStart d.tokens d.nesting d.meaning
  | .postfixed atStart, d => ReadsPhrase (readPostfixed levels (lowerTier levels)) levels
      (.postfixed atStart) atStart d.tokens d.nesting d.meaning
  | .atom atStart, d => ReadsPhrase (readAtom (lowerTier levels)) levels
      (.atom atStart) atStart d.tokens d.nesting d.meaning

section Chains

variable
  {isLink : Token → Bool}
  {operator : Bool → Token}
  {reader : Reader}
  {levels : Nat}
  {category : Category}

/-- Where no link follows, none is read. -/
theorem readLinks_nil
    (ends : ∀ rest, Ends category rest → ∀ token ∈ rest.head?, isLink token = false) :
    ReadsLinks isLink operator reader levels category [] 0 [] := by
  intro count rest _ endsRest
  rw [resultWithin_zero, List.nil_append, List.map_nil]
  cases rest with
  | nil => cases count <;> rfl
  | cons token rest =>
      have noLink : isLink token = false := ends _ endsRest token rfl
      cases count with
      | zero => rfl
      | succ count => simp [readLinks, noLink, pure, Except.pure]

/-- A link and the links behind it are read one after the other. -/
theorem ReadsLinks.cons
    {flag : Bool}
    {category' : Category}
    {tokens tokens' : List Token}
    {nesting nesting' : Nat}
    {meaning : Expr}
    {meaning' : List (Bool × Expr)}
    (isLink_operator : isLink (operator flag) = true)
    (head : ∃ token rest, tokens = token :: rest ∧ beginsPhrase false token = true)
    (operand : ReadsPhrase reader levels category' false tokens nesting meaning)
    (links : ReadsLinks isLink operator reader levels category tokens' nesting' meaning')
    (ends : ∀ rest, Ends category rest → Ends category' (tokens' ++ rest)) :
    ReadsLinks isLink operator reader levels category
      (operator flag :: (tokens ++ tokens')) (max nesting nesting')
      ((flag, meaning) :: meaning') := by
  intro count rest enough endsRest
  cases count with
  | zero => simp at enough
  | succ count =>
      have enough' : tokens'.length ≤ count := by
        simp only [List.length_cons, List.length_append] at enough
        omega
      rw [List.cons_append, List.append_assoc, readLinks, if_pos isLink_operator,
        requireOperand_of_head head]
      simp only [bind, Except.bind]
      rw [operand _ (ends rest endsRest)]
      apply resultWithin_bind
      rw [links count rest enough' endsRest]
      exact resultWithin_bind_ok rfl

end Chains

section Phrases

variable
  {levels : Nat}
  {atStart : Bool}

/-- An operand is a power of its own unless an exponent follows. -/
theorem readsPower_of_base
    {tokens : List Token}
    {nesting : Nat}
    {meaning : Expr}
    (operand : ReadsPhrase (readSigned levels (lowerTier levels)) levels (.signed atStart)
      atStart tokens nesting meaning) :
    ReadsPhrase (readPower levels (lowerTier levels)) levels (.power atStart)
      atStart tokens nesting meaning := by
  intro rest ends
  rw [readPower, operand rest (ends.tighten (by simp [Category.looseness]))]
  apply resultWithin_bind_ok
  split
  · rename_i equal
    obtain ⟨-, rfl⟩ := Prod.mk.inj equal
    simp [Category.looseness, Token.looseness] at ends
  · rfl

/-- An exponent is read one level deeper. -/
theorem readsPower_of_raised
    {tokens : List Token}
    {nesting : Nat}
    {meaning : Expr}
    (operand : ReadsPhrase (readSigned levels (lowerTier levels)) levels (.signed atStart)
      atStart tokens nesting meaning)
    (exponent : Derivation (.power false))
    (reads : ∀ levels, ReadsPhrase (readPower levels (lowerTier levels)) levels
      (.power false) false exponent.tokens exponent.nesting exponent.meaning) :
    ReadsPhrase (readPower levels (lowerTier levels)) levels (.power atStart) atStart
      (tokens ++ .power :: exponent.tokens) (max nesting (exponent.nesting + 1))
      (.node .power [meaning, exponent.meaning]) := by
  intro rest ends
  rw [List.append_assoc, readPower,
    operand _ (by simp [Category.looseness, Token.looseness])]
  apply resultWithin_bind
  dsimp only [List.cons_append]
  rw [requireOperand_of_head exponent.exists_head_power]
  simp only [bind, Except.bind]
  rw [deeper_eq fun levels => by rw [tier_eq]; exact reads levels rest ends]
  exact resultWithin_bind_ok rfl

/-- The operand behind a sign is read one level deeper. -/
theorem readsSigned_of_sign
    {sign : Token}
    {op : Unary}
    {cause : SyntaxFault}
    (unfolded : ∀ tokens, readSigned levels (lowerTier levels) atStart (sign :: tokens) =
      requireOperand cause tokens >>= fun _ =>
        deeper (lowerTier levels) Tier.signed false tokens >>= fun (x, rest) =>
          pure (.unary op x, rest))
    (operand : Derivation (.signed false))
    (reads : ∀ levels, ReadsPhrase (readSigned levels (lowerTier levels)) levels
      (.signed false) false operand.tokens operand.nesting operand.meaning) :
    ReadsPhrase (readSigned levels (lowerTier levels)) levels (.signed atStart) atStart
      (sign :: operand.tokens) (operand.nesting + 1) (.unary op operand.meaning) := by
  intro rest ends
  rw [List.cons_append, unfolded, requireOperand_of_head operand.exists_head_signed,
    deeper_eq fun levels => by rw [tier_eq]; exact reads levels rest ends]
  exact resultWithin_bind_ok rfl

/-- An operand without signs is read as such. -/
theorem readsSigned_of_unsigned
    (operand : Derivation (.postfixed atStart))
    (reads : ReadsPhrase (readPostfixed levels (lowerTier levels)) levels
      (.postfixed atStart) atStart operand.tokens operand.nesting operand.meaning) :
    ReadsPhrase (readSigned levels (lowerTier levels)) levels (.signed atStart) atStart
      operand.tokens operand.nesting operand.meaning := by
  intro rest ends
  rw [← reads rest ends]
  obtain ⟨token, tail, equal, begins⟩ := operand.exists_head_postfixed
  rw [equal, List.cons_append]
  cases token <;> first | contradiction | cases atStart <;> rfl

/-- A group is read one level deeper, up to its closing bracket. -/
theorem readsAtom_of_group
    (inner : Derivation (.sum true))
    (reads : ∀ levels, ReadsPhrase (readSum levels (lowerTier levels)) levels
      (.sum true) true inner.tokens inner.nesting inner.meaning) :
    ReadsPhrase (readAtom (lowerTier levels)) levels (.atom atStart) atStart
      (.opening :: (inner.tokens ++ [.closing])) (inner.nesting + 1) inner.meaning := by
  intro rest ends
  have unfolded (tokens : List Token) : readAtom (lowerTier levels) atStart
      (.opening :: tokens) = readGroup (lowerTier levels) tokens := by
    cases atStart <;> rfl
  have closes : Ends (.sum true) (.closing :: rest) := by
    simp [Category.looseness, Token.looseness]
  have deeperReads : deeper (lowerTier levels) Tier.sum true
      (inner.tokens ++ .closing :: rest) =
        resultWithin levels (inner.nesting + 1) (inner.meaning, .closing :: rest) :=
    deeper_eq (fun levels => by rw [tier_eq]; exact reads levels _ closes) levels
  obtain ⟨token, tail, equal, begins⟩ := inner.exists_head_sum
  rw [List.cons_append, List.append_assoc, unfolded, List.singleton_append]
  rw [equal, List.cons_append] at deeperReads ⊢
  rw [readGroup]
  · rw [deeperReads]
    exact resultWithin_bind_ok rfl
  · rintro _ ⟨rfl, -⟩
    simp [beginsPhrase, Token.beginsOperand] at begins

/-- A literal is read at every place where an atom may stand. -/
theorem readAtom_literal (lower : Option Tier) (literal : Literal) (rest : List Token) :
    readAtom lower atStart (literal.tokens ++ rest) = readLiteral (literal.tokens ++ rest) := by
  match literal with
  | .integer run => cases atStart <;> rfl
  | .decimal none fraction repeating => cases atStart <;> rfl
  | .decimal (some whole) fraction repeating => cases atStart <;> rfl

/-- At the start of a group a plus sign in front of a literal is skipped. -/
theorem readAtom_positive (lower : Option Tier) (literal : Literal) (rest : List Token) :
    readAtom lower true (.plus :: (literal.tokens ++ rest)) =
      readLiteral (literal.tokens ++ rest) := by
  match literal with
  | .integer run => rfl
  | .decimal none fraction repeating => rfl
  | .decimal (some whole) fraction repeating => rfl

end Phrases

/-- Every derivation is read, whatever number of levels is left. -/
theorem reads
    (levels : Nat)
    {category : Category}
    (derivation : Derivation category)
    (proper : ∀ token ∈ derivation.tokens, token.IsProper) :
    Reads levels derivation := by
  induction derivation generalizing levels with
  | sum first terms firstHypothesis termsHypothesis =>
      simp only [Derivation.tokens, List.forall_mem_append] at proper
      intro rest ends
      rw [Derivation.tokens, List.append_assoc, readSum,
        firstHypothesis levels proper.1 _ (terms.ends_terms ends _)]
      apply resultWithin_bind
      dsimp only
      rw [termsHypothesis levels proper.2 _ _ (by simp) ends]
      apply resultWithin_bind_ok
      dsimp only
      rw [ofTerms_eq_sumTree]
      rfl
  | noTerms =>
      apply readLinks_nil
      intro rest ends token member
      have loose := ends token member
      cases token <;> simp_all [Category.looseness, Token.looseness, isTermLink]
  | term subtracted operand terms operandHypothesis termsHypothesis =>
      simp only [Derivation.tokens, List.forall_mem_cons, List.forall_mem_append] at proper
      exact .cons (isTermLink_termOperator _) operand.exists_head_product
        (operandHypothesis levels proper.2.1) (termsHypothesis levels proper.2.2)
        fun rest ends => terms.ends_terms ends _
  | product first factors firstHypothesis factorsHypothesis =>
      simp only [Derivation.tokens, List.forall_mem_append] at proper
      intro rest ends
      rw [Derivation.tokens, List.append_assoc, readProduct,
        firstHypothesis levels proper.1 _ (factors.ends_factors ends _)]
      apply resultWithin_bind
      dsimp only
      rw [factorsHypothesis levels proper.2 _ _ (by simp) ends]
      apply resultWithin_bind_ok
      dsimp only
      rw [ofFactors_eq_productTree]
      rfl
  | noFactors =>
      apply readLinks_nil
      intro rest ends token member
      have loose := ends token member
      cases token <;> simp_all [Category.looseness, Token.looseness, isFactorLink]
  | factor divides operand factors operandHypothesis factorsHypothesis =>
      simp only [Derivation.tokens, List.forall_mem_cons, List.forall_mem_append] at proper
      exact .cons (isFactorLink_factorOperator _) operand.exists_head_power
        (operandHypothesis levels proper.2.1) (factorsHypothesis levels proper.2.2)
        fun rest ends => factors.ends_factors ends _
  | base operand operandHypothesis =>
      exact readsPower_of_base (operandHypothesis levels proper)
  | raised operand exponent operandHypothesis exponentHypothesis =>
      simp only [Derivation.tokens, List.forall_mem_append, List.forall_mem_cons] at proper
      exact readsPower_of_raised (operandHypothesis levels proper.1) exponent
        fun levels => exponentHypothesis levels proper.2.2
  | negated operand operandHypothesis =>
      simp only [Derivation.tokens, List.forall_mem_cons] at proper
      exact readsSigned_of_sign (fun _ => rfl) operand
        fun levels => operandHypothesis levels proper.2
  | triangular operand operandHypothesis =>
      simp only [Derivation.tokens, List.forall_mem_cons] at proper
      rename_i atStart
      exact readsSigned_of_sign (fun _ => by cases atStart <;> rfl) operand
        fun levels => operandHypothesis levels proper.2
  | root operand operandHypothesis =>
      simp only [Derivation.tokens, List.forall_mem_cons] at proper
      rename_i atStart
      exact readsSigned_of_sign (fun _ => by cases atStart <;> rfl) operand
        fun levels => operandHypothesis levels proper.2
  | unsigned operand operandHypothesis =>
      exact readsSigned_of_unsigned operand (operandHypothesis levels proper)
  | postfixed operand factorials operandHypothesis =>
      simp only [Derivation.tokens, List.forall_mem_append] at proper
      intro rest ends
      rw [Derivation.tokens, List.append_assoc, readPostfixed,
        operandHypothesis levels proper.1 _ (ends_factorials _ _ ends)]
      apply resultWithin_bind
      exact readFactorials_eq ends factorials levels _
  | group inner innerHypothesis =>
      simp only [Derivation.tokens, List.forall_mem_append, List.forall_mem_cons] at proper
      exact readsAtom_of_group inner fun levels => innerHypothesis levels proper.2.1
  | literal written =>
      intro rest ends
      rw [Derivation.tokens, readAtom_literal, readLiteral_eq proper ends]
      exact (resultWithin_zero _ _).symm
  | positive written =>
      simp only [Derivation.tokens, List.forall_mem_cons] at proper
      intro rest ends
      rw [Derivation.tokens, List.cons_append, readAtom_positive,
        readLiteral_eq proper.2 ends]
      exact (resultWithin_zero _ _).symm

end Expr
end FourFours
