import FourFours.Proofs.Grammar.Spelling
import FourFours.Proofs.Reading

/-!
# Texts that spell derivations

The alphabet of expressions has one character for a root, where the exact form of a value
writes `sqrt`. With the root signs in place, the text of each rule is put together from the
texts of its parts.
-/

namespace FourFours

/-- A text with the root sign of the alphabet in the place of every `sqrt`. -/
def rootSigns : List Char → List Char
  | 's' :: 'q' :: 'r' :: 't' :: text => 'R' :: rootSigns text
  | c :: text => c :: rootSigns text
  | [] => []

namespace Grammar

/-- A text spells some tokens, whatever follows it, once the root signs are in place. -/
def Writes (text : String) (tokens : List Token) : Prop :=
  ∀ rest, rootSigns (text.toList ++ rest) = Token.spell tokens ++ rootSigns rest

theorem Writes.append
    {left right : String}
    {tokens tokens' : List Token}
    (writesLeft : Writes left tokens)
    (writesRight : Writes right tokens') :
    Writes (left ++ right) (tokens ++ tokens') := by
  intro rest
  rw [String.toList_append, List.append_assoc, writesLeft, writesRight, Token.spell,
    Token.spell, Token.spell, List.flatMap_append, List.append_assoc]

theorem rootSigns_append_of_digits
    {run : List Char}
    (digits : ∀ c ∈ run, c.isDigit = true)
    (rest : List Char) :
    rootSigns (run ++ rest) = run ++ rootSigns rest := by
  induction run with
  | nil => rfl
  | cons c run inductionHypothesis =>
      obtain ⟨digit, others⟩ := List.forall_mem_cons.mp digits
      rw [List.cons_append, rootSigns, inductionHypothesis others, List.cons_append]
      rintro text rfl
      contradiction

/-- A natural number in decimal. -/
def Derivation.ofNat (atStart : Bool) (n : Nat) : Derivation (.signed atStart) :=
  .unsigned (.postfixed (.literal (.integer (Integer.digits n))) 0)

/-- The root of a sentence in brackets. -/
def Derivation.rootOf (atStart : Bool) (inner : Sentence) : Derivation (.signed atStart) :=
  .root (.unsigned (.postfixed (.group inner) 0))

theorem Derivation.meaning_ofNat (atStart : Bool) (n : Nat) :
    (ofNat atStart n).meaning = .integer n := by
  have number : Literal.number (Integer.digits n) = n := by
    rw [Literal.number, Integer.digits_eq_toDigits, Nat.ofDigitChars_ten_toDigits]
  rw [← number]
  rfl

theorem Derivation.meaning_rootOf (atStart : Bool) (inner : Sentence) :
    (rootOf atStart inner).meaning = .unary .root inner.meaning := rfl

/-- A text spells the tokens of a derivation that nests at most so deep. -/
structure Derivation.IsWritten
    {category : Category}
    (derivation : Derivation category)
    (depth : Nat)
    (text : String) : Prop where
  writes : Writes text derivation.tokens
  proper : Expr.AllProper derivation.tokens
  nesting_le : derivation.nesting ≤ depth

namespace Derivation.IsWritten

variable {category : Category} {atStart : Bool} {depth depth' : Nat} {text text' : String}

theorem mono
    {derivation : Derivation category}
    (written : derivation.IsWritten depth text)
    (le : depth ≤ depth') :
    derivation.IsWritten depth' text :=
  ⟨written.writes, written.proper, written.nesting_le.trans le⟩

theorem sum
    {first : Derivation (.product atStart)}
    {rest : Derivation .terms}
    (writtenFirst : first.IsWritten depth text)
    (writtenRest : rest.IsWritten depth text') :
    (Derivation.sum first rest).IsWritten depth (text ++ text') where
  writes := writtenFirst.writes.append writtenRest.writes
  proper := List.forall_mem_append.mpr ⟨writtenFirst.proper, writtenRest.proper⟩
  nesting_le := max_le writtenFirst.nesting_le writtenRest.nesting_le

theorem noTerms : Derivation.noTerms.IsWritten depth "" :=
  ⟨fun _ => rfl, by simp [Expr.AllProper, tokens], Nat.zero_le _⟩

theorem term
    {operand : Derivation (.product false)}
    {rest : Derivation .terms}
    (writtenOperand : operand.IsWritten depth text)
    (writtenRest : rest.IsWritten depth text')
    (subtracted : Bool) :
    (Derivation.term subtracted operand rest).IsWritten depth
      ((if subtracted then "-" else "+") ++ text ++ text') where
  writes := by
    have operator : Writes (if subtracted then "-" else "+") [termOperator subtracted] := by
      cases subtracted <;> exact fun _ => rfl
    exact (operator.append writtenOperand.writes).append writtenRest.writes
  proper := by
    refine List.forall_mem_cons.mpr ⟨by cases subtracted <;> trivial, ?_⟩
    exact List.forall_mem_append.mpr ⟨writtenOperand.proper, writtenRest.proper⟩
  nesting_le := max_le writtenOperand.nesting_le writtenRest.nesting_le

theorem product
    {first : Derivation (.signed atStart)}
    {rest : Derivation .factors}
    (writtenFirst : first.IsWritten depth text)
    (writtenRest : rest.IsWritten depth text') :
    (Derivation.product (.base first) rest).IsWritten depth (text ++ text') where
  writes := writtenFirst.writes.append writtenRest.writes
  proper := List.forall_mem_append.mpr ⟨writtenFirst.proper, writtenRest.proper⟩
  nesting_le := max_le writtenFirst.nesting_le writtenRest.nesting_le

theorem noFactors : Derivation.noFactors.IsWritten depth "" :=
  ⟨fun _ => rfl, by simp [Expr.AllProper, tokens], Nat.zero_le _⟩

theorem factor
    {operand : Derivation (.signed false)}
    {rest : Derivation .factors}
    (writtenOperand : operand.IsWritten depth text)
    (writtenRest : rest.IsWritten depth text')
    (divides : Bool) :
    (Derivation.factor divides (.base operand) rest).IsWritten depth
      ((if divides then "/" else "*") ++ text ++ text') where
  writes := by
    have operator : Writes (if divides then "/" else "*") [factorOperator divides] := by
      cases divides <;> exact fun _ => rfl
    exact (operator.append writtenOperand.writes).append writtenRest.writes
  proper := by
    refine List.forall_mem_cons.mpr ⟨by cases divides <;> trivial, ?_⟩
    exact List.forall_mem_append.mpr ⟨writtenOperand.proper, writtenRest.proper⟩
  nesting_le := max_le writtenOperand.nesting_le writtenRest.nesting_le

theorem negated
    {operand : Derivation (.signed false)}
    (written : operand.IsWritten depth text) :
    operand.negated.IsWritten (depth + 1) ("-" ++ text) where
  writes := by
    have sign : Writes "-" [.minus] := fun _ => rfl
    exact sign.append written.writes
  proper := List.forall_mem_cons.mpr ⟨trivial, written.proper⟩
  nesting_le := Nat.succ_le_succ written.nesting_le

theorem rootOf
    {inner : Sentence}
    (written : inner.IsWritten depth text) :
    (Derivation.rootOf atStart inner).IsWritten (depth + 2)
      ("sqrt(" ++ text ++ ")") where
  writes := by
    have opening : Writes "sqrt(" [.root, .opening] := fun _ => rfl
    have closing : Writes ")" [.closing] := fun _ => rfl
    simpa [Derivation.rootOf, tokens] using (opening.append written.writes).append closing
  proper := by
    have inside := written.proper
    simp only [Expr.AllProper] at inside ⊢
    simpa [Derivation.rootOf, tokens, Token.IsProper, or_imp, forall_and] using inside
  nesting_le := by
    have inside := written.nesting_le
    simp only [Derivation.rootOf, nesting]
    omega

theorem ofNat (n : Nat) :
    (Derivation.ofNat atStart n).IsWritten depth (Integer.text n) where
  writes := by
    intro rest
    rw [Integer.text, if_neg (by omega), Int.natAbs_natCast, String.toList_ofList,
      rootSigns_append_of_digits fun _ => Integer.isDigit_of_mem_digits]
    simp [Derivation.ofNat, tokens, Literal.tokens, Token.spell, Token.lexeme]
  proper := by
    refine List.forall_mem_singleton.mpr ⟨?_, ?_⟩
    · rw [Integer.digits_eq_toDigits]
      exact Nat.toDigits_ne_nil
    · exact List.all_eq_true.mpr fun _ => Integer.isDigit_of_mem_digits
  nesting_le := Nat.zero_le _

end Derivation.IsWritten
end Grammar
end FourFours
