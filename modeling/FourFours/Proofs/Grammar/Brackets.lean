import FourFours.Proofs.Grammar.OpenBrackets

/-!
# Faults about brackets

The brackets of a token list are checked before anything is read: no part in front may close more
of them than it opens, and all have to be closed in the end. A list that passes is never refused
for an unmatched bracket again, nor as an empty expression, although the readers still know these
faults: behind an open bracket they never meet the end of the tokens.
-/

namespace FourFours

namespace SyntaxFault

/-- The first character of the wording of a fault. -/
def initial : SyntaxFault → Char
  | empty | emptyBracket | tooDeep => 'e'
  | unmatchedBracket => 'u'
  | missingLeft _ | missingRight _ | missingOperand _ => 'm'
  | strayCharacter _ | malformed _ => 'i'

theorem head?_message (cause : SyntaxFault) :
    cause.message.toList.head? = some cause.initial := by
  have begun {front : String} {first : Char} (begins : front.toList.head? = some first)
      (middle behind : String) : (front ++ middle ++ behind).toList.head? = some first := by
    rw [String.append_assoc]
    exact head?_append_text begins _
  cases cause with
  | empty | unmatchedBracket | emptyBracket | tooDeep => decide
  | strayCharacter c =>
      exact begun (by decide : "invalid character '".toList.head? = some 'i') _ _
  | missingLeft t =>
      exact begun (by decide : "missing left operand of ".toList.head? = some 'm') _ _
  | missingRight t =>
      exact begun (by decide : "missing right operand of ".toList.head? = some 'm') _ _
  | missingOperand t =>
      exact begun (by decide : "missing operand of ".toList.head? = some 'm') _ _
  | malformed fragment =>
      exact head?_append_text (by decide : "invalid expression: ".toList.head? = some 'i') _

variable {cause : SyntaxFault}

theorem message_eq_unmatchedBracket_iff :
    cause.message = "unmatched bracket" ↔ cause = unmatchedBracket := by
  refine ⟨fun same => ?_, fun same => same ▸ rfl⟩
  have begins := cause.head?_message
  have first : "unmatched bracket".toList.head? = some 'u' := by decide
  rw [same, first, Option.some.injEq] at begins
  cases cause with
  | unmatchedBracket => rfl
  | _ => simp [initial] at begins

theorem message_eq_empty_iff : cause.message = "empty expression" ↔ cause = empty := by
  refine ⟨fun same => ?_, fun same => same ▸ rfl⟩
  have begins := cause.head?_message
  have first : "empty expression".toList.head? = some 'e' := by decide
  rw [same, first, Option.some.injEq] at begins
  cases cause with
  | empty => rfl
  | emptyBracket | tooDeep => exact absurd same (by decide)
  | _ => simp [initial] at begins

end SyntaxFault

namespace Expr

/-- Behind any part of a balanced list the brackets that are open then are closed. -/
theorem exists_balanced_of_append
    (front : List Token)
    {rest : List Token}
    {opened : Nat}
    (closed : balanced opened (front ++ rest) = true) :
    ∃ opened', balanced opened' rest = true := by
  induction front generalizing opened with
  | nil => exact ⟨opened, closed⟩
  | cons token front inductionHypothesis =>
      by_cases isOpening : token = .opening
      · subst isOpening
        exact @inductionHypothesis (opened + 1) closed
      by_cases isClosing : token = .closing
      · subst isClosing
        cases opened with
        | zero => contradiction
        | succ opened => exact @inductionHypothesis opened closed
      rw [List.cons_append, balanced_cons isOpening isClosing] at closed
      exact inductionHypothesis closed

/-- The parts in front of a list are the empty one and those that begin with its first token. -/
theorem forall_prefix_cons
    {token : Token}
    {rest : List Token}
    {property : List Token → Prop} :
    (∀ front, front <+: token :: rest → property front) ↔
      property [] ∧ ∀ front, front <+: rest → property (token :: front) := by
  constructor
  · exact fun each => ⟨each [] List.nil_prefix, fun front isFront =>
      each _ (List.cons_prefix_cons.mpr ⟨rfl, isFront⟩)⟩
  · rintro ⟨empty, longer⟩ front isFront
    rcases List.prefix_cons_iff.mp isFront with rfl | ⟨shorter, rfl, isShorter⟩
    · exact empty
    · exact longer shorter isShorter

/-- Brackets are balanced behind some open ones if no part in front closes more than are open
by then, and all are closed in the end. -/
theorem balanced_iff_count {opened : Nat} {tokens : List Token} :
    balanced opened tokens = true ↔
      (∀ front, front <+: tokens → front.count .closing ≤ opened + front.count .opening) ∧
        opened + tokens.count .opening = tokens.count .closing := by
  induction tokens generalizing opened with
  | nil => simp [balanced]
  | cons token rest inductionHypothesis =>
      rw [forall_prefix_cons]
      by_cases isOpening : token = .opening
      · subst isOpening
        rw [balanced, inductionHypothesis]
        simp [Nat.add_assoc, Nat.add_comm 1]
      by_cases isClosing : token = .closing
      · subst isClosing
        cases opened with
        | zero =>
            -- the first token closes a bracket that is not open
            have tooMany : ¬∀ front, front <+: rest →
                (Token.closing :: front).count .closing ≤
                  0 + (Token.closing :: front).count .opening :=
              fun each => by simpa using each [] List.nil_prefix
            simp only [balanced, tooMany]
            simp
        | succ opened =>
            rw [balanced, inductionHypothesis]
            simp [Nat.add_right_comm _ 1]
      rw [balanced_cons isOpening isClosing, inductionHypothesis]
      simp [List.count_cons_of_ne, isOpening, isClosing]

/-- The brackets of a token list do not pair up: some part in front closes more of them than it
opens, or not as many are closed as are opened. -/
def IsUnbalanced (tokens : List Token) : Prop :=
  (∃ front, front <+: tokens ∧ front.count .opening < front.count .closing) ∨
    tokens.count .opening ≠ tokens.count .closing

theorem balanced_eq_false_iff {tokens : List Token} :
    balanced 0 tokens = false ↔ IsUnbalanced tokens := by
  rw [← Bool.not_eq_true, balanced_iff_count, IsUnbalanced]
  simp only [Nat.zero_add]
  rw [not_and_or]
  simp only [not_forall, exists_prop, Nat.not_le]

/-- A reader does not meet the end of the tokens: it leaves some of them, does not fail for want
of more, and cannot tell what stands behind them. -/
structure NeverMeetsEnd
    (tokens : List Token)
    (reader : List Token → Except Fault (Expr × List Token)) : Prop where
  left : ∀ result, reader tokens = .ok result → result.2 ≠ []
  noEndFault : ∀ fault, reader tokens = .error fault → ¬IsEndFault fault
  unaffected : ∀ more, reader (tokens ++ more) = (reader tokens).map (followedBy more)

/-- Behind an open bracket a reader that is confined does not meet the end. -/
theorem IsConfined.neverMeetsEnd
    {opened : Nat}
    {tokens : List Token}
    {reader : List Token → Except Fault (Expr × List Token)}
    (confined : IsConfined (opened + 1) tokens reader) :
    NeverMeetsEnd tokens reader where
  left := by
    intro result read empty
    have closed := (confined.closes result read).1
    rw [empty] at closed
    exact absurd (balanced_nil closed) (by simp)
  noEndFault := confined.noEndFault
  unaffected := confined.unaffected (Nat.succ_pos opened)

section

variable {tokens : List Token}

theorem ofTokens_of_isUnbalanced (some : tokens ≠ []) (unbalanced : IsUnbalanced tokens) :
    ofTokens tokens = .error (.inSyntax .unmatchedBracket) := by
  have notEmpty : tokens.isEmpty = false := by simpa using some
  have unmatched := balanced_eq_false_iff.mpr unbalanced
  simp [ofTokens, notEmpty, unmatched, refuse]

theorem balanced_of_not_isUnbalanced (paired : ¬IsUnbalanced tokens) :
    balanced 0 tokens = true := by
  rwa [← balanced_eq_false_iff, Bool.not_eq_false] at paired

/-- A balanced list is refused for what stands in it, never for its end. -/
theorem not_isEndFault_of_ofTokens
    (some : tokens ≠ [])
    (paired : ¬IsUnbalanced tokens)
    {fault : Fault}
    (failed : ofTokens tokens = .error fault) :
    ¬IsEndFault fault := by
  have notEmpty : tokens.isEmpty = false := by simpa using some
  have closed := balanced_of_not_isUnbalanced paired
  simp only [ofTokens, notEmpty, closed] at failed
  rcases bind_eq_error_iff.mp failed with failedSum | ⟨⟨x, rest⟩, -, ended⟩
  · exact ((isConfinedTier depthLimit).sum closed some true).noEndFault fault failedSum
  · cases rest with
    | nil => contradiction
    | cons token rest =>
        rw [← Except.error.inj ended]
        exact not_isEndFault_malformed _

/-- Behind an open bracket of a balanced list a reader does not meet the end. -/
theorem neverMeetsEnd_of_opening
    {front inside : List Token}
    (paired : ¬IsUnbalanced (front ++ .opening :: inside))
    (levels : Nat) :
    NeverMeetsEnd inside ((tier levels).sum true) := by
  obtain ⟨opened, closedBehind⟩ :=
    exists_balanced_of_append front (balanced_of_not_isUnbalanced paired)
  have closed : balanced (opened + 1) inside = true := closedBehind
  have some : inside ≠ [] := by
    rintro rfl
    exact absurd (balanced_nil closed) (by simp)
  exact ((isConfinedTier levels).sum closed some true).neverMeetsEnd

end

/-- The faults about brackets are told exactly. A token list is refused for an unmatched bracket
if and only if its brackets do not pair up, and one that has any tokens is never refused as an
empty expression. If the brackets pair up, what is read behind an open bracket, wherever it stands
and however deep it may nest, never meets the end of the tokens. -/
theorem ofTokens_tells_brackets {tokens : List Token} (some : tokens ≠ []) :
    ((∃ cause, ofTokens tokens = .error (.inSyntax cause) ∧
        cause.message = "unmatched bracket") ↔ IsUnbalanced tokens) ∧
      (∀ cause, ofTokens tokens = .error (.inSyntax cause) →
        cause.message ≠ "empty expression") ∧
      (¬IsUnbalanced tokens → ∀ front inside, tokens = front ++ .opening :: inside →
        ∀ levels, NeverMeetsEnd inside ((tier levels).sum true)) := by
  simp only [SyntaxFault.message_eq_unmatchedBracket_iff, exists_eq_right, ne_eq,
    SyntaxFault.message_eq_empty_iff]
  refine ⟨⟨fun refused => ?_, ofTokens_of_isUnbalanced some⟩, ?_, ?_⟩
  · by_contra paired
    exact not_isEndFault_of_ofTokens some paired refused (.inl rfl)
  · rintro _ refused rfl
    by_cases unbalanced : IsUnbalanced tokens
    · simp [ofTokens_of_isUnbalanced some unbalanced] at refused
    · exact not_isEndFault_of_ofTokens some unbalanced refused (.inr rfl)
  · rintro paired front inside rfl levels
    exact neverMeetsEnd_of_opening paired levels

/-- In `(4+.(4))` the bracket of the group is closed behind the three tokens of a repeating
literal; in `)4(` there are as many brackets of each kind, but the first closes nothing. -/
theorem ofTokens_tells_brackets_repeating :
    let inside : List Token :=
      [.digits ['4'], .plus, .point, .opening, .digits ['4'], .closing, .closing]
    NeverMeetsEnd inside ((tier depthLimit).sum true) ∧
      ∃ cause, ofTokens [.closing, .digits ['4'], .opening] = .error (.inSyntax cause) ∧
        cause.message = "unmatched bracket" := by
  refine ⟨(ofTokens_tells_brackets (List.cons_ne_nil .opening _)).2.2 ?_ [] _ rfl depthLimit,
    (ofTokens_tells_brackets (List.cons_ne_nil _ _)).1.mpr (.inl ⟨[.closing], ?_, ?_⟩)⟩
  · rw [← balanced_eq_false_iff]
    decide
  · exact ⟨_, rfl⟩
  · decide

end Expr
end FourFours
