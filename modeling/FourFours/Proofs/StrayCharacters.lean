import FourFours.Proofs.Grammar.Brackets
import FourFours.Proofs.Grammar.Tokens
import FourFours.Proofs.Shape

/-!
# Stray characters

A character outside the alphabet is told of when a typed text is brought into normal form, and
never later: a normal form is cut into tokens without fail, no reader of tokens looks at
characters, and an evaluation knows other faults only. So a text fails for a stray character
exactly if it has no normal form, and its fault is the only one that is worded so.
-/

namespace FourFours

/-- A text does not begin like the wording of a stray character if it differs from it early. -/
theorem not_begins_stray
    {front : String}
    (long : 9 ≤ front.toList.length)
    (differs : front.toList.take 9 ≠ "invalid c".toList)
    (behind : String) :
    ¬"invalid character".toList <+: (front ++ behind).toList := by
  intro begins
  have early : "invalid c".toList <+: "invalid character".toList := by decide
  have within := early.trans begins
  rw [String.toList_append] at within
  have short := List.prefix_of_prefix_length_le within (List.prefix_append _ _) long
  exact differs (List.prefix_iff_eq_take.mp short).symm

namespace SyntaxFault

/-- The wording of no other fault in a text begins like that of a stray character. -/
theorem exists_strayCharacter
    {cause : SyntaxFault}
    (begins : "invalid character".toList <+: cause.message.toList) :
    ∃ c, cause = .strayCharacter c := by
  have first : cause.message.toList.head? = some 'i' := by
    obtain ⟨behind, message⟩ := begins
    rw [← message]
    rfl
  rw [head?_message, Option.some.injEq] at first
  cases cause with
  | strayCharacter c => exact ⟨c, rfl⟩
  | malformed fragment => exact absurd begins (not_begins_stray (by decide) (by decide) _)
  | _ => simp [initial] at first

end SyntaxFault

theorem EvaluationFault.not_begins_stray (cause : EvaluationFault) :
    ¬"invalid character".toList <+: cause.message.toList := by
  cases cause with
  | notNatural op | operandTooLarge op => cases op <;> decide
  | _ => decide

theorem InternalFault.not_begins_stray (cause : InternalFault) :
    ¬"invalid character".toList <+: cause.message.toList := by
  cases cause with
  | noOperand op => cases op <;> decide
  | operandCount op count =>
      cases op <;> exact FourFours.not_begins_stray (by decide) (by decide) _
  | _ => exact FourFours.not_begins_stray (by decide) (by decide) _

theorem Breakdown.not_begins_stray (cause : Breakdown) :
    ¬"invalid character".toList <+: cause.message.toList := by
  cases cause <;> decide

/-- No other fault is worded like that of a stray character. -/
theorem Fault.exists_strayCharacter
    {fault : Fault}
    (begins : "invalid character".toList <+: fault.message.toList) :
    ∃ c, fault = .inSyntax (.strayCharacter c) := by
  cases fault with
  | inSyntax cause =>
      obtain ⟨c, rfl⟩ := SyntaxFault.exists_strayCharacter begins
      exact ⟨c, rfl⟩
  | inEvaluation cause => exact absurd begins cause.not_begins_stray
  | internal cause => exact absurd begins cause.not_begins_stray
  | breakdown cause => exact absurd begins cause.not_begins_stray

/-- An outcome that is not the fault of a stray character. -/
def NotStray {α : Type} (outcome : Except Fault α) : Prop :=
  ∀ c, outcome ≠ .error (.inSyntax (.strayCharacter c))

section

variable {α β : Type}

theorem notStray_ok (a : α) : NotStray (.ok a) :=
  nofun

theorem NotStray.bind
    {outcome : Except Fault α}
    {rest : α → Except Fault β}
    (first : NotStray outcome)
    (next : ∀ a, NotStray (rest a)) :
    NotStray (outcome >>= rest) := by
  intro c failed
  rcases bind_eq_error_iff.mp failed with failed | ⟨a, -, failed⟩
  · exact first c failed
  · exact next a c failed

end

namespace Expr

theorem notStray_refuse {α : Type} {cause : SyntaxFault}
    (other : ∀ c, cause ≠ .strayCharacter c) :
    NotStray (refuse cause : Except Fault α) := by
  intro c equal
  exact other c (by simpa [refuse] using equal)

theorem notStray_requireOperand {cause : SyntaxFault} (other : ∀ c, cause ≠ .strayCharacter c)
    (tokens : List Token) :
    NotStray (requireOperand cause tokens) := by
  unfold requireOperand
  split
  · split
    · exact notStray_ok _
    · exact notStray_refuse other
  · exact notStray_refuse other

theorem notStray_readInteger (run : List Char) : NotStray (readInteger run) := by
  unfold readInteger
  split
  · exact nofun
  · exact notStray_ok _

theorem notStray_readFraction (written : List Token) (whole : Option Int) (tokens : List Token) :
    NotStray (readFraction written whole tokens) := by
  unfold readFraction
  split
  · exact notStray_ok _
  · exact notStray_ok _
  · exact notStray_refuse nofun

theorem notStray_readLiteral (tokens : List Token) : NotStray (readLiteral tokens) := by
  unfold readLiteral
  split
  · exact (notStray_readInteger _).bind fun whole => notStray_readFraction _ _ _
  · exact (notStray_readInteger _).bind fun n => notStray_ok _
  · exact notStray_readFraction _ _ _
  · exact notStray_refuse nofun

/-- A reader that never tells of a stray character. -/
def Reader.TellsNoStray (reader : Reader) : Prop :=
  ∀ atStart tokens, NotStray (reader atStart tokens)

/-- The readers of a tier never tell of a stray character. -/
structure TellsNoStrayTier (tier : Tier) : Prop where
  sum : Reader.TellsNoStray tier.sum
  power : Reader.TellsNoStray tier.power
  signed : Reader.TellsNoStray tier.signed

section

variable
  {lower : Option Tier}
  (levels : Nat)
  (tellsNone : ∀ tier ∈ lower, TellsNoStrayTier tier)

include tellsNone

theorem notStray_deeper
    {reader : Tier → Reader}
    (select : ∀ {tier}, TellsNoStrayTier tier → Reader.TellsNoStray (reader tier)) :
    Reader.TellsNoStray (deeper lower reader) := by
  intro atStart tokens
  unfold deeper
  split
  · exact select (tellsNone _ rfl) atStart tokens
  · exact notStray_refuse nofun

theorem notStray_readGroup (tokens : List Token) : NotStray (readGroup lower tokens) := by
  unfold readGroup
  split
  · exact notStray_refuse nofun
  · refine (notStray_deeper tellsNone TellsNoStrayTier.sum true _).bind fun result => ?_
    split
    · exact notStray_ok _
    · exact notStray_refuse nofun
    · exact notStray_refuse nofun

theorem notStray_readAtom : Reader.TellsNoStray (readAtom lower) := by
  intro atStart tokens
  unfold readAtom
  split
  case h_2 => exact notStray_readGroup tellsNone _
  case h_3 | h_4 | h_5 | h_6 => exact notStray_readLiteral _
  all_goals exact notStray_refuse nofun

omit tellsNone in
theorem notStray_readFactorials (x : Expr) (tokens : List Token) :
    NotStray (readFactorials levels x tokens) := by
  induction levels generalizing x tokens with
  | zero =>
      cases tokens with
      | nil => exact notStray_ok _
      | cons token rest =>
          cases token <;> first | exact notStray_ok _ | exact notStray_refuse nofun
  | succ levels inductionHypothesis =>
      cases tokens with
      | nil => exact notStray_ok _
      | cons token rest =>
          cases token <;> first | exact notStray_ok _ | exact inductionHypothesis _ _

theorem notStray_readPostfixed : Reader.TellsNoStray (readPostfixed levels lower) := by
  intro atStart tokens
  exact (notStray_readAtom tellsNone atStart tokens).bind fun _ =>
    notStray_readFactorials levels _ _

theorem notStray_readSigned : Reader.TellsNoStray (readSigned levels lower) := by
  have operand := notStray_deeper tellsNone TellsNoStrayTier.signed false
  intro atStart tokens
  unfold readSigned
  split
  case h_4 => exact notStray_readPostfixed levels tellsNone _ _
  all_goals
    refine (notStray_requireOperand (by simp) _).bind fun _ => ?_
    exact (operand _).bind fun _ => notStray_ok _

theorem notStray_readPower : Reader.TellsNoStray (readPower levels lower) := by
  have exponent := notStray_deeper tellsNone TellsNoStrayTier.power false
  intro atStart tokens
  refine (notStray_readSigned levels tellsNone atStart tokens).bind fun result => ?_
  split
  · exact (notStray_requireOperand (by simp) _).bind fun _ =>
      (exponent _).bind fun _ => notStray_ok _
  · exact notStray_ok _

omit tellsNone in
theorem notStray_readLinks
    (isLink : Token → Bool)
    {operand : Reader}
    (tellsNone : Reader.TellsNoStray operand)
    (count : Nat)
    (tokens : List Token) :
    NotStray (readLinks isLink operand count tokens) := by
  fun_induction readLinks isLink operand count tokens with
  | case1 _ _ _ _ inductionHypothesis =>
      refine (notStray_requireOperand (by simp) _).bind fun _ => ?_
      refine (tellsNone _ _).bind fun (_, rest) => ?_
      exact (inductionHypothesis rest).bind fun _ => notStray_ok _
  | case2 => exact notStray_ok _
  | case3 => exact notStray_ok _

theorem notStray_readProduct : Reader.TellsNoStray (readProduct levels lower) := by
  have power := notStray_readPower levels tellsNone
  intro atStart tokens
  exact (power atStart tokens).bind fun _ =>
    (notStray_readLinks _ power _ _).bind fun _ => notStray_ok _

theorem notStray_readSum : Reader.TellsNoStray (readSum levels lower) := by
  have product := notStray_readProduct levels tellsNone
  intro atStart tokens
  exact (product atStart tokens).bind fun _ =>
    (notStray_readLinks _ product _ _).bind fun _ => notStray_ok _

end

theorem tellsNoStrayTier (levels : Nat) : TellsNoStrayTier (tier levels) := by
  have built (levels : Nat) {lower : Option Tier}
      (tellsNone : ∀ tier ∈ lower, TellsNoStrayTier tier) :
      TellsNoStrayTier ⟨readSum levels lower, readPower levels lower, readSigned levels lower⟩ :=
    ⟨notStray_readSum levels tellsNone, notStray_readPower levels tellsNone,
      notStray_readSigned levels tellsNone⟩
  induction levels with
  | zero => exact built 0 nofun
  | succ levels inductionHypothesis =>
      refine built (levels + 1) fun tier member => ?_
      obtain rfl := Option.mem_some.mp member
      exact inductionHypothesis

/-- No token list is refused for a stray character. -/
theorem notStray_ofTokens (tokens : List Token) : NotStray (ofTokens tokens) := by
  unfold ofTokens
  split
  · exact notStray_refuse nofun
  split
  · exact notStray_refuse nofun
  refine ((tellsNoStrayTier depthLimit).sum true tokens).bind fun result => ?_
  split
  · exact notStray_ok _
  · exact notStray_refuse nofun

/-- A tree is never refused for something in a text. -/
theorem Refused.not_inSyntax
    {settings : Settings}
    {x : Expr}
    {cause : SyntaxFault} :
    ¬x.Refused settings (.inSyntax cause) := by
  intro refused
  generalize fault_eq : Fault.inSyntax cause = fault at refused
  induction refused with
  | limit limit => cases limit <;> contradiction
  | decimal | zeroDenominator | noOperand | operandCount => contradiction
  | unary _ refuses | node _ refuses => cases refuses <;> contradiction
  | operand _ inductionHypothesis => exact inductionHypothesis fault_eq
  | operands _ _ inductionHypothesis => exact inductionHypothesis fault_eq

theorem notStray_reading (settings : Settings) (x : Expr) : NotStray (x.reading settings) := by
  intro c failed
  rcases bind_eq_error_iff.mp failed with refused | ⟨v, -, unread⟩
  · exact (isRefusable settings x _ refused).not_inSyntax
  · rcases Reading.ofValue_eq_error unread with equal | equal | equal <;> contradiction

end Expr

namespace Calculator

/-- An evaluation tells of a stray character exactly if that character keeps the text from
having a normal form, whatever the settings are. -/
theorem evaluate_eq_strayCharacter_iff {settings : Settings} {text : String} {c : Char} :
    evaluate settings text = .error (.inSyntax (.strayCharacter c)) ↔
      Token.normalize text.toList = .error (.inSyntax (.strayCharacter c)) := by
  constructor
  · intro failed
    rcases bind_eq_error_iff.mp failed with unread | ⟨x, -, failed⟩
    · rcases bind_eq_error_iff.mp unread with stray | ⟨normal, normalized, unread⟩
      · exact stray
      · obtain ⟨tokens, cut, -⟩ := Token.exists_tokens (Token.inAlphabet_of_normalize normalized)
        rw [Expr.parse, cut] at unread
        exact absurd unread (Expr.notStray_ofTokens tokens c)
    · exact absurd failed (Expr.notStray_reading settings x c)
  · intro stray
    rw [evaluate, Expr.read, stray]
    rfl

/-- A text that has a normal form does not fail with the wording of a stray character. -/
theorem not_begins_stray_of_normalize
    {settings : Settings}
    {text : String}
    {normal : List Char}
    {fault : Fault}
    (normalized : Token.normalize text.toList = .ok normal)
    (failed : evaluate settings text = .error fault) :
    ¬"invalid character".toList <+: fault.message.toList := by
  intro begins
  obtain ⟨c, rfl⟩ := Fault.exists_strayCharacter begins
  rw [evaluate_eq_strayCharacter_iff, normalized] at failed
  contradiction

end Calculator
end FourFours
