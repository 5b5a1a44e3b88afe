import FourFours.Proofs.Puzzle.History
import FourFours.Proofs.Puzzle.Memory
import FourFours.Proofs.StrayCharacters

/-!
# Typing the entry again

What is kept of a typed text is put in upper case and brought into normal form afterwards. The
three steps agree on their characters: an entry consists of characters that are kept as they
are and, blanks apart, belong to the alphabet. So an entry is never refused for one of its
characters, and to type it again in the session that shows it changes nothing there.
-/

namespace FourFours
namespace Puzzle

namespace Session

/-- The result in view stays if the entry is typed once more: the entry is empty, has the
reading that is in view, or fails as before. -/
theorem resultAfter_resultAfter (settings : Settings) (result : Option String) (text : String) :
    resultAfter settings (resultAfter settings result text) text =
      resultAfter settings result text := by
  unfold resultAfter
  cases (entryOf text).isEmpty with
  | true => simp only [if_true]
  | false => cases readingOf? settings text <;> simp

/-- A text is judged by its entry. -/
theorem type_entryOf (session : Session) (text : String) :
    session.type (entryOf text) = session.type text := by
  rw [Session.type, entryOf_entryOf, Session.type]

/-- A text typed twice in a row is a text typed once. -/
theorem type_type (session : Session) (text : String) :
    (session.type text).type text = session.type text := by
  have result : (session.type text).result =
      resultAfter session.settings session.result text := by rw [type_eq]
  have again := type_eq (session.type text) text
  rw [target_type, settings_type, result, resultAfter_resultAfter] at again
  exact again.trans (type_eq session text).symm

/-- The player has typed what the session shows. -/
def IsTyped (session : Session) : Prop :=
  ∃ before text, session = type before text

theorem isTyped_run_start
    (target : Option Int)
    (settings : Settings)
    (actions : List Action) :
    ((start target settings).run actions).IsTyped := by
  refine List.foldlRecOn actions perform ⟨start target settings, "", rfl⟩ ?_
  intro session _ action _
  exact ⟨_, action.text, perform_eq session action⟩

theorem IsTyped.type_entry {session : Session} (typed : session.IsTyped) :
    session.type session.entry = session := by
  obtain ⟨before, text, rfl⟩ := typed
  rw [entry_type, type_entryOf, type_type]

/-- Whatever the player has done, the entry consists of digits, symbols and blanks, no
evaluation of it fails for a stray character, and to type it again changes nothing. -/
theorem run_start_retypes (target : Option Int) (settings : Settings) (actions : List Action) :
    let session := (start target settings).run actions
    (∀ c ∈ session.entry.toList, c.isDigit = true ∨ c ∈ "+-*/()!^.SR ".toList) ∧
    (∀ settings' fault, Calculator.evaluate settings' session.entry = .error fault →
      ¬"invalid character".toList <+: fault.message.toList) ∧
    session.type session.entry = session := by
  intro session
  have typed : session.IsTyped := isTyped_run_start target settings actions
  refine ⟨?_, ?_, typed.type_entry⟩
  · obtain ⟨before, text, equal⟩ := typed
    rw [equal, entry_type]
    exact isDigit_or_mem_of_mem_entryOf
  · intro settings' fault failed
    obtain ⟨before, text, equal⟩ := typed
    rw [equal, entry_type] at failed
    obtain ⟨normal, normalized⟩ := exists_normalize_entryOf text
    exact Calculator.not_begins_stray_of_normalize normalized failed

/-- A character that is dropped does not count, and typing the entry again fails once more, with
the same result in view. -/
theorem run_start_retypes_dividedByZero :
    let session := (start (some 44) .standard).run [.type "44", .type "é r4/0"]
    Calculator.evaluate .standard session.entry = .error (.inEvaluation .divisionByZero) ∧
      ¬"invalid character".toList <+: (Fault.inEvaluation .divisionByZero).message.toList ∧
      session.type session.entry = session := by
  intro session
  obtain ⟨-, unstray, same⟩ :=
    run_start_retypes (some 44) .standard [.type "44", .type "é r4/0"]
  have entry : session.entry = " R4/0" := by
    have kept : "é r4/0".toList.filter isKept = " r4/0".toList := by cbv
    have upper : " r4/0".toList.map Char.toUpper = " R4/0".toList := by decide
    have typed : entryOf "é r4/0" = " R4/0" := by
      rw [entryOf, kept, upper, String.ofList_toList]
    exact (entry_type _ "é r4/0").trans typed
  have failed : Calculator.evaluate .standard session.entry =
      .error (.inEvaluation .divisionByZero) := by
    rw [entry]
    decide +kernel
  exact ⟨failed, unstray .standard _ failed, same⟩

end Session
end Puzzle
end FourFours
