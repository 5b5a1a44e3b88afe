import FourFours.Proofs.Puzzle.History
import FourFours.Proofs.Puzzle.Memory

/-!
# What a session shows fits together

A complaint looks at the whole reading of an entry, a warning at the entry and the whole
reading, and the verdict at the result that is shown, which may be cut or stem from an
earlier entry. Still they never disagree: an entry counts as solved exactly if there is
neither a complaint nor a warning, and the player is told so then and only then. This
holds after whatever has been typed before, in sessions of their own and on the staircase.
-/

namespace FourFours
namespace Puzzle

/-- A result as it is shown: whole if it is short, else its first 16 characters and dots. -/
def IsShown (result : String) : Prop :=
  result.length ≤ 16 ∨ ∃ shown : String, shown.length = 16 ∧ result = shown ++ "..."

theorem isShown_cut (reading : String) : IsShown (cut reading) := by
  rw [cut]
  split
  · rename_i short
    exact .inl short
  · rename_i long
    refine .inr ⟨_, ?_, rfl⟩
    rw [String.length_ofList, List.length_take, String.length_toList]
    exact Nat.min_eq_left (Nat.le_of_not_le long)

/-- The wording of a fault begins with the name of its kind in lower case, and that of a
breakdown not with an `S` either. -/
theorem head?_describe_ne (fault : Fault) : fault.describe.toList.head? ≠ some 'S' := by
  cases fault with
  | inSyntax cause =>
      have begins : "syntax error: ".toList.head? = some 's' := by decide
      change ("syntax error: " ++ cause.message).toList.head? ≠ some 'S'
      rw [head?_append_text begins]
      decide
  | inEvaluation cause =>
      have begins : "evaluation error: ".toList.head? = some 'e' := by decide
      change ("evaluation error: " ++ cause.message).toList.head? ≠ some 'S'
      rw [head?_append_text begins]
      decide
  | internal cause =>
      have begins : "internal error: ".toList.head? = some 'i' := by decide
      change ("internal error: " ++ cause.message).toList.head? ≠ some 'S'
      rw [head?_append_text begins]
      decide
  | breakdown cause => cases cause <;> decide

/-- No complaint reads like praise. -/
theorem Complaint.message_ne_solved (complaint : Complaint) :
    complaint.message ≠ "Solved!" := by
  cases complaint with
  | notInteger | tooLong => decide
  | fault cause =>
      intro equal
      apply head?_describe_ne cause
      rw [← Complaint.message, equal]
      rfl

theorem Warning.message_ne_solved (warning : Warning) : warning.message ≠ "Solved!" := by
  cases warning <;> decide

namespace Session

/-- What a session shows fits together. -/
structure IsCoherent (session : Session) : Prop where
  /-- The player is always told something. -/
  told : session.message.isSome = true
  /-- An entry is solved exactly if nothing is wrong with it. -/
  solved_iff : session.isSolved = true ↔ session.complaint = none ∧ session.warning = none
  /-- Praise is given exactly for a solved entry. -/
  praised_iff : session.isSolved = true ↔ session.message = some "Solved!"
  /-- The result of a solved entry is the target. -/
  reached : session.isSolved = true → ∀ target, session.target = some target →
    session.result = some (toString target)
  shown : ∀ result, session.result = some result → IsShown result

theorem complaint_warning_of_isSolved {session : Session} (solved : session.isSolved = true) :
    session.complaint = none ∧ session.warning = none := by
  simp only [isSolved, Bool.and_eq_true, Option.isNone_iff_eq_none] at solved
  exact ⟨solved.1.1.2, solved.1.2⟩

theorem result_of_isSolved {session : Session} (solved : session.isSolved = true)
    {target : Int} (aimed : session.target = some target) :
    session.result = some (toString target) := by
  simp only [isSolved, aimed, Bool.and_eq_true, beq_iff_eq] at solved
  exact solved.2

/-- A session is coherent if an entry without fault counts as solved and the result is as
it is shown. -/
theorem isCoherent_of_solved
    {session : Session}
    (solved : session.complaint = none → session.warning = none → session.isSolved = true)
    (shown : ∀ result, session.result = some result → IsShown result) :
    session.IsCoherent := by
  have solved_iff : session.isSolved = true ↔
      session.complaint = none ∧ session.warning = none :=
    ⟨complaint_warning_of_isSolved, fun ⟨accepted, follows⟩ => solved accepted follows⟩
  refine ⟨?_, solved_iff, ?_, fun solved _ => result_of_isSolved solved, shown⟩
  · rw [message]
    split
    · rfl
    · rfl
    · rename_i accepted follows
      rw [if_pos (solved accepted follows)]
      rfl
  · rw [solved_iff, message]
    split
    · rename_i complaint found
      simp [found, complaint.message_ne_solved]
    · rename_i warning accepted found
      simp [found, warning.message_ne_solved]
    · rename_i accepted follows
      simp [accepted, follows, solved accepted follows]

/-- Typing makes a session coherent, provided that the result before was as it is shown. -/
theorem isCoherent_type
    {session : Session}
    (shown : ∀ result, session.result = some result → IsShown result)
    (text : String) :
    (session.type text).IsCoherent := by
  rw [Session.type]
  dsimp only
  split
  · rename_i empty
    refine isCoherent_of_solved (fun _ follows => ?_) (fun result found => ?_)
    · simp [warningOn, empty] at follows
    · cases found
  · split
    · rename_i reading _
      refine isCoherent_of_solved (fun accepted follows => ?_) ?_
      · dsimp only at accepted follows
        obtain ⟨typed, -, -, reached⟩ := of_warningOn_eq_none follows
        obtain ⟨-, whole⟩ := noPoint_of_complaintOn accepted
        simp only [isSolved, typed, accepted, follows, whole]
        cases target : session.target with
        | none => rfl
        | some number => simp [reached number reading target rfl]
      · intro result found
        cases found
        exact isShown_cut reading
    · refine isCoherent_of_solved (fun accepted => ?_) shown
      cases accepted

theorem isCoherent_start (target : Option Int) (settings : Settings) :
    (start target settings).IsCoherent :=
  isCoherent_of_solved (fun _ follows => nomatch follows) nofun

theorem IsCoherent.perform {session : Session} (coherent : session.IsCoherent)
    (action : Action) :
    (session.perform action).IsCoherent := by
  rw [perform_eq]
  apply isCoherent_type
  exact coherent.shown

theorem IsCoherent.run {session : Session} (coherent : session.IsCoherent)
    (actions : List Action) :
    (session.run actions).IsCoherent := by
  induction actions generalizing session with
  | nil => exact coherent
  | cons action actions inductionHypothesis =>
      rw [Session.run, List.foldl_cons]
      exact inductionHypothesis (coherent.perform action)

end Session

namespace Staircase

theorem isCoherent_perform {stairs : Staircase} (coherent : stairs.session.IsCoherent)
    (action : Action) :
    (stairs.perform action).session.IsCoherent := by
  cases action with
  | type text =>
      rw [perform, session_type]
      exact Session.isCoherent_type coherent.shown text
  | typeAnswer =>
      rw [perform, typeAnswer, session_type]
      exact Session.isCoherent_type coherent.shown _
  | move steps =>
      by_cases stays : stairs.targetAfter steps = stairs.target
      · rw [perform, move, if_pos stays]
        exact coherent
      · rw [perform, session_move stays]
        apply Session.isCoherent_type
        exact coherent.shown

theorem isCoherent_run {stairs : Staircase} (coherent : stairs.session.IsCoherent)
    (actions : List Action) :
    (stairs.run actions).session.IsCoherent := by
  induction actions generalizing stairs with
  | nil => exact coherent
  | cons action actions inductionHypothesis =>
      rw [run, List.foldl_cons]
      exact inductionHypothesis (isCoherent_perform coherent action)

end Staircase

/-- In every state of a session, and in that of every state of the staircase, what is shown
fits together. -/
theorem run_start_isCoherent :
    (∀ (target : Option Int) (settings : Settings) (actions : List Session.Action),
      ((Session.start target settings).run actions).IsCoherent) ∧
    (∀ (settings : Settings) (actions : List Staircase.Action),
      ((Staircase.start settings).run actions).session.IsCoherent) := by
  constructor
  · intro target settings actions
    exact (Session.isCoherent_start target settings).run actions
  · intro settings actions
    exact Staircase.isCoherent_run (Session.isCoherent_start (some lowestTarget) settings) actions

end Puzzle
end FourFours
