import FourFours.Proofs.CommandLine.Arguments
import FourFours.Proofs.CommandLine.Lines
import FourFours.Proofs.Puzzle.History

/-!
# Dialogues

A dialogue that has not been quit goes on from the session it has reached, and nothing but
that session carries over to the lines that follow. To aim elsewhere leads to the session in
which a dialogue with that target starts, whatever has been typed before. So from there on a
dialogue is the same as one started with the target on the command line.
-/

namespace FourFours
namespace CommandLine

open Puzzle (Session)

namespace Dialogue

/-- Whether a dialogue goes on behind some line: the line is a text, and not the command to
quit. -/
def GoesOn (typed : Option String) : Prop :=
  ∃ text, typed = some text ∧ Line.read text ≠ .ok .quit

/-- Every line but the command to quit leads to a session with the same settings. -/
theorem respond_of_ne_quit
    (session : Session)
    {text : String}
    (stays : Line.read text ≠ .ok .quit) :
    ∃ reply next, respond session text = (reply, some next) ∧
      next.settings = session.settings := by
  rw [respond]
  cases read : Line.read text with
  | error fault => exact ⟨_, _, rfl, rfl⟩
  | ok line =>
      cases line with
      | quit => exact absurd read stays
      | blank => exact ⟨_, _, rfl, rfl⟩
      | answer => exact ⟨_, _, rfl, rfl⟩
      | expression typed => exact ⟨_, _, rfl, session.settings_type typed⟩
      | aim target => exact ⟨_, _, rfl, Session.settings_type { session with target } ""⟩

/-- What is shown from a line on that leads to some session. -/
theorem transcript_cons
    {session next : Session}
    {text reply : String}
    (responds : respond session text = (reply, some next))
    (rest : List (Option String)) :
    transcript session (some text :: rest) =
      (prompt session ++ reply ++ (transcript next rest).1, (transcript next rest).2) := by
  rw [transcript, responds]

/-- Behind lines that do not end it, a dialogue goes on from the session that they lead to,
with the same settings. -/
theorem transcript_append
    {lines : List (Option String)}
    (goOn : ∀ typed ∈ lines, GoesOn typed)
    (session : Session) :
    ∃ shown last, last.settings = session.settings ∧
      ∀ rest, transcript session (lines ++ rest) =
        (shown ++ (transcript last rest).1, (transcript last rest).2) := by
  induction lines generalizing session with
  | nil => exact ⟨"", session, rfl, fun rest => by simp⟩
  | cons typed lines inductionHypothesis =>
      obtain ⟨⟨text, rfl, stays⟩, goOnRest⟩ := List.forall_mem_cons.mp goOn
      obtain ⟨reply, next, responds, next_settings⟩ := respond_of_ne_quit session stays
      obtain ⟨shown, last, last_settings, continued⟩ := inductionHypothesis goOnRest next
      refine ⟨prompt session ++ reply ++ shown, last, last_settings.trans next_settings, ?_⟩
      intro rest
      rw [List.cons_append, transcript_cons responds, continued]
      simp only [String.append_assoc]

/-- To aim at a target leads to the session in which a dialogue with that target starts. -/
theorem aim_eq_start (session : Session) (target : Option Int) :
    session.aim target = Session.start target session.settings := rfl

/-- From the command that aims at a target on, a dialogue shows what it shows when it starts
with that target. -/
theorem transcript_aim
    (session : Session)
    (target : Option Target)
    (rest : List (Option String)) :
    let fresh := transcript (Session.start (target.map (·.val)) session.settings) rest
    transcript session (some (aimCommand target) :: rest) =
      (prompt session ++ fresh.1, fresh.2) := by
  have responds : respond session (aimCommand target) =
      ("", some (session.aim (target.map (·.val)))) := by
    rw [respond, read_aimCommand]
  rw [transcript_cons responds, String.append_empty, aim_eq_start]

end Dialogue

/-- The outcome of a dialogue in the parts of its transcript. -/
theorem converse_eq (options : Options) (lines : List (Option String)) :
    let transcript := Dialogue.transcript (Session.start options.target options.settings) lines
    converse options lines =
      ⟨transcript.1, if transcript.2 then "" else inputFault ++ "\n",
        if transcript.2 then 0 else 1⟩ := by
  rw [converse]
  rcases Dialogue.transcript (Session.start options.target options.settings) lines with
    ⟨out, complete⟩
  cases complete <;> rfl

/-- The option that sets the target. -/
def WrittenOption.aim (target : Target) : WrittenOption where
  name := .target
  spelling := "--cible"
  named := rfl
  value := toString target.val
  joined := false
  long_of_joined := nofun
  request := .target target.val
  set_eq options := by rw [Options.set, readTarget?_toString]; rfl

/-- Whether a target is asked for. -/
def Request.isTarget : Request → Bool
  | .target _ => true
  | _ => false

namespace Written

/-- A command line with another target, or without one, and otherwise the same options. -/
def aimedAt (line : Written) (target : Option Target) : Written :=
  ⟨line.pieces.filter (!·.request.isTarget) ++
    (target.map fun target => Piece.option (.aim target)).toList, line.verbatim⟩

theorem options_aimedAt (line : Written) (target : Option Target) :
    (line.aimedAt target).options = { line.options with target := target.map (·.val) } := by
  have untargeted :
      Options.empty.addAll ((line.pieces.filter (!·.request.isTarget)).map Piece.request) =
        { Options.empty.addAll (line.pieces.map Piece.request) with target := none } := by
    have filtered := Options.addAll_filter (!·.isTarget)
      (fun options => { options with target := none })
      (fun _ request kept => by cases request <;> first | rfl | contradiction)
      (fun _ request dropped => by cases request <;> first | rfl | contradiction)
      .empty (line.pieces.map Piece.request)
    rw [← filtered, List.filter_map]
    rfl
  rw [options, options, requests, requests, Options.addAll_append, Options.addAll_append,
    aimedAt, List.map_append, Options.addAll_append, untargeted, verbatimTexts,
    Options.addAll_expressions, Options.addAll_expressions]
  cases target <;> rfl

/-- Whether a command line starts a dialogue: it asks for no items and not for help, and in at
most one style. -/
structure IsDialogue (line : Written) : Prop where
  exclusive : (line.options.markup && line.options.workings) = false
  noHelp : line.options.help = false
  interactive : line.options.isInteractive = true

variable {line : Written}

theorem IsDialogue.run_eq (isDialogue : line.IsDialogue) (input : List UInt8) :
    run line.arguments input = converse line.options (inputLines input) := by
  rw [run, readOptions_arguments, isDialogue.exclusive]
  simp [isDialogue.noHelp, isDialogue.interactive]

theorem IsDialogue.aimedAt (isDialogue : line.IsDialogue) (target : Option Target) :
    (line.aimedAt target).IsDialogue := by
  obtain ⟨exclusive, noHelp, interactive⟩ := isDialogue
  constructor <;> rw [options_aimedAt]
  · exact exclusive
  · exact noHelp
  · exact interactive

/-- A command line that aims at 5. -/
def aimedAtFive : Written :=
  ⟨[.option (.aim ⟨5, by decide⟩)], none⟩

end Written

end CommandLine
end FourFours
