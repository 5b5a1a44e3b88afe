import FourFours.Answers
import FourFours.CommandLine.Options
import FourFours.Puzzle.Session
import FourFours.Text.WhiteSpace

/-!
# The interactive dialogue

In interactive mode the program prompts for a line, replies to it and prompts again,
until the input ends or the player quits. A line is an expression, typed into a session
of the puzzle, or a command behind a colon.
-/

namespace FourFours
namespace CommandLine

open Puzzle (Session)

/-- A line of the dialogue. -/
inductive Line
  | blank
  | expression (text : String)
  /-- Aim at another target, or at none. -/
  | aim (target : Option Int)
  /-- Ask for the known answer for the target. -/
  | answer
  | quit
  deriving DecidableEq, Repr

namespace Line

/-- The command made of some words. The line is shown if there is no such command. -/
def ofWords (line : String) : List String → Except UsageFault Line
  | ["cible", target] =>
      match readTarget? target with
      | some n => .ok (.aim (some n))
      | none => .error (.badTarget target)
  | ["libre"] => .ok (.aim none)
  | ["reponse"] => .ok .answer
  | ["quitter"] | ["q"] => .ok .quit
  | _ => .error (.unknownCommand line)

/-- The line a player has typed. -/
def read (typed : String) : Except UsageFault Line :=
  match Text.trim typed.toList with
  | [] => .ok .blank
  | ':' :: command =>
      ofWords (String.ofList (':' :: command)) ((Text.words command).map String.ofList)
  | text => .ok (.expression (String.ofList text))

end Line

namespace Dialogue

/-- The prompt of a session. -/
def prompt (session : Session) : String :=
  match session.target with
  | some target => "[" ++ toString target ++ "] > "
  | none => "> "

/-- The reply to the question for an answer. -/
def answerReply (session : Session) : String :=
  match session.target with
  | some target =>
      (Answers.known? target).getD ("no known answer for " ++ toString target) ++ "\n"
  | none => "no target (use :cible N)\n"

/-- The reply to an expression that has just been typed. -/
def sessionReply (session : Session) : String :=
  let result := match session.result with
    | some result => "= " ++ result ++ "\n"
    | none => ""
  let message := match session.message with
    | some message => message ++ "\n"
    | none => ""
  result ++ message

/-- The reply to a line and the session that goes on; none goes on if the player
quits. -/
def respond (session : Session) (typed : String) : String × Option Session :=
  match Line.read typed with
  | .ok .blank => ("", some session)
  | .ok .quit => ("", none)
  | .ok (.aim target) => ("", some (session.aim target))
  | .ok .answer => (answerReply session, some session)
  | .ok (.expression text) =>
      let session := session.type text
      (sessionReply session, some session)
  | .error fault => (fault.message ++ "\n", some session)

/-- What the dialogue shows from its first prompt on, and whether it reads all lines. A
line that is no text breaks it off. -/
def transcript (session : Session) : List (Option String) → String × Bool
  | [] => (prompt session, true)
  | none :: _ => (prompt session, false)
  | some line :: lines =>
      match respond session line with
      | (reply, some next) =>
          let (rest, complete) := transcript next lines
          (prompt session ++ reply ++ rest, complete)
      | (reply, none) => (prompt session ++ reply, true)

end Dialogue
end CommandLine
end FourFours
