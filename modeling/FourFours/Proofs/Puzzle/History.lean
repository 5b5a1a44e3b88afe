import FourFours.Proofs.Puzzle.Verdict
import Mathlib.Data.List.Induction

/-!
# What a session remembers

A run of a session is a list of actions of its player. Whatever the player does, it comes
down to a target and a text typed for it: to wipe the entry or to aim elsewhere is to type
the empty text. The session after a run is the fresh one for the last target with the last
text typed in it, but for the result in view. That is the latest reading since the entry
was last empty, so a text without a reading leaves the former result where it is.
-/

namespace FourFours
namespace Puzzle

/-- The reading of a typed text, if its entry has one. -/
def readingOf? (settings : Settings) (text : String) : Option String :=
  (Calculator.evaluate settings (entryOf text)).toOption

/-- The latest reading since the entry was last empty, of texts listed from the latest to
the earliest. -/
def latestReading? (settings : Settings) (texts : List String) : Option String :=
  (texts.takeWhile fun text => !(entryOf text).isEmpty).findSome? (readingOf? settings)

namespace Session

/-- What a player can do in a session. -/
inductive Action
  | type (text : String)
  | wipe
  | aim (target : Option Int)
  deriving DecidableEq, Repr

namespace Action

/-- The text that an action puts in place of the entry. -/
def text : Action → String
  | type text => text
  | wipe | aim _ => ""

/-- The target after an action, from the target before it. -/
def retarget (target : Option Int) : Action → Option Int
  | type _ | wipe => target
  | aim target => target

end Action

/-- The session after an action. -/
def perform (session : Session) : Action → Session
  | .type text => session.type text
  | .wipe => session.wipe
  | .aim target => session.aim target

/-- The session after some actions in a row. -/
def run (session : Session) (actions : List Action) : Session :=
  actions.foldl perform session

/-- The texts that some actions put in place of the entry, from the latest to the earliest. -/
def texts (actions : List Action) : List String :=
  (actions.map Action.text).reverse

/-- The result in view after a text has been typed, from the result before. -/
def resultAfter (settings : Settings) (result : Option String) (text : String) :
    Option String :=
  if (entryOf text).isEmpty then none
  else ((readingOf? settings text).map cut).or result

/-- Of what was there before, typing keeps the target, the settings, and the result if the
text has no reading. -/
theorem type_eq (session : Session) (text : String) :
    session.type text =
      { (start session.target session.settings).type text with
        result := resultAfter session.settings session.result text } := by
  simp only [Session.type, start, resultAfter, readingOf?]
  split
  · rfl
  · cases Calculator.evaluate session.settings (entryOf text) <;> rfl

/-- Every action types a text, for a target. -/
theorem perform_eq (session : Session) (action : Action) :
    session.perform action =
      { session with target := action.retarget session.target }.type action.text := by
  cases action <;> rfl

theorem settings_type (session : Session) (text : String) :
    (session.type text).settings = session.settings := by
  rw [Session.type]
  dsimp only
  split
  · rfl
  · split <;> rfl

/-- The latest reading moves into view, and goes out of view with an empty entry. -/
theorem resultAfter_latestReading? (settings : Settings) (text : String) (earlier : List String) :
    resultAfter settings ((latestReading? settings earlier).map cut) text =
      (latestReading? settings (text :: earlier)).map cut := by
  rw [resultAfter, latestReading?, latestReading?, List.takeWhile_cons]
  cases (entryOf text).isEmpty with
  | true => rfl
  | false =>
      cases found : readingOf? settings text <;> simp [found]

/-- The target after some actions. -/
def lastTarget (target : Option Int) (actions : List Action) : Option Int :=
  actions.foldl Action.retarget target

/-- The last text that some actions put in place of the entry. Nothing has been typed before
the first action. -/
def lastText (actions : List Action) : String :=
  (texts actions).headD ""

/-- After a run, everything but the result in view is what the last text gives in a fresh
session for the last target. The result in view is the latest reading since the entry was
last empty, cut to the length that is shown. -/
theorem run_start_eq (target : Option Int) (settings : Settings) (actions : List Action) :
    (start target settings).run actions =
      { (start (lastTarget target actions) settings).type (lastText actions) with
        result := (latestReading? settings (texts actions)).map cut } := by
  induction actions using List.reverseRecOn with
  | nil => rfl
  | append_singleton actions action inductionHypothesis =>
      have texts_append : texts (actions ++ [action]) = action.text :: texts actions := by
        simp [texts]
      have text_append : lastText (actions ++ [action]) = action.text := by
        rw [lastText, texts_append, List.headD_cons]
      have target_append : lastTarget target (actions ++ [action]) =
          action.retarget (lastTarget target actions) := by
        simp [lastTarget]
      have run_append : (start target settings).run (actions ++ [action]) =
          ((start target settings).run actions).perform action := by
        simp [run]
      rw [run_append, inductionHypothesis, perform_eq, type_eq, text_append, texts_append,
        target_append, ← resultAfter_latestReading?]
      simp only [target_type, settings_type, start]

end Session
end Puzzle
end FourFours
