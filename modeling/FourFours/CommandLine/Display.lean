import FourFours.Calculator
import FourFours.CommandLine.Options

/-!
# Displayed results

What the command line shows for an expression: its value, its markup, or the stages of
its evaluation. The markup needs no value, so an expression that cannot be evaluated
still has one.
-/

namespace FourFours
namespace CommandLine

/-- How a result is displayed. -/
structure Style where
  markup : Bool
  workings : Bool
  deriving DecidableEq, Repr

/-- The style that the options ask for. -/
def Options.style (options : Options) : Style :=
  ⟨options.markup, options.workings⟩

/-- The settings that the options ask for. -/
def Options.settings (options : Options) : Settings :=
  match options.digits with
  | some digits => Settings.standard.withReadingDigits digits
  | none => .standard

/-- The stages of an evaluation, each on a line of its own. -/
def displayWorkings (text : String) (workings : Calculator.Workings) : String :=
  "entrée   : " ++ text ++
  "\nnormalisé: " ++ workings.normal ++
  "\njetons   : " ++ workings.tokens ++
  "\narbre    : " ++ workings.tree ++
  "\nexact    : " ++ workings.exact ++
  "\nvaleur   : " ++ workings.reading

/-- What is displayed for a typed text. -/
def display (style : Style) (settings : Settings) (text : String) :
    Except Fault String := do
  if style.markup then
    return (← Expr.read text).markup
  else if style.workings then
    return displayWorkings text (← Calculator.workings settings text)
  else
    return text ++ " = " ++ (← Calculator.evaluate settings text)

end CommandLine
end FourFours
