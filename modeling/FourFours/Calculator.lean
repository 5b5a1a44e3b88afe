import FourFours.Evaluation
import FourFours.Expr.Markup
import FourFours.Expr.Parser
import FourFours.Reading
import FourFours.Token.Lexer

/-!
# The calculator

From a typed text to its tree, its exact value, its decimal reading and its markup. The
calculator keeps no state: each answer depends on the text and the settings alone.
-/

namespace FourFours

namespace Expr

/-- The tree of a text in normal form. -/
def parse (normal : List Char) : Except Fault Expr := do
  ofTokens (← Token.tokenize normal)

/-- The tree of a typed text. -/
def read (text : String) : Except Fault Expr := do
  parse (← Token.normalize text.toList)

/-- The decimal reading of the value of a tree. -/
def reading (settings : Settings) (x : Expr) : Except Fault String := do
  Reading.ofValue settings (← x.value settings)

end Expr

namespace Calculator

/-- The decimal reading of the value of a typed text. -/
def evaluate (settings : Settings) (text : String) : Except Fault String := do
  (← Expr.read text).reading settings

/-- The markup of a typed text, empty if the text is no expression. -/
def markup (text : String) : String :=
  match Expr.read text with
  | .ok x => x.markup
  | .error _ => ""

/-- The stages of an evaluation. -/
structure Workings where
  /-- The normal form of the text. -/
  normal : String
  /-- Its tokens, separated by spaces. -/
  tokens : String
  /-- The bracketed text of the tree. -/
  tree : String
  /-- The exact form of the value. -/
  exact : String
  /-- The decimal reading of the value. -/
  reading : String
  deriving DecidableEq, Repr

/-- The stages of the evaluation of a typed text. -/
def workings (settings : Settings) (text : String) : Except Fault Workings := do
  let normal ← Token.normalize text.toList
  let tokens ← Token.tokenize normal
  let x ← Expr.ofTokens tokens
  let v ← x.value settings
  let reading ← Reading.ofValue settings v
  return {
    normal := String.ofList normal
    tokens := String.ofList (Token.display tokens)
    tree := x.text
    exact := v.text
    reading }

end Calculator
end FourFours
