import FourFours.CommandLine.Dialogue
import FourFours.CommandLine.Display

/-!
# The program

What the program writes for its arguments and its input, and with which status it ends:
0 for success, 1 if an item of the command line has no result or the input is no text, 2
for a mistake in the arguments.
-/

namespace FourFours
namespace CommandLine

/-- What a run of the program writes, and its exit status. -/
structure Outcome where
  out : String
  err : String
  status : Nat
  deriving DecidableEq, Repr

namespace Outcome

/-- An outcome with nothing written. -/
def silent : Outcome :=
  ⟨"", "", 0⟩

/-- One outcome after another; a failure of either is a failure of both. -/
def andThen (first second : Outcome) : Outcome :=
  ⟨first.out ++ second.out, first.err ++ second.err, max first.status second.status⟩

/-- A line on the standard output. -/
def line (text : String) : Outcome :=
  ⟨text ++ "\n", "", 0⟩

/-- A line on the standard error, and a failure. -/
def failure (text : String) : Outcome :=
  ⟨"", text ++ "\n", 1⟩

end Outcome

/-- The bytes of each line, without a line feed or a carriage return and line feed at
its end. The last line need not be ended. -/
def splitLines (bytes : List UInt8) : List (List UInt8) :=
  linesFrom [] bytes
where
  /-- The lines of some bytes behind the part of a line that is already read, in
  reverse. -/
  linesFrom (line : List UInt8) : List UInt8 → List (List UInt8)
    | [] => if line.isEmpty then [] else [line.reverse]
    | 10 :: bytes => (ended line).reverse :: linesFrom [] bytes
    | byte :: bytes => linesFrom (byte :: line) bytes
  /-- A reversed line without the carriage return at its end. -/
  ended : List UInt8 → List UInt8
    | 13 :: line => line
    | line => line

/-- The lines of the input, each as a text if it is well formed. -/
def inputLines (bytes : List UInt8) : List (Option String) :=
  (splitLines bytes).map fun line => String.fromUTF8? line.toByteArray

/-- What is written when a line of the input is no text. -/
def inputFault : String := "stream did not contain valid UTF-8"

/-- Show the known answer for a target. -/
def showAnswer (target : Int) : Outcome :=
  match Answers.known? target with
  | some expression => .line (toString target ++ " = " ++ expression)
  | none => .failure (toString target ++ ": no known answer")

/-- Show the result of an expression. -/
def showExpression (options : Options) (text : String) : Outcome :=
  match display options.style options.settings text with
  | .ok result => .line result
  | .error fault => .failure (text ++ ": " ++ fault.describe)

/-- Show all answers and results that the options ask for. -/
def batch (options : Options) : Outcome :=
  (options.answers.map showAnswer ++ options.expressions.map (showExpression options)).foldl
    .andThen .silent

/-- Hold the dialogue over the lines of the input. -/
def converse (options : Options) (lines : List (Option String)) : Outcome :=
  let session := Puzzle.Session.start options.target options.settings
  match Dialogue.transcript session lines with
  | (out, true) => ⟨out, "", 0⟩
  | (out, false) => ⟨out, inputFault ++ "\n", 1⟩

/-- Whether the options ask for a dialogue and not for single results. -/
def Options.isInteractive (options : Options) : Bool :=
  options.expressions.isEmpty && options.answers.isEmpty

/-- The outcome of a mistake in the arguments. -/
def misuse (fault : UsageFault) : Outcome :=
  ⟨"", fault.message ++ "\n\n" ++ usage ++ "\n", 2⟩

/-- The outcome of the program for its arguments and the bytes of its input. -/
def run (arguments : List String) (input : List UInt8) : Outcome :=
  match readOptions arguments with
  | .error fault => misuse fault
  | .ok options =>
      if options.help then .line usage
      else if options.isInteractive then converse options (inputLines input)
      else batch options

end CommandLine
end FourFours
