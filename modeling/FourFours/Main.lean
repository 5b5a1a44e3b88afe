import FourFours.CommandLine.Program

/-!
# Entry point

Runs the program on the arguments and the standard input. In interactive mode a line is
read only after the prompt for it has been written.
-/

namespace FourFours
namespace CommandLine

/-- Write the outcome of a run and return its status. -/
def report (outcome : Outcome) : IO UInt32 := do
  (← IO.getStdout).putStr outcome.out
  (← IO.getStderr).putStr outcome.err
  return outcome.status.toUInt32

/-- Read the bytes up to the next line feed or the end of the input, behind the part of
the line that is already read. -/
partial def readLine (input : IO.FS.Stream) (line : ByteArray) : IO ByteArray := do
  let byte ← input.read 1
  match byte.toList with
  | [] => return line
  | [10] => return line ++ byte
  | _ => readLine input (line ++ byte)

/-- Prompt for lines and reply to them until the input ends or the player quits. -/
partial def converseOn (session : Puzzle.Session) : IO UInt32 := do
  let out ← IO.getStdout
  out.putStr (Dialogue.prompt session)
  out.flush
  let line ← readLine (← IO.getStdin) .empty
  match inputLines line.toList with
  | some line :: _ =>
      let (reply, next) := Dialogue.respond session line
      out.putStr reply
      match next with
      | some session => converseOn session
      | none => return 0
  | none :: _ => report (.failure inputFault)
  | [] => return 0

/-- Run the program on its arguments. -/
def runOn (arguments : List String) : IO UInt32 := do
  match readOptions arguments with
  | .ok options =>
      if !options.help && options.isInteractive then
        converseOn (.start options.target options.settings)
      else
        report (run arguments [])
  | .error _ => report (run arguments [])

end CommandLine
end FourFours

/-- The program. -/
def main (arguments : List String) : IO UInt32 :=
  FourFours.CommandLine.runOn arguments
