import FourFours.Calculator

/-!
# A session of the puzzle

The player types expressions and tries to reach a target with exactly four fours, or
plays freely without a target. A session shows what was typed, the result, and what is
wrong with either. What is typed replaces what was there before; only the result of an
earlier expression stays in view when a later one has none.
-/

namespace FourFours
namespace Puzzle

/-- Why a result does not count, or why there is none. -/
inductive Complaint
  | notInteger
  | tooLong
  | fault (cause : Fault)
  deriving DecidableEq, Repr

/-- A rule of the puzzle that an entry does not follow. -/
inductive Warning
  | nothingTyped
  | foreignDigit
  | notFourFours
  | otherResult
  deriving DecidableEq, Repr

namespace Complaint

/-- The wording of a complaint. -/
def message : Complaint → String
  | notInteger => "Result is not an integer"
  | tooLong => "Result is too long"
  | fault cause => cause.describe

end Complaint

namespace Warning

/-- The wording of a warning. -/
def message : Warning → String
  | nothingTyped => "Input something above"
  | foreignDigit => "Only the number 4 is allowed in the expression"
  | notFourFours => "You must use exactly four 4s in the expression"
  | otherResult => "Not match"

end Warning

/-- The most characters of a result that are shown. -/
def displayLength : Nat := 16

/-- A result cut to the length that is shown. -/
def cut (result : String) : String :=
  if result.length ≤ displayLength then
    result
  else
    String.ofList (result.toList.take displayLength) ++ "..."

/-- Whether a typed character is kept. -/
def isKept (c : Char) : Bool :=
  c.isDigit || "+-*/()!^.SsRr ".contains c

/-- The entry for a typed text: the characters that are kept, in upper case. -/
def entryOf (text : String) : String :=
  String.ofList ((text.toList.filter isKept).map Char.toUpper)

/-- The state of a session. -/
structure Session where
  /-- The number to reach, unless the player plays freely. -/
  target : Option Int
  /-- What the player has typed. -/
  entry : String
  /-- The last result, cut to the length that is shown. -/
  result : Option String
  complaint : Option Complaint
  warning : Option Warning
  settings : Settings
  deriving DecidableEq, Repr

namespace Session

/-- A session in which nothing has been typed. -/
def start (target : Option Int) (settings : Settings) : Session :=
  { target
    entry := ""
    result := none
    complaint := none
    warning := some .nothingTyped
    settings }

/-- What is wrong with the reading of an integer or decimal result. -/
def complaintOn (reading : String) : Option Complaint :=
  if reading.contains '.' then some .notInteger
  else if displayLength < reading.length then some .tooLong
  else none

/-- The first rule that an entry with a given reading does not follow. Without a reading
the target cannot be missed. -/
def warningOn (target : Option Int) (entry : String) (reading : Option String) :
    Option Warning :=
  if entry.isEmpty then
    some .nothingTyped
  else if entry.toList.any fun c => c.isDigit && c != '4' then
    some .foreignDigit
  else if entry.toList.count '4' ≠ 4 then
    some .notFourFours
  else
    match target, reading with
    | some target, some reading =>
        if reading = toString target then none else some .otherResult
    | _, _ => none

/-- The session after a text has been typed in place of the former entry. -/
def type (session : Session) (text : String) : Session :=
  let entry := entryOf text
  let session := { session with entry }
  if entry.isEmpty then
    { session with
      result := none
      complaint := none
      warning := warningOn session.target entry none }
  else
    match Calculator.evaluate session.settings entry with
    | .ok reading =>
        { session with
          result := some (cut reading)
          complaint := complaintOn reading
          warning := warningOn session.target entry (some reading) }
    | .error cause =>
        { session with
          complaint := some (.fault cause)
          warning := warningOn session.target entry none }

/-- The session after the entry has been wiped. -/
def wipe (session : Session) : Session :=
  session.type ""

/-- The session with another target, or without one, and the entry wiped. -/
def aim (session : Session) (target : Option Int) : Session :=
  { session with target }.wipe

/-- Whether the entry follows all rules and reaches the target. -/
def isSolved (session : Session) : Bool :=
  !session.entry.isEmpty && session.complaint.isNone && session.warning.isNone &&
    match session.target with
    | some target => session.result == some (toString target)
    | none => true

/-- What the player is told: a complaint before a warning, a warning before praise. -/
def message (session : Session) : Option String :=
  match session.complaint, session.warning with
  | some complaint, _ => some complaint.message
  | none, some warning => some warning.message
  | none, none => if session.isSolved then some "Solved!" else none

end Session
end Puzzle
end FourFours
