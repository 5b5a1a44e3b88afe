import FourFours.Answers
import FourFours.Puzzle.Session

/-!
# The staircase

The targets from 1 to 3000 form a staircase on which the player moves up and down. The
last entry typed on every step is remembered, and typed again when the player returns.
-/

namespace FourFours
namespace Puzzle

/-- The lowest target of the staircase. -/
def lowestTarget : Int := 1

/-- The highest target of the staircase. -/
def highestTarget : Int := 3000

/-- The remembered entries, one for each target on which something was typed. -/
abbrev Memory := List (Int × String)

namespace Memory

/-- The entry remembered for a target, empty if there is none. -/
def entryFor (memory : Memory) (target : Int) : String :=
  (memory.lookup target).getD ""

/-- Remember an entry for a target in place of any earlier one. -/
def remember (memory : Memory) (target : Int) (entry : String) : Memory :=
  (target, entry) :: memory.filter fun item => item.1 != target

end Memory

/-- The state of the staircase: the session of the current target and the memory. -/
structure Staircase where
  session : Session
  memory : Memory
  deriving DecidableEq, Repr

namespace Staircase

/-- The foot of the staircase, with nothing typed. -/
def start (settings : Settings) : Staircase :=
  ⟨.start (some lowestTarget) settings, []⟩

/-- The current target; without one the player stands on the lowest step. -/
def target (stairs : Staircase) : Int :=
  stairs.session.target.getD lowestTarget

/-- The staircase after a text has been typed on the current step. -/
def type (stairs : Staircase) (text : String) : Staircase :=
  let session := stairs.session.type text
  ⟨session, stairs.memory.remember (stairs.target) session.entry⟩

/-- The target a number of steps away, kept between the two ends of the staircase. -/
def targetAfter (stairs : Staircase) (steps : Int) : Int :=
  max lowestTarget (min highestTarget (stairs.target + steps))

/-- The staircase after a move by a number of steps. A move that ends where it began
changes nothing; any other types the entry remembered for the new target. -/
def move (stairs : Staircase) (steps : Int) : Staircase :=
  let target := stairs.targetAfter steps
  if target = stairs.target then
    stairs
  else
    let session := { stairs.session with target := some target }
    { stairs with session := session.type (stairs.memory.entryFor target) }

/-- The staircase after the known answer for the current target has been typed. -/
def typeAnswer (stairs : Staircase) : Staircase :=
  stairs.type ((Answers.known? stairs.target).getD "")

/-- Whether an entry typed in a fresh session solves a target. -/
def solves (settings : Settings) (target : Int) (entry : String) : Bool :=
  ((Session.start (some target) settings).type entry).isSolved

/-- The number of targets that their remembered entries solve. -/
def solvedCount (stairs : Staircase) : Nat :=
  stairs.memory.countP fun (target, entry) =>
    solves stairs.session.settings target entry

end Staircase
end Puzzle
end FourFours
