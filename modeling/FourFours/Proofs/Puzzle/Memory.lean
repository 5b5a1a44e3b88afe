import FourFours.Proofs.Puzzle.Verdict
import FourFours.Puzzle.Staircase

/-!
# What the staircase remembers

The entry of the current session and the one remembered for its target are two copies of
one text, kept by different actions: typing stores the entry that has been filtered, and a
move types a stored entry and hence filters it again. They agree throughout, as an entry
that has been filtered once is not changed by filtering. A move never touches the memory,
and typing changes what is remembered for the current target alone.
-/

namespace FourFours
namespace Puzzle

namespace Memory

theorem lookup_filter_of_ne {target target' : Int} (different : target' ≠ target)
    (memory : Memory) :
    (memory.filter fun item => item.1 != target).lookup target' = memory.lookup target' := by
  induction memory with
  | nil => rfl
  | cons item memory inductionHypothesis =>
      obtain ⟨stored, entry⟩ := item
      by_cases equal : stored = target
      · simp [equal, List.lookup_cons, beq_false_of_ne different, inductionHypothesis]
      · simp [equal, List.lookup_cons, inductionHypothesis]

/-- Remembering an entry changes what is found for its target alone. -/
theorem lookup_remember (memory : Memory) (target target' : Int) (entry : String) :
    (memory.remember target entry).lookup target' =
      if target' = target then some entry else memory.lookup target' := by
  rw [remember, List.lookup_cons]
  split
  · rename_i equal
    simp [beq_iff_eq.mp equal]
  · rename_i different
    rw [if_neg (by simpa using different), lookup_filter_of_ne (by simpa using different)]

/-- An entry found for a target is one of those remembered. -/
theorem mem_of_lookup {memory : Memory} {target : Int} {entry : String}
    (found : memory.lookup target = some entry) : (target, entry) ∈ memory := by
  obtain ⟨before, behind, equal, -⟩ := List.lookup_eq_some_iff.mp found
  simp [equal]

end Memory

namespace Staircase

/-- What a player can do on the staircase. -/
inductive Action
  | type (text : String)
  | move (steps : Int)
  | typeAnswer
  deriving DecidableEq, Repr

/-- The staircase after an action. -/
def perform (stairs : Staircase) : Action → Staircase
  | .type text => stairs.type text
  | .move steps => stairs.move steps
  | .typeAnswer => stairs.typeAnswer

/-- The staircase after some actions in a row. -/
def run (stairs : Staircase) (actions : List Action) : Staircase :=
  actions.foldl perform stairs

/-- The player stands on the staircase, where the entry is the one remembered. -/
structure IsConsistent (stairs : Staircase) : Prop where
  aimed : ∃ target, stairs.session.target = some target ∧
    lowestTarget ≤ target ∧ target ≤ highestTarget
  keys : ∀ item ∈ stairs.memory, lowestTarget ≤ item.1 ∧ item.1 ≤ highestTarget
  /-- What is remembered has been filtered, so typing it again does not change it. -/
  entries : ∀ item ∈ stairs.memory, entryOf item.2 = item.2
  entry : stairs.session.entry = stairs.memory.entryFor stairs.target

/-- A move that ends elsewhere types what is remembered for the new target. -/
theorem session_move {stairs : Staircase} {steps : Int}
    (moves : stairs.targetAfter steps ≠ stairs.target) :
    (stairs.move steps).session =
      ({ stairs.session with target := some (stairs.targetAfter steps) } : Session).type
        (stairs.memory.entryFor (stairs.targetAfter steps)) := by
  rw [move, if_neg moves]

theorem memory_move (stairs : Staircase) (steps : Int) :
    (stairs.move steps).memory = stairs.memory := by
  rw [move]
  dsimp only
  split <;> rfl

theorem session_type (stairs : Staircase) (text : String) :
    (stairs.type text).session = stairs.session.type text := by
  rw [type]

theorem target_type (stairs : Staircase) (text : String) :
    (stairs.type text).target = stairs.target := by
  rw [target, session_type, Session.target_type]
  rfl

theorem target_move (stairs : Staircase) (steps : Int) :
    (stairs.move steps).target = stairs.targetAfter steps := by
  rw [move]
  dsimp only
  split
  · rename_i stays
    exact stays.symm
  · rw [target, Session.target_type]
    rfl

/-- Typing changes what is remembered for the current target alone. -/
theorem lookup_type (stairs : Staircase) (text : String) (target : Int) :
    (stairs.type text).memory.lookup target =
      if target = stairs.target then some (entryOf text) else stairs.memory.lookup target := by
  rw [type, Memory.lookup_remember, Session.entry_type]

theorem isConsistent_start (settings : Settings) : (start settings).IsConsistent where
  aimed := ⟨lowestTarget, rfl, by decide⟩
  keys := nofun
  entries := nofun
  entry := rfl

theorem IsConsistent.type {stairs : Staircase} (consistent : stairs.IsConsistent)
    (text : String) :
    (stairs.type text).IsConsistent := by
  obtain ⟨target, aimed, bounds⟩ := consistent.aimed
  have current : stairs.target = target := by rw [Staircase.target, aimed]; rfl
  have remembered {item : Int × String} (member : item ∈ (stairs.type text).memory) :
      item = (target, entryOf text) ∨ item ∈ stairs.memory := by
    rw [Staircase.type, Memory.remember, Session.entry_type, current, List.mem_cons] at member
    exact member.imp_right List.mem_of_mem_filter
  constructor
  · rw [session_type, Session.target_type]
    exact ⟨target, aimed, bounds⟩
  · intro item member
    rcases remembered member with rfl | member
    · exact bounds
    · exact consistent.keys item member
  · intro item member
    rcases remembered member with rfl | member
    · exact entryOf_entryOf text
    · exact consistent.entries item member
  · rw [Memory.entryFor, target_type, lookup_type, if_pos rfl, session_type, Session.entry_type]
    rfl

/-- What is remembered for a target is an entry. -/
theorem IsConsistent.entryOf_entryFor {stairs : Staircase} (consistent : stairs.IsConsistent)
    (target : Int) :
    entryOf (stairs.memory.entryFor target) = stairs.memory.entryFor target := by
  rw [Memory.entryFor]
  cases found : stairs.memory.lookup target with
  | none => rfl
  | some entry => exact consistent.entries (target, entry) (Memory.mem_of_lookup found)

theorem targetAfter_bounds (stairs : Staircase) (steps : Int) :
    lowestTarget ≤ stairs.targetAfter steps ∧ stairs.targetAfter steps ≤ highestTarget := by
  have ordered : lowestTarget ≤ highestTarget := by decide
  rw [targetAfter]
  omega

theorem IsConsistent.move {stairs : Staircase} (consistent : stairs.IsConsistent)
    (steps : Int) :
    (stairs.move steps).IsConsistent := by
  by_cases stays : stairs.targetAfter steps = stairs.target
  · rw [Staircase.move, if_pos stays]
    exact consistent
  · have moved := session_move stays
    constructor
    · rw [moved, Session.target_type]
      exact ⟨_, rfl, stairs.targetAfter_bounds steps⟩
    · rw [memory_move]
      exact consistent.keys
    · rw [memory_move]
      exact consistent.entries
    · rw [moved, Session.entry_type, memory_move, target_move, consistent.entryOf_entryFor]

theorem isConsistent_run (settings : Settings) (actions : List Action) :
    ((start settings).run actions).IsConsistent := by
  refine List.foldlRecOn actions perform (isConsistent_start settings) ?_
  intro stairs consistent action _
  cases action with
  | type text => exact consistent.type text
  | move steps => exact consistent.move steps
  | typeAnswer => exact consistent.type _

/-- In every state of the staircase the player stands on one of its steps, the entry is the
one remembered for that step, if any, and all that is remembered is for one of the steps.
From there a move leaves the memory as it is, and what is typed, an answer included, is
remembered for the current step and changes nothing else. -/
theorem run_start_remembers (settings : Settings) (actions : List Action) :
    let stairs := (start settings).run actions
    (∃ target, stairs.session.target = some target ∧ 1 ≤ target ∧ target ≤ 3000 ∧
      stairs.session.entry = (stairs.memory.lookup target).getD "") ∧
    (∀ item ∈ stairs.memory, 1 ≤ item.1 ∧ item.1 ≤ 3000) ∧
    (∀ steps, (stairs.move steps).memory = stairs.memory) ∧
    (∀ text target, (stairs.type text).memory.lookup target =
      if target = stairs.target then some (entryOf text)
      else stairs.memory.lookup target) ∧
    (∀ target, stairs.typeAnswer.memory.lookup target =
      if target = stairs.target then
        some (entryOf ((Answers.known? stairs.target).getD ""))
      else stairs.memory.lookup target) := by
  intro stairs
  have consistent : stairs.IsConsistent := isConsistent_run settings actions
  refine ⟨?_, consistent.keys, stairs.memory_move, stairs.lookup_type, stairs.lookup_type _⟩
  obtain ⟨target, aimed, low, high⟩ := consistent.aimed
  have current : stairs.target = target := by rw [Staircase.target, aimed]; rfl
  refine ⟨target, aimed, low, high, ?_⟩
  rw [consistent.entry, current, Memory.entryFor]

/-- An entry typed on the first step is remembered for it after a move. -/
theorem run_start_remembers_firstStep :
    let stairs := (start .standard).run [.type "44/44", .move 30]
    (1, "44/44") ∈ stairs.memory ∧ 1 ≤ (1 : Int) ∧ (1 : Int) ≤ 3000 := by
  intro stairs
  have entry : entryOf "44/44" = "44/44" := by
    have kept : "44/44".toList.filter isKept = "44/44".toList := by cbv
    have upper : "44/44".toList.map Char.toUpper = "44/44".toList := by decide
    exact entryOf_eq_self kept upper
  have stored : stairs.memory.lookup 1 = some "44/44" := by
    have typed : stairs.memory = ((start .standard).type "44/44").memory := memory_move _ 30
    rw [typed, lookup_type, entry]
    rfl
  have member := Memory.mem_of_lookup stored
  exact ⟨member, (run_start_remembers .standard _).2.1 _ member⟩

end Staircase
end Puzzle
end FourFours
