import FourFours.Proofs.Puzzle.Move
import Mathlib.Data.Set.Card

/-!
# How many targets are solved

The solved targets are counted by typing every remembered entry again, each in a fresh
session. The number is that of the targets on which the player was told so: those whose last
text, an answer included, left a solved session behind. What counts for a target is hence the
last text alone; an earlier one adds nothing, and it does not matter what was typed on other
steps in between.
-/

namespace FourFours
namespace Puzzle

namespace Memory

variable {memory : Memory}

theorem nodup_remember
    (distinct : (memory.map Prod.fst).Nodup)
    (target : Int)
    (entry : String) :
    ((memory.remember target entry).map Prod.fst).Nodup := by
  rw [remember, List.map_cons, List.nodup_cons]
  constructor
  · simp
  · exact distinct.sublist (List.filter_sublist.map Prod.fst)

/-- What is remembered once for a target is found for it. -/
theorem lookup_of_mem
    (distinct : (memory.map Prod.fst).Nodup)
    {target : Int}
    {entry : String}
    (member : (target, entry) ∈ memory) :
    memory.lookup target = some entry := by
  obtain ⟨before, behind, rfl⟩ := List.append_of_mem member
  rw [List.map_append, List.nodup_append] at distinct
  rw [List.lookup_eq_some_iff]
  refine ⟨before, behind, rfl, fun item earlier => ?_⟩
  have differs := distinct.2.2 item.1 (List.mem_map_of_mem earlier) target (by simp)
  simpa using differs.symm

/-- The items counted are the targets found with a suitable entry. -/
theorem encard_lookup
    (distinct : (memory.map Prod.fst).Nodup)
    (suits : Int → String → Bool) :
    {target | ∃ entry, memory.lookup target = some entry ∧ suits target entry = true}.encard =
      memory.countP fun (target, entry) => suits target entry := by
  let suitable := memory.filter fun (target, entry) => suits target entry
  have targets : {target | ∃ entry, memory.lookup target = some entry ∧
      suits target entry = true} = ((suitable.map Prod.fst).toFinset : Set Int) := by
    ext target
    simp only [Set.mem_ofPred_eq, List.coe_toFinset, List.mem_map, Prod.exists, exists_and_right,
      exists_eq_right, suitable, List.mem_filter]
    refine exists_congr fun entry => and_congr_left fun _ => ?_
    exact ⟨mem_of_lookup, lookup_of_mem distinct⟩
  have distinctTargets : (suitable.map Prod.fst).Nodup :=
    distinct.sublist (List.filter_sublist.map Prod.fst)
  rw [targets, Set.encard_coe_eq_coe_finsetCard, List.toFinset_card_of_nodup distinctTargets,
    List.length_map, List.countP_eq_length_filter]

end Memory

namespace Staircase

/-- Whether an action types a text, an answer included. -/
def Action.types : Action → Bool
  | type _ | typeAnswer => true
  | move _ => false

/-- Whether the action at a position of a run types a text on the step of a target. -/
def TypesAt (settings : Settings) (actions : List Action) (target : Int) (i : Nat) : Prop :=
  ((start settings).run (actions.take i)).target = target ∧
    ∃ action, actions[i]? = some action ∧ action.types = true

/-- Whether the last text that a run types on the step of a target left a solved session. -/
def SolvedLast (settings : Settings) (actions : List Action) (target : Int) : Prop :=
  ∃ i, TypesAt settings actions target i ∧
    (∀ j, i < j → ¬TypesAt settings actions target j) ∧
    ((start settings).run (actions.take (i + 1))).session.isSolved = true

variable {settings : Settings} {actions : List Action} {action : Action} {target : Int}

theorem run_append_singleton (stairs : Staircase) (actions : List Action) (action : Action) :
    stairs.run (actions ++ [action]) = (stairs.run actions).perform action := by
  simp [run]

theorem TypesAt.lt_length {i : Nat} (types : TypesAt settings actions target i) :
    i < actions.length := by
  obtain ⟨-, _, found, -⟩ := types
  exact (List.getElem?_eq_some_iff.mp found).1

theorem TypesAt.le_length {i : Nat} (types : TypesAt settings (actions ++ [action]) target i) :
    i ≤ actions.length := by
  have inside := types.lt_length
  rw [List.length_append, List.length_singleton] at inside
  omega

/-- One more action changes nothing at the positions before it. -/
theorem typesAt_append_of_lt {i : Nat} (before : i < actions.length) :
    TypesAt settings (actions ++ [action]) target i ↔ TypesAt settings actions target i := by
  rw [TypesAt, TypesAt, List.take_append_of_le_length before.le, List.getElem?_append_left before]

theorem typesAt_append_length :
    TypesAt settings (actions ++ [action]) target actions.length ↔
      ((start settings).run actions).target = target ∧ action.types = true := by
  simp [TypesAt]

/-- A text on the step of a target is the last one there. -/
theorem solvedLast_append_of_typesAt
    (types : TypesAt settings (actions ++ [action]) target actions.length) :
    SolvedLast settings (actions ++ [action]) target ↔
      ((start settings).run (actions ++ [action])).session.isSolved = true := by
  have whole : (actions ++ [action]).take (actions.length + 1) = actions ++ [action] :=
    List.take_of_length_le (by simp)
  constructor
  · rintro ⟨i, earlier, none, solved⟩
    obtain rfl : i = actions.length := by
      rcases earlier.le_length.lt_or_eq with before | equal
      · exact absurd types (none _ before)
      · exact equal
    rwa [whole] at solved
  · intro solved
    refine ⟨actions.length, types, fun j later types => ?_, by rwa [whole]⟩
    exact absurd types.le_length (Nat.not_le.mpr later)

/-- An action that types nothing on the step of a target leaves its last text as it is. -/
theorem solvedLast_append_of_not_typesAt
    (elsewhere : ¬TypesAt settings (actions ++ [action]) target actions.length) :
    SolvedLast settings (actions ++ [action]) target ↔ SolvedLast settings actions target := by
  have same (j : Nat) : TypesAt settings (actions ++ [action]) target j ↔
      TypesAt settings actions target j := by
    rcases lt_trichotomy j actions.length with before | rfl | behind
    · exact typesAt_append_of_lt before
    · exact iff_of_false elsewhere fun types => types.lt_length.false
    · refine iff_of_false (fun types => ?_) fun types => ?_
      · exact absurd types.le_length (Nat.not_le.mpr behind)
      · exact behind.asymm types.lt_length
  rw [SolvedLast, SolvedLast]
  simp only [same]
  refine exists_congr fun i => and_congr_right fun types => ?_
  rw [List.take_append_of_le_length types.lt_length]

theorem exists_text_of_types (stairs : Staircase) (types : action.types = true) :
    ∃ text, stairs.perform action = stairs.type text := by
  cases action with
  | type text => exact ⟨text, rfl⟩
  | typeAnswer => exact ⟨_, by rw [perform, typeAnswer]⟩
  | move steps => contradiction

theorem memory_of_not_types (stairs : Staircase) (still : ¬action.types = true) :
    (stairs.perform action).memory = stairs.memory := by
  cases action with
  | type text => contradiction
  | typeAnswer => contradiction
  | move steps => exact memory_move stairs steps

theorem nodup_run (settings : Settings) (actions : List Action) :
    (((start settings).run actions).memory.map Prod.fst).Nodup := by
  have blank : ((start settings).memory.map Prod.fst).Nodup := List.nodup_nil
  refine List.foldlRecOn actions perform
    (motive := fun stairs => (stairs.memory.map Prod.fst).Nodup) blank ?_
  intro stairs distinct action _
  by_cases types : action.types = true
  · obtain ⟨text, typed⟩ := exists_text_of_types stairs types
    rw [typed, Staircase.type]
    exact Memory.nodup_remember distinct _ _
  · rwa [memory_of_not_types stairs types]

/-- An entry solves a target in a fresh session just if the text that it comes from does on
the step of the target. -/
theorem solves_entryOf (settings : Settings) (actions : List Action) (text : String) :
    let stairs := (start settings).run actions
    solves settings stairs.target (entryOf text) = (stairs.type text).session.isSolved := by
  intro stairs
  obtain ⟨target, aimed, -⟩ := (isConsistent_run settings actions).aimed
  have current : stairs.session.target = some stairs.target := by
    rw [Staircase.target, aimed]
    rfl
  have same : stairs.session.settings = settings := settings_run settings actions
  rw [session_type, Session.isSolved_type, current, same, solves, Session.type,
    entryOf_entryOf]
  rfl

/-- The last text on a step solved its target just if the entry remembered for it does. -/
theorem solvedLast_iff (settings : Settings) (actions : List Action) (target : Int) :
    SolvedLast settings actions target ↔
      ∃ entry, ((start settings).run actions).memory.lookup target = some entry ∧
        solves settings target entry = true := by
  -- from the end of the run: its last action either is the last text on the step or leaves it
  induction actions using List.reverseRecOn with
  | nil =>
      refine iff_of_false ?_ ?_
      · rintro ⟨i, types, -⟩
        exact absurd types.lt_length (Nat.not_lt_zero i)
      · rintro ⟨entry, found, -⟩
        contradiction
  | append_singleton actions action inductionHypothesis =>
      by_cases here : TypesAt settings (actions ++ [action]) target actions.length
      · rw [solvedLast_append_of_typesAt here, run_append_singleton]
        obtain ⟨rfl, types⟩ := typesAt_append_length.mp here
        obtain ⟨text, typed⟩ := exists_text_of_types ((start settings).run actions) types
        rw [typed, lookup_type, if_pos rfl, ← solves_entryOf]
        simp
      · rw [solvedLast_append_of_not_typesAt here, inductionHypothesis, run_append_singleton]
        rw [typesAt_append_length, not_and'] at here
        by_cases types : action.types = true
        · obtain ⟨text, typed⟩ := exists_text_of_types ((start settings).run actions) types
          rw [typed, lookup_type, if_neg (Ne.symm (here types))]
        · rw [memory_of_not_types _ types]

/-- After any run from the foot of the staircase, the solved targets that are counted are
those on which the last text, an answer included, left a solved session. -/
theorem solvedCount_run_start (settings : Settings) (actions : List Action) :
    (((start settings).run actions).solvedCount : ℕ∞) =
      {target | SolvedLast settings actions target}.encard := by
  have counted := Memory.encard_lookup (nodup_run settings actions) (solves settings)
  simp only [solvedLast_iff]
  rw [counted, solvedCount, settings_run]

end Staircase
end Puzzle
end FourFours
