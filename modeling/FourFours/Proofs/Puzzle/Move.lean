import FourFours.Proofs.Puzzle.History
import FourFours.Proofs.Puzzle.Memory

/-!
# What a move to another target shows

A move types the remembered entry in the session of the target that is left, not in a fresh
one. The two agree in everything that is judged: the verdict on a text does not depend on
what was typed before. They agree in everything that is shown as well, unless the remembered
entry fails. Then the last result stays in view, as it does after any text that fails, and
that is a result found on the target just left.
-/

namespace FourFours
namespace Puzzle

namespace Session

theorem result_type (session : Session) (text : String) :
    (session.type text).result = resultAfter session.settings session.result text := by
  rw [type_eq]

/-- A text that wipes the entry, or has a reading, leaves nothing of what was there before. -/
theorem type_eq_type_start
    {session : Session}
    {text : String}
    (replaces : entryOf text = "" ∨
      ∃ reading, Calculator.evaluate session.settings (entryOf text) = .ok reading) :
    session.type text = (start session.target session.settings).type text := by
  have result : resultAfter session.settings session.result text =
      resultAfter session.settings none text := by
    rcases replaces with empty | ⟨reading, evaluated⟩
    · simp [resultAfter, empty]
    · simp [resultAfter, readingOf?, evaluated, Except.toOption]
  rw [type_eq, result]
  exact (type_eq (start session.target session.settings) text).symm

/-- A text that fails keeps the result in view, where a fresh session has none. -/
theorem type_eq_of_error
    {session : Session}
    {text : String}
    {fault : Fault}
    (typed : entryOf text ≠ "")
    (failed : Calculator.evaluate session.settings (entryOf text) = .error fault) :
    let fresh := (start session.target session.settings).type text
    session.type text = { fresh with result := session.result } ∧
      fresh.result = none ∧ fresh.complaint = some (.fault fault) := by
  have kept (result : Option String) :
      resultAfter session.settings result text = result := by
    simp [resultAfter, readingOf?, typed, failed, Except.toOption]
  refine ⟨?_, ?_, ?_⟩
  · rw [type_eq, kept]
  · exact (result_type _ text).trans (kept none)
  · simp [Session.type, start, typed, failed]

/-- The verdict on a text does not depend on what was typed before. -/
theorem isSolved_type (session : Session) (text : String) :
    (session.type text).isSolved =
      ((start session.target session.settings).type text).isSolved := by
  by_cases empty : entryOf text = ""
  · rw [type_eq_type_start (.inl empty)]
  · cases evaluated : Calculator.evaluate session.settings (entryOf text) with
    | ok reading => rw [type_eq_type_start (.inr ⟨reading, evaluated⟩)]
    | error fault =>
        obtain ⟨kept, -, complaint⟩ := type_eq_of_error empty evaluated
        rw [kept]
        simp [isSolved, complaint]

end Session

namespace Staircase

theorem settings_perform (stairs : Staircase) (action : Action) :
    (stairs.perform action).session.settings = stairs.session.settings := by
  cases action with
  | type text => rw [perform, session_type, Session.settings_type]
  | typeAnswer => rw [perform, typeAnswer, session_type, Session.settings_type]
  | move steps =>
      by_cases stays : stairs.targetAfter steps = stairs.target
      · rw [perform, move, if_pos stays]
      · rw [perform, session_move stays, Session.settings_type]

theorem settings_run (settings : Settings) (actions : List Action) :
    ((start settings).run actions).session.settings = settings := by
  have start : (start settings).session.settings = settings := rfl
  refine List.foldlRecOn actions perform
    (motive := fun stairs => stairs.session.settings = settings) start ?_
  intro stairs same action _
  rw [settings_perform, same]

/-- A move to another target leaves of the target before at most the result in view. The
session afterwards is a fresh one for the new target in which the entry remembered for it has
been typed; only if that entry fails does the last result stay in view. -/
theorem session_of_move
    {settings : Settings}
    {actions : List Action}
    {steps target : Int}
    (moved : (((start settings).run actions).move steps).target = target)
    (changed : target ≠ ((start settings).run actions).target) :
    let stairs := (start settings).run actions
    let entry := stairs.memory.entryFor target
    let fresh := (Session.start (some target) settings).type entry
    (entry = "" ∨ (∃ reading, Calculator.evaluate settings entry = .ok reading) →
      (stairs.move steps).session = fresh) ∧
    (∀ fault, entry ≠ "" → Calculator.evaluate settings entry = .error fault →
      (stairs.move steps).session = { fresh with result := stairs.session.result } ∧
        fresh.result = none) := by
  intro stairs entry fresh
  rw [target_move] at moved
  -- the entry is typed in the session of the step that is left, now aimed at the new target
  let left : Session := { stairs.session with target := some target }
  have typed : (stairs.move steps).session = left.type entry := by
    rw [session_move (moved ▸ changed), moved]
  have same : left.settings = settings := settings_run settings actions
  have own : entryOf entry = entry :=
    (isConsistent_run settings actions).entryOf_entryFor target
  have freshly : fresh = (Session.start left.target left.settings).type entry := by
    rw [same]
  rw [typed, freshly]
  constructor
  · intro replaces
    apply Session.type_eq_type_start
    rwa [own, same]
  · intro fault nonempty failed
    have typed : entryOf entry ≠ "" := by rwa [own]
    have failed : Calculator.evaluate left.settings (entryOf entry) = .error fault := by
      rwa [own, same]
    obtain ⟨kept, none, -⟩ := Session.type_eq_of_error typed failed
    exact ⟨kept, none⟩

/-- A player who fails on the lowest step, moves one step up and finds a result there. -/
def failedBelow : Staircase :=
  (start .standard).run [.type "4/(4-4)+4", .move 1, .type "4*4/4/4"]

theorem entryOf_failed : entryOf "4/(4-4)+4" = "4/(4-4)+4" := by
  have kept : "4/(4-4)+4".toList.filter isKept = "4/(4-4)+4".toList := by cbv
  have upper : "4/(4-4)+4".toList.map Char.toUpper = "4/(4-4)+4".toList := by decide
  exact entryOf_eq_self kept upper

theorem evaluate_failed :
    Calculator.evaluate .standard "4/(4-4)+4" = .error (.inEvaluation .divisionByZero) := by
  decide +kernel

theorem target_failedBelow : failedBelow.target = 2 := by
  change (((start .standard).type _).move 1 |>.type _).target = 2
  rw [target_type, target_move, targetAfter, target_type]
  rfl

theorem target_move_failedBelow :
    (failedBelow.move (-1)).target = 1 ∧ (failedBelow.move 1).target = 3 := by
  rw [target_move, target_move, targetAfter, targetAfter, target_failedBelow]
  exact ⟨rfl, rfl⟩

theorem lookup_failedBelow (target : Int) :
    failedBelow.memory.lookup target =
      if target = 2 then some (entryOf "4*4/4/4")
      else if target = 1 then some "4/(4-4)+4" else none := by
  have foot : (start .standard).target = 1 := rfl
  have current : (((start .standard).type "4/(4-4)+4").move 1).target = 2 := by
    rw [target_move, targetAfter, target_type]
    rfl
  change (((start .standard).type _).move 1 |>.type _).memory.lookup target = _
  rw [lookup_type, current, memory_move, lookup_type, entryOf_failed, foot]
  rfl

theorem entryFor_failedBelow :
    failedBelow.memory.entryFor 1 = "4/(4-4)+4" ∧ failedBelow.memory.entryFor 3 = "" := by
  rw [Memory.entryFor, Memory.entryFor, lookup_failedBelow, lookup_failedBelow]
  exact ⟨rfl, rfl⟩

theorem result_failedBelow : failedBelow.session.result = some "1" := by
  have kept : "4*4/4/4".toList.filter isKept = "4*4/4/4".toList := by cbv
  have upper : "4*4/4/4".toList.map Char.toUpper = "4*4/4/4".toList := by decide
  have entry : entryOf "4*4/4/4" = "4*4/4/4" := entryOf_eq_self kept upper
  have evaluated : Calculator.evaluate .standard "4*4/4/4" = .ok "1" := by decide +kernel
  have settings : (((start .standard).type "4/(4-4)+4").move 1).session.settings = .standard :=
    settings_run .standard [.type "4/(4-4)+4", .move 1]
  change (((start .standard).type _).move 1 |>.type _).session.result = _
  rw [session_type, Session.result_type, settings, Session.resultAfter, readingOf?, entry,
    evaluated]
  decide

/-- One step up, where nothing is remembered, the session is a fresh one. One step down, where
the remembered entry fails, only the result of the step that is left stays. -/
theorem session_of_move_failedBelow :
    (failedBelow.move 1).target = 3 ∧ 3 ≠ failedBelow.target ∧
      (failedBelow.move 1).session = (Session.start (some 3) .standard).type "" ∧
      (failedBelow.move (-1)).target = 1 ∧ 1 ≠ failedBelow.target ∧
      "4/(4-4)+4" ≠ "" ∧
      Calculator.evaluate .standard "4/(4-4)+4" = .error (.inEvaluation .divisionByZero) ∧
      (failedBelow.move (-1)).session =
        { (Session.start (some 1) .standard).type "4/(4-4)+4" with
          result := failedBelow.session.result } := by
  obtain ⟨down, up⟩ := target_move_failedBelow
  obtain ⟨failing, nothing⟩ := entryFor_failedBelow
  rw [failedBelow] at failing nothing
  have changedDown : 1 ≠ failedBelow.target := by rw [target_failedBelow]; decide
  have changedUp : 3 ≠ failedBelow.target := by rw [target_failedBelow]; decide
  obtain ⟨fresh, -⟩ := session_of_move up changedUp
  obtain ⟨-, kept⟩ := session_of_move down changedDown
  rw [nothing] at fresh
  rw [failing] at kept
  exact ⟨up, changedUp, fresh (.inl rfl), down, changedDown, by decide, evaluate_failed,
    (kept _ (by decide) evaluate_failed).1⟩

/-- The result of the step above stays in view on the lowest step, where a fresh session has
none. -/
theorem move_keeps_result :
    (failedBelow.move (-1)).target = 1 ∧ 1 ≠ failedBelow.target ∧
      (failedBelow.move (-1)).session.result = some "1" ∧
      ((Session.start (some 1) .standard).type (failedBelow.memory.entryFor 1)).result =
        none ∧
      (failedBelow.move (-1)).session ≠
        (Session.start (some 1) .standard).type (failedBelow.memory.entryFor 1) := by
  have moved := target_move_failedBelow.1
  have changed : 1 ≠ failedBelow.target := by rw [target_failedBelow]; decide
  have stays (result : Option String) :
      Session.resultAfter .standard result "4/(4-4)+4" = result := by
    rw [Session.resultAfter, readingOf?, entryOf_failed, evaluate_failed, if_neg (by decide)]
    rfl
  have above : (failedBelow.move (-1)).session.result = some "1" := by
    have after : failedBelow.targetAfter (-1) = 1 := (target_move _ _).symm.trans moved
    have settings : failedBelow.session.settings = .standard := settings_run .standard _
    have moves : failedBelow.targetAfter (-1) ≠ failedBelow.target := by rwa [after]
    rw [session_move moves, after, entryFor_failedBelow.1, Session.result_type]
    dsimp only
    rw [settings, stays, result_failedBelow]
  have fresh : ((Session.start (some 1) .standard).type
      (failedBelow.memory.entryFor 1)).result = none := by
    rw [entryFor_failedBelow.1, Session.result_type]
    exact stays none
  refine ⟨moved, changed, above, fresh, fun equal => ?_⟩
  rw [equal, fresh] at above
  contradiction

end Staircase
end Puzzle
end FourFours
