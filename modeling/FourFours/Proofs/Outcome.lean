import FourFours.Radical.Value

/-!
# Calculations that succeed or fail

A calculation of several steps has a result exactly when every step has one, and fails with
the fault of the first step that has none. The lemmas here take such an outcome apart, so
that later proofs name the outcomes of the steps instead of unfolding the calculation.
-/

namespace FourFours

theorem bind_eq_ok_iff
    {ε α β : Type}
    {first : Except ε α}
    {rest : α → Except ε β}
    {result : β} :
    (first >>= rest) = .ok result ↔ ∃ a, first = .ok a ∧ rest a = .ok result := by
  cases first with
  | error fault => simp [bind, Except.bind]
  | ok a => simp [bind, Except.bind]

theorem bind_eq_error_iff
    {α β : Type}
    {first : Except Fault α}
    {rest : α → Except Fault β}
    {fault : Fault} :
    (first >>= rest) = .error fault ↔
      first = .error fault ∨ ∃ a, first = .ok a ∧ rest a = .error fault := by
  cases first with
  | error fault => simp [bind, Except.bind]
  | ok a => simp [bind, Except.bind]

@[simp] theorem pure_eq_ok_iff {ε α : Type} {a result : α} :
    (pure a : Except ε α) = .ok result ↔ a = result := by
  simp [pure, Except.pure]

@[simp] theorem map_eq_error_iff
    {α β : Type}
    {f : α → β}
    {outcome : Except Fault α}
    {fault : Fault} :
    outcome.map f = .error fault ↔ outcome = .error fault := by
  cases outcome <;> simp [Except.map]

@[simp] theorem pure_ne_error {α : Type} (a : α) (fault : Fault) :
    (pure a : Except Fault α) ≠ .error fault := by
  simp [pure, Except.pure]

/-- A calculation has a result if something can be told of it. -/
theorem exists_of_map_toOption
    {α β : Type}
    {outcome : Except Fault α}
    {f : α → β}
    {b : β}
    (told : outcome.toOption.map f = some b) :
    ∃ a, outcome = .ok a ∧ f a = b := by
  cases outcome with
  | error fault => simp [Except.toOption] at told
  | ok a => exact ⟨a, rfl, Option.some.inj told⟩

/-- Whether a calculation fails with a given fault can be computed. -/
instance {α : Type} (outcome : Except Fault α) (fault : Fault) :
    Decidable (outcome = .error fault) :=
  match outcome with
  | .ok _ => .isFalse nofun
  | .error found => decidable_of_iff (found = fault) (by simp)

/-- A wording begins like the text in front of it. -/
theorem head?_append_text {kind : String} {first : Char} (begins : kind.toList.head? = some first)
    (wording : String) :
    (kind ++ wording).toList.head? = some first := by
  rw [String.toList_append, List.head?_append, begins, Option.some_or]

namespace Radical

@[simp] theorem fail_eq_error_iff {α : Type} {cause : EvaluationFault} {fault : Fault} :
    (fail cause : Except Fault α) = .error fault ↔ .inEvaluation cause = fault := by
  simp [fail]

@[simp] theorem fail_ne_ok {α : Type} (cause : EvaluationFault) (result : α) :
    fail cause ≠ .ok result := by
  simp [fail]

end Radical
end FourFours
