import FourFours.Proofs.Meaning

/-!
# What the limits of the settings do

The limits refuse an evaluation and do nothing else. Under tighter limits a tree has the same
outcome as under wider ones, result or fault, unless a limit refuses it: no limit ever selects
another calculation. Hence a value that is reached under some limits is reached under all
wider ones, with the same square roots and the same terms, and all settings that let a tree
pass agree on its value.
-/

namespace FourFours

open Radical (Value fail)

/-- The limits of some settings are at most those of others. How a result is read does not
matter. -/
structure Settings.Within (settings wider : Settings) : Prop where
  triangularDigits : settings.triangularDigits ≤ wider.triangularDigits
  factorialDigits : settings.factorialDigits ≤ wider.factorialDigits
  exponentDigits : settings.exponentDigits ≤ wider.exponentDigits
  powerBits : settings.powerBits ≤ wider.powerBits

/-- The faults that tell of a limit of the settings. -/
def EvaluationFault.limits : List EvaluationFault :=
  [.operandTooLarge .triangular, .operandTooLarge .factorial, .exponentTooLarge, .resultTooLarge]

section Outcomes

variable {α β : Type}

/-- An outcome is the same as another, unless a limit of the settings refuses it. -/
def SameUnlessRefused (outcome wider : Except Fault α) : Prop :=
  outcome = wider ∨ ∃ cause ∈ EvaluationFault.limits, outcome = fail cause

theorem SameUnlessRefused.refl (outcome : Except Fault α) : SameUnlessRefused outcome outcome :=
  .inl rfl

theorem SameUnlessRefused.of_fail {cause : EvaluationFault}
    (limit : cause ∈ EvaluationFault.limits) (wider : Except Fault α) :
    SameUnlessRefused (fail cause) wider :=
  .inr ⟨cause, limit, rfl⟩

/-- A calculation goes on in the same way until a limit refuses it. -/
theorem SameUnlessRefused.bind
    {outcome wider : Except Fault α}
    {rest restWider : α → Except Fault β}
    (same : SameUnlessRefused outcome wider)
    (sameRest : ∀ a, SameUnlessRefused (rest a) (restWider a)) :
    SameUnlessRefused (outcome >>= rest) (wider >>= restWider) := by
  rcases same with rfl | ⟨cause, limit, rfl⟩
  · cases outcome with
    | error fault => exact .refl _
    | ok a => exact sameRest a
  · exact .of_fail limit _

/-- A result is no refusal. -/
theorem SameUnlessRefused.eq_ok
    {outcome wider : Except Fault α}
    {result : α}
    (same : SameUnlessRefused outcome wider)
    (succeeded : outcome = .ok result) :
    wider = .ok result := by
  rcases same with rfl | ⟨cause, -, refused⟩
  · exact succeeded
  · rw [refused] at succeeded
    contradiction

end Outcomes

section Operations

variable {settings wider : Settings} (within : settings.Within wider)

theorem naturalOperand_sameUnlessRefused
    {op : Unary}
    {limit limit' : Nat}
    (isLimit : .operandTooLarge op ∈ EvaluationFault.limits)
    (le : limit ≤ limit')
    (v : Value) :
    SameUnlessRefused (naturalOperand op limit v) (naturalOperand op limit' v) := by
  unfold naturalOperand
  split
  · rename_i n _
    by_cases long : limit < digitCount n
    · rw [if_pos long]
      exact .of_fail isLimit _
    · rw [if_neg long, if_neg fun longer => long (le.trans_lt longer)]
      exact .refl _
  · exact .refl _

include within

theorem Unary.apply_sameUnlessRefused (op : Unary) (v : Value) :
    SameUnlessRefused (op.apply settings v) (op.apply wider v) := by
  cases op with
  | triangular =>
      have isLimit : .operandTooLarge .triangular ∈ EvaluationFault.limits := by decide
      have operand := naturalOperand_sameUnlessRefused isLimit within.triangularDigits v
      exact operand.bind fun n => .refl _
  | factorial =>
      have isLimit : .operandTooLarge .factorial ∈ EvaluationFault.limits := by decide
      have operand := naturalOperand_sameUnlessRefused isLimit within.factorialDigits v
      exact operand.bind fun n => .refl _
  | root | negate => exact .refl _

/-- Both guards of a power compare the same estimates with a limit. -/
theorem powerOf_sameUnlessRefused (base exponent : Value) :
    SameUnlessRefused (powerOf settings base exponent) (powerOf wider base exponent) := by
  have digits := within.exponentDigits
  have bits := within.powerBits
  unfold powerOf
  split
  · exact .refl _
  rename_i e _
  by_cases long : settings.exponentDigits < digitCount e.natAbs || !fitsExponent e
  · rw [if_pos long]
    exact .of_fail (by decide) _
  have short : ¬(wider.exponentDigits < digitCount e.natAbs || !fitsExponent e) := by
    simp only [Bool.or_eq_true, decide_eq_true_eq, not_or] at long ⊢
    exact ⟨fun longer => long.1 (digits.trans_lt longer), long.2⟩
  rw [if_neg long, if_neg short]
  by_cases large : !hasSmallPowers base && settings.powerBits < powerSize base e
  · rw [if_pos large]
    exact .of_fail (by decide) _
  have small : ¬(!hasSmallPowers base && wider.powerBits < powerSize base e) := by
    simp only [Bool.and_eq_true, decide_eq_true_eq, not_and] at large ⊢
    exact fun grows larger => large grows (bits.trans_lt larger)
  rw [if_neg large, if_neg small]
  exact .refl _

end Operations

namespace Expr

/-- Under tighter limits a tree has the same outcome as under wider ones, unless a limit
refuses it. -/
def IsOnlyRefused (settings wider : Settings) (x : Expr) : Prop :=
  SameUnlessRefused (x.value settings) (x.value wider)

variable {settings wider : Settings}

/-- Values combined one after another are only refused if the operands are. -/
theorem sameUnlessRefused_of_accumulated
    {combine : Value → Value → Except Fault Value}
    (all : Settings → Value → List Expr → Except Fault Value)
    (all_nil : ∀ settings total, all settings total [] = .ok total)
    (all_cons : ∀ settings total x xs, all settings total (x :: xs) =
      x.value settings >>= fun v => combine total v >>= fun next => all settings next xs)
    {xs : List Expr}
    (refused : ∀ x ∈ xs, x.IsOnlyRefused settings wider)
    (total : Value) :
    SameUnlessRefused (all settings total xs) (all wider total xs) := by
  induction xs generalizing total with
  | nil =>
      rw [all_nil, all_nil]
      exact .refl _
  | cons x xs inductionHypothesis =>
      obtain ⟨refusedFirst, refusedRest⟩ := List.forall_mem_cons.mp refused
      rw [all_cons, all_cons]
      exact refusedFirst.bind fun v =>
        (SameUnlessRefused.refl _).bind fun next => inductionHypothesis refusedRest next

/-- An operation with two operands is only refused if they are, or if it is itself. -/
theorem sameUnlessRefused_of_operands
    {x y : Expr}
    {combine combineWider : Value → Value → Except Fault Value}
    (refused : ∀ operand ∈ [x, y], operand.IsOnlyRefused settings wider)
    (same : ∀ left right, SameUnlessRefused (combine left right) (combineWider left right)) :
    SameUnlessRefused
      (x.value settings >>= fun left => y.value settings >>= combine left)
      (x.value wider >>= fun left => y.value wider >>= combineWider left) :=
  (refused x (by simp)).bind fun left => (refused y (by simp)).bind (same left)

theorem isOnlyRefused_node
    (within : settings.Within wider)
    (op : Nary)
    {xs : List Expr}
    (refused : ∀ x ∈ xs, x.IsOnlyRefused settings wider) :
    (node op xs).IsOnlyRefused settings wider := by
  cases op with
  | sum =>
      cases xs with
      | nil => exact .refl _
      | cons x xs =>
          exact sameUnlessRefused_of_accumulated value.addAll (fun _ _ => rfl)
            (fun _ _ _ _ => rfl) refused .zero
  | product =>
      cases xs with
      | nil => exact .refl _
      | cons x xs =>
          exact sameUnlessRefused_of_accumulated value.multiplyAll (fun _ _ => rfl)
            (fun _ _ _ _ => rfl) refused .one
  | quotient =>
      match xs with
      | [] | [_] | _ :: _ :: _ :: _ => exact .refl _
      | [x, y] => exact sameUnlessRefused_of_operands refused fun left right => .refl _
  | power =>
      match xs with
      | [] | [_] | _ :: _ :: _ :: _ => exact .refl _
      | [x, y] => exact sameUnlessRefused_of_operands refused (powerOf_sameUnlessRefused within)

/-- Tighter limits only refuse. -/
theorem isOnlyRefused (within : settings.Within wider) (x : Expr) :
    x.IsOnlyRefused settings wider := by
  induction x using Expr.induction with
  | integer n => exact .refl _
  | decimal d => exact .refl _
  | unary op x inductionHypothesis =>
      exact inductionHypothesis.bind (Unary.apply_sameUnlessRefused within op)
  | node op xs inductionHypothesis => exact isOnlyRefused_node within op inductionHypothesis

/-- All settings that let a tree pass agree on its value. -/
theorem value_unique
    {settings settings' : Settings}
    {x : Expr}
    {v v' : Value}
    (valued : x.value settings = .ok v)
    (valued' : x.value settings' = .ok v') :
    v = v' := by
  -- the greater of each two limits are wider than both
  let wider : Settings :=
    { triangularDigits := max settings.triangularDigits settings'.triangularDigits
      factorialDigits := max settings.factorialDigits settings'.factorialDigits
      exponentDigits := max settings.exponentDigits settings'.exponentDigits
      readingDigits := settings.readingDigits
      exactDigits := settings.exactDigits
      powerBits := max settings.powerBits settings'.powerBits }
  have within : settings.Within wider :=
    ⟨le_max_left _ _, le_max_left _ _, le_max_left _ _, le_max_left _ _⟩
  have within' : settings'.Within wider :=
    ⟨le_max_right _ _, le_max_right _ _, le_max_right _ _, le_max_right _ _⟩
  have result := (isOnlyRefused within x).eq_ok valued
  have result' := (isOnlyRefused within' x).eq_ok valued'
  rw [result, Except.ok.injEq] at result'
  exact result'

/-- A value that is reached under some limits is reached under all wider ones, with the same
square roots and the same terms. -/
theorem value_of_within
    {settings wider : Settings}
    {x : Expr}
    {v : Value}
    (within : settings.Within wider)
    (valued : x.value settings = .ok v) :
    x.value wider = .ok v :=
  (isOnlyRefused within x).eq_ok valued

/-- `√2 ^ S2 + 3!`, which meets every limit. -/
def limitedTree : Expr :=
  node .sum
    [node .power [unary .root (integer 2), unary .triangular (integer 2)],
      unary .factorial (integer 3)]

/-- The least limits that let the tree pass. -/
def tightSettings : Settings :=
  { triangularDigits := 1
    factorialDigits := 1
    exponentDigits := 1
    readingDigits := 0
    exactDigits := 0
    powerBits := 6 }

/-- The value `6 + 2 √2`, reached under the least limits, is that under the standard ones. -/
theorem value_of_within_limitedTree :
    tightSettings.Within .standard ∧
      ∃ v, limitedTree.value tightSettings = .ok v ∧ v.text = "6+2*sqrt(2)" ∧
        limitedTree.value .standard = .ok v := by
  have within : tightSettings.Within .standard := by constructor <;> decide
  have told : (limitedTree.value tightSettings).toOption.map Value.text =
      some "6+2*sqrt(2)" := by
    decide +kernel
  obtain ⟨v, valued, text⟩ := exists_of_map_toOption told
  exact ⟨within, v, valued, text, value_of_within within valued⟩

end Expr
end FourFours
