import FourFours.Proofs.Radical.Reachable

/-!
# Why an operation on values fails

An operation on normal values fails for two kinds of reasons. Either it is not defined on
their real numbers: a division by zero, zero to the power of zero, a root of a negative
number. Or it meets a limit of the arithmetic: there are too many square roots, or no
enclosure of the schedule shows a sign.
-/

namespace FourFours

/-- The faults that tell of a limit of the arithmetic and not of the numbers. -/
inductive Fault.IsLimit : Fault → Prop
  | tooManyRadicals : IsLimit (.inEvaluation .tooManyRadicals)
  | undecidedSign (exact : String) : IsLimit (.internal (.undecidedSign exact))

namespace Radical

variable {n m : Nat} {fault : Fault}

namespace Tower

variable {tower : Tower n} {x : Element n}

theorem sign_eq_error (failed : tower.sign x = .error fault) :
    fault = .internal (.undecidedSign (tower.text x)) := by
  unfold sign at failed
  split at failed
  · contradiction
  · split at failed
    · contradiction
    · exact (Except.error.inj failed).symm

theorem nonnegative_eq_error (failed : tower.nonnegative x = .error fault) :
    fault = .internal (.undecidedSign (tower.text x)) := by
  rw [nonnegative, bind_eq_error_iff] at failed
  rcases failed with undecided | ⟨sign, _, chosen⟩
  · exact sign_eq_error undecided
  · cases sign <;> simp at chosen

/-- A reading fails only if a sign or the digits are not settled. -/
theorem truncate_eq_error {digits : Nat} (failed : tower.truncate x digits = .error fault) :
    fault = .internal (.undecidedSign (tower.text x)) ∨
      fault = .internal (.undecidedDigits (tower.text x)) := by
  unfold truncate at failed
  split at failed
  · contradiction
  · rcases bind_eq_error_iff.mp failed with undecided | ⟨sign, _, unsettled⟩
    · exact .inl (sign_eq_error undecided)
    · dsimp only at unsettled
      split at unsettled
      · simp at unsettled
      · exact .inr (Except.error.inj unsettled).symm

end Tower

namespace Value

variable {v w : Value}

theorem isLimit_of_extend {tower : Tower m} (failed : v.extend tower = .error fault) :
    fault.IsLimit := by
  induction tower with
  | base => contradiction
  | adjoin tower radicand origin inductionHypothesis =>
      rcases extend_adjoin_eq_error failed with
        failedBelow | ⟨below, _, ⟨root, undecided⟩ | ⟨_, _, rfl⟩⟩
      · exact inductionHypothesis failedBelow
      · rw [Tower.nonnegative_eq_error undecided]
        exact .undecidedSign _
      · exact .tooManyRadicals

theorem isLimit_of_unify (failed : unify v w = .error fault) : fault.IsLimit :=
  isLimit_of_extend (extend_of_unify_eq_error failed)

/-- A calculation over the common tower of two values fails only if there is none. -/
theorem isLimit_of_combine
    {combine : (pair : Pair) → Element pair.level}
    (failed : (unify v w >>= fun pair => pure (trim pair.tower (combine pair))) =
      .error fault) :
    fault.IsLimit := by
  rcases bind_eq_error_iff.mp failed with apart | ⟨pair, _, combined⟩
  · exact isLimit_of_unify apart
  · simp at combined

theorem isLimit_of_add (failed : v.add w = .error fault) : fault.IsLimit :=
  isLimit_of_combine failed

theorem isLimit_of_mul (failed : v.mul w = .error fault) : fault.IsLimit :=
  isLimit_of_combine failed

/-- A square root fails for a negative number, or at a limit. -/
theorem sqrt_eq_error (failed : v.sqrt = .error fault) :
    v.real < 0 ∧ fault = .inEvaluation .negativeRoot ∨ fault.IsLimit := by
  rw [Value.sqrt] at failed
  rcases bind_eq_error_iff.mp failed with undecided | ⟨sign, decided, failed⟩
  · rw [Tower.sign_eq_error undecided]
    exact .inr (.undecidedSign _)
  · have signReal : cmp v.real 0 = sign := Tower.cmp_of_sign decided
    cases sign with
    | lt =>
        rw [fail_eq_error_iff] at failed
        exact .inl ⟨(cmp_eq_lt_iff _ _).mp signReal, failed.symm⟩
    | eq => simp at failed
    | gt =>
        right
        dsimp only at failed
        split at failed
        · rcases bind_eq_error_iff.mp failed with undecided | ⟨root, _, trimmed⟩
          · rw [Tower.nonnegative_eq_error undecided]
            exact .undecidedSign _
          · simp at trimmed
        · split at failed
          · rw [fail_eq_error_iff] at failed
            exact failed ▸ .tooManyRadicals
          · simp at failed

namespace IsNormal

/-- Only zero has no inverse. -/
theorem inverse_eq_error (normal : v.IsNormal) (failed : v.inverse = .error fault) :
    v.real = 0 ∧ fault = .inEvaluation .divisionByZero := by
  unfold Value.inverse at failed
  split at failed
  · rename_i zero
    rw [fail_eq_error_iff] at failed
    exact ⟨normal.isZero_iff.mp zero, failed.symm⟩
  · rename_i nonzero
    have uncertain : v.element.isZero = false := by simpa [isZero] using nonzero
    obtain ⟨inverse, found⟩ := normal.proper.exists_inverse? v.element uncertain
    rw [found] at failed
    contradiction

theorem div_eq_error
    (right : w.IsNormal)
    (failed : v.div w = .error fault) :
    w.real = 0 ∧ fault = .inEvaluation .divisionByZero ∨ fault.IsLimit := by
  unfold Value.div at failed
  split at failed
  · rename_i zero
    rw [fail_eq_error_iff] at failed
    exact .inl ⟨right.isZero_iff.mp zero, failed.symm⟩
  · rcases bind_eq_error_iff.mp failed with uninverted | ⟨inverse, _, failed⟩
    · exact .inl (right.inverse_eq_error uninverted)
    · exact .inr (isLimit_of_mul failed)

/-- Only zero has powers that do not exist: those with an exponent that is not positive. -/
theorem pow_eq_error
    (normal : v.IsNormal)
    {e : Int}
    (failed : v.pow e = .error fault) :
    v.real = 0 ∧ (e = 0 ∧ fault = .inEvaluation .zeroToZero ∨
      e < 0 ∧ fault = .inEvaluation .divisionByZero) := by
  by_cases zeroExponent : e = 0
  · subst zeroExponent
    unfold Value.pow at failed
    rw [if_pos rfl] at failed
    split at failed
    · rename_i zero
      rw [fail_eq_error_iff] at failed
      exact ⟨normal.isZero_iff.mp zero, .inl ⟨rfl, failed.symm⟩⟩
    · simp at failed
  · rw [pow_of_ne_zero v zeroExponent] at failed
    rcases bind_eq_error_iff.mp failed with unbased | ⟨base, _, raised⟩
    · split at unbased
      · rename_i negative
        obtain ⟨zero, fault_eq⟩ := normal.inverse_eq_error unbased
        exact ⟨zero, .inr ⟨negative, fault_eq⟩⟩
      · simp at unbased
    · simp at raised

end IsNormal
end Value
end Radical
end FourFours
