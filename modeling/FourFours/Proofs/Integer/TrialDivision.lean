import FourFours.Integer.TrialDivision
import FourFours.Proofs.Integer.SquareFactor
import Mathlib.Algebra.Squarefree.Basic
import Mathlib.Computability.StateTransition
import Mathlib.Data.Nat.Squarefree

/-!
# What trial division leaves

Before a divisor `p` is tried, the primes below `p` are all moved out of the number: what is
left has no prime factor below `p`, and the cofactor of the split is a product of different
primes below `p`. A divisor that is not prime divides nothing any more. So when the divisors
end, or when the square of the next one exceeds what is left, no square of a prime up to the
limit divides the product of the cofactor and what is left.

What is left never becomes zero, so every divisor is divided out after finitely many rounds,
and the rounds of all divisors end at the split that `splitSquare` gives.
-/

namespace FourFours
namespace Integer

open StateTransition (Reaches eval mem_eval)

namespace TrialDivision

variable {p m : Nat} {split : SquareSplit}

/-- The divisors that are tried from `p` up to the limit. -/
inductive Tries : Nat → List Nat → Prop
  | done {p : Nat} : limit < p → Tries p []
  | more {p : Nat} {divisors : List Nat} :
      p ≤ limit → Tries (nextDivisor p) divisors → Tries p (p :: divisors)

theorem tries_odd (i n : Nat) (last : i + n = 4999) :
    Tries (2 * i + 3) ((List.range' i n).map fun i => 2 * i + 3) := by
  induction n generalizing i with
  | zero => exact .done (by simp only [limit]; omega)
  | succ n inductionHypothesis =>
      have next : nextDivisor (2 * i + 3) = 2 * (i + 1) + 3 := by
        rw [nextDivisor, if_neg (by omega)]
        omega
      refine .more (by simp only [limit]; omega) ?_
      rw [next]
      exact inductionHypothesis (i + 1) (by omega)

/-- The list of trial divisors is what is tried from 2 on. -/
theorem tries_trialDivisors : Tries 2 trialDivisors := by
  rw [trialDivisors, List.range_eq_range']
  exact .more (by decide) (tries_odd 0 4999 rfl)

/-- What holds before the divisor `p` is tried: the primes below `p` are moved out of the number,
each at most once into the cofactor of the split. -/
structure IsSifted (p : Nat) (split : SquareSplit) (m : Nat) : Prop where
  /-- The divisor is 2 or odd. -/
  divisor : p = 2 ∨ 2 < p ∧ p % 2 = 1
  squarefree : Squarefree split.rest
  lt_of_dvd_rest : ∀ q, q.Prime → q ∣ split.rest → q < p
  left_pos : 0 < m
  le_of_dvd_left : ∀ q, q.Prime → q ∣ m → p ≤ q

namespace IsSifted

theorem start (positive : 0 < m) : IsSifted 2 ⟨1, 1⟩ m where
  divisor := .inl rfl
  squarefree := squarefree_one
  lt_of_dvd_rest _ prime divides := absurd (Nat.dvd_one.mp divides) prime.ne_one
  left_pos := positive
  le_of_dvd_left _ prime _ := prime.two_le

theorem one_lt (sifted : IsSifted p split m) : 1 < p := by
  have divisor := sifted.divisor
  omega

/-- A divisor of what is left is a prime: its least prime factor would have been moved. -/
theorem prime_of_dvd (sifted : IsSifted p split m) (divides : p ∣ m) : p.Prime := by
  have prime := Nat.minFac_prime sifted.one_lt.ne'
  have le := sifted.le_of_dvd_left _ prime ((Nat.minFac_dvd p).trans divides)
  rwa [le_antisymm (Nat.minFac_le (Nat.zero_lt_of_lt sifted.one_lt)) le] at prime

/-- A prime after `p` is not before the divisor that is tried after `p`. -/
theorem nextDivisor_le {q : Nat} (sifted : IsSifted p split m) (prime : q.Prime) (after : p < q) :
    nextDivisor p ≤ q := by
  have odd := prime.eq_two_or_odd
  have divisor := sifted.divisor
  rw [nextDivisor]
  split <;> omega

/-- The cofactor of the split stays a product of different primes. -/
theorem squarefree_takePower {count cofactor : Nat} (sifted : IsSifted p split m)
    (value : p ^ count * cofactor = m) :
    Squarefree (takePower p count split).rest := by
  simp only [takePower]
  split
  · rename_i odd
    have divides : p ∣ m :=
      value ▸ (dvd_pow_self p (by omega)).mul_right cofactor
    have prime := sifted.prime_of_dvd divides
    have apart : ¬p ∣ split.rest := fun member =>
      (sifted.lt_of_dvd_rest p prime member).false
    have coprime := (prime.coprime_iff_not_dvd.mpr apart).symm
    exact (Nat.squarefree_mul coprime).mpr ⟨sifted.squarefree, prime.prime.squarefree⟩
  · exact sifted.squarefree

/-- What is left has no prime factor up to the divisor that has been divided out. -/
theorem nextDivisor_le_of_dvd {q : Nat} (sifted : IsSifted p split m) (prime : q.Prime)
    (divides : q ∣ (divideOut p m).2) :
    nextDivisor p ≤ q := by
  have before : q ∣ m := divides.trans (Dvd.intro_left _ (pow_mul_divideOut p m))
  have le := sifted.le_of_dvd_left q prime before
  have ne : p ≠ q := by
    rintro rfl
    exact not_dvd_divideOut sifted.one_lt sifted.left_pos divides
  exact sifted.nextDivisor_le prime (lt_of_le_of_ne le ne)

/-- The cofactor of the split has no prime factor from the next divisor on. -/
theorem lt_nextDivisor_of_dvd {q count : Nat} (sifted : IsSifted p split m) (prime : q.Prime)
    (divides : q ∣ (takePower p count split).rest) :
    q < nextDivisor p := by
  have before : q ∣ split.rest * p := by
    simp only [takePower] at divides
    split at divides
    · exact divides
    · exact divides.mul_right p
  have le : q ≤ p := by
    rcases prime.dvd_mul.mp before with moved | now
    · exact (sifted.lt_of_dvd_rest q prime moved).le
    · exact Nat.le_of_dvd (Nat.zero_lt_of_lt sifted.one_lt) now
  rw [nextDivisor]
  split <;> omega

/-- A divisor is divided out. -/
theorem tried (sifted : IsSifted p split m) :
    IsSifted (nextDivisor p) (takePower p (divideOut p m).1 split) (divideOut p m).2 where
  divisor := by
    have divisor := sifted.divisor
    rw [nextDivisor]
    split <;> omega
  squarefree := sifted.squarefree_takePower (pow_mul_divideOut p m)
  lt_of_dvd_rest _ prime divides := sifted.lt_nextDivisor_of_dvd prime divides
  left_pos := divideOut_pos sifted.left_pos
  le_of_dvd_left _ prime divides := sifted.nextDivisor_le_of_dvd prime divides

/-- Where the trials are finished, no square of a prime up to the limit is there any more. -/
theorem not_mul_self_dvd {q : Nat} (sifted : IsSifted p split m)
    (finished : limit < p ∨ m < p * p) (prime : q.Prime) (small : q ≤ limit) :
    ¬q * q ∣ split.rest * m := by
  intro divides
  -- A prime is a factor of the cofactor or of what is left, but not of both.
  by_cases moved : q ∣ split.rest
  · have gone : ¬q ∣ m := fun kept =>
      (sifted.lt_of_dvd_rest q prime moved).not_ge (sifted.le_of_dvd_left q prime kept)
    have coprime := prime.coprime_iff_not_dvd.mpr gone
    have twice : q * q ∣ split.rest := (coprime.mul_left coprime).dvd_of_dvd_mul_right divides
    exact prime.prime.not_isUnit (sifted.squarefree q twice)
  · have coprime := prime.coprime_iff_not_dvd.mpr moved
    have twice : q * q ∣ m := (coprime.mul_left coprime).dvd_of_dvd_mul_left divides
    have le := sifted.le_of_dvd_left q prime (dvd_of_mul_right_dvd twice)
    have squares := Nat.mul_le_mul le le
    have bounded := Nat.le_of_dvd sifted.left_pos twice
    omega

end IsSifted

theorem takePower_eq (p count : Nat) (split : SquareSplit) :
    takePower p count split =
      ⟨split.root * Nat.pow p (count / 2), split.rest * Nat.pow p (count % 2)⟩ := by
  rcases Nat.mod_two_eq_zero_or_one count with even | odd
  · simp [takePower, even]
  · simp [takePower, odd]

theorem close_eq_absorb (split : SquareSplit) (m : Nat) : close split m = absorb split m := by
  unfold close absorb
  split
  · rename_i one
    simp [one, exactRoot?_mul_self 1]
  · rfl

/-- The rounds of one divisor come to an end: they divide it out. -/
theorem reaches_divideOut (factor : 1 < p) (positive : 0 < m) (count : Nat) :
    Reaches next? (.dividing p count split m)
      (.trying (nextDivisor p) (takePower p (count + (divideOut p m).1) split)
        (divideOut p m).2) := by
  fun_induction divideOut p m generalizing count with
  | case1 m divides further cofactor equal inductionHypothesis =>
      rw [equal] at inductionHypothesis
      have le := Nat.le_of_dvd positive (Nat.dvd_of_mod_eq_zero divides.2.2)
      have smaller : 0 < m / p := Nat.div_pos le divides.1.le
      have rounds := inductionHypothesis smaller (count + 1)
      rw [Nat.add_right_comm, Nat.add_assoc] at rounds
      exact .head (by simp [next?, divides.2.2]) rounds
  | case2 m stuck =>
      have rest : m % p ≠ 0 := fun whole => stuck ⟨factor, positive, whole⟩
      exact .single (by simp [next?, rest])

/-- The rounds of all divisors come to an end: they sift the number. -/
theorem exists_reaches_sift {divisors : List Nat} (tries : Tries p divisors)
    (sifted : IsSifted p split m) :
    ∃ q, Reaches next? (.trying p split m)
        (.trying q (sift divisors split m).1 (sift divisors split m).2) ∧
      IsSifted q (sift divisors split m).1 (sift divisors split m).2 ∧
      (limit < q ∨ (sift divisors split m).2 < q * q) := by
  induction tries generalizing split m with
  | done beyond => exact ⟨_, .refl, sifted, .inl beyond⟩
  | @more p divisors within later inductionHypothesis =>
      rw [sift]
      split
      · rename_i beyond
        exact ⟨p, .refl, sifted, .inr beyond⟩
      · rename_i reached
        -- One round starts the division, the next ones divide, and the rest is the induction.
        obtain ⟨q, reaches, done⟩ := inductionHypothesis sifted.tried
        rw [takePower_eq] at reaches done
        have first : next? (.trying p split m) = some (.dividing p 0 split m) := by
          simp [next?, within, not_lt.mp reached]
        have division : Reaches next? (.dividing p 0 split m) _ :=
          reaches_divideOut sifted.one_lt sifted.left_pos 0
        rw [Nat.zero_add, takePower_eq] at division
        exact ⟨q, .head first (division.trans reaches), done⟩

/-- The rounds come to an end, at the split of the number. -/
theorem eval_next? (positive : 0 < m) :
    eval next? (.begun m) = Part.some (.ended (splitSquare m)) := by
  refine Part.eq_some_iff.mpr (mem_eval.mpr ⟨?_, rfl⟩)
  have given : m ≠ 0 := positive.ne'
  unfold splitSquare
  split
  · rename_i root square
    exact .single (by simp [next?, given, square])
  · rename_i notSquare
    obtain ⟨q, reaches, -, finished⟩ := exists_reaches_sift tries_trialDivisors (.start positive)
    have first : next? (.begun m) = some (.trying 2 ⟨1, 1⟩ m) := by
      simp [next?, given, notSquare]
    have last : ¬(q ≤ limit ∧ q * q ≤ (sift trialDivisors ⟨1, 1⟩ m).2) := by omega
    refine .head first (reaches.tail ?_)
    simp [next?, last, close_eq_absorb]

end TrialDivision

/-- No square of a prime up to the limit is a factor of the cofactor. -/
theorem not_mul_self_dvd_splitSquare_rest {m p : Nat} (positive : 0 < m) (prime : p.Prime)
    (small : p ≤ TrialDivision.limit) :
    ¬p * p ∣ (splitSquare m).rest := by
  unfold splitSquare
  split
  · exact fun divides => prime.prime.not_isUnit (isUnit_of_dvd_one (dvd_of_mul_right_dvd divides))
  · obtain ⟨q, -, sifted, finished⟩ :=
      TrialDivision.exists_reaches_sift TrialDivision.tries_trialDivisors (.start positive)
    exact fun divides =>
      sifted.not_mul_self_dvd finished prime small (divides.trans (absorb_rest_dvd _ _))

/-- A positive number is split into a square and a cofactor. The rounds of trial division come to
an end, at a split that stands for the number. No square of a prime up to 10000 is a factor of
the cofactor, and the cofactor of a perfect square is 1. -/
theorem splitSquare_extracts {m : Nat} (positive : 0 < m) :
    eval TrialDivision.next? (.begun m) = Part.some (.ended (splitSquare m)) ∧
      0 < (splitSquare m).root ∧ 0 < (splitSquare m).rest ∧
      (splitSquare m).root * (splitSquare m).root * (splitSquare m).rest = m ∧
      (∀ p, p.Prime → p ≤ 10000 → ¬p * p ∣ (splitSquare m).rest) ∧
      (IsSquare m → (splitSquare m).rest = 1) := by
  have value := splitSquare_value m
  obtain ⟨rootPositive, restPositive⟩ := SquareSplit.pos_of_value (value.symm ▸ positive)
  refine ⟨TrialDivision.eval_next? positive, rootPositive, restPositive, value, ?_, ?_⟩
  · exact fun p prime small => not_mul_self_dvd_splitSquare_rest positive prime small
  · rintro ⟨root, rfl⟩
    rw [splitSquare_mul_self]

/-- The number 72 is the square of 6 times 2: the divisors 2 and 3 leave nothing of it. -/
theorem splitSquare_seventyTwo :
    0 < 72 ∧ splitSquare 72 = ⟨6, 2⟩ ∧
      eval TrialDivision.next? (.begun 72) = Part.some (.ended ⟨6, 2⟩) ∧
      0 < 6 ∧ 0 < 2 ∧ 6 * 6 * 2 = 72 ∧
      (∀ p, p.Prime → p ≤ 10000 → ¬p * p ∣ 2) ∧ (IsSquare 72 → 2 = 1) := by
  have notSquare : exactRoot? 72 = none := by cbv
  have twos : divideOut 2 72 = (3, 9) := by cbv
  have threes : divideOut 3 9 = (2, 1) := by cbv
  -- Only the first divisors are written out: the list is too long to be evaluated.
  obtain ⟨later, divisors⟩ : ∃ later, trialDivisors = 2 :: 3 :: 5 :: later := by
    rw [trialDivisors, List.range_eq_range']
    simp only [@List.range'_succ 0 4998, @List.range'_succ 1 4997, List.map_cons]
    exact ⟨_, rfl⟩
  have split : splitSquare 72 = ⟨6, 2⟩ := by
    simp [splitSquare, notSquare, divisors, sift, twos, threes, absorb, exactRoot?_mul_self 1]
  have extracts := splitSquare_extracts (m := 72) (by decide)
  rw [split] at extracts
  exact ⟨by decide, split, extracts⟩

end Integer
end FourFours
