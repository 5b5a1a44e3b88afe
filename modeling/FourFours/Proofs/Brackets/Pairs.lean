import FourFours.Brackets

/-!
# Matching brackets

Two brackets of a text match if every bracket between them has its partner there. The pairs
that are listed in the order in which they close are exactly the matching ones, also in a text
where other brackets have no partner: a closing bracket without one is passed over, and an
opening one is never reached.
-/

namespace FourFours
namespace Brackets

/-- The texts in which every bracket has its partner. -/
inductive Balanced : List Char → Prop
  | nil : Balanced []
  | other {c : Char} {text : List Char} :
      c ≠ '(' → c ≠ ')' → Balanced text → Balanced (c :: text)
  | group {inner behind : List Char} :
      Balanced inner → Balanced behind → Balanced ('(' :: (inner ++ ')' :: behind))

theorem Balanced.append {text behind : List Char} (balanced : Balanced text)
    (balancedBehind : Balanced behind) :
    Balanced (text ++ behind) := by
  induction balanced with
  | nil => exact balancedBehind
  | other opens closes _ inductionHypothesis => exact .other opens closes inductionHypothesis
  | group inner _ _ inductionHypothesis =>
      rw [List.cons_append, List.append_assoc, List.cons_append]
      exact .group inner inductionHypothesis

/-- Whether the brackets at two positions of a text match. -/
def IsMatch (text : List Char) (pair : Nat × Nat) : Prop :=
  ∃ before inner behind, Balanced inner ∧ text = before ++ '(' :: (inner ++ ')' :: behind) ∧
    pair = (before.length, before.length + inner.length + 1)

/-- Whether a text turns into another one if two matching brackets, and nothing else, are
dropped. -/
def DropsPair (text shorter : List Char) : Prop :=
  ∃ before inner behind, Balanced inner ∧ text = before ++ '(' :: (inner ++ ')' :: behind) ∧
    shorter = before ++ (inner ++ behind)

/-- Whether brackets at given positions of a text, the innermost first, wait for their
partners: between each of them and the next one, or the end, the text is balanced. -/
def AwaitPartners : List Char → List Nat → Prop
  | _, [] => True
  | text, o :: opened => ∃ before inner, Balanced inner ∧ text = before ++ '(' :: inner ∧
      before.length = o ∧ AwaitPartners before opened

/-- Brackets still wait behind a balanced text. -/
theorem AwaitPartners.append
    {text inner : List Char}
    {opened : List Nat}
    (await : AwaitPartners text opened)
    (balanced : Balanced inner) :
    AwaitPartners (text ++ inner) opened := by
  cases opened with
  | nil => trivial
  | cons o opened =>
      obtain ⟨before, between, balancedBetween, rfl, position, await⟩ := await
      refine ⟨before, between ++ inner, balancedBetween.append balanced, ?_, position, await⟩
      simp

theorem isMatch_of_mem_pairsFrom
    {before text : List Char}
    {i : Nat}
    {opened : List Nat}
    {pair : Nat × Nat}
    (position : before.length = i)
    (await : AwaitPartners before opened)
    (member : pair ∈ pairsFrom i opened text) :
    IsMatch (before ++ text) pair := by
  fun_induction pairsFrom i opened text generalizing before with
  | case1 => simp at member
  | case2 i opened text inductionHypothesis =>
      rw [List.append_cons]
      apply inductionHypothesis _ _ member
      · simp [position]
      · exact ⟨before, [], .nil, rfl, position, await⟩
  | case3 i text o opened inductionHypothesis =>
      -- the innermost bracket that waits is closed, and those outside wait behind the group
      obtain ⟨outside, inner, balanced, rfl, rfl, awaitOutside⟩ := await
      rw [List.mem_cons] at member
      rcases member with rfl | member
      · refine ⟨outside, inner, text, balanced, by simp, ?_⟩
        simp [← position, Nat.add_assoc]
      · rw [List.append_cons]
        apply inductionHypothesis _ _ member
        · simp only [List.length_append, List.length_cons, List.length_nil] at position ⊢
          omega
        · rw [List.append_assoc, List.cons_append]
          exact awaitOutside.append (.group balanced .nil)
  | case4 i text inductionHypothesis =>
      rw [List.append_cons]
      exact inductionHypothesis (by simp [position]) trivial member
  | case5 i opened c text opens closes inductionHypothesis =>
      rw [List.append_cons]
      apply inductionHypothesis _ _ member
      · simp [position]
      · exact await.append (.other opens closes .nil)

/-- The position behind a text, counted from its second character. -/
theorem add_length_cons (i : Nat) (c : Char) (text : List Char) :
    i + (c :: text).length = i + 1 + text.length := by
  rw [List.length_cons]
  omega

/-- Behind a balanced text the same brackets are open as in front of it. -/
theorem exists_pairsFrom_balanced
    {inner : List Char}
    (balanced : Balanced inner)
    (i : Nat)
    (opened : List Nat)
    (rest : List Char) :
    ∃ found, pairsFrom i opened (inner ++ rest) =
      found ++ pairsFrom (i + inner.length) opened rest := by
  induction balanced generalizing i opened rest with
  | nil => exact ⟨[], rfl⟩
  | @other c text opens closes _ inductionHypothesis =>
      obtain ⟨found, listed⟩ := inductionHypothesis (i + 1) opened rest
      refine ⟨found, ?_⟩
      rw [List.cons_append, pairsFrom, listed, add_length_cons]
      · exact opens
      · exact closes
  | @group inner behind _ _ innerHypothesis behindHypothesis =>
      obtain ⟨found, listed⟩ := innerHypothesis (i + 1) (i :: opened) (')' :: (behind ++ rest))
      obtain ⟨foundBehind, listedBehind⟩ :=
        behindHypothesis (i + 1 + inner.length + 1) opened rest
      refine ⟨found ++ (i, i + 1 + inner.length) :: foundBehind, ?_⟩
      rw [List.cons_append, List.append_assoc, List.cons_append, pairsFrom, listed, pairsFrom,
        listedBehind, add_length_cons, List.length_append, ← Nat.add_assoc, add_length_cons,
        List.append_assoc, List.cons_append]

/-- Behind any text some brackets are open, whatever follows. -/
theorem exists_pairsFrom_append (i : Nat) (opened : List Nat) (before : List Char) :
    ∃ found waiting, ∀ rest, pairsFrom i opened (before ++ rest) =
      found ++ pairsFrom (i + before.length) waiting rest := by
  fun_induction pairsFrom i opened before with
  | case1 i opened => exact ⟨[], opened, fun rest => rfl⟩
  | case2 i opened before inductionHypothesis =>
      obtain ⟨found, waiting, listed⟩ := inductionHypothesis
      refine ⟨found, waiting, fun rest => ?_⟩
      rw [List.cons_append, pairsFrom, listed, add_length_cons]
  | case3 i before o opened inductionHypothesis =>
      obtain ⟨found, waiting, listed⟩ := inductionHypothesis
      refine ⟨(o, i) :: found, waiting, fun rest => ?_⟩
      rw [List.cons_append, pairsFrom, listed, add_length_cons, List.cons_append]
  | case4 i before inductionHypothesis =>
      obtain ⟨found, waiting, listed⟩ := inductionHypothesis
      refine ⟨found, waiting, fun rest => ?_⟩
      rw [List.cons_append, pairsFrom, listed, add_length_cons]
  | case5 i opened c before opens closes inductionHypothesis =>
      obtain ⟨found, waiting, listed⟩ := inductionHypothesis
      refine ⟨found, waiting, fun rest => ?_⟩
      rw [List.cons_append, pairsFrom, listed, add_length_cons]
      · exact opens
      · exact closes

/-- The pairs that are listed are those of matching brackets. -/
theorem mem_pairs_iff (text : List Char) (pair : Nat × Nat) :
    pair ∈ pairs text ↔ IsMatch text pair := by
  constructor
  · intro member
    have await : AwaitPartners [] [] := trivial
    exact isMatch_of_mem_pairsFrom rfl await member
  · rintro ⟨before, inner, behind, balanced, rfl, rfl⟩
    obtain ⟨found, waiting, listed⟩ := exists_pairsFrom_append 0 [] before
    obtain ⟨foundInside, listedInside⟩ := exists_pairsFrom_balanced balanced
      (before.length + 1) (before.length :: waiting) (')' :: behind)
    rw [pairs, listed, Nat.zero_add, pairsFrom, listedInside, pairsFrom]
    simp [Nat.add_right_comm]

/-- A text without two matching brackets. -/
theorem without_eq (before inner behind : List Char) :
    without (before ++ '(' :: (inner ++ ')' :: behind))
        (before.length, before.length + inner.length + 1) =
      before ++ (inner ++ behind) := by
  have closing : before.length + inner.length + 1 = (before ++ '(' :: inner).length := by
    simp [Nat.add_assoc]
  have opening : before ++ '(' :: (inner ++ ')' :: behind) =
      (before ++ '(' :: inner) ++ ')' :: behind := by
    simp
  rw [without, closing, opening, List.eraseIdx_append_of_length_le (Nat.le_refl _)]
  simp [List.eraseIdx_append_of_length_le]

/-- Dropping a listed pair is dropping two matching brackets. -/
theorem dropsPair_iff (text shorter : List Char) :
    DropsPair text shorter ↔ ∃ pair ∈ pairs text, without text pair = shorter := by
  simp only [mem_pairs_iff]
  constructor
  · rintro ⟨before, inner, behind, balanced, rfl, rfl⟩
    exact ⟨_, ⟨before, inner, behind, balanced, rfl, rfl⟩, without_eq before inner behind⟩
  · rintro ⟨_, ⟨before, inner, behind, balanced, rfl, rfl⟩, rfl⟩
    exact ⟨before, inner, behind, balanced, rfl, without_eq before inner behind⟩

end Brackets
end FourFours
