import FourFours.Proofs.Grammar.Tokens
import FourFours.Puzzle.Session

/-!
# The characters of an entry

What is kept of a typed text is put in upper case. So an entry consists of characters that
are kept as they are, and an entry that is typed stays what it is. Blanks apart, they belong
to the alphabet: an entry has a normal form, which drops its blanks and nothing else.
-/

namespace FourFours
namespace Puzzle

/-- A text of kept characters in upper case is its own entry. -/
theorem entryOf_eq_self
    {text : String}
    (kept : text.toList.filter isKept = text.toList)
    (upper : text.toList.map Char.toUpper = text.toList) :
    entryOf text = text := by
  rw [entryOf, kept, upper, String.ofList_toList]

theorem toUpper_of_isDigit {c : Char} (digit : c.isDigit = true) : c.toUpper = c := by
  -- as a test of a list, not of all characters with a hypothesis
  have digits : ("0123456789".toList.all fun c => c.toUpper == c) = true := by decide
  exact beq_iff_eq.mp (List.all_eq_true.mp digits c (Text.mem_of_isDigit digit))

theorem isKept_iff (c : Char) :
    isKept c = true ↔ c.isDigit = true ∨ c ∈ "+-*/()!^.SsRr ".toList := by
  simp [isKept, String.contains_char_eq]

/-- What is kept is still kept in upper case, and is in upper case then. -/
theorem isKept_toUpper {c : Char} (kept : isKept c = true) :
    isKept c.toUpper = true ∧ c.toUpper.toUpper = c.toUpper := by
  have symbols : ("+-*/()!^.SsRr ".toList.all fun c =>
      "+-*/()!^.SsRr ".toList.contains c.toUpper && c.toUpper.toUpper == c.toUpper) = true := by
    decide
  rcases (isKept_iff c).mp kept with digit | symbol
  · rw [toUpper_of_isDigit digit]
    exact ⟨kept, toUpper_of_isDigit digit⟩
  · have both := List.all_eq_true.mp symbols c symbol
    rw [Bool.and_eq_true, List.contains_iff_mem, beq_iff_eq] at both
    exact ⟨(isKept_iff _).mpr (.inr both.1), both.2⟩

/-- An entry is its own entry. -/
theorem entryOf_entryOf (text : String) : entryOf (entryOf text) = entryOf text := by
  have kept : ∀ c ∈ (entryOf text).toList, isKept c = true ∧ c.toUpper = c := by
    rw [entryOf, String.toList_ofList]
    exact List.forall_mem_map.mpr fun c member => isKept_toUpper (List.mem_filter.mp member).2
  apply entryOf_eq_self
  · exact List.filter_eq_self.mpr fun c member => (kept c member).1
  · exact (List.map_congr_left fun c member => (kept c member).2).trans (List.map_id' _)

/-- What is kept is, in upper case, a digit or one of the symbols of an entry. -/
theorem toUpper_of_isKept {c : Char} (kept : isKept c = true) :
    c.toUpper.isDigit = true ∨ c.toUpper ∈ "+-*/()!^.SR ".toList := by
  have symbols : ("+-*/()!^.SsRr ".toList.all fun c =>
      "+-*/()!^.SR ".toList.contains c.toUpper) = true := by
    decide
  rcases (isKept_iff c).mp kept with digit | symbol
  · rw [toUpper_of_isDigit digit]
    exact .inl digit
  · exact .inr (List.contains_iff_mem.mp (List.all_eq_true.mp symbols c symbol))

/-- The characters of an entry. -/
theorem isDigit_or_mem_of_mem_entryOf {text : String} :
    ∀ c ∈ (entryOf text).toList, c.isDigit = true ∨ c ∈ "+-*/()!^.SR ".toList := by
  rw [entryOf, String.toList_ofList]
  exact List.forall_mem_map.mpr fun c member => toUpper_of_isKept (List.mem_filter.mp member).2

/-- The symbols of an entry belong to the alphabet, except the blank. -/
theorem inAlphabet_of_mem_entryOf
    {text : String}
    {c : Char}
    (member : c ∈ (entryOf text).toList)
    (visible : Text.isWhiteSpace c = false) :
    Token.inAlphabet c = true := by
  have symbols : ("+-*/()!^.SR ".toList.all fun c =>
      Text.isWhiteSpace c || Token.inAlphabet c) = true := by
    decide
  rcases isDigit_or_mem_of_mem_entryOf c member with digit | symbol
  · rw [Token.inAlphabet, digit, Bool.true_or]
  · simpa [visible] using List.all_eq_true.mp symbols c symbol

theorem fold_entryOf (text : String) :
    Token.fold (entryOf text).toList =
      (entryOf text).toList.filter fun c => !Text.isWhiteSpace c :=
  Token.fold_of_inAlphabet fun _ => inAlphabet_of_mem_entryOf

/-- Every entry has a normal form. -/
theorem exists_normalize_entryOf (text : String) :
    ∃ normal, Token.normalize (entryOf text).toList = .ok normal := by
  refine ⟨_, Token.normalize_eq_ok_iff.mpr ⟨rfl, ?_⟩⟩
  rw [fold_entryOf]
  intro c member
  obtain ⟨typed, visible⟩ := List.mem_filter.mp member
  exact inAlphabet_of_mem_entryOf typed (by simpa using visible)

end Puzzle
end FourFours
