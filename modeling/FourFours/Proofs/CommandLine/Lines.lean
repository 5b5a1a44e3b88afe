import FourFours.CommandLine.Program
import FourFours.Proofs.CommandLine.Number

/-!
# Lines of the input

Input of whole lines is cut into its lines whatever follows behind it, and a text without line
breaks is read back from its bytes. The commands that aim at a target, or at none, are read
as such.
-/

namespace FourFours
namespace CommandLine

/-- Whether some input consists of whole lines: its last byte is a line feed. -/
def IsWhole (input : List UInt8) : Prop :=
  ∀ byte ∈ input.getLast?, byte = 10

theorem linesFrom_lineFeed (line bytes : List UInt8) :
    splitLines.linesFrom line (10 :: bytes) =
      (splitLines.ended line).reverse :: splitLines bytes := rfl

theorem linesFrom_cons {byte : UInt8} (other : byte ≠ 10) (line bytes : List UInt8) :
    splitLines.linesFrom line (byte :: bytes) = splitLines.linesFrom (byte :: line) bytes := by
  rw [splitLines.linesFrom.eq_3 _ _ _ other]

/-- Behind a line feed a new line begins. -/
theorem linesFrom_append
    (line : List UInt8)
    {before : List UInt8}
    (ended : before.getLast? = some 10)
    (after : List UInt8) :
    splitLines.linesFrom line (before ++ after) =
      splitLines.linesFrom line before ++ splitLines after := by
  induction before generalizing line with
  | nil => contradiction
  | cons byte before inductionHypothesis =>
      by_cases single : before = []
      · obtain rfl : byte = 10 := by simpa [single] using ended
        rw [single]
        rfl
      · rw [List.getLast?_cons_of_ne_nil single] at ended
        rw [List.cons_append]
        by_cases lineFeed : byte = 10
        · rw [lineFeed, linesFrom_lineFeed, linesFrom_lineFeed, splitLines,
            inductionHypothesis [] ended]
          rfl
        · rw [linesFrom_cons lineFeed, linesFrom_cons lineFeed, inductionHypothesis _ ended]

theorem splitLines_append {before : List UInt8} (whole : IsWhole before) (after : List UInt8) :
    splitLines (before ++ after) = splitLines before ++ splitLines after := by
  cases last : before.getLast? with
  | none =>
      rw [List.getLast?_eq_none_iff.mp last]
      rfl
  | some byte => exact linesFrom_append [] (last.trans (congrArg some (whole byte last))) after

/-- The lines of some input of whole lines stay the same whatever follows. -/
theorem inputLines_append {before : List UInt8} (whole : IsWhole before) (after : List UInt8) :
    inputLines (before ++ after) = inputLines before ++ inputLines after := by
  rw [inputLines, splitLines_append whole, List.map_append]
  rfl

/-- The bytes of a text. -/
def utf8 (text : String) : List UInt8 :=
  text.toList.flatMap String.utf8EncodeChar

/-- The bytes of a text on a line of its own. -/
def lineOf (text : String) : List UInt8 :=
  utf8 text ++ [10]

theorem fromUTF8?_utf8 (text : String) : String.fromUTF8? (utf8 text).toByteArray = some text := by
  have bytes : (utf8 text).toByteArray = text.toByteArray := String.utf8Encode_toList
  rw [bytes, String.fromUTF8?, dif_pos text.isValidUTF8]
  rfl

/-- Small bytes stand for themselves only. -/
theorem toNat_eq_of_mem_utf8EncodeChar
    {c : Char}
    {byte : UInt8}
    (member : byte ∈ String.utf8EncodeChar c)
    (small : byte.toNat < 128) :
    c.toNat = byte.toNat := by
  unfold String.utf8EncodeChar at member
  dsimp only at member
  split at member
  · rename_i ascii
    rw [List.mem_singleton.mp member, UInt8.toNat_ofNat', Nat.mod_eq_of_lt (by omega)]
    rfl
  · -- every byte of a longer code is at least 128
    exfalso
    split at member
    · simp only [List.mem_cons, List.not_mem_nil, or_false] at member
      rcases member with rfl | rfl <;> rw [UInt8.toNat_ofNat'] at small <;> omega
    · split at member
      · simp only [List.mem_cons, List.not_mem_nil, or_false] at member
        rcases member with rfl | rfl | rfl <;> rw [UInt8.toNat_ofNat'] at small <;> omega
      · simp only [List.mem_cons, List.not_mem_nil, or_false] at member
        rcases member with rfl | rfl | rfl | rfl <;> rw [UInt8.toNat_ofNat'] at small <;> omega

/-- Whether a text stands on one line. -/
def IsOneLine (text : String) : Prop :=
  ∀ c ∈ text.toList, c ≠ '\n' ∧ c ≠ '\r'

instance (text : String) : Decidable (IsOneLine text) :=
  List.decidableBAll _ text.toList

/-- The bytes of a text on one line are neither line feeds nor carriage returns. -/
theorem IsOneLine.ne_of_mem_utf8
    {text : String}
    (oneLine : IsOneLine text)
    {byte : UInt8}
    (member : byte ∈ utf8 text) :
    byte ≠ 10 ∧ byte ≠ 13 := by
  obtain ⟨c, within, encoded⟩ := List.mem_flatMap.mp member
  obtain ⟨noLineFeed, noReturn⟩ := oneLine c within
  constructor
  · rintro rfl
    exact noLineFeed (Char.toNat_inj.mp (toNat_eq_of_mem_utf8EncodeChar encoded (by decide)))
  · rintro rfl
    exact noReturn (Char.toNat_inj.mp (toNat_eq_of_mem_utf8EncodeChar encoded (by decide)))

theorem linesFrom_of_not_mem
    {bytes : List UInt8}
    (unbroken : 10 ∉ bytes)
    (line rest : List UInt8) :
    splitLines.linesFrom line (bytes ++ rest) =
      splitLines.linesFrom (bytes.reverse ++ line) rest := by
  induction bytes generalizing line with
  | nil => rfl
  | cons byte bytes inductionHypothesis =>
      obtain ⟨other, unbrokenRest⟩ := List.ne_and_not_mem_of_not_mem_cons unbroken
      rw [List.cons_append, linesFrom_cons other.symm, inductionHypothesis unbrokenRest,
        List.reverse_cons, List.append_assoc]
      rfl

theorem ended_of_not_mem {line : List UInt8} (noReturn : 13 ∉ line) :
    splitLines.ended line = line := by
  unfold splitLines.ended
  split
  · simp at noReturn
  · rfl

/-- A text on one line is read as that line. -/
theorem inputLines_lineOf {text : String} (oneLine : IsOneLine text) :
    inputLines (lineOf text) = [some text] := by
  have unbroken : 10 ∉ utf8 text := fun member => (oneLine.ne_of_mem_utf8 member).1 rfl
  have unended : splitLines.ended (utf8 text).reverse = (utf8 text).reverse :=
    ended_of_not_mem fun member =>
      (oneLine.ne_of_mem_utf8 (List.mem_reverse.mp member)).2 rfl
  rw [inputLines, splitLines, lineOf, linesFrom_of_not_mem unbroken, List.append_nil,
    linesFrom_lineFeed, unended, List.reverse_reverse]
  exact congrArg ([·]) (fromUTF8?_utf8 text)

theorem isWhole_lineOf (text : String) : IsWhole (lineOf text) := by
  simp [IsWhole, lineOf]

/-- The command that aims at a target, or at none. -/
def aimCommand : Option Target → String
  | none => ":libre"
  | some target => ":cible " ++ toString target.val

/-- Whether some characters make up a single word. -/
def IsWord (characters : List Char) : Prop :=
  characters ≠ [] ∧ ∀ c ∈ characters, Text.isWhiteSpace c = false

instance (characters : List Char) : Decidable (IsWord characters) :=
  @instDecidableAnd _ _ inferInstance (List.decidableBAll _ characters)

/-- An integer is a single word. -/
theorem isWord_toString (n : Int) : IsWord (toString n).toList := by
  refine ⟨by rw [toList_toString]; simp [digits_ne_nil], fun c member => ?_⟩
  have digitOrMinus : c.isDigit = true ∨ c = '-' := by
    rw [toList_toString, List.mem_append] at member
    rcases member with sign | digit
    · split at sign <;> simp_all
    · exact .inl (Integer.isDigit_of_mem_digits digit)
  have blanks : Text.whiteSpace.all (fun blank => !blank.isDigit && blank != '-') = true := by
    decide
  rw [Text.isWhiteSpace, ← Bool.not_eq_true, List.contains_iff_mem]
  intro blank
  have neither := List.all_eq_true.mp blanks c blank
  rcases digitOrMinus with digit | rfl
  · simp [digit] at neither
  · simp at neither

/-- A line that begins and ends with other characters than white space is not trimmed. -/
theorem trim_eq_self
    {first last : Char}
    {line rest front : List Char}
    (begins : line = first :: rest)
    (ends : line = front ++ [last])
    (plainFirst : Text.isWhiteSpace first = false)
    (plainLast : Text.isWhiteSpace last = false) :
    Text.trim line = line := by
  have head : line.dropWhile Text.isWhiteSpace = line := by
    rw [begins, List.dropWhile_cons_of_neg (by simp [plainFirst])]
  have tail : line.reverse.dropWhile Text.isWhiteSpace = line.reverse := by
    rw [ends, List.reverse_append, List.reverse_singleton, List.singleton_append,
      List.dropWhile_cons_of_neg (by simp [plainLast])]
  rw [Text.trim, head, tail, List.reverse_reverse]

/-- Two words with a blank between them are these words. -/
theorem words_pair {first second : List Char} (isFirst : IsWord first) (isSecond : IsWord second) :
    Text.words (first ++ ' ' :: second) = [first, second] := by
  rw [Text.words, List.splitOnP_append_cons _ _ (by decide),
    List.splitOnP_eq_singleton isFirst.2, List.splitOnP_eq_singleton isSecond.2]
  simp [isFirst.1, isSecond.1]

theorem ofWords_cible (line : String) (target : Target) :
    Line.ofWords line ["cible", toString target.val] = .ok (.aim (some target.val)) := by
  rw [Line.ofWords, readTarget?_toString]

/-- The command that aims at a target, or at none, is read as such. -/
theorem read_aimCommand (target : Option Target) :
    Line.read (aimCommand target) = .ok (.aim (target.map (·.val))) := by
  cases target with
  | none => decide
  | some target =>
      let command := ['c', 'i', 'b', 'l', 'e']
      let number := (toString target.val).toList
      have isCommand : IsWord command := by decide
      have isNumber : IsWord number := isWord_toString target.val
      have characters : (aimCommand (some target)).toList = ':' :: (command ++ ' ' :: number) := by
        simp [aimCommand, command, number]
      obtain ⟨front, last, ends⟩ := (List.eq_nil_or_concat' number).resolve_left isNumber.1
      have ended : (aimCommand (some target)).toList =
          (':' :: command ++ ' ' :: front) ++ [last] := by
        rw [characters, ends]
        rfl
      have trimmed := trim_eq_self characters ended (by decide) (isNumber.2 last (by simp [ends]))
      rw [Line.read, trimmed, characters]
      simp only [words_pair isCommand isNumber]
      rw [List.map_cons, List.map_singleton, String.ofList_toList]
      exact ofWords_cible _ target

/-- The command that aims at a target, or at none, stands on one line. -/
theorem isOneLine_aimCommand (target : Option Target) : IsOneLine (aimCommand target) := by
  intro c member
  cases target with
  | none =>
      have fixed : IsOneLine ":libre" := by decide
      exact fixed c member
  | some target =>
      have fixed : IsOneLine ":cible " := by decide
      rw [aimCommand, String.toList_append, List.mem_append] at member
      rcases member with command | number
      · exact fixed c command
      · have plain := (isWord_toString target.val).2 c number
        constructor <;> rintro rfl <;> exact absurd plain (by decide)

end CommandLine
end FourFours
