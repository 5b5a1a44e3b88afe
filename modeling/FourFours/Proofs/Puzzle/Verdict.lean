import FourFours.Proofs.Grammar.Decimals
import FourFours.Proofs.Puzzle.Entry
import FourFours.Proofs.Reading

/-!
# When an entry counts as solved

The verdict of a session is taken on the reading of the entry that is in view: it shows
no decimals and, if there is a target, is the text of the target. Hence the value of a
solved entry is the target up to the decimals that are read. It is the target itself if
its expansion is finite and read in full, but not always. With four digits in all, a solved
entry has no literal that the arithmetic takes for another number.
-/

namespace FourFours
namespace Puzzle

/-- Whether what a session shows is what its entry evaluates to. -/
structure Session.IsCurrent (session : Session) : Prop where
  settings : session.settings = .standard
  typed : ∃ text, session.entry = entryOf text
  /-- Without a complaint, an entry has a reading, and result and verdict come from it. -/
  reading : session.entry.isEmpty = false → session.complaint = none →
    ∃ reading, Calculator.evaluate .standard session.entry = .ok reading ∧
      Session.complaintOn reading = none ∧ session.result = some (cut reading) ∧
      session.warning = Session.warningOn session.target session.entry (some reading)

namespace Session

theorem isCurrent_start (target : Option Int) : (start target .standard).IsCurrent where
  settings := rfl
  typed := ⟨"", rfl⟩
  reading := by
    intro nonempty _
    simp [start] at nonempty

theorem entry_type (session : Session) (text : String) :
    (session.type text).entry = entryOf text := by
  rw [Session.type]
  dsimp only
  split
  · rfl
  · split <;> rfl

theorem target_type (session : Session) (text : String) :
    (session.type text).target = session.target := by
  rw [Session.type]
  dsimp only
  split
  · rfl
  · split <;> rfl

/-- After a text has been typed, a session shows what it evaluates to. -/
theorem isCurrent_type
    {session : Session}
    (settings : session.settings = .standard)
    (text : String) :
    (session.type text).IsCurrent := by
  rw [type]
  dsimp only
  split
  · rename_i empty
    exact ⟨settings, ⟨text, rfl⟩, fun nonempty _ => by simp [empty] at nonempty⟩
  · split
    · rename_i reading evaluated
      rw [settings] at evaluated
      exact ⟨settings, ⟨text, rfl⟩, fun _ accepted => ⟨reading, evaluated, accepted, rfl, rfl⟩⟩
    · exact ⟨settings, ⟨text, rfl⟩, fun _ accepted => nomatch accepted⟩

/-- The sessions of a player, with the standard settings. -/
inductive Reachable : Session → Prop
  | start (target : Option Int) : Reachable (start target .standard)
  | type {session : Session} (text : String) :
      Reachable session → Reachable (session.type text)
  | wipe {session : Session} : Reachable session → Reachable session.wipe
  | aim {session : Session} (target : Option Int) :
      Reachable session → Reachable (session.aim target)

theorem Reachable.isCurrent {session : Session} (reachable : session.Reachable) :
    session.IsCurrent := by
  induction reachable with
  | start target => exact isCurrent_start target
  | type text _ current => exact isCurrent_type current.settings text
  | wipe _ current => exact isCurrent_type current.settings ""
  | @aim session target _ current =>
      have settings : ({ session with target } : Session).settings = .standard := current.settings
      exact isCurrent_type settings ""

theorem noPoint_of_complaintOn {reading : String} (accepted : complaintOn reading = none) :
    '.' ∉ reading.toList ∧ cut reading = reading := by
  unfold complaintOn at accepted
  split at accepted
  · contradiction
  · rename_i noPoint
    split at accepted
    · contradiction
    · rename_i short
      exact ⟨by simpa [String.contains_char_eq] using noPoint, if_pos (Nat.not_lt.mp short)⟩

/-- An entry without a warning is not empty, has four digits, all of them a four, and its
reading is the target. -/
theorem of_warningOn_eq_none
    {target : Option Int}
    {entry : String}
    {reading : Option String}
    (follows : warningOn target entry reading = none) :
    entry.isEmpty = false ∧ (∀ c ∈ entry.toList, c.isDigit = true → c = '4') ∧
      entry.toList.count '4' = 4 ∧
      ∀ number text, target = some number → reading = some text → text = toString number := by
  unfold warningOn at follows
  split at follows
  · contradiction
  rename_i typed
  split at follows
  · contradiction
  rename_i onlyFours
  split at follows
  · contradiction
  rename_i fours
  refine ⟨by simpa using typed, fun c member digit => ?_, not_not.mp fours, ?_⟩
  · by_contra other
    exact onlyFours (List.any_eq_true.mpr ⟨c, member, by simp [digit, other]⟩)
  · rintro number text rfl rfl
    dsimp only at follows
    split at follows
    · assumption
    · contradiction

theorem countP_isDigit_of_warningOn
    {target : Option Int}
    {entry : String}
    {reading : Option String}
    (follows : warningOn target entry reading = none) :
    entry.toList.countP Char.isDigit = 4 := by
  obtain ⟨-, onlyFours, fours, -⟩ := of_warningOn_eq_none follows
  have isFour : ∀ c ∈ entry.toList, c.isDigit = true ↔ (c == '4') = true := by
    refine fun c member => ⟨fun digit => beq_iff_eq.mpr (onlyFours c member digit), fun four => ?_⟩
    rw [beq_iff_eq.mp four]
    rfl
  exact (List.countP_congr isFour).trans fours

/-- The decimal literals of an entry without a warning have at most four digits behind
their points. -/
theorem length_le_of_warningOn
    {target : Option Int}
    {entry text : String}
    {reading : Option String}
    {x : Expr}
    (typed : entry = entryOf text)
    (follows : warningOn target entry reading = none)
    (read : Expr.read entry = .ok x) :
    ∀ d ∈ x.decimals, d.fraction.length ≤ 4 := by
  intro d member
  calc
    d.fraction.length ≤ (Token.fold entry.toList).countP Char.isDigit :=
      Expr.length_le_of_read read d member
    _ ≤ entry.toList.countP Char.isDigit := by
      rw [typed, fold_entryOf]
      exact List.filter_sublist.countP_le
    _ = 4 := countP_isDigit_of_warningOn follows

/-- The value of a solved entry: it is an integer up to the decimals that are read, the
target if there is one, and exactly that if its expansion is finite and read in full. -/
theorem value_of_isSolved
    {session : Session}
    (reachable : session.Reachable)
    (solved : session.isSolved = true) :
    ∃ x v m, Expr.read session.entry = .ok x ∧ x.value .standard = .ok v ∧
      x.meaning = some v.real ∧ Reading.ReadsAs .standard v.real m ∧
        ∀ target, session.target = some target → m = target := by
  simp only [isSolved, Bool.and_eq_true, Bool.not_eq_true', Option.isNone_iff_eq_none] at solved
  obtain ⟨⟨⟨nonempty, accepted⟩, follows⟩, reached⟩ := solved
  obtain ⟨-, ⟨text, typed⟩, current⟩ := reachable.isCurrent
  obtain ⟨reading, evaluated, accepted, shown, judged⟩ := current nonempty accepted
  obtain ⟨noPoint, whole⟩ := noPoint_of_complaintOn accepted
  rw [whole] at shown
  obtain ⟨x, read, evaluated⟩ := bind_eq_ok_iff.mp evaluated
  obtain ⟨v, valued, evaluated⟩ := bind_eq_ok_iff.mp evaluated
  obtain ⟨normal, meaning⟩ := Expr.isSound .standard x v valued
  have short : ∀ d ∈ x.decimals, d.fraction.length < 2 ^ 32 := fun d member =>
    (length_le_of_warningOn typed (judged.symm.trans follows) read d member).trans_lt (by norm_num)
  rw [Expr.meaningWith_real? short] at meaning
  obtain ⟨m, rfl, reads⟩ := Reading.readsAs_of_ofValue (by decide) normal evaluated noPoint
  refine ⟨x, v, m, read, valued, meaning, reads, fun target aimed => ?_⟩
  rw [aimed, shown, beq_iff_eq, Option.some.injEq, ← Integer.text_eq_toString target] at reached
  exact Integer.text_injective reached

end Session

open Grammar
open Radical (Value)

/-- The sentence `4+4/44!`. -/
def almostFour : Sentence :=
  .sum
    (.product (.base (.unsigned (.postfixed (.literal (.integer ['4'])) 0))) .noFactors)
    (.term false
      (.product (.base (.unsigned (.postfixed (.literal (.integer ['4'])) 0)))
        (.factor true (.base (.unsigned (.postfixed (.literal (.integer ['4', '4'])) 1)))
          .noFactors))
      .noTerms)

theorem read_almostFour : Expr.read "4+4/44!" = .ok almostFour.meaning :=
  have normal : Token.normalize "4+4/44!".toList = .ok "4+4/44!".toList := by decide +kernel
  Expr.read_of_tokenize normal rfl (by decide)

theorem value_almostFour :
    almostFour.meaning.value .standard = .ok (.ofRat (4 + 4 / factorial 44)) := by
  have operand : naturalOperand .factorial 2 (.ofInt 44) = .ok 44 := by decide +kernel
  have divisor : (Expr.unary .factorial (.integer 44)).value .standard =
      .ok (.ofRat (factorial 44)) := by
    change factorialOf .standard (.ofInt 44) = _
    simp only [factorialOf, Settings.standard, operand, bind, Except.bind]
    exact if_pos (by decide)
  have nonzero : (factorial 44 : Rat) ≠ 0 := by decide +kernel
  have quotient : (Expr.node .quotient [.integer 4, .unary .factorial (.integer 44)]).value
      .standard = .ok (.ofRat (4 / factorial 44)) := by
    rw [Expr.value, divisor]
    exact Value.div_ofRat 4 nonzero
  have first : Value.zero.add (.ofInt 4) = .ok (.ofRat 4) := by cbv
  change (Expr.node .sum [.integer 4, .node .quotient
    [.integer 4, .unary .factorial (.integer 44)]]).value .standard = _
  rw [Expr.value, Expr.value]
  simp only [bind, Except.bind, first, Expr.value.addAll, quotient, Value.add_ofRat]

theorem reading_almostFour :
    Reading.ofValue .standard (.ofRat (4 + 4 / factorial 44)) = .ok "4" := by
  have denominator : (4 + 4 / factorial 44 : Rat).den =
      664567893697112192010906452753653972579909632000000000 := by decide +kernel
  have endless : Reading.expansionLength? (4 + 4 / factorial 44 : Rat).den = none := by
    rw [denominator]
    cbv
  have scaled : Reading.scaled (4 + 4 / factorial 44) 20 = 400000000000000000000 := by
    decide +kernel
  have written : Reading.printTruncated 400000000000000000000 20 = .ok "4" := by decide +kernel
  have rational (q : Rat) : (Value.ofRat q).rational? = some q := rfl
  simp only [Reading.ofValue, rational, Reading.ofRat, endless, Reading.truncated,
    Settings.standard, scaled, written]
  rw [denominator]
  rfl

namespace Session

/-- The session of a player with the target 4 who types `4+4/44!`. -/
def almostSolved : Session :=
  (start (some 4) .standard).type "4+4/44!"

theorem reachable_almostSolved : almostSolved.Reachable :=
  .type _ (.start (some 4))

theorem entryOf_almostSolved : entryOf "4+4/44!" = "4+4/44!" := by
  have kept : "4+4/44!".toList.filter isKept = "4+4/44!".toList := by cbv
  have upper : "4+4/44!".toList.map Char.toUpper = "4+4/44!".toList := by decide
  exact entryOf_eq_self kept upper

theorem isSolved_almostSolved : almostSolved.isSolved = true := by
  have evaluated : Calculator.evaluate .standard "4+4/44!" = .ok "4" :=
    (Calculator.evaluate_of_value read_almostFour value_almostFour).trans reading_almostFour
  have accepted : complaintOn "4" = none := by cbv
  have follows : warningOn (some 4) "4+4/44!" (some "4") = none := by decide +kernel
  have shown : cut "4" = "4" := by cbv
  simp only [almostSolved, Session.type, start, entryOf_almostSolved, evaluated, accepted, follows,
    shown]
  decide +kernel

/-- The value of an entry that counts as solved is its target up to the decimals that are
read. -/
theorem value_of_isSolved_almostSolved :
    almostSolved.Reachable ∧ almostSolved.isSolved = true ∧
      ∃ x v m, Expr.read almostSolved.entry = .ok x ∧ x.value .standard = .ok v ∧
        x.meaning = some v.real ∧ Reading.ReadsAs .standard v.real m ∧
          ∀ target, almostSolved.target = some target → m = target :=
  ⟨reachable_almostSolved, isSolved_almostSolved,
    value_of_isSolved reachable_almostSolved isSolved_almostSolved⟩

/-- An entry counts as solved although its value is not the target: it exceeds 4 by less
than the reading shows. -/
theorem solved_though_not_four :
    almostSolved.Reachable ∧ almostSolved.target = some 4 ∧ almostSolved.isSolved = true ∧
      ∃ x v, Expr.read almostSolved.entry = .ok x ∧ x.value .standard = .ok v ∧ v.real ≠ 4 := by
  refine ⟨reachable_almostSolved, ?_, isSolved_almostSolved, _, _, ?_, value_almostFour, ?_⟩
  · exact target_type _ _
  · rw [almostSolved, entry_type, entryOf_almostSolved, read_almostFour]
  · have positive : (4 + 4 / factorial 44 : Rat) ≠ 4 := by decide +kernel
    rw [Value.real_ofRat]
    exact_mod_cast positive

end Session
end Puzzle
end FourFours
