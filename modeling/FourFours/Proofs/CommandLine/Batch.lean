import FourFours.CommandLine.Program
import FourFours.Proofs.CommandLine.Arguments
import FourFours.Proofs.CommandLine.Number

/-!
# Batches

A command line with answers and expressions shows them one by one, answers first. Each item
shows what it shows on a command line of its own with the same options: an item that fails
neither stops the others nor changes what they show, and the batch fails exactly if some item
does.
-/

namespace FourFours
namespace CommandLine

/-- The option that asks for the known answer for a number. -/
def WrittenOption.answer (number : Target) : WrittenOption where
  name := .answer
  spelling := "--reponse"
  named := rfl
  value := toString number.val
  joined := false
  long_of_joined := nofun
  request := .answer number.val
  set_eq options := by rw [Options.set, readTarget?_toString]; rfl

namespace Request

/-- The number whose known answer is asked for. -/
def answer? : Request → Option Int
  | answer number => some number
  | _ => none

/-- The expression whose result is asked for. -/
def text? : Request → Option String
  | expression text => some text
  | _ => none

theorem answer?_eq_some_iff {request : Request} {number : Int} :
    request.answer? = some number ↔ request = .answer number := by
  cases request <;> simp [answer?]

theorem text?_eq_some_iff {request : Request} {text : String} :
    request.text? = some text ↔ request = .expression text := by
  cases request <;> simp [text?]

/-- Whether something is to be shown. -/
def isItem (request : Request) : Bool :=
  request.answer?.isSome || request.text?.isSome

end Request

namespace Options

/-- Some options without the items. -/
def bare (options : Options) : Options :=
  { options with answers := [], expressions := [] }

/-- Requests that are no items neither change the items nor depend on them. -/
theorem bare_addAll (requests : List Request) :
    empty.addAll (requests.filter (!·.isItem)) = (empty.addAll requests).bare := by
  refine addAll_filter (!·.isItem) bare (fun options request kept => ?_)
    (fun options request dropped => ?_) empty requests
  · cases request <;> first | rfl | contradiction
  · cases request <;> first | rfl | contradiction

/-- What some requests collect in a part of the options, if each adds what it asks for. -/
theorem collect_addAll
    {α : Type}
    (part : Options → List α)
    (pick : Request → Option α)
    (step : ∀ options request, part (options.add request) = part options ++ (pick request).toList)
    (options : Options)
    (requests : List Request) :
    part (options.addAll requests) = part options ++ requests.filterMap pick := by
  induction requests generalizing options with
  | nil => simp
  | cons request requests inductionHypothesis =>
      rw [addAll_cons, inductionHypothesis, step, List.append_assoc]
      cases picked : pick request <;> simp [picked]

theorem answers_addAll (options : Options) (requests : List Request) :
    (options.addAll requests).answers = options.answers ++ requests.filterMap Request.answer? :=
  collect_addAll answers Request.answer?
    (fun _ request => by cases request <;> simp [add, Request.answer?]) options requests

theorem expressions_addAll (options : Options) (requests : List Request) :
    (options.addAll requests).expressions =
      options.expressions ++ requests.filterMap Request.text? :=
  collect_addAll expressions Request.text?
    (fun _ request => by cases request <;> simp [add, Request.text?]) options requests

end Options

namespace Written

/-- A piece of a command line alone, with all options but the items. -/
def alone (line : Written) (piece : Piece) : Written :=
  ⟨line.pieces.filter (!·.request.isItem) ++ [piece], none⟩

/-- An expression alone behind a double hyphen, with all options but the items. -/
def aloneVerbatim (line : Written) (text : String) : Written :=
  ⟨line.pieces.filter (!·.request.isItem), some [text]⟩

/-- The command lines of the single items: answers first, then expressions, each in order. -/
def singles (line : Written) : List Written :=
  (line.pieces.filter (·.request.answer?.isSome)).map line.alone ++
    (line.pieces.filter (·.request.text?.isSome)).map line.alone ++
      line.verbatimTexts.map line.aloneVerbatim

/-- The options without the items are those of the pieces that are no items. -/
theorem addAll_options (line : Written) :
    Options.empty.addAll ((line.pieces.filter (!·.request.isItem)).map Piece.request) =
      line.options.bare := by
  have verbatim : (line.verbatimTexts.map Request.expression).filter (!·.isItem) = [] := by
    simp [Request.isItem, Request.text?]
  rw [options, ← Options.bare_addAll, requests, List.filter_append, verbatim,
    List.append_nil, List.filter_map]
  rfl

theorem options_alone (line : Written) (piece : Piece) :
    (line.alone piece).options = line.options.bare.add piece.request := by
  rw [← addAll_options]
  simp [options, requests, alone, verbatimTexts]

theorem options_aloneVerbatim (line : Written) (text : String) :
    (line.aloneVerbatim text).options = line.options.bare.add (.expression text) := by
  rw [← addAll_options]
  simp [options, requests, aloneVerbatim, verbatimTexts]

/-- The answers come from the pieces, in order. -/
theorem answers_options (line : Written) :
    line.options.answers = (line.pieces.map Piece.request).filterMap Request.answer? := by
  rw [options, Options.answers_addAll, requests, List.filterMap_append]
  simp [Options.empty, Request.answer?]

/-- The expressions come from the pieces, in order, and then from behind the double hyphen. -/
theorem expressions_options (line : Written) :
    line.options.expressions =
      (line.pieces.map Piece.request).filterMap Request.text? ++ line.verbatimTexts := by
  have behind : (line.verbatimTexts.map Request.expression).filterMap Request.text? =
      line.verbatimTexts := by
    rw [List.filterMap_map]
    exact List.filterMap_some
  rw [options, Options.expressions_addAll, requests, List.filterMap_append, behind]
  rfl

end Written

namespace Outcome

/-- Some outcomes one after another. -/
def inTurn (outcomes : List Outcome) : Outcome :=
  outcomes.foldl andThen silent

@[simp] theorem silent_andThen (outcome : Outcome) : silent.andThen outcome = outcome := by
  simp [silent, andThen]

@[simp] theorem andThen_silent (outcome : Outcome) : outcome.andThen silent = outcome := by
  simp [silent, andThen]

theorem andThen_assoc (first second third : Outcome) :
    (first.andThen second).andThen third = first.andThen (second.andThen third) := by
  simp [andThen, String.append_assoc, Nat.max_assoc]

@[simp] theorem inTurn_nil : inTurn [] = silent := rfl

@[simp] theorem inTurn_cons (outcome : Outcome) (outcomes : List Outcome) :
    inTurn (outcome :: outcomes) = outcome.andThen (inTurn outcomes) := by
  have gather (first : Outcome) :
      outcomes.foldl andThen first = first.andThen (inTurn outcomes) := by
    induction outcomes generalizing first with
    | nil => simp
    | cons second outcomes inductionHypothesis =>
        rw [inTurn, List.foldl_cons, inductionHypothesis, List.foldl_cons, inductionHypothesis,
          silent_andThen, andThen_assoc]
  rw [inTurn, List.foldl_cons, silent_andThen, gather]

theorem out_inTurn (outcomes : List Outcome) :
    (inTurn outcomes).out = String.join (outcomes.map out) := by
  induction outcomes with
  | nil => rfl
  | cons outcome outcomes inductionHypothesis =>
      rw [inTurn_cons, List.map_cons, String.join_cons, ← inductionHypothesis]
      rfl

theorem err_inTurn (outcomes : List Outcome) :
    (inTurn outcomes).err = String.join (outcomes.map err) := by
  induction outcomes with
  | nil => rfl
  | cons outcome outcomes inductionHypothesis =>
      rw [inTurn_cons, List.map_cons, String.join_cons, ← inductionHypothesis]
      rfl

/-- Where no outcome is worse than a failure, a failure of any is the failure of all. -/
theorem status_inTurn
    {outcomes : List Outcome}
    (mild : ∀ outcome ∈ outcomes, outcome.status ≤ 1) :
    (inTurn outcomes).status = if ∃ outcome ∈ outcomes, outcome.status = 1 then 1 else 0 := by
  induction outcomes with
  | nil => simp [silent]
  | cons outcome outcomes inductionHypothesis =>
      obtain ⟨mildFirst, mildRest⟩ := List.forall_mem_cons.mp mild
      rw [inTurn_cons, andThen, inductionHypothesis mildRest]
      obtain failed | succeeded : outcome.status = 1 ∨ outcome.status = 0 := by omega
      · have failing : ∃ item ∈ outcome :: outcomes, item.status = 1 :=
          ⟨outcome, List.mem_cons_self, failed⟩
        rw [failed, if_pos failing]
        split <;> rfl
      · simp [succeeded]

end Outcome

/-- What a single item changes in options without items. -/
theorem batch_bare_add (options : Options) (request : Request) :
    batch (options.bare.add request) =
      .inTurn (request.answer?.toList.map showAnswer ++
        request.text?.toList.map (showExpression options)) := by
  cases request <;> rfl

theorem status_showAnswer_le (number : Int) : (showAnswer number).status ≤ 1 := by
  unfold showAnswer
  split <;> simp [Outcome.line, Outcome.failure]

theorem status_showExpression_le (options : Options) (text : String) :
    (showExpression options text).status ≤ 1 := by
  unfold showExpression
  split <;> simp [Outcome.line, Outcome.failure]

namespace Written

/-- Whether a command line gives a batch: it asks for items and not for help, and in at most
one style. -/
structure IsBatch (line : Written) : Prop where
  exclusive : (line.options.markup && line.options.workings) = false
  noHelp : line.options.help = false
  items : line.options.isInteractive = false

variable {line : Written}

theorem IsBatch.run_eq (isBatch : line.IsBatch) (input : List UInt8) :
    run line.arguments input = batch line.options := by
  rw [run, readOptions_arguments, isBatch.exclusive]
  simp [isBatch.noHelp, isBatch.items]

/-- A single item of a batch is a batch of its own. -/
theorem IsBatch.of_options
    (isBatch : line.IsBatch)
    {single : Written}
    {request : Request}
    (item : request.isItem = true)
    (single_options : single.options = line.options.bare.add request) :
    single.IsBatch := by
  obtain ⟨exclusive, noHelp, _⟩ := isBatch
  cases request with
  | answer number => exact ⟨by rw [single_options]; exact exclusive,
      by rw [single_options]; exact noHelp, by rw [single_options]; rfl⟩
  | expression text => exact ⟨by rw [single_options]; exact exclusive,
      by rw [single_options]; exact noHelp, by rw [single_options]; rfl⟩
  | _ => contradiction

/-- A piece alone shows what it asks for. -/
theorem IsBatch.run_alone
    (isBatch : line.IsBatch)
    {piece : Piece}
    (item : piece.request.isItem = true)
    (input : List UInt8) :
    run (line.alone piece).arguments input =
      .inTurn (piece.request.answer?.toList.map showAnswer ++
        piece.request.text?.toList.map (showExpression line.options)) := by
  rw [(isBatch.of_options item (line.options_alone piece)).run_eq, options_alone,
    batch_bare_add]

/-- An expression alone behind a double hyphen shows its result. -/
theorem IsBatch.run_aloneVerbatim
    (isBatch : line.IsBatch)
    (text : String)
    (input : List UInt8) :
    run (line.aloneVerbatim text).arguments input = showExpression line.options text := by
  rw [(isBatch.of_options rfl (line.options_aloneVerbatim text)).run_eq, options_aloneVerbatim,
    batch_bare_add]
  simp [Request.answer?, Request.text?]

/-- The pieces with a certain kind of request, one by one, make the outcomes of these
requests. -/
theorem map_filter_pieces
    {α : Type}
    (pick : Request → Option α)
    (alone : Piece → Outcome)
    (shown : α → Outcome)
    (pieces : List Piece)
    (agree : ∀ piece a, pick piece.request = some a → alone piece = shown a) :
    (pieces.filter fun piece => (pick piece.request).isSome).map alone =
      ((pieces.map Piece.request).filterMap pick).map shown := by
  induction pieces with
  | nil => rfl
  | cons piece pieces inductionHypothesis =>
      cases picked : pick piece.request with
      | none => simp [picked, inductionHypothesis]
      | some a => simp [picked, inductionHypothesis, agree piece a picked]

/-- The outcomes of the single items of a batch, in order. -/
theorem IsBatch.map_run_singles (isBatch : line.IsBatch) (input : List UInt8) :
    line.singles.map (fun single => run single.arguments input) =
      line.options.answers.map showAnswer ++
        line.options.expressions.map (showExpression line.options) := by
  have answers := map_filter_pieces Request.answer?
    (fun piece => run (line.alone piece).arguments input) showAnswer line.pieces <| by
      intro piece number picked
      have asked := Request.answer?_eq_some_iff.mp picked
      rw [isBatch.run_alone (by simp [Request.isItem, picked]), asked]
      simp [Request.answer?, Request.text?]
  have expressions := map_filter_pieces Request.text?
    (fun piece => run (line.alone piece).arguments input) (showExpression line.options)
    line.pieces <| by
      intro piece text picked
      have asked := Request.text?_eq_some_iff.mp picked
      rw [isBatch.run_alone (by simp [Request.isItem, picked]), asked]
      simp [Request.answer?, Request.text?]
  have verbatim :
      line.verbatimTexts.map (fun text => run (line.aloneVerbatim text).arguments input) =
        line.verbatimTexts.map (showExpression line.options) :=
    List.map_congr_left fun text _ => isBatch.run_aloneVerbatim text input
  rw [singles, List.map_append, List.map_append, List.map_map, List.map_map, List.map_map,
    answers_options, expressions_options, List.map_append, ← answers, ← expressions, ← verbatim,
    List.append_assoc]
  rfl

/-- A batch shows its items one by one. -/
theorem run_arguments_eq_singles
    (isBatch : line.IsBatch)
    (input : List UInt8) :
    (run line.arguments input).out =
        String.join (line.singles.map fun single => (run single.arguments input).out) ∧
      (run line.arguments input).err =
        String.join (line.singles.map fun single => (run single.arguments input).err) ∧
      (run line.arguments input).status =
        if ∃ single ∈ line.singles, (run single.arguments input).status = 1 then 1 else 0 := by
  have whole : run line.arguments input =
      .inTurn (line.singles.map fun single => run single.arguments input) := by
    rw [isBatch.run_eq, isBatch.map_run_singles]
    rfl
  have mild : ∀ outcome ∈ line.singles.map fun single => run single.arguments input,
      outcome.status ≤ 1 := by
    rw [isBatch.map_run_singles]
    intro outcome member
    rcases List.mem_append.mp member with answer | expression
    · obtain ⟨number, _, rfl⟩ := List.mem_map.mp answer
      exact status_showAnswer_le number
    · obtain ⟨text, _, rfl⟩ := List.mem_map.mp expression
      exact status_showExpression_le line.options text
  refine ⟨?_, ?_, ?_⟩
  · rw [whole, Outcome.out_inTurn, List.map_map]
    rfl
  · rw [whole, Outcome.err_inTurn, List.map_map]
    rfl
  · rw [whole, Outcome.status_inTurn mild]
    simp

/-- A command line with two answers and two expressions, of which one each has no result. -/
def mixedItems : Written where
  pieces :=
    [.option (.answer ⟨24, by decide⟩), .expression "4/0" rfl, .option (.answer ⟨-1, by decide⟩)]
  verbatim := some ["-4+4"]

theorem run_mixedItems :
    mixedItems.IsBatch ∧
      (run mixedItems.arguments []).out =
        String.join (mixedItems.singles.map fun single => (run single.arguments []).out) ∧
      (run mixedItems.arguments []).err =
        String.join (mixedItems.singles.map fun single => (run single.arguments []).err) ∧
      (run mixedItems.arguments []).status =
        if ∃ single ∈ mixedItems.singles, (run single.arguments []).status = 1 then 1 else 0 := by
  have isBatch : mixedItems.IsBatch := by constructor <;> decide
  exact ⟨isBatch, run_arguments_eq_singles isBatch []⟩

end Written

end CommandLine
end FourFours
