import FourFours.CommandLine.Options
import FourFours.Proofs.Outcome
import Mathlib.Data.List.TakeWhile

/-!
# Written command lines

A command line is written as a list of pieces, options and expressions in any order, and
possibly further expressions behind a lone double hyphen. An option that takes a value has it
in the next argument or in the same one. Each piece makes one request, and the options are
what the requests add up to, in order. A request changes only the options it names, so
requests may be left out without any effect on the options that the others set. Every list of
arguments that is accepted is that of such a command line.
-/

namespace FourFours
namespace CommandLine

/-- What a piece of a command line asks for. -/
inductive Request
  | help
  | markup
  | workings
  | digits (count : Nat)
  | answer (number : Int)
  | target (number : Int)
  | expression (text : String)
  deriving DecidableEq, Repr

namespace Options

/-- The options with one more request. -/
def add (options : Options) : Request → Options
  | .help => { options with help := true }
  | .markup => { options with markup := true }
  | .workings => { options with workings := true }
  | .digits count => { options with digits := some count }
  | .answer number => { options with answers := options.answers ++ [number] }
  | .target number => { options with target := some number }
  | .expression text => { options with expressions := options.expressions ++ [text] }

/-- The options with some more requests. -/
def addAll (options : Options) (requests : List Request) : Options :=
  requests.foldl add options

@[simp] theorem addAll_nil (options : Options) : options.addAll [] = options := rfl

@[simp] theorem addAll_cons (options : Options) (request : Request) (requests : List Request) :
    options.addAll (request :: requests) = (options.add request).addAll requests := rfl

@[simp] theorem addAll_append (options : Options) (first second : List Request) :
    options.addAll (first ++ second) = (options.addAll first).addAll second :=
  List.foldl_append

/-- Requests for expressions add the expressions and nothing else. -/
theorem addAll_expressions (options : Options) (texts : List String) :
    options.addAll (texts.map .expression) =
      { options with expressions := options.expressions ++ texts } := by
  induction texts generalizing options with
  | nil => simp
  | cons text texts inductionHypothesis => simp [inductionHypothesis, add]

/-- If some requests do not matter for a part of the options, that part is the same without
them. -/
theorem addAll_filter
    (kept : Request → Bool)
    (part : Options → Options)
    (keep : ∀ options request, kept request = true →
      (part options).add request = part (options.add request))
    (drop : ∀ options request, kept request = false → part (options.add request) = part options)
    (options : Options)
    (requests : List Request) :
    (part options).addAll (requests.filter kept) = part (options.addAll requests) := by
  induction requests generalizing options with
  | nil => rfl
  | cons request requests inductionHypothesis =>
      rw [addAll_cons, ← inductionHypothesis]
      cases choice : kept request with
      | true => rw [List.filter_cons_of_pos choice, addAll_cons, keep options request choice]
      | false => rw [List.filter_cons_of_neg (by simp [choice]), drop options request choice]

end Options

/-- An option as it is written. -/
structure WrittenOption where
  name : OptionName
  spelling : String
  named : OptionName.ofString? spelling = some name
  /-- The value; an option that takes none has no use for it. -/
  value : String
  /-- Whether the value stands behind an equals sign in the argument of the name. -/
  joined : Bool
  long_of_joined : joined = true → spelling ≠ "-h"
  request : Request
  set_eq : ∀ options : Options, options.set name value = .ok (options.add request)

/-- The arguments that make up an option. -/
def WrittenOption.arguments (written : WrittenOption) : List String :=
  if written.joined then [written.spelling ++ "=" ++ written.value]
  else if written.name.takesValue then [written.spelling, written.value]
  else [written.spelling]

/-- An option or an expression of a command line. -/
inductive Piece
  | option (written : WrittenOption)
  | expression (text : String) (plain : isOption text = false)

namespace Piece

/-- The arguments that make up a piece. -/
def arguments : Piece → List String
  | option written => written.arguments
  | expression text _ => [text]

/-- What a piece asks for. -/
def request : Piece → Request
  | option written => written.request
  | expression text _ => .expression text

end Piece

/-- Whether a text is not cut as an argument, for want of an equals sign. -/
def IsUncut (text : String) : Prop :=
  ∀ c ∈ text.toList, (c != '=') = true

instance (text : String) : Decidable (IsUncut text) :=
  List.decidableBAll _ text.toList

/-- What the name of an option looks like. -/
theorem OptionName.shape_of_ofString?
    {spelling : String}
    {name : OptionName}
    (named : ofString? spelling = some name) :
    isOption spelling = true ∧ spelling ≠ "--" ∧ IsUncut spelling ∧
      (spelling ≠ "-h" → ['-', '-'].isPrefixOf spelling.toList = true) := by
  unfold ofString? at named
  split at named
  case h_8 => contradiction
  all_goals decide

theorem splitArgument_of_isUncut {argument : String} (uncut : IsUncut argument) :
    splitArgument argument = (argument, none) := by
  have whole : argument.toList.takeWhile (· != '=') = argument.toList :=
    List.takeWhile_eq_self_iff.mpr uncut
  rw [splitArgument, whole, List.drop_length]

theorem splitArgument_joined {name : String} (uncut : IsUncut name) (value : String) :
    splitArgument (name ++ "=" ++ value) = (name, some value) := by
  have written : (name ++ "=" ++ value).toList = name.toList ++ '=' :: value.toList := by
    simp
  have head : (name.toList ++ '=' :: value.toList).takeWhile (· != '=') = name.toList := by
    rw [List.takeWhile_append_of_pos uncut]
    simp
  rw [splitArgument, written, head, List.drop_left]
  simp

/-- A name that begins with two hyphens does so with its value behind it, and is not the end
of the options. -/
theorem isOption_joined
    {name : String}
    (hyphens : ['-', '-'].isPrefixOf name.toList = true)
    (value : String) :
    isOption (name ++ "=" ++ value) = true ∧ name ++ "=" ++ value ≠ "--" := by
  obtain ⟨rest, spelled⟩ := List.isPrefixOf_iff_prefix.mp hyphens
  have written : (name ++ "=" ++ value).toList = '-' :: '-' :: (rest ++ '=' :: value.toList) := by
    simp [← spelled]
  constructor
  · simp [isOption, written]
  · intro equal
    rw [equal] at written
    simp at written

/-- An option that takes no value is set whatever stands behind its name. -/
theorem Options.set_of_not_takesValue
    (options : Options)
    {name : OptionName}
    (valueless : name.takesValue = false)
    (value : String) :
    options.set name value = options.set name "" := by
  cases name <;> first | rfl | contradiction

/-- Reading an option adds its request and goes on with the arguments behind it. -/
theorem readArguments_option
    (options : Options)
    (written : WrittenOption)
    (rest : List String) :
    readArguments options (written.arguments ++ rest) =
      readArguments (options.add written.request) rest := by
  obtain ⟨name, spelling, named, value, joined, long, request, set_eq⟩ := written
  obtain ⟨isOption_spelling, notEnd, uncut, hyphens⟩ := OptionName.shape_of_ofString? named
  have set_empty (valueless : name.takesValue = false) :
      options.set name "" = .ok (options.add request) := by
    rw [← options.set_of_not_takesValue valueless value, set_eq]
  cases joined with
  | true =>
      obtain ⟨isOption_argument, notEndJoined⟩ := isOption_joined (hyphens (long rfl)) value
      simp only [WrittenOption.arguments, if_true, List.singleton_append]
      rw [readArguments, if_neg notEndJoined, if_neg (by simp [isOption_argument])]
      simp only [splitArgument_joined uncut, named]
      cases valued : name.takesValue with
      | true => simp [set_eq, bind, Except.bind]
      | false => simp [set_empty valued, bind, Except.bind]
  | false =>
      cases valued : name.takesValue with
      | true =>
          simp only [WrittenOption.arguments, valued, if_true, Bool.false_eq_true, if_false,
            List.cons_append, List.nil_append]
          rw [readArguments, if_neg notEnd, if_neg (by simp [isOption_spelling])]
          simp [splitArgument_of_isUncut uncut, named, valued, set_eq, bind, Except.bind]
      | false =>
          simp only [WrittenOption.arguments, valued, Bool.false_eq_true, if_false,
            List.singleton_append]
          rw [readArguments, if_neg notEnd, if_neg (by simp [isOption_spelling])]
          simp [splitArgument_of_isUncut uncut, named, valued, set_empty valued, bind, Except.bind]

/-- Reading a piece adds its request and goes on with the arguments behind it. -/
theorem readArguments_piece (options : Options) (piece : Piece) (rest : List String) :
    readArguments options (piece.arguments ++ rest) =
      readArguments (options.add piece.request) rest := by
  cases piece with
  | option written => exact readArguments_option options written rest
  | expression text plain =>
      have notEnd : text ≠ "--" := by
        rintro rfl
        simp [isOption] at plain
      simp only [Piece.arguments, List.singleton_append]
      rw [readArguments, if_neg notEnd, if_pos (by simp [plain])]
      rfl

/-- A command line as it is written. -/
structure Written where
  pieces : List Piece
  /-- The expressions behind a lone double hyphen, if there is one. -/
  verbatim : Option (List String)

namespace Written

/-- The arguments that make up a command line. -/
def arguments (line : Written) : List String :=
  line.pieces.flatMap Piece.arguments ++
    match line.verbatim with
    | none => []
    | some texts => "--" :: texts

/-- The expressions that are taken as they stand. -/
def verbatimTexts (line : Written) : List String :=
  line.verbatim.getD []

/-- The requests of a command line, in order. -/
def requests (line : Written) : List Request :=
  line.pieces.map Piece.request ++ line.verbatimTexts.map .expression

/-- The options that a command line asks for. -/
def options (line : Written) : Options :=
  Options.empty.addAll line.requests

end Written

/-- Reading some pieces adds their requests. -/
theorem readArguments_pieces (options : Options) (pieces : List Piece) (rest : List String) :
    readArguments options (pieces.flatMap Piece.arguments ++ rest) =
      readArguments (options.addAll (pieces.map Piece.request)) rest := by
  induction pieces generalizing options with
  | nil => rfl
  | cons piece pieces inductionHypothesis =>
      rw [List.flatMap_cons, List.append_assoc, readArguments_piece, inductionHypothesis]
      rfl

/-- The options of a command line are those that it asks for, unless it asks for the markup
and for the workings. -/
theorem readOptions_arguments (line : Written) :
    readOptions line.arguments =
      if line.options.markup && line.options.workings then .error .markupWithWorkings
      else .ok line.options := by
  have behind (options : Options) :
      readArguments options (match line.verbatim with | none => [] | some texts => "--" :: texts) =
        .ok (options.addAll (line.verbatimTexts.map .expression)) := by
    rw [Options.addAll_expressions, Written.verbatimTexts]
    cases line.verbatim <;> simp [readArguments]
  rw [readOptions, Written.arguments, readArguments_pieces, behind, ← Options.addAll_append]
  rfl

/-- What an option asks for depends on its name and value only. -/
theorem Options.exists_request
    {options changed : Options}
    {name : OptionName}
    {value : String}
    (set : options.set name value = .ok changed) :
    ∃ request, ∀ options : Options, options.set name value = .ok (options.add request) := by
  cases name with
  | help => exact ⟨.help, fun _ => rfl⟩
  | markup => exact ⟨.markup, fun _ => rfl⟩
  | workings => exact ⟨.workings, fun _ => rfl⟩
  | digits =>
      cases read : readCount? value with
      | none => simp [Options.set, read] at set
      | some count => exact ⟨.digits count, fun _ => by rw [Options.set, read]; rfl⟩
  | answer =>
      cases read : readTarget? value with
      | none => simp [Options.set, read] at set
      | some number => exact ⟨.answer number, fun _ => by rw [Options.set, read]; rfl⟩
  | target =>
      cases read : readTarget? value with
      | none => simp [Options.set, read] at set
      | some number => exact ⟨.target number, fun _ => by rw [Options.set, read]; rfl⟩

/-- The parts of an argument make up the argument. -/
theorem eq_of_splitArgument
    {argument name : String}
    {joined : Option String}
    (split : splitArgument argument = (name, joined)) :
    argument = joined.elim name (name ++ "=" ++ ·) := by
  by_cases cut : '=' ∈ argument.toList
  · obtain ⟨front, back, parts, uncut⟩ := List.eq_append_cons_of_mem cut
    have whole : argument = String.ofList front ++ "=" ++ String.ofList back := by
      rw [← String.toList_inj, parts]
      simp
    have uncutFront : IsUncut (String.ofList front) := by
      intro c member
      rw [String.toList_ofList] at member
      exact bne_iff_ne.mpr fun equals => uncut (equals ▸ member)
    rw [whole, splitArgument_joined uncutFront] at split
    obtain ⟨rfl, rfl⟩ := Prod.mk.inj split
    exact whole
  · have uncut : IsUncut argument := fun c member =>
      bne_iff_ne.mpr fun equals => cut (equals ▸ member)
    rw [splitArgument_of_isUncut uncut] at split
    obtain ⟨rfl, rfl⟩ := Prod.mk.inj split
    rfl

section

variable
  {options changed : Options}
  {argument spelling value : String}
  {name : OptionName}

/-- An argument with the name and the value of an option is an option. -/
theorem exists_writtenOption_joined
    (option : isOption argument = true)
    (split : splitArgument argument = (spelling, some value))
    (named : OptionName.ofString? spelling = some name)
    (set : options.set name value = .ok changed) :
    ∃ written : WrittenOption, written.arguments = [argument] := by
  obtain ⟨request, set_eq⟩ := Options.exists_request set
  obtain rfl : argument = spelling ++ "=" ++ value := eq_of_splitArgument split
  have long : spelling ≠ "-h" := by
    rintro rfl
    simp [isOption, ← String.toList_inj] at option
  exact ⟨⟨name, spelling, named, value, true, fun _ => long, request, set_eq⟩, rfl⟩

/-- The name of an option, with the value behind it if it takes one, is an option. -/
theorem exists_writtenOption
    (split : splitArgument argument = (spelling, none))
    (named : OptionName.ofString? spelling = some name)
    (set : options.set name value = .ok changed) :
    ∃ written : WrittenOption,
      written.arguments = if name.takesValue then [argument, value] else [argument] := by
  obtain ⟨request, set_eq⟩ := Options.exists_request set
  obtain rfl : argument = spelling := eq_of_splitArgument split
  exact ⟨⟨name, _, named, value, false, nofun, request, set_eq⟩, rfl⟩

end

/-- A piece in front of a command line makes a command line. -/
theorem Written.exists_cons
    (piece : Piece)
    {front arguments : List String}
    (spelled : piece.arguments = front)
    (written : ∃ line : Written, line.arguments = arguments) :
    ∃ line : Written, line.arguments = front ++ arguments := by
  obtain ⟨line, rfl⟩ := written
  exact ⟨⟨piece :: line.pieces, line.verbatim⟩, by simp [Written.arguments, spelled]⟩

/-- Arguments that are read one by one are those of some command line. -/
theorem exists_written_of_readArguments
    {options result : Options}
    {arguments : List String}
    (accepted : readArguments options arguments = .ok result) :
    ∃ line : Written, line.arguments = arguments := by
  fun_induction readArguments options arguments with
  | case1 => exact ⟨⟨[], none⟩, rfl⟩
  | case2 => exact ⟨⟨[], some _⟩, rfl⟩
  | case3 options argument arguments _ plain inductionHypothesis =>
      have isPlain : isOption argument = false := by simpa using plain
      exact Written.exists_cons (.expression argument isPlain) rfl
        (inductionHypothesis accepted)
  | case4 => contradiction
  | case5 options argument arguments _ option spelling joined split name named valueless
      inductionHypothesis =>
      -- an option that takes no value may have one all the same, behind an equals sign
      have isValueless : name.takesValue = false := by simpa using valueless
      obtain ⟨changed, set, accepted⟩ := bind_eq_ok_iff.mp accepted
      have rest := inductionHypothesis changed accepted
      cases joined with
      | some value =>
          rw [← options.set_of_not_takesValue isValueless value] at set
          obtain ⟨written, spelled⟩ :=
            exists_writtenOption_joined (by simpa using option) split named set
          exact Written.exists_cons (.option written) spelled rest
      | none =>
          obtain ⟨written, spelled⟩ := exists_writtenOption split named set
          rw [isValueless] at spelled
          exact Written.exists_cons (.option written) spelled rest
  | case6 options argument arguments _ option spelling name named _ value split
      inductionHypothesis =>
      -- the value stands behind an equals sign
      obtain ⟨changed, set, accepted⟩ := bind_eq_ok_iff.mp accepted
      obtain ⟨written, spelled⟩ :=
        exists_writtenOption_joined (by simpa using option) split named set
      exact Written.exists_cons (.option written) spelled
        (inductionHypothesis changed accepted)
  | case7 => contradiction
  | case8 options argument _ _ spelling name named valued value arguments split
      inductionHypothesis =>
      -- the value stands in the next argument
      obtain ⟨changed, set, accepted⟩ := bind_eq_ok_iff.mp accepted
      obtain ⟨written, spelled⟩ := exists_writtenOption split named set
      rw [if_pos (by simpa using valued)] at spelled
      exact Written.exists_cons (.option written) spelled
        (inductionHypothesis changed accepted)

/-- Every list of arguments that is accepted is that of some command line. -/
theorem exists_written
    {options : Options}
    {arguments : List String}
    (accepted : readOptions arguments = .ok options) :
    ∃ line : Written, line.arguments = arguments ∧ line.options = options := by
  obtain ⟨found, read, _⟩ := bind_eq_ok_iff.mp accepted
  obtain ⟨line, rfl⟩ := exists_written_of_readArguments read
  rw [readOptions_arguments] at accepted
  split at accepted
  · contradiction
  · exact ⟨line, rfl, Except.ok.inj accepted⟩

end CommandLine
end FourFours
