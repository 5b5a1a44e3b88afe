import FourFours.Proofs.CommandLine.Batch
import Mathlib.Data.List.Forall2

/-!
# Options written out

All options can be written as a command line: those that are set in any order, only the
answers among themselves in theirs, each in one of its spellings, and the expressions behind a
lone double hyphen. A value may look like an option and an expression like anything at all.
Every such command line is read back as the options that it was written from, because the
requests of one kind make up one part of the options, and they are the same in every order.
-/

namespace FourFours
namespace CommandLine

/-- The requests that an option with a value makes: its name and a text of the value. -/
inductive Request.IsValued : Request → String → String → Prop
  | digits {count : Nat} {text : String} :
      WritesCount count text → IsValued (.digits count) "--chiffres" text
  | answer {number : Int} {text : String} :
      WritesTarget number text → IsValued (.answer number) "--reponse" text
  | target {number : Int} {text : String} :
      WritesTarget number text → IsValued (.target number) "--cible" text

/-- The spellings of a request, each as a list of arguments. -/
inductive Request.IsSpelled : Request → List String → Prop
  | shortHelp : IsSpelled .help ["-h"]
  | help : IsSpelled .help ["--help"]
  | markup : IsSpelled .markup ["--latex"]
  | workings : IsSpelled .workings ["--detail"]
  | apart {request : Request} {name text : String} :
      request.IsValued name text → IsSpelled request [name, text]
  | joined {request : Request} {name text : String} :
      request.IsValued name text → IsSpelled request [name ++ "=" ++ text]

namespace Options

/-- The requests that set the part of some options that has a given name. -/
def requestsFor (options : Options) : OptionName → List Request
  | .help => if options.help then [.help] else []
  | .markup => if options.markup then [.markup] else []
  | .workings => if options.workings then [.workings] else []
  | .digits => options.digits.toList.map .digits
  | .answer => options.answers.map .answer
  | .target => options.target.toList.map .target

/-- The requests that set some options, but for the expressions. -/
def settingRequests (options : Options) : List Request :=
  [.help, .markup, .workings, .digits, .answer, .target].flatMap options.requestsFor

/-- A list of arguments encodes some options: those that are set are spelled one by one, in any
order that keeps the one of the answers, and the expressions stand behind a lone double
hyphen. -/
def IsEncoded (options : Options) (arguments : List String) : Prop :=
  ∃ (requests : List Request) (spellings : List (List String)),
    requests.Perm options.settingRequests ∧
    requests.filterMap Request.answer? = options.answers ∧
    List.Forall₂ Request.IsSpelled requests spellings ∧
    arguments = spellings.flatten ++ "--" :: options.expressions

/-- The numbers of some options fit into 64 bits. -/
structure Fits (options : Options) : Prop where
  digits : ∀ count ∈ options.digits, count < 2 ^ 64
  answers : ∀ number ∈ options.answers, -2 ^ 63 ≤ number ∧ number < 2 ^ 63
  target : ∀ number ∈ options.target, -2 ^ 63 ≤ number ∧ number < 2 ^ 63

end Options

/-- The name of the option that makes a request; an expression is no option. -/
def Request.name? : Request → Option OptionName
  | help => some .help
  | markup => some .markup
  | workings => some .workings
  | digits _ => some .digits
  | answer _ => some .answer
  | target _ => some .target
  | expression _ => none

namespace Options

/-- The part of some options that the requests with a given name make up. -/
def part (options : Options) : Option OptionName → Options
  | some .help => { empty with help := options.help }
  | some .markup => { empty with markup := options.markup }
  | some .workings => { empty with workings := options.workings }
  | some .digits => { empty with digits := options.digits }
  | some .answer => { empty with answers := options.answers }
  | some .target => { empty with target := options.target }
  | none => { empty with expressions := options.expressions }

/-- Options are the same if all their parts are. -/
theorem eq_of_part {options options' : Options}
    (same : ∀ name?, options.part name? = options'.part name?) :
    options = options' := by
  have help := congrArg Options.help (same (some .help))
  have markup := congrArg Options.markup (same (some .markup))
  have workings := congrArg Options.workings (same (some .workings))
  have digits := congrArg Options.digits (same (some .digits))
  have answers := congrArg Options.answers (same (some .answer))
  have target := congrArg Options.target (same (some .target))
  have expressions := congrArg Options.expressions (same none)
  cases options
  cases options'
  simp only [part] at help markup workings digits answers target expressions
  rw [help, markup, workings, digits, answers, target, expressions]

/-- A part depends on the requests with its name only. -/
theorem part_addAll (options : Options) (requests : List Request) (name? : Option OptionName) :
    (options.addAll requests).part name? =
      (options.part name?).addAll (requests.filter (·.name? = name?)) := by
  symm
  refine addAll_filter (·.name? = name?) (part · name?) (fun options request kept => ?_)
    (fun options request dropped => ?_) options requests
  · obtain rfl : request.name? = name? := by simpa using kept
    cases request <;> rfl
  · have other : request.name? ≠ name? := by simpa using dropped
    cases request <;> rcases name? with _ | (_ | _) <;> first | rfl | contradiction

theorem addAll_answers (options : Options) (numbers : List Int) :
    options.addAll (numbers.map .answer) =
      { options with answers := options.answers ++ numbers } := by
  induction numbers generalizing options with
  | nil => simp
  | cons number numbers inductionHypothesis => simp [inductionHypothesis, add]

/-- The requests for a part make it up. -/
theorem addAll_requestsFor (options : Options) (name : OptionName) :
    empty.addAll (options.requestsFor name) = options.part (some name) := by
  cases name with
  | help | markup | workings =>
      simp only [requestsFor]
      split <;> simp_all [part, add, empty]
  | digits => cases h : options.digits <;> simp [requestsFor, part, h, add, empty]
  | target => cases h : options.target <;> simp [requestsFor, part, h, add, empty]
  | answer => exact addAll_answers empty options.answers

theorem name?_of_mem_requestsFor {options : Options} {name : OptionName} {request : Request}
    (member : request ∈ options.requestsFor name) :
    request.name? = some name := by
  cases name with
  | help | markup | workings =>
      simp only [requestsFor] at member
      split at member <;> simp_all [Request.name?]
  | digits | answer | target =>
      obtain ⟨number, -, rfl⟩ := List.mem_map.mp member
      rfl

/-- Of the requests that set some options, those with a given name are the ones for that
part. -/
theorem filter_settingRequests (options : Options) (name : OptionName) :
    options.settingRequests.filter (·.name? = some name) = options.requestsFor name := by
  have each (name' : OptionName) :
      (options.requestsFor name').filter (·.name? = some name) =
        if name' = name then options.requestsFor name else [] := by
    split
    · rename_i equal
      subst equal
      exact List.filter_eq_self.mpr fun request member => by simp [name?_of_mem_requestsFor member]
    · rename_i different
      exact List.filter_eq_nil_iff.mpr fun request member => by
        simp [name?_of_mem_requestsFor member, different]
  rw [settingRequests, List.filter_flatMap]
  simp only [each]
  cases name <;> simp

/-- Among some requests, those for answers are the ones that the answers make. -/
theorem filter_answer (requests : List Request) :
    requests.filter (·.name? = some .answer) =
      (requests.filterMap Request.answer?).map .answer := by
  induction requests with
  | nil => rfl
  | cons request requests inductionHypothesis =>
      cases request with
      | answer number => simpa [Request.name?, Request.answer?] using inductionHypothesis
      | _ => exact inductionHypothesis

/-- All options but the one for answers are set once at most. -/
theorem length_requestsFor_le (options : Options) {name : OptionName} (once : name ≠ .answer) :
    (options.requestsFor name).length ≤ 1 := by
  cases name with
  | help | markup | workings =>
      simp only [requestsFor]
      split <;> simp
  | digits => cases h : options.digits <;> simp [requestsFor, h]
  | target => cases h : options.target <;> simp [requestsFor, h]
  | answer => contradiction

variable {options : Options} {requests : List Request}

/-- In every order that keeps the one of the answers, the requests with a given name are in
order. -/
theorem filter_eq_requestsFor
    (perm : requests.Perm options.settingRequests)
    (answers : requests.filterMap Request.answer? = options.answers)
    (name : OptionName) :
    requests.filter (·.name? = some name) = options.requestsFor name := by
  by_cases many : name = .answer
  · rw [many, filter_answer, answers]
    rfl
  · have same := perm.filter (·.name? = some name)
    rw [filter_settingRequests] at same
    have once := options.length_requestsFor_le many
    match list : options.requestsFor name with
    | [] => exact List.perm_nil.mp (list ▸ same)
    | [request] => exact List.perm_singleton.mp (list ▸ same)
    | _ :: _ :: _ => simp [list] at once

/-- Nothing that sets options asks for an expression. -/
theorem filter_eq_nil (perm : requests.Perm options.settingRequests) :
    requests.filter (·.name? = none) = [] := by
  rw [List.filter_eq_nil_iff]
  intro request member
  obtain ⟨name, -, member⟩ := List.mem_flatMap.mp (perm.mem_iff.mp member)
  simp [name?_of_mem_requestsFor member]

/-- The requests that set some options make them up, but for the expressions. -/
theorem addAll_of_perm
    (perm : requests.Perm options.settingRequests)
    (answers : requests.filterMap Request.answer? = options.answers) :
    empty.addAll requests = { options with expressions := [] } := by
  apply eq_of_part
  intro name?
  rw [part_addAll]
  cases name? with
  | none =>
      rw [filter_eq_nil perm]
      rfl
  | some name =>
      have blank : empty.part (some name) = empty := by cases name <;> rfl
      rw [filter_eq_requestsFor perm answers, blank, addAll_requestsFor]
      cases name <;> rfl

end Options

/-- The numbers of a request fit into 64 bits. -/
def Request.Fits : Request → Prop
  | digits count => count < 2 ^ 64
  | answer number | target number => -2 ^ 63 ≤ number ∧ number < 2 ^ 63
  | _ => True

/-- A request with a value is made by the option that is named. -/
theorem Request.IsValued.exists_name
    {request : Request}
    {spelling text : String}
    (valued : request.IsValued spelling text)
    (fits : request.Fits) :
    ∃ name, OptionName.ofString? spelling = some name ∧ name.takesValue = true ∧
      spelling ≠ "-h" ∧ ∀ options : Options, options.set name text = .ok (options.add request) := by
  cases valued with
  | digits written =>
      refine ⟨.digits, rfl, rfl, by decide, fun options => ?_⟩
      rw [Options.set, written.readCount?_eq fits]
      rfl
  | answer written =>
      refine ⟨.answer, rfl, rfl, by decide, fun options => ?_⟩
      rw [Options.set, written.readTarget?_eq fits]
      rfl
  | target written =>
      refine ⟨.target, rfl, rfl, by decide, fun options => ?_⟩
      rw [Options.set, written.readTarget?_eq fits]
      rfl

/-- Its value may stand in the next argument or in the same one. -/
theorem Request.IsValued.exists_writtenOption
    {request : Request}
    {spelling text : String}
    (valued : request.IsValued spelling text)
    (fits : request.Fits)
    (joined : Bool) :
    ∃ written : WrittenOption, written.request = request ∧
      written.arguments = if joined then [spelling ++ "=" ++ text] else [spelling, text] := by
  obtain ⟨name, named, takesValue, long, set_eq⟩ := valued.exists_name fits
  refine ⟨⟨name, spelling, named, text, joined, fun _ => long, request, set_eq⟩, rfl, ?_⟩
  rw [WrittenOption.arguments, if_pos takesValue]

/-- A spelled request is made by an option. -/
theorem Request.IsSpelled.exists_writtenOption
    {request : Request}
    {arguments : List String}
    (spelled : request.IsSpelled arguments)
    (fits : request.Fits) :
    ∃ written : WrittenOption, written.request = request ∧ written.arguments = arguments := by
  cases spelled with
  | shortHelp => exact ⟨⟨.help, "-h", rfl, "", false, nofun, .help, fun _ => rfl⟩, rfl, rfl⟩
  | help => exact ⟨⟨.help, "--help", rfl, "", false, nofun, .help, fun _ => rfl⟩, rfl, rfl⟩
  | markup => exact ⟨⟨.markup, "--latex", rfl, "", false, nofun, .markup, fun _ => rfl⟩, rfl, rfl⟩
  | workings =>
      exact ⟨⟨.workings, "--detail", rfl, "", false, nofun, .workings, fun _ => rfl⟩, rfl, rfl⟩
  | apart valued => exact valued.exists_writtenOption fits false
  | joined valued => exact valued.exists_writtenOption fits true

/-- Spelled requests are those of some pieces of a command line. -/
theorem exists_pieces
    {requests : List Request}
    {spellings : List (List String)}
    (spelled : List.Forall₂ Request.IsSpelled requests spellings)
    (fits : ∀ request ∈ requests, request.Fits) :
    ∃ pieces : List Piece, pieces.map Piece.request = requests ∧
      pieces.flatMap Piece.arguments = spellings.flatten := by
  induction spelled with
  | nil => exact ⟨[], rfl, rfl⟩
  | cons first _ inductionHypothesis =>
      obtain ⟨fitsFirst, fitsRest⟩ := List.forall_mem_cons.mp fits
      obtain ⟨written, rfl, rfl⟩ := first.exists_writtenOption fitsFirst
      obtain ⟨pieces, rfl, arguments⟩ := inductionHypothesis fitsRest
      exact ⟨.option written :: pieces, rfl, by rw [List.flatMap_cons, arguments]; rfl⟩

theorem Options.Fits.of_mem_settingRequests
    {options : Options}
    (fits : options.Fits)
    {request : Request}
    (member : request ∈ options.settingRequests) :
    request.Fits := by
  obtain ⟨name, -, member⟩ := List.mem_flatMap.mp member
  have named := Options.name?_of_mem_requestsFor member
  cases request with
  | help | markup | workings | expression => trivial
  | digits count =>
      cases named
      exact fits.digits count (by simpa [Options.requestsFor] using member)
  | answer number =>
      cases named
      exact fits.answers number (by simpa [Options.requestsFor] using member)
  | target number =>
      cases named
      exact fits.target number (by simpa [Options.requestsFor] using member)

/-- Options are read back from every command line that encodes them, unless they ask for the
markup and for the workings. -/
theorem readOptions_of_isEncoded
    {options : Options}
    {arguments : List String}
    (fits : options.Fits)
    (exclusive : ¬(options.markup = true ∧ options.workings = true))
    (encoded : options.IsEncoded arguments) :
    readOptions arguments = .ok options := by
  obtain ⟨requests, spellings, perm, answers, spelled, rfl⟩ := encoded
  obtain ⟨pieces, rfl, flattened⟩ := exists_pieces spelled fun request member =>
    fits.of_mem_settingRequests (perm.mem_iff.mp member)
  let line : Written := ⟨pieces, some options.expressions⟩
  have arguments_eq : line.arguments = spellings.flatten ++ "--" :: options.expressions := by
    rw [← flattened]
    rfl
  have options_eq : line.options = options := by
    have set := Options.addAll_of_perm perm answers
    rw [Written.options, Written.requests, Options.addAll_append, set, Written.verbatimTexts,
      Options.addAll_expressions]
    rfl
  rw [← arguments_eq, readOptions_arguments, options_eq, if_neg (by simpa using exclusive)]

/-- Two answers, a target and a number of digits for the workings of texts that look like
options. -/
def mixedOptions : Options :=
  { digits := some 5
    markup := false
    workings := true
    answers := [-12, 7]
    target := some (-4)
    help := true
    expressions := ["-4+4", "--latex", "--"] }

/-- One of the command lines that encode them. -/
def mixedArguments : List String :=
  ["--cible", "-4", "--reponse=-12", "-h", "--chiffres", "+05", "--reponse", "7", "--detail",
    "--", "-4+4", "--latex", "--"]

theorem isEncoded_mixedArguments : mixedOptions.IsEncoded mixedArguments := by
  have four : WritesDigits 4 ['4'] := ⟨by decide, List.all_eq_true.mp rfl, rfl⟩
  have twelve : WritesDigits 12 ['1', '2'] := ⟨by decide, List.all_eq_true.mp rfl, rfl⟩
  have five : WritesDigits 5 ['0', '5'] := ⟨by decide, List.all_eq_true.mp rfl, rfl⟩
  have target : WritesTarget (-4) "-4" := .negative four
  have negative : WritesTarget (-12) "-12" := .negative twelve
  have positive : WritesTarget 7 "7" := writesTarget_toString 7
  have digits : WritesCount 5 "+05" := .signed five
  refine ⟨[.target (-4), .answer (-12), .help, .digits 5, .answer 7, .workings], _, ?_, rfl,
    .cons (.apart (.target target)) (.cons (.joined (.answer negative)) (.cons .shortHelp
      (.cons (.apart (.digits digits)) (.cons (.apart (.answer positive)) (.cons .workings
        .nil))))), ?_⟩
  · decide
  · decide

/-- Values and expressions that look like options are read as what they are. -/
theorem readOptions_of_isEncoded_mixedArguments :
    mixedOptions.Fits ∧ ¬(mixedOptions.markup = true ∧ mixedOptions.workings = true) ∧
      mixedOptions.IsEncoded mixedArguments ∧
      readOptions mixedArguments = .ok mixedOptions := by
  have fits : mixedOptions.Fits := by
    constructor <;> simp [mixedOptions]
  have exclusive : ¬(mixedOptions.markup = true ∧ mixedOptions.workings = true) := by decide
  exact ⟨fits, exclusive, isEncoded_mixedArguments,
    readOptions_of_isEncoded fits exclusive isEncoded_mixedArguments⟩

end CommandLine
end FourFours
