import FourFours.CommandLine.Number

/-!
# Command line options

Options begin with two hyphens; only the request for help has a short form. The value of
an option follows in the next argument or, behind an equals sign, in the same one. Every
other argument is an expression, and so is every argument behind a lone double hyphen.
-/

namespace FourFours
namespace CommandLine

/-- The message that explains the command line. -/
def usage : String :=
  "usage: quatre_quatres [--chiffres N] [--latex] [--detail] [--reponse N]... " ++
  "[--cible N] [--] [EXPR ...]\n\n" ++
  "  --chiffres N   decimal digits shown for non-terminating results " ++
  "(0..=200, default 20)\n" ++
  "  --latex        print the display markup instead of the value\n" ++
  "  --detail       print normalised text, tokens, tree and exact value\n" ++
  "  --reponse N    print the known four-fours expression for N (0..=3000)\n" ++
  "  --cible N      interactive mode: target number to reach\n" ++
  "  -h, --help     this message\n\n" ++
  "interactive commands: :cible N, :libre, :reponse, :quitter"

/-- The options of a command line. -/
structure Options where
  /-- The number of decimals of a reading. -/
  digits : Option Nat
  /-- Whether the markup is shown in place of the value. -/
  markup : Bool
  /-- Whether the stages of the evaluation are shown. -/
  workings : Bool
  /-- The targets whose known answer is shown. -/
  answers : List Int
  /-- The target of an interactive session. -/
  target : Option Int
  help : Bool
  expressions : List String
  deriving DecidableEq, Repr

namespace Options

/-- The options of an empty command line. -/
def empty : Options :=
  { digits := none
    markup := false
    workings := false
    answers := []
    target := none
    help := false
    expressions := [] }

end Options

/-- A mistake in the use of the command line or of the interactive commands. -/
inductive UsageFault
  | missingValue (option : String)
  | badDigits (value : String)
  | badTarget (value : String)
  | unknownOption (argument : String)
  | markupWithWorkings
  | unknownCommand (line : String)
  deriving DecidableEq, Repr

namespace UsageFault

/-- The wording of a mistake. -/
def message : UsageFault → String
  | missingValue option => option ++ " requires a value"
  | badDigits value => "invalid number of digits: " ++ value
  | badTarget value => "invalid target: " ++ value
  | unknownOption argument => "unknown option: " ++ argument
  | markupWithWorkings => "--latex and --detail are exclusive"
  | unknownCommand line => "unknown command: " ++ line

end UsageFault

/-- The options by their names. -/
inductive OptionName
  | help
  | markup
  | workings
  | digits
  | answer
  | target
  deriving DecidableEq, Repr

namespace OptionName

/-- The option with a given name. -/
def ofString? : String → Option OptionName
  | "-h" | "--help" => some help
  | "--latex" => some markup
  | "--detail" => some workings
  | "--chiffres" => some digits
  | "--reponse" => some answer
  | "--cible" => some target
  | _ => none

/-- Whether an option takes a value. -/
def takesValue : OptionName → Bool
  | digits | answer | target => true
  | help | markup | workings => false

end OptionName

/-- Note that an option is present, with its value if it takes one. -/
def Options.set (options : Options) (name : OptionName) (value : String) :
    Except UsageFault Options :=
  match name with
  | .help => .ok { options with help := true }
  | .markup => .ok { options with markup := true }
  | .workings => .ok { options with workings := true }
  | .digits =>
      match readCount? value with
      | some n => .ok { options with digits := some n }
      | none => .error (.badDigits value)
  | .answer =>
      match readTarget? value with
      | some n => .ok { options with answers := options.answers ++ [n] }
      | none => .error (.badTarget value)
  | .target =>
      match readTarget? value with
      | some n => .ok { options with target := some n }
      | none => .error (.badTarget value)

/-- An argument cut at its first equals sign, if there is one. -/
def splitArgument (argument : String) : String × Option String :=
  let name := argument.toList.takeWhile (· != '=')
  match argument.toList.drop name.length with
  | [] => (argument, none)
  | _ :: value => (String.ofList name, some (String.ofList value))

/-- Whether an argument is an option and not an expression. -/
def isOption (argument : String) : Bool :=
  argument == "-h" || ['-', '-'].isPrefixOf argument.toList

/-- Read the arguments one by one, given the options found so far. -/
def readArguments (options : Options) : List String → Except UsageFault Options
  | [] => .ok options
  | argument :: arguments =>
      if argument = "--" then
        .ok { options with expressions := options.expressions ++ arguments }
      else if !isOption argument then
        readArguments { options with expressions := options.expressions ++ [argument] }
          arguments
      else
        let (written, joined) := splitArgument argument
        match OptionName.ofString? written with
        | none => .error (.unknownOption argument)
        | some name =>
            if !name.takesValue then do
              readArguments (← options.set name "") arguments
            else
              match joined with
              | some value => do readArguments (← options.set name value) arguments
              | none =>
                  match arguments with
                  | [] => .error (.missingValue written)
                  | value :: arguments => do
                      readArguments (← options.set name value) arguments

/-- The options that a list of arguments asks for. -/
def readOptions (arguments : List String) : Except UsageFault Options := do
  let options ← readArguments .empty arguments
  if options.markup && options.workings then
    .error .markupWithWorkings
  else
    return options

end CommandLine
end FourFours
