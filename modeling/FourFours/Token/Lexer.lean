import FourFours.Fault
import FourFours.Text.Uppercase
import FourFours.Text.WhiteSpace

/-!
# Normal form and tokens of a text

A typed text is first brought into normal form: blanks are dropped, typographic symbols
are replaced, letters are put in upper case, and every character has to belong to the
alphabet of expressions. The normal form is then cut into tokens, each run of digits as
long as possible.
-/

namespace FourFours
namespace Token

/-- Whether a character occurs in the normal form of an expression. -/
def inAlphabet (c : Char) : Bool :=
  c.isDigit || (ofChar? c).isSome

/-- The plain symbol that a typographic symbol stands for. -/
def plainSymbol : Char → Char
  | '√' => 'R'
  | 'Σ' | '∑' => 'S'
  | '×' => '*'
  | '÷' => '/'
  | c => c

/-- A text without blanks, in plain symbols and upper case. -/
def fold (text : List Char) : List Char :=
  (text.filter fun c => !Text.isWhiteSpace c).flatMap fun c =>
    Text.uppercase (plainSymbol c)

/-- The normal form of a text, or its first character outside the alphabet. -/
def normalize (text : List Char) : Except Fault (List Char) :=
  match (fold text).find? fun c => !inAlphabet c with
  | some c => .error (.inSyntax (.strayCharacter c))
  | none => .ok (fold text)

/-- Put a digit in front of a token list; it joins a run of digits that begins there. -/
def consDigit (c : Char) : List Token → List Token
  | digits run :: rest => digits (c :: run) :: rest
  | tokens => digits [c] :: tokens

/-- The tokens of a text in normal form, or its first character outside the alphabet. -/
def tokenize : List Char → Except Fault (List Token)
  | [] => .ok []
  | c :: rest =>
      if c.isDigit then
        (tokenize rest).map (consDigit c)
      else
        match ofChar? c with
        | some token => (tokenize rest).map (token :: ·)
        | none => .error (.inSyntax (.strayCharacter c))

end Token
end FourFours
