/-!
# Tokens

The vocabulary of expressions: runs of digits and one-character symbols. A token list
is spelled by putting its lexemes side by side, or displayed with a space between them.
-/

namespace FourFours

/-- A token of an expression. -/
inductive Token
  /-- A run of decimal digits. -/
  | digits (run : List Char)
  | point
  | plus
  | minus
  | times
  | divide
  | power
  | factorial
  | triangular
  | root
  | opening
  | closing
  deriving DecidableEq, Repr

namespace Token

/-- The one-character symbols, each with its character. -/
def symbols : List (Char × Token) :=
  [('.', point), ('+', plus), ('-', minus), ('*', times), ('/', divide), ('^', power),
    ('!', factorial), ('S', triangular), ('R', root), ('(', opening), (')', closing)]

/-- The symbol written as a given character, if there is one. -/
def ofChar? (c : Char) : Option Token :=
  symbols.lookup c

/-- The characters a token is written with. -/
def lexeme : Token → List Char
  | digits run => run
  | point => ['.']
  | plus => ['+']
  | minus => ['-']
  | times => ['*']
  | divide => ['/']
  | power => ['^']
  | factorial => ['!']
  | triangular => ['S']
  | root => ['R']
  | opening => ['(']
  | closing => [')']

/-- The lexemes of a token list side by side. -/
def spell (tokens : List Token) : List Char :=
  tokens.flatMap lexeme

/-- The lexemes of a token list with one space between neighbours. -/
def display (tokens : List Token) : List Char :=
  [' '].intercalate (tokens.map lexeme)

/-- Whether an operand can begin with this token. -/
def beginsOperand : Token → Bool
  | digits _ | point | triangular | root | opening => true
  | _ => false

end Token
end FourFours
