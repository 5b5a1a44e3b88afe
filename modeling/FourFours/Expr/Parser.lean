import FourFours.Fault

/-!
# Reading expressions

A recursive reader of token lists. From the loosest to the tightest, the operators are
`+` and `-`, then `*` and `/`, then the right associative `^`, then the signs `S`, `R`
and the negation in front of an operand, then `!` behind an operand. The operands of a
chain of `*` and `/` are gathered into one quotient of two products.

A group starts at the beginning of the input and after every opening bracket. Only there
may a negation stand, or a `+` in front of a literal.

Brackets, signs in front of an operand, exponents and factorials nest at most 256 deep.
A `Tier` holds the readers that are available while some depth remains; the tier of one
more level is built from it, so reading is by recursion on the depth that remains.
-/

namespace FourFours
namespace Expr

/-- A reader consumes an operand at the front of a token list and returns the rest. The
flag tells whether the list begins at the start of a group. -/
abbrev Reader := Bool → List Token → Except Fault (Expr × List Token)

/-- The readers that a nested operand may call. -/
structure Tier where
  /-- Reads a chain of `+` and `-`. -/
  sum : Reader
  /-- Reads a power. -/
  power : Reader
  /-- Reads an operand with the signs in front of it. -/
  signed : Reader

/-- The deepest nesting of an expression. -/
def depthLimit : Nat := 256

/-- Fail with a syntax fault. -/
def refuse {α : Type} (cause : SyntaxFault) : Except Fault α :=
  .error (.inSyntax cause)

/-- The number a run of digits stands for. -/
def readInteger (run : List Char) : Except Fault Int :=
  if run.isEmpty || !run.all Char.isDigit then
    .error (.internal (.badInteger run))
  else
    .ok (Nat.ofDigitChars 10 run 0)

/-- Read the digits behind the point of a literal. The fragment shown for a malformed
literal ends with the token behind the point. -/
def readFraction (written : List Token) (whole : Option Int) :
    List Token → Except Fault (Expr × List Token)
  | .digits run :: rest => .ok (.decimal ⟨whole, run, false⟩, rest)
  | .opening :: .digits run :: .closing :: rest => .ok (.decimal ⟨whole, run, true⟩, rest)
  | rest => refuse (.malformed (written ++ rest.take 1))

/-- Read an integer or a decimal literal. -/
def readLiteral : List Token → Except Fault (Expr × List Token)
  | .digits run :: .point :: rest => do
      let whole ← readInteger run
      readFraction [.digits run, .point] (some whole) rest
  | .digits run :: rest => do
      let n ← readInteger run
      return (.integer n, rest)
  | .point :: rest => readFraction [.point] none rest
  | rest => refuse (.malformed (rest.take 1))

/-- Fail unless an operand can begin at the front of a token list. -/
def requireOperand (cause : SyntaxFault) : List Token → Except Fault Unit
  | token :: _ => if token.beginsOperand then .ok () else refuse cause
  | [] => refuse cause

/-- Run a reader one level deeper, if a level remains. -/
def deeper (lower : Option Tier) (reader : Tier → Reader) : Reader :=
  fun atStart tokens =>
    match lower with
    | some tier => reader tier atStart tokens
    | none => refuse .tooDeep

/-- The tokens of a group, up to the bracket that closes it. -/
def groupTokens : Nat → List Token → List Token
  | _, [] => []
  | 0, .closing :: _ => []
  | nesting + 1, .closing :: rest => .closing :: groupTokens nesting rest
  | nesting, .opening :: rest => .opening :: groupTokens (nesting + 1) rest
  | nesting, token :: rest => token :: groupTokens nesting rest

/-- Read a group, from behind its opening bracket to its closing bracket. -/
def readGroup (lower : Option Tier) (tokens : List Token) :
    Except Fault (Expr × List Token) :=
  match tokens with
  | .closing :: _ => refuse .emptyBracket
  | _ => do
      match ← deeper lower Tier.sum true tokens with
      | (x, .closing :: rest) => return (x, rest)
      | (_, []) => refuse .unmatchedBracket
      | _ => refuse (.malformed (groupTokens 0 tokens))

/-- Read a group or a literal. -/
def readAtom (lower : Option Tier) : Reader
  | _, [] => refuse .empty
  | _, .opening :: rest => readGroup lower rest
  | _, .digits run :: rest => readLiteral (.digits run :: rest)
  | _, .point :: rest => readLiteral (.point :: rest)
  | true, .plus :: .digits run :: rest => readLiteral (.digits run :: rest)
  | true, .plus :: .point :: rest => readLiteral (.point :: rest)
  | _, .triangular :: _ => refuse (.malformed [.triangular])
  | _, .root :: _ => refuse (.malformed [.root])
  | _, .closing :: _ => refuse (.malformed [.closing])
  | _, operator :: _ => refuse (.missingLeft operator)

/-- Apply the factorials that follow an operand; each takes one of the levels left. -/
def readFactorials : Nat → Expr → List Token → Except Fault (Expr × List Token)
  | 0, _, .factorial :: _ => refuse .tooDeep
  | levels + 1, x, .factorial :: rest =>
      readFactorials levels (.unary .factorial x) rest
  | _, x, rest => .ok (x, rest)

/-- Read an atom and the factorials behind it. -/
def readPostfixed (levels : Nat) (lower : Option Tier) : Reader :=
  fun atStart tokens => do
    let (x, rest) ← readAtom lower atStart tokens
    readFactorials levels x rest

/-- Read an operand with the signs in front of it. -/
def readSigned (levels : Nat) (lower : Option Tier) : Reader
  | true, .minus :: rest => do
      requireOperand (.missingRight .minus) rest
      let (x, rest) ← deeper lower Tier.signed false rest
      return (.unary .negate x, rest)
  | _, .triangular :: rest => do
      requireOperand (.missingOperand .triangular) rest
      let (x, rest) ← deeper lower Tier.signed false rest
      return (.unary .triangular x, rest)
  | _, .root :: rest => do
      requireOperand (.missingOperand .root) rest
      let (x, rest) ← deeper lower Tier.signed false rest
      return (.unary .root x, rest)
  | atStart, tokens => readPostfixed levels lower atStart tokens

/-- Read a power; an exponent is itself a power, one level deeper. -/
def readPower (levels : Nat) (lower : Option Tier) : Reader :=
  fun atStart tokens => do
    match ← readSigned levels lower atStart tokens with
    | (base, .power :: rest) => do
        requireOperand (.missingRight .power) rest
        let (exponent, rest) ← deeper lower Tier.power false rest
        return (.node .power [base, exponent], rest)
    | result => return result

/-- Read the links of a chain: operators of one kind, each with the operand behind it.
The count bounds the number of links, and no chain has more links than tokens. -/
def readLinks (isLink : Token → Bool) (operand : Reader) :
    Nat → List Token → Except Fault (List (Token × Expr) × List Token)
  | count + 1, operator :: rest =>
      if isLink operator then do
        requireOperand (.missingRight operator) rest
        let (x, rest) ← operand false rest
        let (links, rest) ← readLinks isLink operand count rest
        return ((operator, x) :: links, rest)
      else
        return ([], operator :: rest)
  | _, tokens => return ([], tokens)

/-- Whether a token links the factors of a product. -/
def isFactorLink (token : Token) : Bool :=
  token == .times || token == .divide

/-- Whether a token links the terms of a sum. -/
def isTermLink (token : Token) : Bool :=
  token == .plus || token == .minus

/-- The tree of a chain of factors: the product of the multiplied ones, divided by the
product of the divisors if there are any. -/
def ofFactors (first : Expr) (links : List (Token × Expr)) : Expr :=
  let multiplied := links.filter (·.1 != .divide)
  let divisors := links.filter (·.1 == .divide)
  let numerator := product (first :: multiplied.map Prod.snd)
  if divisors.isEmpty then numerator
  else .node .quotient [numerator, product (divisors.map Prod.snd)]

/-- The tree of a chain of terms; a subtracted term is negated. -/
def ofTerms (first : Expr) (links : List (Token × Expr)) : Expr :=
  sum (first :: links.map fun (operator, x) =>
    if operator == .minus then .unary .negate x else x)

/-- Read a chain of `*` and `/`. -/
def readProduct (levels : Nat) (lower : Option Tier) : Reader :=
  fun atStart tokens => do
    let (first, rest) ← readPower levels lower atStart tokens
    let (links, rest) ← readLinks isFactorLink (readPower levels lower) rest.length rest
    return (ofFactors first links, rest)

/-- Read a chain of `+` and `-`. -/
def readSum (levels : Nat) (lower : Option Tier) : Reader :=
  fun atStart tokens => do
    let (first, rest) ← readProduct levels lower atStart tokens
    let (links, rest) ← readLinks isTermLink (readProduct levels lower) rest.length rest
    return (ofTerms first links, rest)

/-- The readers available while a number of levels remains. -/
def tier : Nat → Tier
  | 0 => ⟨readSum 0 none, readPower 0 none, readSigned 0 none⟩
  | levels + 1 =>
      let lower := some (tier levels)
      ⟨readSum (levels + 1) lower, readPower (levels + 1) lower,
        readSigned (levels + 1) lower⟩

/-- Whether every closing bracket has an opening one before it and none stays open,
when a number of brackets is already open. -/
def balanced : Nat → List Token → Bool
  | nesting, [] => nesting == 0
  | nesting, .opening :: rest => balanced (nesting + 1) rest
  | 0, .closing :: _ => false
  | nesting + 1, .closing :: rest => balanced nesting rest
  | nesting, _ :: rest => balanced nesting rest

/-- The expression a token list spells. -/
def ofTokens (tokens : List Token) : Except Fault Expr :=
  if tokens.isEmpty then
    refuse .empty
  else if !balanced 0 tokens then
    refuse .unmatchedBracket
  else do
    match ← (tier depthLimit).sum true tokens with
    | (x, []) => return x
    | _ => refuse (.malformed tokens)

end Expr
end FourFours
