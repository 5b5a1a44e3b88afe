/-!
# Settings

The limits that refuse an evaluation before its numbers explode, and the precision of
the decimal reading of a result.
-/

namespace FourFours

/-- The limits of an evaluation and the precision of a reading. -/
structure Settings where
  /-- The most digits the operand of a triangular number may have. -/
  triangularDigits : Nat
  /-- The most digits the operand of a factorial may have. -/
  factorialDigits : Nat
  /-- The most digits an exponent may have, without its sign. -/
  exponentDigits : Nat
  /-- The number of decimals of a reading that does not end. -/
  readingDigits : Nat
  /-- The most decimals with which a finite expansion is read in full. -/
  exactDigits : Nat
  /-- The estimated size, in bits, above which a power is refused. -/
  powerBits : Nat
  deriving DecidableEq, Repr

namespace Settings

/-- The settings of a fresh calculator. -/
def standard : Settings :=
  { triangularDigits := 12
    factorialDigits := 2
    exponentDigits := 4
    readingDigits := 20
    exactDigits := 200
    powerBits := 1048576 }

/-- The most decimals a reading may be asked for. -/
def readingLimit : Nat := 200

/-- The settings with another number of decimals, at most 200. -/
def withReadingDigits (settings : Settings) (digits : Nat) : Settings :=
  { settings with readingDigits := min digits readingLimit }

end Settings
end FourFours
