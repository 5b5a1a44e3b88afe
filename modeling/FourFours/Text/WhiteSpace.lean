/-!
# White space

The white space characters of Unicode, the words they separate and the trimming of
both ends of a line. Every other module that skips blanks skips exactly these.
-/

namespace FourFours
namespace Text

/-- The characters with the Unicode property `White_Space`. -/
def whiteSpace : List Char :=
  ['\t', '\n', '\x0b', '\x0c', '\r', ' ', '\u0085', '\u00a0', '\u1680',
    '\u2000', '\u2001', '\u2002', '\u2003', '\u2004', '\u2005', '\u2006',
    '\u2007', '\u2008', '\u2009', '\u200a', '\u2028', '\u2029', '\u202f',
    '\u205f', '\u3000']

/-- Whether a character is white space. -/
def isWhiteSpace (c : Char) : Bool :=
  whiteSpace.contains c

/-- A line without the white space at its two ends. -/
def trim (line : List Char) : List Char :=
  ((line.dropWhile isWhiteSpace).reverse.dropWhile isWhiteSpace).reverse

/-- The maximal runs of characters that are not white space, in order. -/
def words (line : List Char) : List (List Char) :=
  (line.splitOnP isWhiteSpace).filter fun word => !word.isEmpty

end Text
end FourFours
