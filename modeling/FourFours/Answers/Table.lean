/-!
# Table of answers

For every target from 0 to 3000 an expression with exactly four fours, where one is
known. Each row lists five successive targets, separated by spaces; a question mark
stands for a target without a known expression.
-/

namespace FourFours
namespace Answers

/-- The number of targets in a row. -/
def rowLength : Nat := 5

/-- The known expressions, row by row. -/
def rows : List String :=
  ["44-44 44/44 4/4+4/4 4+4/4-R4 44-4*S4",
    "4!/4-4/4 .4*4+4.4 44/4-4 4*4-4-4 4+4+4/4",
    "44/4.4 4.4/4*S4 4!+4-4*4 4!-44/4 4!/4+4+4",
    "4+44/4 4*4*4/4 4*4+4/4 44/R4-4 4!-4-4/4",
    "4!*4/4-4 44/4+S4 44*R4/4 4!+4/4-R4 4*4+4+4",
    "4!+R4-4/4 4+44/R4 4!+4-4/4 44-4*4 4!+4+4/4",
    "44-4-S4 S4!/4-44 4*4+4*4 44*SR4/4 44-4/.4",
    "4!+44/4 44-4-4 44-4-SR4 4+44-S4 4*S4-4/4",
    "4*4*4-4! 4*S4+4/4 44+R4-4 44-4/4 4*44/4",
    "4/4+44 4+44-R4 4!*R4-4/4 .4*S4+44 44+R4/.4",
    "4!/4+44 4+44+SR4 4+4+44 44+SR4^R4 4/.4+44",
    "44/.4/R4 4!/R4+44 44+S4+SR4 4+44+S4 4!/.4-4/4",
    "4*4+44 4!/.4+4/4 4*4*4-R4 4^SR4-4/4 4!+44-4",
    "4!+44-SR4 4!+44-R4 4*4*4+SR4 4*4*4+4 44+S4/.4",
    "4!+44+R4 4!+44+SR4 4!+4+44 SR4^4-4-4 4*4*4+S4",
    "4*4+4+SS4 .4*S4!-44 44/R4+SS4 4!+44+S4 4!*4/4+SS4",
    "4!*4-4*4 4*SR4^4/4 4!*4-4-S4 4+4+S4!/4 4*S4+44",
    "44*R4-SR4 44*R4-R4 4!+4+4+SS4 44+44 4+4+SR4^4",
    "44*R4+R4 4*4+S4!/4 4+44*R4 4!+4+S4+SS4 4!*4+R4-4",
    "4!*4-4/4 4!*4*4/4 4!*4+4/4 44*R4+S4 .4*S44/4",
    "44/.44 4/4+S4*S4 .4*4^4-.4 4+44+SS4 4!*4+4+4",
    "4*4*S4-SS4 44/.4-4 44/.4-SR4 44+4^SR4 44+S4+SS4",
    "44*S4/4 444/4 4!*4+4*4 44/.4+SR4 4+44/.4",
    "4*S4+S4!/4 4!*4+4!-4 4!*4+4!-SR4 4^4/R4-S4 44+S4!/4",
    "44/.4+S4 4*44-SS4 44*SR4-S4 4!+44+SS4 4^4/R4-4",
    "44+SR4^4 4^4/R4-R4 R4+SS4/.44 4*4*4*R4 4+SS4/.44",
    "44*SR4-R4 4^4/R4+SR4 4+4^4/R4 (4^4+S4)/R4 4!+44/.4",
    "44*SR4+SR4 4+44*SR4 4/4+S(4*4) 4^4/R4+S4 4*SS4-SR4^4",
    "4!*4+44 4!*4!/4-SR4 44*SR4+S4 44*R4+SS4 444-S4!",
    "4!*SSR4+4/4 4!*4!/4+R4 4!*4+SS4-4 444/SR4 4!+SS4/.44",
    "4*4*S4-S4 4/4+S4!/R4 4*44-4! S(4*4+4/4) 44+R4*SS4",
    "4!*4+4+SS4 4*4*S4-4 4*4*S4-SR4 4*4*S4-R4 4!*S4-SR4^4",
    "4*4*4/.4 S44/SSR4-4 4*4*S4+R4 4*4*S4+SR4 4*4*S4+4",
    "4*S44/4! 4*44-S4 R4+S44/SSR4 (44-R4)*4 4+S44/SSR4",
    "4*4*S4+S4 4!*4+S4!/4 4*44-4 4*44-SR4 4*44-R4",
    "4^4-SR4^4 .4*44*S4 4!*4+SR4^4 4*44+R4 4*44+SR4",
    "4*44+4 4^4-S4!/4 4*44+SSR4 4^4/R4+SS4 4!+4*4*S4",
    "4!*4/.4-SS4 4*44+S4 44*SR4+SS4 4!*4*R4-4 4!*4*R4-SR4",
    "S4!-44/.4 4^4-S4-SS4 (4+44)*4 4!+4+SR4*SS4 44+S4!/R4",
    "S44/R4-S4! 4!*S4-44 4^4-4-SS4 .4*S44/R4 4^4-R4-SS4",
    "4!+4*44 S4!-44-SS4 4!*4*R4+S4 4^4+R4-SS4 4*SS4-4*4",
    "4+4^4-SS4 4*SS4-4-S4 4*SS4-S4-SR4 4^4-4!*R4 44+SR4*SS4",
    "4*S4!-S44 4^4+S4-SS4 4^4-44 4*SS4-4-SR4 4*SS4+4-S4",
    "4*4*S4+SS4 4^4-4*S4 4/4+SSR4^SR4 4*SS4+R4-4 4*SS4-4/4",
    "44*R4/.4 4*SS4+4/4 444/R4 4+S4!-SR4^4 4!*S4-4*4",
    "S44/4.4 4!*S4-4-S4 4*SS4+4+SR4 4^4-4!-4 4^4-4!-SR4",
    "4^4-4!-R4 4*44+SS4 4!*S4-4-4 4!*S4-4-SR4 4^4+R4-4!",
    "4^4+SR4-4! 4+4^4-4! 4!*4/.4-SR4 4.4*SS4-4 4!*S4-4/4",
    "4^4-4*4 4!*S4+4/4 4^4-4-S4 4^4-S4-SR4 4!*4/.4+4",
    "(S44-S4)/4 4^4-4/.4 4^4-SR4^R4 4^4-4-4 4^4-4-SR4",
    "4+4^4-S4 4^4-R4/.4 S4!-4-44 S4!-44-SR4 4^4+R4-4",
    "4^4-4/4 4*4*4*4 4/4+4^4 4+4^4-R4 S4!+SR4-44",
    "4+S4!-44 4^4+R4/.4 4!/4+4^4 4+4^4+SR4 4!*44/4",
    "4^4+SR4^R4 4/.4+4^4 44*SSR4+SR4 4!/R4+4^4 4^4+S4+SR4",
    "4+4^4+S4 4*SS4+SS4-4 4*4+4^4 4!+4+S4!-SS4 44*SSR4+S4",
    "44/.4/.4 4!+4^4-4 4!+4^4-SR4 4!+4^4-R4 4*SS4+4+SS4",
    "4!+S4!-44 4^4+S4/.4 4!+4^4+R4 4!+4^4+SR4 4!*S4+44",
    "S4!-4!/.4/4 4^4+S4!/S4 4^4+SS4-4! 4+S4!-4*4 S4!-44/4",
    "4!+4^4+S4 4/4+S4!-S4 4!*4!/R4+4 4!*S4+SS4-R4 S(4+44)/4",
    "S4!-4-4/4 4*S4+4^4 4/4+S4!-4 4*S4!/4-R4 4/4+S4!-R4",
    "44+4^4 4^4+SS4-S4 4!/4+S4!-4 4+S4!-4/4 4!*R4+4^4",
    "4+4/4+S4! 4*4+S4!-S4 4^4+SS4-4 4!+S4!-4*4 4^4+SS4-R4",
    "4!/4+4+S4! 44/4+S4! 4*4+S4!-4 4^4+R4+SS4 4*4+S4!-R4",
    "4+4^4+SS4 4!/.4+4^4 4!+S4!-4-SR4 4*4+R4+S4! 4*4+S4!+SR4",
    "4!*4!-4^4 4^4+S4+SS4 44/R4+S4! 4!+S4!-4/4 4!*4/4+S4!",
    "4!+4/4+S4! S44/SR4-4 4*SR4^4+SR4 4*SR4^4+4 4!*4*4-SS4",
    "4.4*S4!/4 4^4+S4!/4 4!+4+4+S4! S44/SR4+SR4 4+S44/SR4",
    "4!+4^4+SS4 4!*4+4!*S4 4^4+SR4^4 4!+4+S4!+S4 S4!+SS4-4*4",
    "44+S4!-4 SSS4/4-44 44+S4!-R4 4!*4!/R4+SS4 4*S4+4+S4!",
    "4*S4*S4-SS4 44+R4+S4! 44+S4!+SR4 4+44+S4! 4!+S4!+S4/.4",
    "S4*SSS4/44 S(4+44/R4) 4*44*R4 R4+S4!+SS4-4 44+S4!+S4",
    "4*S4!/4+SS4 4^4+S4*S4 SSS4/4-4!-4 4!*R4+S4!+S4 SSS4/4-4!-R4",
    "4!*4*4-4! 4^4+S(4+S4) S(4!+4)-44 4+4+S4!+SS4 4*4*4+S4!",
    "4+SSS4/4-4! 4^4+R4*SS4 4*4+S(4!+R4) 4!+44+S4! SSS4/4-4*4",
    "4!/.4+S4!+S4 4!/.4^SR4-4 .4*S44-4! 4!/.4^SR4-R4 4!*4*4-S4",
    ".4*4!/.4^4 .4*S4!+4^4 SSS4/4-4-4 4!*4*4-SSR4 4!/.4^SR4+4",
    "4!*4*4-4 4!*4*4-SR4 4!*4*4-R4 R4+SSS4/4-4 .4*4!*4*S4",
    "44*S4-SS4 .4*S44-S4 4!*4*4+SR4 4!*4*4+4 444-SS4",
    "4*S4*S4-S4 4!/4+SSS4/4 .4*S44-4 .4*S44-SR4 .4*S44-R4",
    "4/.4+SSS4/4 4*S44/S4 4*S4*S4-SR4 .4*S44+R4 .4*S44+SR4",
    ".4*S44+4 4*4+SSS4/4 4*S4*S4+R4 4*S4*S4+SR4 4*S4*S4+4",
    "4!+SSS4/4-4 .4*S44+S4 4/4+S(4!+4) 4!*4*4+4! 4!+SSS4/.4/S4",
    "44/.4+S4! 4!+R4+SSS4/4 (4!+4)*4+S4! 4!+4+SSS4/4 S44-4!*4!",
    "4!/.4+S4!+SS4 44*S4-4! 4*S(4+S4)-SR4 (4+4-.4)*SS4 4!+S4+SSS4/4",
    "444-4! 4^4+SR4*SS4 4*4+S(4!+4) 4*S(4+S4)+SR4 4!+4*S4*S4",
    "4*S4+SSS4/4 4!*4!-S4!/R4 4!*SR4+S4!+SS4 4^4/R4+S4! 44+SSS4/4",
    "44*S4-S4 S(4+S4/.4)-4 4!*S44/SS4 4!*R4+SSS4/4 444-S4",
    "S(4!+4+4/4) 44*S4-4 44*S4-SR4 44*S4-R4 4!*4*4+SS4",
    "444-4 444-SR4 444-R4 44*S4+SR4 4+44*S4",
    "4!/.4+SSS4/4 444+R4 444+SR4 4+444 4^SR4+SSS4/4",
    "44*S4+S4 .4*S44+SS4 S(SS4-4!)-44 S4!*SR4/R4+SR4 444+S4",
    "4*S4*S4+SS4 .4*4*S4!-4! 4^4*R4-SS4 4+S4!+SSS4/S4 4!+S(4+S4/.4)",
    "4*4*S4+S4! S(4!+4!/4)-4 (4+4.4)*SS4 S(4!+4!/4)-R4 4!+44*S4",
    "S(44-4-S4) 4^4+S(4!-4) R4+S(4!+4!/4) 4!+444 S4*SS4-SR4^4",
    ".4*4*S4!-S4 S44/R4-4! 4^4+SSR4^SR4 SR4^SSR4-4^4 R4^S4-S4*SS4",
    "S4*SS4-S4!/4 4*44+S4! .4*4*S4!-SR4 .4*4*S4!-R4 4+S(S4!/S4)+S4",
    "(4+44)*S4 4!*4+SSS4/4 .4*4*S4!+R4 (S44-4!)/R4 44^R4/4",
    "S44/R4-S4 4!*SR4^4/4 4^4+S(4!-SR4) 4^4*R4-4! S44/R4-SSR4",
    ".4*4*S4!+S4 S44/R4-4 S44/R4-SR4 S44/R4-R4 S4!/.4-4^4",
    "R4*S44/4 4!*S4+4^4 R4+S44/R4 S44/R4+SR4 444+SS4",
    "4*SS4/.44 4!*4!-S4!/4 4^4*R4-S4 S4^SR4/R4+SR4 (4^4-4)*R4",
    "S4+S44/R4 S4*SS4-44 (4!+S44)/R4 4^4*R4-4 4^4*R4-SR4",
    "4^4*R4-R4 4!*4!-S4-SS4 4^4+4^4 (R4+R4^S4)/R4 4^4*R4+R4",
    "4^4*R4+SR4 4+4^4*R4 4!*4!-4-SS4 4^4*R4+SSR4 4!+S44/R4",
    "(4+4^4)*R4 4^4/.(4)-SS4 4^4*R4+S4 4!*4!+R4-SS4 .4*4!*SS4-4",
    "4!*4!+4-SS4 4*SS4/.4-4! R4+S(4!-4)/.4 4!*44/R4 (4!-4/4)^R4",
    "4+S4*SS4-4! 4!*4!+S4-SS4 4!*4!-44 (SS4-R4)*S4+SR4 S4*SS4-4*4",
    ".4*4*S4!+SS4 4!+4^4*R4 4!*S4+S4!-SR4 .4*4!*SS4+S4 SSS4/4+SSS4/S4",
    "(44+S4)*S4 R4*S4!-4-SS4 S4*SS4-4-4 S4*SS4-4-SR4 4!*S4+4+S4!",
    "4!*4!+4!-SS4 4*SS4/.4-4 4*SS4/.4-SR4 4!*4!-4!-4 S4*SS4-4/4",
    "44*S4!/4! 4/4+S4*SS4 4^4+S4!-4 4^4+S4!-SR4 4*SS4/.4+4",
    "4!*4!+SR4-4! R4*S4!-44 4+S4*SS4+SR4 4+4+S4*SS4 4^4+S4!+SR4",
    "4!*4!-4*4 S(44*SR4/4) 4!*4!-4-S4 4!*4!-S4-SR4 4!*4!-4!/R4",
    ".4*SSS4+4-SS4 4!*4!-4/.4 4^4*R4+SS4 4!*4!-4-4 4!*4!-4-SR4",
    "4!*4!+4-S4 4!*4!-R4/.4 .4*SSS4-44 4^4/.(4)-SR4 4!*4!+R4-4",
    "4!*4!-4/4 4!*4!*4/4 4!*4!+4/4 4!*4!+4-R4 4^4/.(4)+SR4",
    "4!+4^4+S4! 4!*4!+R4/.4 4!*4!+4!/4 4!*4!+4+SR4 4!*4!+4+4",
    "4^4/.4-SS4 4!*4!+4/.4 S(4!+S4)-4-4 S(4+44)/R4 4!*4!+S4+SR4",
    "4!*4!+4+S4 S(44-S4)-4 4!*4!+4*4 S(44-S4)-R4 44+S4*SS4",
    "S(44-4/.4) 4!*4!+4!-4 R4+S(44-S4) 4!*4!+4!-R4 R4*S4!-4/4",
    "4!*4/.4/.4 4/4+R4*S4! 4!*4!+4!+R4 4!*4!+4!+SR4 4!*4!+4!+4",
    "44*SS4/4 4!/4+R4*S4! 4!*4!+SS4-4! 4+4+R4*S4! 4+S4*SS4+SS4",
    "4!*4!+4!+S4 4^4+S4!+SS4 4*SSS4/S4-4 4*SSS4/S4-SR4 4+R4*S4!+S4",
    ".4*SSS4-4/4 4^4/.4-4! .4*SSS4+4/4 .4*SSS4+4-R4 4!+S(44-S4)",
    "4!*4!+44 (R4/.4)^4-4 SS(4+4)-44 (R4/.4)^4-R4 .4*SSS4+4+4",
    "4*4/.4^4 .4*SSS4+4/.4 4!*4!+SS4-4 4!+4+R4*S4! (R4/.4)^4+4",
    "4^4/.4-S4 S4!/.(4)-44 .4*SSS4+4*4 4!*4!+R4+SS4 4^4/.4-SSR4",
    "4!*4!+4+SS4 4^4/.4-4 4^4/.4-SR4 4^4/.4-R4 (4^4-.4)/.4",
    "4*4*4*S4 4^4+SSS4/4 4^4/.4+R4 4^4/.4+SR4 4+4^4/.4",
    "(4^4+R4)/.4 4!*4+S4*SS4 S4!/.(4)-4!-4 4*SR4^4*R4 S(4*44)/4!",
    "4^4/.4+S4 4!*4!+S4!/4 4+SSR4^4/R4 R4*S4!+SS4-R4 S4!/.4-4!*4",
    "4!*4!+4!+SS4 4!*SS4/R4-4 4!*4!+SR4^4 SS(4+4)-4-4 4+R4*S4!+SS4",
    ".4*SSS4+44 S4!+SSS4/4-4! 4^4+S(4!+4) 4!*SS4/R4+SR4 4!+4^4/.4",
    "(4^4+S4)/.4 444/R.(4) 4/4+SS(4+4) (4!+4)*4!-4 S4!/.4-SR4^4",
    "4+S(4*S4-4) S4!/.(44)-4 4!*4!+4!*4 S4!/.(44)-R4 4+4+SS(4+4)",
    "S4!/.(444) (4!/4)!-44 R4+S4!/.(44) .4+.44*SSS4 4+S4!/.(44)",
    "S44-S4!-S4 R4*S4!+SR4^4 4*4+SS(4+4) 4+4+S4!/.(4) 4!*4*4+S4!",
    "SR4^SSR4-44 S44-4-S4! S44-S4!-SR4 S44-R4-S4! 4+S4!+SSS4/4",
    "S4!/.4-4!/.4 S4!/.4-4-SS4 R4+S44-S4! S44+SR4-S4! 4+S44-S4!",
    "4^4/.4+SS4 .4*S44+S4! .4*SSS4+SR4^4 S4^SR4-R4-S4! 4+S4!/.4-SS4",
    "S4+S44-S4! SR4^SSR4-4!-4 S4!/.4-4!*R4 S(44-4-SR4) 4*4*44",
    "S4!/.4+S4-SS4 S4!/.4-44 4+S(4*S4-SR4) (4!*S4-4)*SR4 4!+S4!+SSS4/4",
    "44+SS(4+4) SSS4/R4-4-SS4 (4!/4)!-4-4 4^4*SR4-SS4 4!+S44-S4!",
    "4!*SS4/R4+SS4 4!*S4!/S4-4 4!*S4!/S4-SR4 4!*S4!/S4-R4 (4!/4)!-4/4",
    ".4*4!*S4!/4 (4!/4)!+4/4 S4!/.4-4!-4 4!*S4!/S4+SR4 4*4^4-S4!",
    "S4!/.4-S4/.4 SSS4/R4-44 R4+SR4^SSR4-4 4+R4^S4-S4! 4*SR4^SSR4/4",
    "4+S4!/.4-4! 4+SR4^SSR4-R4 (.44+R4)*S4! 4+SR4^(4!/4) S44-4^4",
    "4!/4+SR4^SSR4 S4!/.4-4-S4 4+4+SR4^SSR4 S4!/.4-4!/R4 (S4!-4.4)/.4",
    "44*S4+S4! S(4+44-S4) S4!/.4-4-4 S4!/.4-4-SR4 444+S4!",
    "S44+SS4-S4! S4!*S4/4-4 S4!*S4/4-SR4 R4+S4!/.4-4 S4!/.4-4/4",
    "S44-4!*S4 4/4+S4!/.4 4+S4!/.4-R4 S4!*S4/4+SR4 4+S4!*S4/4",
    "R4/.4+S4!/.4 4!*44-S4! 4+S4!/.4+SR4 4+4+S4!/.4 S4!/.4+SR4^R4",
    "4/.4+S4!/.4 (4.4+S4!)/.4 SSS4/R4-4-4 S4!/.4+S4+SR4 4^4*SR4-4",
    "4^4*SR4-SR4 4*4+S4!/.4 R4*SSS4/4-SR4 4!*4*4*R4 SSS4/R4-4/4",
    "S44-4*SS4 4/4+SSS4/R4 4+4^4*SR4 44+SR4^SSR4 4!+S4!*S4/4",
    "S4!/.4+S4/.4 S(4*S4)-44 4!+S4!/.4+SR4 4^4*SR4+S4 R4^S4+SS4-S4!",
    "(4!+4)^R4-4 S(44+R4)-S4! (4!+4)^R4-R4 S4+SR4+SSS4/R4 R4^S4-4!*S4",
    "(4+S4!+S4)/.4 4*4+SSS4/R4 (4!+4)^R4+SR4 (4!+4)^R4+4 4!/.4+SR4^SSR4",
    "4*S4+S4!/.4 4!+SSS4/R4-SR4 .4*R4*S44 4^SR4+SR4^SSR4 44+S4!/.4",
    "S4!+S44/R4 S(44-4)-4! 4!+SR4+SSS4/R4 4!*R4+S4!/.4 (4!/4)!+4!+SS4",
    "4*S4*R4*S4 S4!/.4+SS4-4 R4*S(4!+4)-S4 S4!/.4+SS4-R4 R4^S4-4*SS4",
    "S4!*S4/4+SS4 4^4+S4*SS4 S4*SR4^4-SR4 S4*SR4^4-R4 4+S4!/.4+SS4",
    "4*SR4^4/.4 (.4+4!+S4!)/.4 4^4*R4+S4! S4*SR4^4+SR4 4+S4*SR4^4",
    "4*S4!-SSS4/4 S(44-4)-4 S(44-4)-SR4 S(44-4)-R4 S(4*S4)-4/4",
    "S4*SR4^4+S4 4/4+S(4*S4) R4+S(44-4) 4^4*SR4+SS4 4+S(44-4)",
    "S44/.4/SR4 4!/4+S(4*S4) 4+S(4*S4)+SR4 4+4+S(4*S4) 4!+S4!/.4+SS4",
    "S(44-4)+S4 S4!/.4+SR4^4 4!*4!+4^4 S(4*S4)+S4+SR4 4!+S4*SR4^4",
    "S4!*SR4-S4-SS4 S44-SSS4/S4 S(44-SR4)-4! 4*S(4!-4)-R4 (4!+4)^R4+SS4",
    "4!*SSS4/44 (4+S4/.4)^R4 4*S(4!-4)+R4 4*S(4!-4)+SR4 4!+S(44-4)",
    "4*S4!-S4!-SS4 4!*4+S4!/.4 R4+S4!*SR4-SS4 4!+4+S(4*S4) 4+S4!*SR4-SS4",
    "4*SS4/.4+S4! 4^4+S(4!+S4) 4!*4!*R4-S4! S4!+S4*SS4+SR4 S44-S(4*4)",
    "S4!*SR4+S4-SS4 4*4*SS4-4! S(44-SR4)-4 (4*4-.4)*SS4 S(44-SR4)-R4",
    "(44+S4!)/.4 S(4*S4+4/4) 4!*S(4+4)-R4 R4+S(44-SR4) 4!^SR4/4/4",
    "4+S(44-SR4) 4!*4!+S4!-S4 4!*S(4+4)+SR4 4!*S(4+4)+4 4!+S4!*SR4-SS4",
    "4*4*SS4-S4 S(44-SR4)+S4 .4*SSS4+4^4 4!*4!+S4!-SR4 4!*4!+S4!-R4",
    "SSS4/.44/4 4*4*SS4-4 4*4*SS4-SR4 4*4*SS4-R4 S(44-R4)-4!",
    "44*R4*S4 S(4+SS4)/R4-4 4*4*SS4+R4 4*4*SS4+SR4 4*4*SS4+4",
    "S44-S(4+S4) 4!*4!+S4!+S4 S4!*SR4-S4-SR4 444*R4 4+S(4+SS4)/R4",
    "S44-S4*S4 .4*S44/.(4) S4!*SR4-4-4 S(44-R4)-S4 S44-4!*4",
    "S(44-S4)+S4! 4*S4!-4-S4! 4*S4!-S4!-SR4 4*S4!-R4-S4! S(44-R4)-4",
    "4!*S4!/4/R4 4/4+S4!*SR4 4*S4!+R4-S4! S(44+R4-4) 4!+4*4*SS4",
    "4!*4*S4-SS4 4!/4+S4!*SR4 4+S(44-R4) 4+4+S4!*SR4 S44-SR4^4",
    "4*S4!+S4-S4! S44-4!-SS4 (4!+4+S4)*4! S(44-R4)+S4 4+S4!*SR4+S4",
    "S44-S4!/4 4*4+S4!*SR4 R4+S(4!/.4)/R4 S44-4!*SR4 S4^SR4-SR4^4",
    "(4!*4-4)*S4 S4^SR4-4!-SS4 4^4+SS(4+4) (S4!+SSS4)/R4+SR4 R4^S4-S4*S4",
    "S44-S4-SS4 S44-4^SR4 4!+S(44-R4) R4^S4-4!*4 S44-SS4-SSR4",
    "S44-4!/.4 S44-4-SS4 S44-SR4-SS4 S44-R4-SS4 4!+S4!*SR4+S4",
    "4*4*SS4+SS4 4!*4*S4-4! R4+S44-SS4 S44+SR4-SS4 4+S44-SS4",
    "4^4/.4+S4! S44+SSR4-SS4 S44-4!*R4 R4^S4-SR4^4 4*S4!-4^4",
    "S4+S44-SS4 S44-44 R4+S4^SR4-SS4 4!*R4+S4!*SR4 R4^S4-S4!/4",
    "S44-4*S4 S4!*SR4+SS4-4 R4^S4-4!*SR4 S4!*SR4+SS4-R4 S44-S(4+4)",
    "4*S4!+SS4-S4! 4!*4*S4-4 4!*4*S4-SR4 4!*4*S4-R4 4!+S44-SS4",
    "4!*4*4/.4 4!*4!+SSS4/4 S44-4!-4 S44-4!-SR4 4!*4*S4+4",
    "S44-S4/.4 S44-4*SSR4 R4^S4-R4-SS4 44^R4/R4 4*4^4-SS4",
    "4+S44-4! R4+R4^S4-SS4 4!*SR4^4/R4 4+R4^S4-SS4 S44-4*4",
    "S44-SSR4/.4 S44-4-S4 S44-S4-SR4 S44-4!/R4 S(44*R4)/4",
    "R4^S4-44 S44-SR4^R4 S44-4-4 S44-4-SR4 4+S44-S4",
    "S44-R4/.4 S44-.4*S4 S44-SSR4/R4 R4+S44-4 S44-4/4",
    "4*S44/4 4/4+S44 4+S44-R4 S44+SSR4/R4 .4*S4+S44",
    "R4/.4+S44 4!/4+S44 4+S44+SR4 4+4+S44 444/.(4)",
    "4*4^4-4! 4!*44-SS4 4!/R4+S44 S4+S44+SR4 4+S4+S44",
    "S44+SSR4/.4 4*4+S44 4+S4^SR4+SR4 R4^S4-4*4 R4^S4-SSR4/.4",
    "4!+S44-4 4!+S44-SR4 4!+S44-R4 S4+S4^SR4+SR4 4*4^4-S4",
    "S4/.4+S44 4!+R4+S44 4!+S44+SR4 4!+4+S44 R4^S4-R4/.4",
    "4*4^4-4 4*4^4-SR4 4*4^4-R4 R4^S4-4/4 .4*4^4*S4",
    "4/4+R4^S4 4*4^4+R4 4*4^4+SR4 4*4^4+4 R4/.4+R4^S4",
    "4*S4+S44 4+R4^S4+SR4 4!*44-4! R4^S4+SR4^R4 44+S44",
    "S(4/4+44) 4!/R4+R4^S4 R4^S4+S4+SR4 4!*R4+S44 S44+SS4-SSR4",
    "4*4+R4^S4 S44+SS4-4 S44+SS4-SR4 S44+SS4-R4 44+S4^SR4",
    "SSS4-S44/R4 4!*44-S4 R4+S44+SS4 4!+4*4^4 4+S44+SS4",
    "4!/.4+S44 4!+R4^S4+SR4 4!*44-4 4!*44-SR4 4!*44-R4",
    "S4+S44+SS4 4!*4.4*S4 S(44+R4)-4! 4!*44+R4 4!*44+SR4",
    "4!*44+4 S4^SR4+SS4+SSR4 4!*44+SSR4 4!+4+S(SS4-S4) 4!*SS4-4^4",
    "S4!/4+S44 4!*44+S4 4*S(4!-R4)+SS4 44+R4^S4 4!+S44+SS4",
    "S(SS4-4)-4^4 S44+SR4^4 4!*R4+R4^S4 S(44+SR4)-SS4 4!+S4!+S4!/.4",
    "R4^S4+SS4-4 4^4+S(4*S4) S(44+R4)-4 (4!-4.4)*SS4 4*4^4+SS4",
    "4!*44+4! S(4+44-R4) R4^S4+SR4+SS4 4+R4^S4+SS4 4!/.4+R4^S4",
    "4+S(44+R4) 4!*4+S44 S(44+R4)+SSR4 4^SR4+R4^S4 R4^S4+S4+SS4",
    "S4*S4+S44 S(44+R4)+S4 (S4*SS4-4)*R4 S(SS4-S4)+SR4+SS4 (S4!-4!)*4-S4",
    "S(4+S4)+S44 SSS4-444 4!*4!*R4-SS4 R4*SS4*S4-R4 R4^S4+S4!/4",
    "44*S4/.4 (4!+S4)^R4-SS4 R4*SS4*S4+R4 4!+R4^S4+SS4 4*S4!-4!*4",
    "R4^S4+SR4^4 (4!+4!^4)/S4! (S4!-4!)*4+SR4 (S4!-4!)*4+4 S(4!*4)/4-SS4",
    "444/.4 4!*44+SS4 (4^4+S4!)*R4 .4*SS(4+S4)/R4 (S4!-4!)*4+S4",
    "(SS4!/S4-SS4)/4 S(4*S4)+S4!-4 S(4!*R4)-4-SS4 S(44+SR4)-S4 4*S4!-SR4^4",
    "4!*4+R4^S4 S(4+44)-SS4 (.4+4!-4)*SS4 R4+S(4!*R4)-SS4 R4^S4+S4*S4",
    "4*S4!-S4!/4 S(4*4)+S44 R4+S4!/.4/R.(4) 4!*4!*R4-4! (S4!-4)*4-SS4",
    "R4+S(44+SR4) SR4*SSS4/4-4! 4+S(44+SR4) (4!-.4-SR4)*SS4 4!*SSR4+S44",
    "4*S4!-S4-SS4 4*S4!-4^SR4 (S4!-R4)*4-SS4 S(44+SR4)+S4 4*S4!-SS4-SSR4",
    "S4!/R4+S44 4*S4!-4-SS4 4!*4!*R4-S4 4*S4!-R4-SS4 (4!+R4)*44",
    ".4*S4!*S4-SS4 4!*4!*R4-SSR4 4*S4!+R4-SS4 4!*4!*R4-4 4*S4!+4-SS4",
    "4!*4!*R4-R4 SR4*SSS4/4-4 (4+44)*4! SR4*SSS4/4-R4 4!*4!*R4+R4",
    "S44+SR4*SS4 4*S4!-44 R4+SR4*SSS4/4 4!*4!*R4+SSR4 4+SR4*SSS4/4",
    "4*S4!-4*S4 (4+S4!)*4-SS4 4!*4!*R4+S4 (S(4!*4)-4)/4 (S4!-S4)*4+4",
    "S4+SR4*SSS4/4 S(4+44)-S4 S(4!*4)/4+SR4 (S4!-4-4)*4 4!+4*S4!-SS4",
    "4*S4!-S4!/S4 4!*4!+S(4!+S4) S(4+44)-4 S(4!+44)/R4 S(4+44)-R4",
    "4*S4!-S4/.4 4!*4!*R4+4! 4/4+S(4!*R4) R4+S(4+44) S(4+44)+SR4",
    "4+S(4+44) (S4!-4)*4-SR4 (S4!-4)*4-R4 S(44+SR4)+SS4 4*S4!-4*4",
    "S(44+S4)-S4! 4*S4!-4-S4 4*S4!-S4-SR4 .4*S44*SR4 R4^S4+SR4*SS4",
    "4*S4!-4/.4 4*S4!-SR4^R4 4*S4!-4-4 4*S4!-4-SR4 4*S4!+4-S4",
    "4*S4!-R4/.4 .4*S4!*S4-4 .4*S4!*S4-SR4 4*S4!+R4-4 4*S4!-4/4",
    "4*4*S4!/4 4*S4!+4/4 4*S4!+4-R4 S(44-R4)+S4! .4*S4!*S4+4",
    "4*S4!+R4/.4 4!/4+4*S4! 4*S4!+4+SR4 4*S4!+4+4 4*S4!+SR4^R4",
    "4*SS4+S44 (4!+S4)^R4+SS4 4!/R4+4*S4! 4*S4!+S4+SR4 4*S4!+4+S4",
    "SSR4^4-SR4^4 4*4+4*S4! SSR4^4-4!-SS4 (4+S4!)*4+R4 (4+S4!)*4+SR4",
    "4!+4*S4!-4 4!+4*S4!-SR4 4!+4*S4!-R4 S(4!+S4/.4)-R4 4!*SS4-4!*4",
    "4*S4!+S4/.4 4!+4*S4!+R4 4!+4*S4!+SR4 4!+4*S4!+4 SSS4-4^4-SS4",
    "4!*S4+S44 S(4+44)+SS4 (4!+4)*44 R(SR4^S4)+S44 4!+4*S4!+S4",
    "S4!+S44-SS4 .4*R4*SSS4+4 SSR4^4-4-SS4 R4+SSS4-4-S4! 4!*SS4-SR4^4",
    "4*S4!+4*S4 4/4+SSS4-S4! .4*R4*SSS4+S4 S(4!-R4)+S44 4*S4!+44",
    "4!*SS4-S4!/4 4^4+S44 4+SR4+SSS4-S4! 4!*R4+4*S4! 4*S4!+SS4-SSR4",
    "S4^4/4/R4 4*S4!+SS4-4 SSR4^4-44 4*S4!+SS4-R4 .44*S(S4!/4)",
    ".4*S4!*S4+SS4 4^4+S4^SR4 4*S4!+R4+SS4 4*S4!+SR4+SS4 4*S4!+4+SS4",
    "4!*4*S4+S4! 4!*SS4-4-SS4 SSR4^4-4!-S4 4!*SS4-R4-SS4 4!*S4+R4^S4",
    "4.4*S4!-SS4 S4!+S44-4! 4!*SS4+R4-SS4 SSR4^4-4!-4 4!*SS4+4-SS4",
    "SSR4^4-4!-R4 SSR4^4-S4/.4 (4!/4)^4-4! S(4*S4+S4)-R4 SSS4-4^4-S4",
    "S(4!/4+44) 4!*SS4-44 R4+S(4*S4+S4) SSS4-4^4-SSR4 4!+4*S4!+SS4",
    "4^4*R4/.4 4*S4!+SR4^4 SSR4^4-4-S4 SSR4^4-S4-SR4 44+SSS4-S4!",
    "S(4*S4+S4)+S4 S4!+S44-4 S4!+S44-SR4 4+SSS4-4^4 SSR4^4-4-SR4",
    "4+SSR4^4-S4 SSR4^4-R4/.4 R4+S4!+S44 S4!+S44+SR4 4+S4!+S44",
    "SSR4^4-4/4 4!^4/4^4 4/4+SSR4^4 4+SSR4^4-R4 (4!/4)^4+SR4",
    "S4!+S4+S44 R4/.4+SSR4^4 4!/4+SSR4^4 4+SR4+SSR4^4 4!*SS4-4*4",
    "SR4^R4+SSR4^4 4!*SS4-4-S4 4!*SS4-S4-SR4 4!+SSS4-4^4 S4+SR4+SSR4^4",
    "4.4*S4!-S4 4!*SS4-SR4^R4 4!*SS4-4-4 4!*SS4-4-SR4 4!+S4!+S44",
    "4!*SS4-R4/.4 4.4*S4!-4 4.4*S4!-SR4 4.4*S4!-R4 4!*SS4-4/4",
    "4*S44/SR4 4!*SS4+4/4 4.4*S4!+R4 4.4*S4!+SR4 4*4^4+S4!",
    "4!*SS4+R4/.4 4!*SS4+4!/4 4!*SS4+4+SR4 4!*SS4+4+4 4!*SS4+SR4^R4",
    "4.4*S4!+S4 .44*SS4^R4 444*SR4 4!*SS4+S4+SR4 4!*SS4+4+S4",
    "(SS4/.4-4)*S4 4!*SS4+4*4 SSS4-S(4!+4)/R4 (.4+4!)*SS4-4 SS4+SSS4-4^4",
    "44+SSR4^4 S(4!+R4)+S44 4!*SS4+4!-R4 S(R4+SS4)-S4!-S4 4!+4.4*S4!",
    "S4!+S44+SS4 4!*SS4+4!+R4 SS4+SSR4^4-4 4!*SS4+4!+4 SS4+SSR4^4-R4",
    "4*S4!+S4!/R4 S4*SS4/.4-4! (4!+R4)^R4*R4 R4+SS4+SSR4^4 4!*SS4+4!+S4",
    "4+SS4+SSR4^4 4!*44+S4! S(4*4)*S4-SR4 S(4*4)*S4-R4 (4+R4*S4!)/.(4)",
    "4!*SS4+4*S4 S4+SS4+SSR4^4 R4+S(4*4)*S4 S(4*4)*S4+SR4 4!*SS4+44",
    "S4*SS4/.4-S4 4*S4+S(SS4-4) S(SS4-R4)-4^SR4 4!*R4+4!*SS4 (4*S4-SR4)^R4",
    "44+S(SS4-4) S4*SS4/.4-4 S4*SS4/.4-SR4 S4*SS4/.4-R4 S(4!*R4+4)-4",
    "S44+SSS4/4 (44+S4!)*4 R4+S4*SS4/.4 S(4+4+44) 4+S4*SS4/.4",
    "SSS4-4*4*S4 S(44+R4)+S4! 4!^SR4/S4-.4 R4+S(SS4-4)+SS4 4!*SS4+4^SR4",
    "4!*4!/.4-SS4 4*SSS4/4.(4) S(SS4-R4)-44 S(4!*R4+4)+S4 SSS4-4!*4-SS4",
    "(4^4+S4!)/.4 S(SS4-R4)-4*S4 4!*4+SSR4^4 SR4+SSS4-S4!/R4 4+SSS4-S4!/R4",
    "4!*SS4+S4!/4 S(4!+4)+S44 S(R4+SS4)-4^4 R4+SSS4-4!*SSR4 4!+S4*SS4/.4",
    "4*SSS4/4.4 4!*SS4+SR4^4 4!+S(4!*R4+4) S(SS4-R4)-4!-4 SS(4!+R4)/44",
    "S4!*S4-SS4-SSS4 R4*SS4+SSR4^4 4*S(4!+R4)+SR4 4^4*SS4/S4 R4^S4+SSS4/4",
    "4*S4!+S(4!-4) 4+S(SS4-R4)-4! SSS4-4^4/R4 (4+SS4)*4!-SR4 (4+SS4)*4!-R4",
    "SSS4-SS4/.44 4!*4!/.4-4! S(SS4-R4)-4-S4 (4+SS4)*4!+R4 (4+SS4)*4!+SR4",
    "4*S4!+4*SS4 S(S4!/4)/R4-4 4!*4+S(SS4-4) S(SS4-R4)-4-4 4+SSS4-.4*S4!",
    "(4+SR4/4)*S4! SSS4-4-R4*SS4 S(R4+SS4-4)-4 4!*4!*SR4-S4! 4+S(S4!/4)/R4",
    "SSS4-44/.4 S(44+SR4^R4) 4^4+S(4!*R4) 4+S(SS4-R4)-R4 SSS4-4!*4-S4",
    "SSS4-4!-SR4^4 4!*4!/.4-4 4!*4!/.4-SR4 4!*4!/.4-R4 (4!*4!-.4)/.4",
    "4!*4!*S4/4 SSS4-44-SS4 4!*4!/.4+R4 4!*4!/.4+SR4 4!*4!/.4+4",
    "4*S4!+S4!-SS4 R4+SSS4-4!*4 SR4+SSS4-4!*4 4+SSS4-4!*4 SSS4-S4-SR4^4",
    "4!*4!/.4+S4 SSS4-4!-S4-SS4 SSS4-44*R4 4*S4!+S(4!-R4) S4+SSS4-4!*4",
    "SSS4-4-SR4^4 4*S4!+4^4 SSS4-4!-4-SS4 4*SR4^SSR4/R4 SSS4-4!-R4-SS4",
    "SSS4-4*S4*R4 S(44+S4)-4! 4+R4*SR4^SSR4 4+SSS4-SR4^4 4!*4!/.4+4!",
    "4+SSS4-4!-SS4 SSS4-4^SR4-S4 R4+SSS4-S4!/4 4!+SSS4-4!*4 4+SSS4-S4!/4",
    "4!*SS4+S4!/R4 SSS4-4-S4-SS4 SSS4-4!-44 SSS4-4!/R4-SS4 SSS4-S(44/4)",
    "S(44+S4)-S4 SSS4-4*4*4 SSS4-4-4-SS4 R4+SSS4-4^SR4 4+SSS4-S4-SS4",
    "4+SSS4-4^SR4 S(44+S4)-4 S(44+S4)-SR4 S(44+S4)-R4 4+SSS4-4!/.4",
    "S44*SR4/R4 SSS4-44-S4 R4+S(44+S4) SSS4-4!*R4-4 4+S(44+S4)",
    "4*S4!+S4!-S4 4!/4+SSS4-SS4 SSS4-4-44 SSS4-44-SR4 SSS4-44-R4",
    "S(44+S4)+S4 (4!+S4)*44 4*S4!+S4!-SR4 R4+SSS4-44 SR4+SSS4-44",
    "4+SSS4-44 4*4+SSS4-SS4 4*S4!+R4+S4! 4*S4!+S4!+SR4 4*S4!+4+S4!",
    "SSS4-SSS4/44 S4+SSS4-44 4!+SSS4-R4-SS4 SSS4-4!-4-4 4!+S(44+S4)",
    "4*S4!+S4!+S4 SSS4-4-S4/.4 4!*4^SR4-4! 4!+4+SSS4-SS4 SSS4-4*4-S4",
    "SSS4-4!-4/4 4*SSS4/4-4! 4/4+SSS4-4! SSS4-44/R4 4+SSS4-S4/.4",
    "4!+SSS4-44 SSS4-4*4-SR4 SSS4-4*4-R4 4+SR4+SSS4-4! 4+4+SSS4-4!",
    "SSS4-4!/.4/4 4!*4^SR4-S4 SR4+SSS4-4*4 4+SSS4-4*4 SSS4-44/4",
    "4*SSS4/4-S4 4/4+SSS4-S4 4!*4^SR4-4 4!*4^SR4-SR4 4!*4^SR4-R4",
    "SSS4-4-4/4 4!*4*4*4 4/4+SSS4-4 4!*4^SR4+R4 4/4+SSS4-R4",
    "4!*4^SR4+4 R4+SSS4-4/4 4!/4+SSS4-4 4+SSS4-4/4 4*4/4+SSS4",
    "4+4/4+SSS4 4!*4^SR4+S4 4/.4+SSS4-SR4 4!+SSS4-4*4 S4+SSS4-4/4",
    "4!/4+4+SSS4 44/4+SSS4 4*4+SSS4-4 4*4+SSS4-SR4 4*4+SSS4-R4",
    "4!/.4/4+SSS4 4!+SSS4-4-4 4!+SSS4-4-SR4 4*4+R4+SSS4 4*4+SR4+SSS4",
    "4*4+4+SSS4 S4/.4+SSS4-4 44/R4+SSS4 4!+SSS4-4/4 4!*4/4+SSS4",
    "4!+4/4+SSS4 4!*4!+S44 R4+S4/.4+SSS4 (4!+4)^R4*R4 4+S4/.4+SSS4",
    "4!+4!/4+SSS4 4!+4+SR4+SSS4 4!+4+4+SSS4 4!+SR4^R4+SSS4 44+SSS4-S4",
    "SSS4+SSS4/44 4!*SS4+4^4 4*S4+SSS4-SR4 4!+4+S4+SSS4 SS4+SSS4-4*4",
    "44+SSS4-4 44+SSS4-SR4 44+SSS4-R4 4*S4+SR4+SSS4 .4*4*S44",
    "4*S4!+SSS4/4 44+R4+SSS4 44+SR4+SSS4 4+44+SSS4 4!+S4/.4+SSS4",
    "R4*S4!+S44 4!*4^SR4+SS4 4!*R4+4+SSS4 R4+SS4+SSS4-4 44+S4+SSS4",
    "4*SS4/4+SSS4 (4*S4)^R4-4 4+SS4+SSS4-R4 (4*S4)^R4-R4 .4*S4+SS4+SSS4",
    "4*4*S4*S4 4!/4+SS4+SSS4 (4*S4)^R4+R4 4+4+SS4+SSS4 4*4*4+SSS4",
    "4/.4+SS4+SSS4 .4*SSS4+S44 4!/R4+SS4+SSS4 4!+44+SSS4 S(R4+SS4)-44",
    "(4*S4)^R4+S4 4*4+SS4+SSS4 4!*4+SSS4-4! S4!/4+SSS4-R4 4*S(4!+4)-S4",
    "4!+SS4+SSS4-4 4!*SS4+S4!-4 SR4^4+SSS4-4 4!*SS4+S4!-R4 4+S4!/4+SSS4",
    "4.4*S4!+S4! 4*S(4!+4)-SR4 4*S(4!+4)-R4 4!+4+SS4+SSS4 4!*SS4+4+S4!",
    "4+SR4^4+SSS4 4!*4+SSS4-S4 4*S(4!+4)+SR4 44*R4+SSS4 4!+S4+SS4+SSS4",
    "4!*SS4+S4!+S4 S4+SR4^4+SSS4 (4!+44)*4! 4!*4+SSS4-SR4 4!*4+SSS4-R4",
    "4*S4+SS4+SSS4 44^R4-S4! S(R4+SS4)-4*4 .4*4^SSR4-.4 44+SS4+SSS4",
    "R4*S(44-4) SS(4+4)/.4-4! R4+S4*S4+SSS4 4!*R4+SS4+SSS4 4!*SR4^4-S4!",
    "4!+SR4^4+SSS4 4!*4+S4+SSS4 S4!*SS4/S4-SR4 4!+4*S(4!+4) S(4+SS4-R4)-4",
    "44/.4+SSS4 S4!+SS4+SSR4^4 R4+S4!*SS4/S4 S(44+S4+SR4) 4+S4!*SS4/S4",
    "(4*S4)^R4+SS4 S44+SS(4+4) 4+S(4+SS4-R4) .4*S4!+SSS4-R4 4^SR4+SS4+SSS4",
    "4!*4+4!+SSS4 SS(4+4)/.4-4 .4*S4!+R4+SSS4 SS(4+4)/.4-R4 .4*S4!+4+SSS4",
    "SS4/.44+SSS4 (S4^4-4)/SSR4 R4+SS(4+4)/.4 4^4/R4+SSS4 4+SS(4+4)/.4",
    "(4+4)!/4!-S4 4!*S4+S(SS4-R4) 44*SR4+SSS4 4!*4!*SR4-SS4 4!+S4!*SS4/S4",
    "S4!+S4*SS4/.4 (4+4)!/4!-4 (4+4)!/4!-SR4 (4+4)!/4!-R4 4*S(4!+4)+SS4",
    "R4*S44-S4! (44-SR4)^R4 (4+4)!/4!+R4 (4+4)!/4!+SR4 (4+4)!/4!+4",
    "(S4!-S4)/R4+SSS4 S4!/R4+SSS4-4 4^4+S(SS4-R4) 4!*SSR4+4+SSS4 4!+SS(4+4)/.4",
    "(4+4)!/4!+S4 4!*4+SS4+SSS4 R4+S4!/R4+SSS4 4*S4+S(R4+SS4) 4.4*SSS4/4",
    "S4*S4+SS4+SSS4 R4+SSS4+SSS4/S4 44+S(R4+SS4) 4+SSS4+SSS4/S4 R4^S4+S4!/.(4)",
    "4*4*S4+SSS4 SR4*SS4+SSS4-4 R4*SR4^4+SSS4 S(SR4+SS4)-4-4 4!*4!*SR4-4!",
    "4!*SS4+SSS4/4 S(4+SS4)-4^SR4 S(4!*R4+S4)-4 4!*SSR4+4!+SSS4 4+SR4*SS4+SSS4",
    "(4!/4)!+S44 S(4+44+S4) 4/4+S(SR4+SS4) R4+S(4!*R4+S4) 4!+S4!/R4+SSS4",
    "4+S(4!*R4+S4) 4*44+SSS4 4!/4+S(SR4+SS4) 4!*4!*SR4-S4 S44+SR4^SSR4",
    "4!*SR4/.4+SSS4 S(4!*R4+S4)+S4 R4*S(44-SR4) 4!/R4+S(SR4+SS4) 4!*4!*SR4-4",
    "(S44-S4!)/.4 S(4+SS4)-44 4*4+S(SR4+SS4) 4!^SR4/4/R4 SS4^R4-SSR4^4",
    "4!*4!*SR4+R4 4!*4!*SR4+SR4 4!*4!*SR4+4 4!+S(SR4+SS4)-R4 S(4!/.4)-4!*4",
    "(4+4)!/4!+SS4 4*SS4+SSS4-4! (4!*4!+SR4)*SR4 4!*4!*SR4+S4 4!+4+S(SR4+SS4)",
    "S4!/.4+S44 4^4+SSS4-SS4 S(4+SS4)-4!-4 S(4!+4+SS4)/R4 S4!+SSS4-4!*4",
    "4!*S4!/4-SS4 S(4!-4)+SSS4-4 R4+S4!*SSR4-SS4 R4*R4^S4-S4! 4+S4!*SSR4-SS4",
    "SSS4/.44/R4 .4*SS4!/S4-SS4 4!*4!*SR4+4! R4^S4+SR4^SSR4 S(4+SS4)-4*4",
    "44+S(SR4+SS4) S4!*SSR4-44 4*SS4+SSS4-SR4 4*SS4+SSS4-R4 S4!+SSS4-SR4^4",
    "4*44*S4 S4!+SSS4-4!-SS4 S(4+SS4)-4-4 4*SS4+SR4+SSS4 (44-R4)^R4",
    "S4!*SR4/4+SSS4 S4!*SSR4-4!-S4 S(.4*S4+SS4)-SR4 R4+S(4+SS4)-4 S(4+SS4)-4/4",
    "4*S(4+SS4)/4 4/4+S(4+SS4) 4^4+SSS4-4! S4!*SSR4-4!-SR4 R4^S4+S4!/.4",
    "S4!*SSR4-S4/.4 4*444 4!*S4+SSS4-SR4 4+4+S(4+SS4) 4+S(4!/.4)-SS4",
    "4!*4/.4+SSS4 S4!+SSS4-4-SS4 .4*SR4^4*SS4 4!*4!*SR4+SS4 4!*S4+4+SSS4",
    "S(44+S4)+S4! 4^4+SSS4-S4 R4+S4!+SSS4-SS4 (S4!-R4)*4!/4 4+S4!+SSS4-SS4",
    "4!*S4!/4-S4 S(.4*S4!)/4-4! 4^4+SSS4-4 4^4+SSS4-SR4 4^4+SSS4-R4",
    "S4!*SSR4-R4/.4 4!*S4!/4-4 4!*S4!/4-SR4 4!*S4!/4-R4 4^4+SR4+SSS4",
    "4+4^4+SSS4 4/4+S4!*SSR4 4!*S4!/4+R4 4!*S4!/4+SR4 4!*S4!/4+4",
    "R4/.4+S4!*SSR4 4^4+S4+SSS4 4+S4!*SSR4+SR4 4+4+S4!*SSR4 .4*SS4!/S4+SR4",
    "4!*S4!/4+S4 S(.4*S4!)/4-4 S4!+SSS4-4!-4 S(.4*S4!)/4-R4 44+S(4+SS4)",
    "S(4!*4+4!)/4 4*4+S4!*SSR4 R4+S(.4*S4!)/4 R4+S4!+SSS4-4! 4+S(.4*S4!)/4",
    "4!+4^4+SSS4 S(4+SS4)+SS4-4 S(4!/.4)-4-4 S(4!/.4)-4-SR4 4!*S4!/4+4!",
    "SS4^R4-4*S4! S(4!*S4/4)-4 S(4!*S4/4)-SR4 4!*4!/R4+SSS4 S(4!/.4)-4/4",
    "S(4*4+44) 4/4+S(4!/.4) S4!+SSS4-4-4 S4!+SSS4-4-SR4 4+S(4!*S4/4)",
    "4!*S4+SS4+SSS4 4!*4^SR4+S4! 4+S(4!/.4)+SR4 4+4+S(4!/.4) S4!+SSS4-4/4",
    "4*S4!/4+SSS4 4/4+S4!+SSS4 4+S4!+SSS4-R4 S(4!/.4)+S4+SR4 44+S4!*SSR4",
    "S(44-4)/.(4) 4*4+S(4!/.4) 4+S4!+SR4+SSS4 4+4+S4!+SSS4 (4*S4+SR4)^R4",
    "4/.4+S4!+SSS4 4^4+SS4+SSS4 .4*SR4*SSS4+4 S4!*SSR4+SS4-R4 4+S4!+S4+SSS4",
    "4!*S4!/4+SS4 4*4+S4!+SSS4 R4+S4!*SSR4+SS4 4!+4+S(4!/.4) 4+S4!*SSR4+SS4",
    "4*S(4!+4!/4) .4*SS4!/S4+SS4 .4*S(4!*4)-.4 4*S(S4!/S4)+SR4 4*SR4^4+SSS4",
    "S4!/.4/.4-S4 (4!+S4)*SS4-4 S(4!/4+SS4)-4! 4!+4+S4!+SSS4 S4!/.4/.4-SSR4",
    "(44-S4)*SS4 S4!/.4/.4-4 4!*S(4*4-4) S4!/.4/.4-R4 44+S(4!/.4)",
    "4!*R4/.4^4 4!*S(4!/R4)+4 R4+S4!/.4/.4 S4!/.4/.4+SR4 4+S4!/.4/.4",
    "4*S4+S4!+SSS4 44^R4-SS4 SR4/4+SS4!/4! S(4!/.4)+SS4-R4 44+S4!+SSS4",
    "S4!/.4/.4+S4 (4!+SS4)*4!-S4 S(4!/4+SS4)-4 4!*R4+S4!+SSS4 4!*SR4^4-SS4",
    "S4!*SR4+S44 S(4!/.4+4/4) (4!+SS4)*4!-4 R4+S(4!/4+SS4) (4!+S4)*SS4+4!",
    "SS4!/4!+SS4/4 4!*4!+4!*SS4 R4+S4!+SS4+SSS4 (4!+SS4)*4!+R4 4!+S4!/.4/.4",
    "4*S4*SS4-S4! SSS4/.4/R4-4! 4!*4!+S(SS4-4) .4*SR4*SSS4+SS4 (4+S4)*S(4*4)",
    "S(4!/.4)+S4!/4 (4!+SS4)*4!+S4 4*4+S(SS4+SSR4) 4*S(SS4-R4)/SR4 4^4+S(R4+SS4)",
    "R4*SS4+S4!*SSR4 SS(44/4)-S4! 44^R4-4! (SSS4/.4-4!)/R4 4!*SSR4+S(4+SS4)",
    "SSS4/.4/R4-S4 4!^SR4/4-SSS4 S(S4!+SR4)/4!-R4 (.4+SSR4)*S4!-R4 4!+S4!+SS4+SSS4",
    ".4*4*4*S4! SSS4/.4/R4-4 SSS4/.4/R4-SR4 SSS4/.4/R4-R4 4!*4*4+SSS4",
    "R4*S44-SS4 44^R4-S4 R4+SSS4/.4/R4 SR4+SSS4/.4/R4 4+SSS4/.4/R4",
    "44^R4-SSR4 SSR4+SSS4/.4/R4 44^R4-4 44^R4-SR4 44^R4-R4",
    "S4+SSS4/.4/R4 44*44 (4!+SSS4/.4)/R4 44^R4+R4 44^R4+SR4",
    "4+44^R4 4!*SR4^4-SR4 44^R4+SSR4 S(4!/.4+R4)-S4 4*SR4^4*SSR4",
    "R4*S4^SR4-SS4 44^R4+S4 4!*SR4^4+SR4 4!*SR4^4+4 4!+SSS4/.4/R4",
    "4*S4!+S4!/.4 S(4!/.4+R4)-R4 (S4^SR4-4!)*R4 S(4*4*4-R4) 4!*SR4^4+S4",
    "R4+S(4!/.4+R4) R4*S44-4! 4+S(4!/.4+R4) S(44*R4)/R4 S(4!/.4+R4)+SSR4",
    "4!+44^R4 S(4+4+SS4)-SS4 SS(4+4)+SSR4^4 S(4!/.4+R4)+S4 (SS4-.(4))*S(4+4)",
    "S4!+SS(4+4)/.4 S(4!/.4)+S(4*4) 4^4+S(SR4+SS4) 4!*SR4^4+4! SR4^SSR4+SSS4-S4!",
    "R4*S44-S4 S(4!*SR4)*SR4/4 (S44-4)*R4 S(4!+SR4)+SS4+SSS4 R4*S44-SSR4",
    "(4!+SS4)/.4*S4 R4*S44-4 R4*S44-SR4 R4*S44-R4 S(SS4-4)/R.(4)-S4",
    "S44+S44 4*S(SS4-4!)-SR4 R4*S44+R4 R4*S44+SR4 4+R4*S44",
    "(4!+SSS4/R4)/.4 R4*S44+SSR4 4*S(SS4-4!)+SR4 (4+S44)*R4 S(SS4-4)*SR4/R4",
    "R4*S44+S4 44^R4+SS4 (4!+4+SS4)*4! R4*R4^S4-SS4 SR4*SS(4+4)-4",
    "S(4*S4)/.4-SS4 R4*S4^SR4-4 R4*S4^SR4-SR4 R4*S4^SR4-R4 4!*SR4^4+SS4",
    ".4*S4^4/R4 SS4^R4-R4^S4 R4*S4^SR4+R4 R4*S4^SR4+SR4 4!+R4*S44",
    "S(4^SR4)-S4!/4 S(4+4+SS4)-S4 4!*4!+S(SS4-R4) (4+S4^SR4)*R4 4+S(S4!/S4)+SSS4",
    "S4!*S4-S44 S(4!*R4+S4)+S4! S(4+4+SS4)-4 S(4+4+SS4)-SR4 R4^S4+S44",
    "(S4-SS4)^R4-S4 (4+4)!/R4/S4 .4*S(S4*S4)-SR4 R4+S(4+4+SS4) S(4+4+SS4)+SR4",
    ".4*S(4!*4+4) (S4-SS4)^R4-4 .4*S(S4*S4)+R4 (S4-SS4)^R4-R4 R4*R4^S4-4!",
    "S4*SR4^4/.4 4^4+S(4+SS4) (S4-SS4)^R4+R4 (4!+S44)*R4 (S4-SS4)^R4+4",
    "R4*S(4!+4)/.4 S(R4*SS4)/SR4-4 S(4^SR4)-4!*R4 S(R4*SS4)/SR4-R4 (4+S4!*SR4)/.(4)",
    "R4*S44+SS4 S(4^SR4)-44 R4+S(R4*SS4)/SR4 R4*R4^S4-S4 4*S(SS4-4!)+SS4",
    "(4+SR4^4)*4! S(R4*SS4)/SR4+SSR4 R4*R4^S4-SSR4 (4^SSR4-S4)/R4 R4*R4^S4-4",
    "R4*R4^S4-SR4 R4*R4^S4-R4 (4^SSR4-R4)/R4 4*4^4*R4 (4^SSR4+R4)/R4",
    "S(44-4)/.4 R4*R4^S4+SR4 4+R4*R4^S4 (4^SSR4+S4)/R4 4+S(4*S4)/.4",
    "R4*S4^SR4+SS4 S(4^4)/4/4 4*SR(R4^S4)-SS4 R4*R4^S4+S4 R4^S4+S(SS4-S4)",
    "4+S(4^SR4)-4! 4!*4!+SSS4-SS4 S(4^SR4)+SSR4-4! S(SS4-SR4)/R.(4)-4 S(4^4/R4)/4",
    "S(4!-4)/.4+SSS4 S(4^SR4)-4-S4 S(4^SR4)-S4-SR4 (R4^S4+S4)*R4 SS(S4+SR4)/R4-4!",
    "S(4*4*4)-S4 S(4+4+SS4)+SS4 4!+R4*R4^S4 S(4^SR4)-4-SR4 4!+S(4*S4)/.4",
    "S(4^SR4)-R4/.4 S(4*4*4)-4 S(4*4*4)-SR4 S(4*4*4)-R4 S(4^SR4)-4/4",
    "S(4!+44-4) 4/4+S(4^SR4) R4+S(4*4*4) S(4*4*4)+SR4 4+S(4*4*4)",
    "R4/.4+S(4^SR4) 4^4+S(4!/.4) 4+S(4^SR4)+SR4 4+4+S(4^SR4) S(4^SR4)+SR4^R4",
    "R4*SSS4-S44 SS(4!/R4)-S44 4!*4!+SSS4-4! S(S4+SR4^4)/R4 4+S4*SS4+SSS4",
    "R4+SS(S4+SR4)/R4 4^4+S4!+SSS4 S(4!-4)*S4-SR4 S(4!-4)*S4-R4 SS(S4+SR4)/R4+SSR4",
    "4!*S4!/4+S4! S(S4+SS4)-44 R4+S(4!-4)*S4 R4*R4^S4+SS4 4!+S(4*4*4)",
    "S(4*S4)/.4+SS4 4!*4!+SSS4-S4 (4+S4)*SS4!/S4! 4!+4+S(4^SR4) 4*SR(R4^S4)-SR4",
    "S(4!-4)*S4+S4 S(4^SR4)+SS4-4! 4!*44*R4 4!*4!+SSS4-SR4 4!*4!+SSS4-R4",
    "(S4^4-SSS4)/4 (44+R4)^R4 S(S4+SS4)-4!-4 4!*4!+R4+SSS4 4!*4!+SR4+SSS4",
    "44*SS4-S4! S(4/.4+SS4)-4! 4*SR(R4^S4)+S4 R4+S(S4+SS4)-4! 44+S(4^SR4)",
    "S(4*4)/.4^SR4 4!*4!+S4+SSS4 S(4!/.4)+S4!-SR4 4!*R4+S(4^SR4) S(S4+SS4)-4*4",
    "R4*S4!+SSS4-S4 S(4^SR4)+SS4-4 .4*SSS4+SSS4-4! S(4^SR4)+SS4-R4 4+S(4!/.4)+S4!",
    "S(4*4*4)+SS4 R4*S4!+SSS4-4 S(S4+SS4)-4-4 R4*S4!+SSS4-R4 S(4!*4-4)/R4",
    "4!*4!+4!+SSS4 S(4/.4+SS4)-4 R4*S4!+R4+SSS4 R4+S(S4+SS4)-4 4+R4*S4!+SSS4",
    "4*S4*SS4-SS4 4/4+S(S4+SS4) 4+S(S4+SS4)-R4 .4*SR4*SSS4+S4! 4+S(4/.4+SS4)",
    "R4*S4!+S4+SSS4 4!/4+S(S4+SS4) .4*SSS4+SSS4-4 4+4+S(S4+SS4) .4*SSS4+SSS4-R4",
    "4/.4+S(S4+SS4) SS(44/4)-SS4 S4*SSR4^SR4-SR4 S4*SSR4^SR4-R4 4+S(S4+SS4)+S4",
    "4!*S4*SR4^R4 4*4+S(S4+SS4) R4*S(44+R4) SR4^(4+SR4)-4! .4*4*SSS4-S4!",
    "(R4/.4)^4+SSS4 S(4!*R4)+S44 4!+S(S4+SS4)-R4 (S(S4+SR4)-R.(4))*4! 4!+S(4/.4+SS4)",
    "S(4!+SS4)-S44 4!*4!+SS4+SSS4 (R4^S4-S4!)*SR4 4!+4+S(S4+SS4) 4!*S(S4+SR4)-S4",
    "S44/.4-S4! 4*4*S(4*4) SR4^(4+SR4)-S4 (4*S4-.4)*SS4 4!+S(S4+SS4)+S4",
    "4^4/.4+SSS4 4!*S(S4+SR4)-SR4 4!*S(S4+SR4)-R4 SR4^(4+SR4)-4 (S4*SS4-4)*4",
    "4*S4+S(S4+SS4) 4!*S(S4+SR4)+R4 SS(44/4)-4! SSR4^4/R4+SSS4 44+S(S4+SS4)",
    "4*S4!+S44 4+SR4^(4+SR4) (S4*SS4-R4)*4 (S4+SR4)^SR4-4 4*S4*SS4-SSR4",
    "S4!*SR4/.4-SS4 4*S4*SS4-4 4*S4*SS4-SR4 4*S4*SS4-R4 (S4+SR4)^SR4+R4",
    "4*4*SS4/.4 SS(44/4)-S4 4*S4*SS4+R4 4*S4*SS4+SR4 4*S4*SS4+4",
    "SS(44/4)-SSR4 4*S4*SS4+SSR4 SS(44/4)-4 (4!*4-4)*4! (44+SR4)^R4",
    "4*S4*SS4+S4 S(4!+44-R4) (4!+4)*4!+SSS4 R4+SS(44/4) SR4+SS(44/4)",
    "4+SS(44/4) (4+S4*SS4)*4 SS(44/4)+SSR4 4+R.(4)*S(SR4^4) 4+S4!/.(4)+SSS4",
    "(4*SS4+R4)*S4 S4+SS(44/4) .44*S(S4*S4) (S44-R4)/.(4) 4!+4*S4*SS4",
    "S4!+SSS4/.4/R4 S4!*SR4/.4-4! ? .4*SS(4+S4)+R4 .4*SS(4+S4)+SR4",
    "S44+SSS4-S4! SSS4/R.(4)-4!-SS4 (4!*4-SR4)*4! S(4!+4)*SS4/S4 S(4^SR4)+SSS4/S4",
    "4!+SS(44/4) 44^R4+S4! (4+SR4)!*.(4)-SR4 (S4!/.4-4)*SR4 4!*S(S4+SR4)+SS4",
    "(4*SS4+4)*S4 4!*4+S(S4+SS4) SR4^(4+SR4)+SS4 S(4!*SR4)-SSS4/4 (SS4-4)*44",
    "(S4!*SR4-R4)/.4 S4!*SR4/.4-4 S4!*SR4/.4-SR4 S4!*SR4/.4-R4 4!*4!*4-SS4",
    "S44/.44 (.4+S4!*SR4)/.4 R4+S4!*SR4/.4 S4!*SR4/.4+SR4 4+S4!*SR4/.4",
    "4*S4*SS4+SS4 (4!*4-R4)*4! (SS4!-S4)/R4/S4 (4!/4)!+SSS4-R4 (4+S4^SR4)/.(4)",
    "4^4*S4-S4! SS(4+4)+SS4+SSS4 (4+S4!/.4)*SR4 (4!/4)!+SR4+SSS4 (4!*4!-S4)*4",
    "SR4^SSR4+SSS4-4 SS(44/4)+SS4 SR4^SSR4+SSS4-R4 (4!+4)*SR4^4 SR4^(4!/4)+SSS4",
    "(4!/4)!+S4+SSS4 S4!*S4-SR4^SSR4 .4*S(4!/.4)+SSS4 S(4!*4)/R4-SS4 4!+S4!*SR4/.4",
    "SS4^R4-S4!/.4 S(4!/R4+SS4)-R4 S(4!-R4)*SR4^R4 S(4*4*4+SR4) S4+SR4^SSR4+SSS4",
    "4!*4!*4-4! .4*SS(4+S4)+SS4 4+S(4!/R4+SS4) SSS4/R.(4)-4!-SR4 (4!/4)!+4!+SSS4",
    "(S4!-R4)/.4+SSS4 S44+SSR4^4 S4!/.4+SSS4-SR4 (4!*4!-4)*4 (S4!-.4)/.4+SSS4",
    "S4!*S4/4+SSS4 S(4!+44)-SS4 R4*SSR4^4-S4! S4!/.4+SR4+SSS4 4!*4!*4-S4",
    "(R4^S4-4)/.(4) (4!*4!-R4)*4 S(SR4^4)-R4^S4 4!*4!*4-SSR4 R4^S4+S(S4!/SSR4)",
    "4!*4!*4-4 4!*4!*4-SR4 4!*4!*4-R4 SSS4/R.(4)-4-SR4 (4+44)^R4",
    "SS(4*4)/4-4! 4!*4!*4+R4 4!*4!*4+SR4 4!*4!*4+4 SSS4/R.(4)-4/4",
    "4!*SS4+S44 4/4+SSS4/R.(4) (4!*4!+R4)*4 (4+R4^S4)/.(4) 4!*4!*4+S4",
    "(4!/4)!+SS4+SSS4 S(SS4-4)+S44 4+SR4+SSS4/R.(4) S(4!*4)/R4-S4 SS(4*4)/4-S4",
    "(4!*4!+4)*4 S(SR4^4)-S4^SR4 S(4!+44)-4! SS(4*4)/4-SSR4 S(4!*4)/R4-4",
    "SS(4*4)/4-4 S(4!*4)/R4-R4 SS(4*4)/4-R4 4!*4!*4+4! SS(4*4)/.4/S4",
    "R4+S(4!*4)/R4 R4+SS(4*4)/4 (SS4-R4)*44 4+SS(4*4)/4 4!+SR4*SSS4/R4",
    "SS(4*4)/4+SSR4 S(4!+44)-S4 4!+SR4+SSS4/R.(4) S(4!*4)/R4+S4 S4+SS(4*4)/4",
    "4!*R4*SS4-S4! SS4+SSS4/R.(4)-4! S(4!+44)-4 S(4!+44)-SR4 S(4!+44)-R4",
    "4!*S4*S4-SS4 S(4*4*4+4) S(4*S4!)/S4!-SS4 R4+S(4!+44) S(4!+44)+SR4",
    "4+S(4!+44) R4*SSS4-SR4^SSR4 R4*S(4+44) 4!+SS(4*4)/4 44+SSS4/R.(4)",
    "R4*S(4!*R4)+SR4 S(4!+44)+S4 S(4*S4)+SSS4-SR4 S(4*S4)+SSS4-R4 4!*4!*4+SS4",
    "(4!*S4-4)*S4 SS4+SSS4/R.(4)-4 R4*S(4!*R4)+S4 S(4*S4)+SR4+SSS4 4*SS(4+4)-S4!",
    "44*SS4-SS4 S(4*S4)+SSR4+SSS4 R4+SS4+SSS4/R.(4) (S4!-4)*4*R4 4+SS4+SSS4/R.(4)",
    "4!+S(4!+44) (4+SSS4)/R.(4)+SS4 S(4!*SR4)-4^4 (4!/4)!+S(R4+SS4) 4*S(4!+S4)-SSR4",
    "S(S4!/4)/.4/SR4 4!*S44/S4 (4+SR4)^4-4! 4*S(4!+S4)-R4 ?",
    "4*S(44-S4) S(4!+4)*SSR4-SS4 4*S(4!+S4)+R4 4*S(4!+S4)+SR4 (R4*S4!-4)*4",
    "4!*S4+S(S4+SS4) 4*S(4!+S4)+SSR4 .4*S(R4*SS4)-SS4 (R4*S4!-SR4)*4 4!+SS4+SSS4/R.(4)",
    "4!*S4*S4-S4 (4+SR4)^4-S4 (4*S4!-4)*R4 S4!+SS(S4+SR4)/R4 4!*S4*S4-SSR4",
    "(4+SR4)^4-SSR4 44*SS4-4! (4+SR4)^4-4 4!*S4*S4-R4 (4+SR4)^4-R4",
    "4!*4*S4/.4 (4/.4-SR4)^4 4!*S4*S4+R4 4!*S4*S4+SR4 4!*S4*S4+4",
    "(4+SR4)^4+4 4!*S4*S4+SSR4 (4+SR4)^4+SSR4 4*4*SS4!/S4! .4*4*SSS4-SS4",
    "44*SS4-S4 (4+SR4)^4+S4 (R4*S4!+SR4)*4 S(4+S4+SS4)-R4 44*SS4-SSR4",
    "(S44-4!)/.4 44*SS4-4 44*SS4-SR4 44*SS4-R4 4+S(4+S4+SS4)",
    "4*S44-SSS4 S(SS4-R4)+S44 44*SS4+R4 44*SS4+SR4 4+44*SS4",
    "(4+SR4)^4+4! 44*SS4+SSR4 S(4*SS4)/S4-4 R(SR4^S4)*S4-R4 S(4*SS4)/S4-R4",
    "44*SS4+S4 .4*S(4*SS4)/4 (4+S4!)*4*R4 R4+S(4*SS4)/S4 4+R(SR4^S4)*S4",
    "4+S(4*SS4)/S4 4!*S(4!+4)/4 S4!*SR4+SSS4-SR4 .4*S(R4*SS4)-4 4!+S(4+S4+SS4)",
    ".4*4*SSS4-4! S(4*SS4)/S4+S4 44.4*SS4 S(44-R4)+SSS4 4!+44*SS4",
    "S4^4/4-SS4 (S4!-SS4)*S4-4 (S4!-SS4)*S4-SR4 (.4*SSS4-4)*4 SS4^R4-4!*4!",
    "(S44-S4)/.4 S44/.4-4! (.4*SSS4-SR4)*4 (SS4-.4-S4)*SS4 .4*4*SSS4-S4",
    "4!*S4*S4+SS4 (4+SR4)^4+SS4 S(4*S4)*SR4-SR4 .4*4*SSS4-SSR4 ?",
    ".4*4*SSS4-4 .4*4*SSS4-SR4 .4*4*SSS4-R4 S(4*S4)*SR4+SR4 4*4*SSS4/S4",
    "S44/.4-S4 .4*4*SSS4+R4 .4*4*SSS4+SR4 .4*4*SSS4+4 S44/.4-SSR4",
    "(S44-R4)/.4 S44/.4-4 S44/.4-SR4 S44/.4-R4 (S44-.4)/.4",
    "S4*S44/4 S4^4/4-4! R4+S44/.4 S44/.4+SR4 4+S44/.4",
    "(R4+S44)/.4 S44/.4+SSR4 (SSR4^4-SS4)*R4 S(4!/.4+S4)-R4 4!+S(4*S4)*SR4",
    "S4+S44/.4 (4*SSS4+SS4)*.4 R4+S(4!/.4+S4) .4*4*SSS4+4! 4+S(4!/.4+S4)",
    "S4^4/4-S4 S(4!+4)*SSR4+SS4 (4+4)!/S4-SSS4 (.4+SS4)*(SS4-S4) S4^4/4-SSR4",
    "(S4^SR4-R4)/.4 S4^4/4-4 S4^4/4-SR4 S4^4/4-R4 4!+S44/.4",
    "4^SR4/.4^4 (4+S4^4)/4 R4+S4^4/4 S4^4/4+SR4 4+S4^4/4",
    "4^4*S4-SS4 S44+SSS4-4! (SS4!/SSR4-4)/SR4 (R4+SS4)*44 R4^S4+SSS4-SS4",
    "S4+S4^4/4 S4!+SS(44/4) 4*R(SR4^S4)+SSS4 (S(S4*S4)-4!)/R4 4!*S(4+S4)-SSR4",
    "S(S4*S4)/R4-S4 4!*S(4+S4)-4 4!*S(4+S4)-SR4 4!*S(4+S4)-R4 .4*4*SSS4+SS4",
    "(4+4)!/4/4 S(S4*S4)/R4-4 4!*S(4+S4)+R4 4!*S(4+S4)+SR4 4!+S4^4/4",
    "S(4!*4+4)/R4 S44+SSS4-4 S44+SSS4-SR4 S44+SSS4-R4 4+S(S4*S4)/R4",
    "S44/.4+SS4 S(S4*S4)/R4+SSR4 R4+S44+SSS4 S44+SR4+SSS4 4+S44+SSS4",
    "(4!+S44)/.4 4^4*S4-4! R4*SSR4^4-SS4 S4^SR4+SSS4-R4 SS(4+4)/R.(4)+SSS4",
    "S4+S44+SSS4 (SSS4+SSS4/S4)/R.(4) R4+S4^SR4+SSS4 S4^SR4+SR4+SSS4 (4!*4+S4)*4!",
    "(R4^S4-SSR4)/.4 S(4*4+SS4)-S4 S(4!*SR4)-SR4^4 S(S4!/4)-R4-S4! 4!+S(S4*S4)/R4",
    "4^4*S4-S4 S(SR4^4)-SSS4/R4 (SR4+SS4)*44 S(4*4+SS4)-SR4 4!+S44+SSS4",
    "S4^4/4+SS4 4^4*S4-4 4^4*S4-SR4 4^4*S4-R4 (R4^S4-.4)/.4",
    "4*4^4/.4 (.4+R4^S4)/.4 4^4*S4+R4 4^4*S4+SR4 4+4^4*S4",
    "(R4+R4^S4)/.4 4^4*S4+SSR4 R4^S4+SR4+SSS4 4+R4^S4+SSS4 S(4!*SR4)-4-SS4",
    "4^4*S4+S4 S(SR4^4)-S4!/.4 (SSR4^4-S4)*R4 S(4!*4-4!)-SS4 (SR4-.4)*S44",
    "(S4!+S4^4)/4 R4+SS(4!+R4)/4! (4-SS4)^R4-4! 4+SS(4!+R4)/4! 4+S(SS4-S4)+SSS4",
    "(4^4+R4)*S4 S(SS4-S4)+SSR4+SSS4 R4*SSR4^4-S4 S(44-SR4)*SR4 4!+4^4*S4",
    "S44+SS4+SSS4 R4*SSR4^4-SSR4 ? R4*SSR4^4-4 R4*SSR4^4-SR4",
    "R4*SSR4^4-R4 (4-SS4)^R4-S4 4*SSR4^4/R4 S(4!+R4)*SR4+SSS4 R4*SSR4^4+R4",
    "R4*SSR4^4+SR4 4!*44+SSS4 (4-SS4)^R4-4 R4*SSR4^4+SSR4 (4-SS4)^R4-R4",
    "(4+4^4)*S4 (4!-S4!/4)^R4 R4*SSR4^4+S4 (4-SS4)^R4+R4 4!*4!*4+S4!",
    "(4-SS4)^R4+4 S(4!*SSR4)/4-4 (4-SS4)^R4+SSR4 4+S(4!*SR4)-4! 4*SS(4+4)-SS4",
    "S(4!*4!/4)/4 (4-SS4)^R4+S4 S(4!*SR4)-4*4 S(4!*SSR4)/4+SR4 4+S(4!*SSR4)/4",
    "4^4*S4+SS4 4!*R4*SS4-4! ? 4.4*S(4!+S4) R4^S4+SS4+SSS4",
    "(4!+R4^S4)/.4 S(44+R4)+SSS4 .4*S(4+R4*SS4) S(4!*SR4)-R4/.4 S(4!*4-4!)-4",
    "(4-SS4)^R4+4! S(4!*4-4!)-R4 S(4!*SR4)-4/4 S(4!+4+44) 4/4+S(4!*SR4)",
    "4!*R4*SS4-S4 S(4!*4-4!)+SR4 4+S(4!*4-4!) R4/.4+S(4!*SR4) 4!*R4*SS4-SSR4",
    "4+S(4!*SR4)+SR4 4!*R4*SS4-4 4!*R4*SS4-SR4 4!*R4*SS4-R4 ((S4)!/S4!-SSS4)/4",
    "4!*44/.4 S(4!*SR4)+S4+SR4 4!*R4*SS4+R4 4!*R4*SS4+SR4 4!*R4*SS4+4",
    "S4!*S4-S4!-SS4 S(4!+44)+S4! R4*SSR4^4+SS4 (4!*SS4+4)*R4 R4*S(SS4-4)-SR4",
    "4!*R4*SS4+S4 S(4+SS4)/R.(4)-4 4!+S(4!*4-4!) S(4!*SR4)+S4/.4 4*SS(4+4)-S4",
    "R4*S(SS4-4)+SR4 4+R4*S(SS4-4) R4+S(4+SS4)/R.(4) 4*SS(4+4)-SSR4 S(4!*SR4)+SS4-4!",
    "(4^4+S4)*S4 4*SS(4+4)-SR4 4*SS(4+4)-R4 RS(SS4-SSR4)+S(4!*SR4) 444*SSR4",
    "4^SSR4-S(SS4-R4) 4*SS(4+4)+R4 4*SS(4+4)+SR4 4*SS(4+4)+4 ?",
    "S44*SR4-S4! (SS4-SSR4)*SS4-4! 44+S(4!*SR4) (S4!-SR4)*SR4^R4 4*SS(4+4)+S4",
    "S4!*S4-S(S4/.4) S4!*S4-4!-S4! S(S4!/4-R4)-4! S(4!*R4+SS4)/R4 S(4!*SR4)+SS4-4",
    "(4+SS(4+4))*4 S(4!*SR4)+SS4-R4 (S4!-R4)*SR4^R4 S(4!*4-4!)+SS4 (SS4+SSR4)*44",
    "4!*S4!-SS4!/S4 (4!+S4)*(4!+SS4) 4+S(4!*SR4)+SS4 (4!+4)*4!*4 (4+S4)^SR4-SS4",
    "S4!*S4-S4!-S4 S(S4!/4-R4)-S4 4!*4!*R4+SSS4 S(4!*SR4)+S4+SS4 S4!*S4-S4!-SSR4",
    "4!*R4*SS4+SS4 S4!*S4-4-S4! S(S4!/4-R4)-4 S4!*S4-R4-S4! S(S4!/4-R4)-R4",
    "4*S4!/.(44) S(SR4^4-4-4) R4+S4!*S4-S4! S4!*S4+SR4-S4! 4+S4!*S4-S4!",
    "4+S(S4!/4-R4) S4!*S4+SSR4-S4! R4*S(SS4-4)+SS4 (SR4-SS4)^R4+4 S(44-R4)*SR4",
    "S4!*S4+S4-S4! S(S4!/4-R4)+S4 (4+S4!*SR4)*SR4 S(4!*R4)+SSS4-SR4 (SR4-SS4)^R4+S4",
    "SS4^R4-S4!-S4 S(4+44)+SSS4 (.4+SS4-SSR4)*SS4 (R4+S4!)*SR4^R4 4*SS(4+4)+SS4",
    "44*SS4+S4! SS4^R4-4-S4! SS4^R4-S4!-SR4 SS4^R4-R4-S4! 4!+S4!*S4-S4!",
    "4!+S(S4!/4-R4) S4!*SS4/SSR4-4! R4+SS4^R4-S4! SR4+SS4^R4-S4! 4+SS4^R4-S4!",
    "4*S4!+SSS4-S4 SS4^R4+SSR4-S4! (S4!-R4)*4+SSS4 S(4!*SR4)+S(4+S4) (4+S4)^SR4-S4",
    "S4+SS4^R4-S4! 4*S4!+SSS4-4 4*S4!+SSS4-SR4 4*S4!+SSS4-R4 .4*S(SR4*SS4)/R4",
    "(4+S4)^SR4-4 (4+S4)^SR4-SR4 4*S4!+R4+SSS4 4*S4!+SR4+SSS4 S4!*S4-4^4",
    "S(SR4^4)-4!*4! (4+S4)^SR4+R4 (4+S4)^SR4+SR4 (4+S4)^SR4+4 4!+SS4^R4-S4!",
    "4*S4!*SS4/4! S(4^SR4+S4)-4! S(4^4/R4)/SR4 S4!*SS4/SSR4+SR4 (4!+S4)*SR4^4",
    "S4!*S4+SS4-S4! (S4!-4!)*S4-4 (S4!-4!)*S4-SR4 (S4!-4!)*S4-R4 4+S(S4*SS4)/SS4",
    "(S44-S4!)*4 .4*SSS4+S(S4+SS4) (S4!-4!)*S4+R4 (S4!-4!)*S4+SR4 .4*4*SSS4+S4!",
    "S(4^SR4+S4)-S4 (S4!-4!)*S4+SSR4 R4+S(SS4-SSR4)+SSS4 (4+S4)^SR4+4! SS4^R4-4^4",
    "R4*SSS4-S4!-S4 S(4^SR4+S4)-4 R4^S4*SR4-S4! S(4^SR4+S4)-R4 4!+S4!*SS4/SSR4",
    "S4!+S44/.4 4^SSR4-4!*SS4 R4+S(4^SR4+S4) R4*SSS4-R4-S4! 4+S(4^SR4+S4)",
    "S4!*S4-4*SS4 SS(4*4-4)-S4! R4*SSS4+R4-S4! (SS4-4.4)*SS4 4+R4*SSS4-S4!",
    "SS4^R4-4!*S4 S(S4!/4)-4^SR4 S(S4!/S4)*SSR4-SR4 (4+SSS4)*R4-S4! S(S4!/4)-SS4-SSR4",
    "S4!*SSR4+S44 S(S4!/4)-4-SS4 S(S4!/4)-SR4-SS4 S(S4!/4)-R4-SS4 R4^S4+S(4+SS4)",
    "4*S4!+SS4+SSS4 (S4)!/SSR4^4-4 R4+S(S4!/4)-SS4 (S4)!/SSR4^4-R4 (4+S4)^SR4+SS4",
    "S4!+S4^4/4 (SS4-4)*SS4-4 S(S4!/4)-4!*R4 (SS4-4)*SS4-R4 4!+R4*SSS4-S4!",
    "SS4^R4-4*SS4 S(S4!/4)-44 (R4-SS4)^R4-R4 4*S(4!+R4)*R4 (4-R4-SS4)^R4",
    "S(S4!/4)-4*S4 (R4-SS4)^R4+R4 4*S(4*S4-SR4) (R4-SS4)^R4+4 S(S4!/4)-S(4+4)",
    "(SS4-4)*SS4+S4 44*4^SR4 R4+S(S4!/SSR4)+SSS4 (4^SSR4+SSS4)/R4 (R4-SS4)^R4+S4",
    "S(4!/.4)+S44 4^SSR4-S(S4!/SSR4) (R4+SS4!)/4/4 S(S4!/4)-4!-SR4 R4*SSS4-4^4",
    ".4*4!*S4!-SS4 SSS4/.4-R4^S4 (.4+SS4-4)*SS4 R4+S(S4!/4)-4! (SS4-4)*SS4+4!",
    "S4!+S44+SSS4 S(4!*4-SR4)-SSS4 SSR4^4+SSS4-4 (R4-SS4)^R4+4! S(S4!/4)-4*4",
    "S4!*S4-SR4*SS4 (4!/4)^4+SSS4 S(4!*S4)/S4-SS4 R4+SSR4^4+SSS4 SR4+SSR4^4+SSS4",
    "(S4!-4*4)*S4 S(S4!/4)-SR4^R4 S(S4!/4)-4-4 S(S4!/4)-4-SR4 4+S(S4!/4)-S4",
    "S(S4!/4)-R4/.4 S(4!+SS4-4)-4 S(4!+SS4-4)-SR4 R4+S(S4!/4)-4 S(S4!/4)-4/4",
    "4*S(S4!/4)/4 4/4+S(S4!/4) 4+S(S4!/4)-R4 4*S4!+S(R4+SS4) 4+S(4!+SS4-4)",
    "R4/.4+S(S4!/4) .4*4!*S4!-4! 4+S(S4!/4)+SR4 4+4+S(S4!/4) S(S4!/4)+SR4^R4",
    "4^4*S4+S4! 4*SR4^SSR4-SS4 4!*SS4+R4+SSS4 4!*SS4+SR4+SSS4 4!*SS4+4+SSS4",
    "R4*S(SS4-R4)+SR4 4*4+S(S4!/4) ? (S4-.44)*S4! S(4!*4+SS4)/4",
    ".4*4!*S4!-S4 SS4^R4-SSS4/S4 4!+S(S4!/4)-R4 S(4!*SR4)+S4!-SS4 .4*4!*S4!-SSR4",
    "SS4^R4-S4!/R4 .4*4!*S4!-4 .4*4!*S4!-SR4 .4*4!*S4!-R4 ?",
    "4!*4!*R4/.4 SS4^R4-4!*SSR4 .4*4!*S4!+R4 .4*4!*S4!+SR4 .4*4!*S4!+4",
    "(S4^4+SSS4)/4 .4*4!*S4!+SSR4 S(4!*R4)+S(SR4+SS4) S(4!*S4)/S4-4 SS4^R4-S(4*4)",
    ".4*4!*S4!+S4 SS4+SSR4^4+SSS4 4*SR4^SSR4-4! (SS4-.4-R4)*SS4 44+S(S4!/4)",
    "S4!*S4-S(4+S4) 4^SSR4-4*S4! (S4!-S4)*S4-SR4 (S44-4!)*SR4 S(S4!/4)+SS4-SSR4",
    "S4!*S4-S4*S4 (4-SS4)^R4+S4! (S4!-S4)*S4+R4 (S4!-S4)*S4+SR4 S4!*S4-4!*4",
    "SS4^R4-.4*S4! 4*SR4^SSR4-S4 S(R4+S4!/R4)/4 .4*S(.4*S4!)+4 4+S(S4!/4)+SS4",
    "S(4!*4)/.4/4 (SS4-R4)*SS4-4 4*SR4^SSR4-4 4*SR4^SSR4-SR4 4*SR4^SSR4-R4",
    "S44*SR4-SS4 (44+S4)^R4 (SS4-R4)*SS4+R4 4*SR4^SSR4+R4 S4!*S4-SR4^4",
    "4*SR4^SSR4+4 S4!*S4-4!-SS4 S(4!*SR4+4)-4 S(4!*SR4+4)-SR4 (S4!-S4)*S4+4!",
    "S4!*S4-S4!/4 S(.4*S4!-44) SS(4!/R4)-SSS4/S4 S4!*S4-4!*SR4 SS4^R4-4!*4",
    "4+S(4!*SR4+4) S(S4!/4)+SR4^4 (4+SR4^SSR4)*4 ? S(4!*R4)/.4-SSR4",
    ".4*4!*S4!+SS4 S4!*S4-4^SR4 (SS4-.4*4)*SS4 S(4!*R4)/.4-R4 S4!*S4-SS4-SSR4",
    "S(4+44)/.4 S4!*S4-4-SS4 S4!*S4-SR4-SS4 S4!*S4-R4-SS4 SS4^R4-SR4^4",
    "4*S4!/.4-SS4 S44*SR4-4! R4+S4!*S4-SS4 S4!*S4+SR4-SS4 4+S4!*S4-SS4",
    "SS4^R4-S4!/4 S4!*S4+SSR4-SS4 S4!*S4-4!*R4 SS4^R4-4!*SR4 (S4!-4)*S4-SSR4",
    "S4!*S4+S4-SS4 S4!*S4-44 (S4!-4)*S4-SR4 (S44-4)*SR4 (SS4-.4*SR4)*SS4",
    "S44*SR4-S4 SS4^R4-4^SR4 (S4!-4)*S4+R4 (S4!-4)*S4+SR4 S44*SR4-SSR4",
    "SS4^R4-4!/.4 S44*SR4-4 S44*SR4-SR4 S44*SR4-R4 4!+S4!*S4-SS4",
    "S44*SSR4/R4 4*SR4^SSR4+SS4 R4+S44*SR4 S44*SR4+SR4 4+S44*SR4",
    "S4!*S4-S4/.4 4*S4!/.4-4! SS4^R4-4!*R4 R4+S4!*S4-4! S4!*S4+SR4-4!",
    "S4+S44*SR4 SS4^R4-44 (4+S44)*SR4 (S4!-R4)*S4+SR4 S4!*S4-4*4",
    "SS4^R4-4*S4 S4!*S4-4-S4 S4!*S4-S4-SR4 S4!*S4-4!/R4 S(4!*S4+4)/S4",
    "4*S4!/.4-S4 SS4^R4-4!-S4 S4!*S4-4-4 S4!*S4-4-SR4 4!+S44*SR4",
    "S4!*S4-R4/.4 4*S4!/.4-4 SS4^R4-4!-4 4*S4!/.4-R4 S4!*S4-4/4",
    "4!*SS4/.44"]

end Answers
end FourFours
