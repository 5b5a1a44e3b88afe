import FourFours.Brackets
import FourFours.Main
import FourFours.Puzzle.Staircase
import FourFours.Worksheet
import FourFours.Integer.DigitsLemmas
import FourFours.Proofs.Integer.Root
import FourFours.Proofs.Integer.SquareFactor
import FourFours.Proofs.Radical.Real
import FourFours.Proofs.Radical.Field
import FourFours.Proofs.Radical.SquareTest
import FourFours.Proofs.Radical.Enclosure
import FourFours.Proofs.Outcome
import FourFours.Proofs.Radical.CommonTower
import FourFours.Proofs.Radical.Arithmetic
import FourFours.Proofs.Radical.Monomials
import FourFours.Proofs.Radical.Reachable
import FourFours.Proofs.Radical.Truncation
import FourFours.Proofs.Grammar.Decision
import FourFours.Proofs.Meaning
import FourFours.Proofs.Grammar.Decimals
import FourFours.Proofs.Puzzle.Entry
import FourFours.Proofs.Puzzle.Verdict
import FourFours.Proofs.Reading
import FourFours.Proofs.Radical.Convergence
import FourFours.Proofs.Radical.TinyRadicand
import FourFours.Proofs.Radical.Failure
import FourFours.Proofs.Refusal
import FourFours.Proofs.Shape
import FourFours.Proofs.Reading.Numeral
import FourFours.Proofs.Reading.Decimal
import FourFours.Proofs.Radical.Degree
import FourFours.Proofs.Radical.Union
import FourFours.Proofs.Radical.Equality
import FourFours.Proofs.Grammar.Spelling
import FourFours.Proofs.Reading.Reread
import FourFours.Proofs.Radical.Confined
import FourFours.Proofs.Grammar.Written
import FourFours.Proofs.ExactForm
import FourFours.Proofs.Markup.Grammar
import FourFours.Proofs.Markup.Unambiguous
import FourFours.Proofs.Markup.Meaning
import FourFours.Proofs.Grammar.Depth
import FourFours.Proofs.Puzzle.History
import FourFours.Proofs.Puzzle.Memory
import FourFours.Proofs.Puzzle.Coherence
import FourFours.Proofs.Puzzle.Move
import FourFours.Proofs.Puzzle.Progress
import FourFours.Proofs.Puzzle.Retyping
import FourFours.Proofs.Reading.Agreement
import FourFours.Proofs.Brackets.Pairs
import FourFours.Proofs.Brackets.Simplification
import FourFours.Proofs.Radical.SharedRoots
import FourFours.Proofs.CommandLine.Arguments
import FourFours.Proofs.CommandLine.Number
import FourFours.Proofs.CommandLine.Encoding
import FourFours.Proofs.CommandLine.Batch
import FourFours.Proofs.CommandLine.Lines
import FourFours.Proofs.CommandLine.Dialogue
import FourFours.Proofs.Radical.Origins
import FourFours.Proofs.Radical.ProductLaws
import FourFours.Proofs.Chains
import FourFours.Proofs.Limits
import FourFours.Proofs.Reading.Literal
import FourFours.Proofs.Bracketed
import FourFours.Proofs.Grammar.Tokens
import FourFours.Proofs.Grammar.OpenBrackets
import FourFours.Proofs.Grammar.Brackets
import FourFours.Proofs.Markup.Nesting
import FourFours.Proofs.Reading.Scaled
import FourFours.Proofs.Integer.RootSearch
import FourFours.Proofs.Integer.TrialDivision
