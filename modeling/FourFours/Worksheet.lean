import FourFours.Radical.Value

/-!
# Worksheets

A worksheet numbers the results of successive calculations, so that later ones can use
them. The square roots that a calculation introduces are ascribed to its entry: values
computed from one entry share its roots, and equal roots introduced by two entries are
recognised only by their radicands.
-/

namespace FourFours

open Radical (Value)

/-- The results of successive calculations, numbered from 0. -/
structure Worksheet where
  entries : Array Value

namespace Worksheet

/-- A worksheet without entries. -/
def blank : Worksheet :=
  ⟨#[]⟩

/-- The value of an entry; a missing entry counts as zero. -/
def value (sheet : Worksheet) (entry : Nat) : Value :=
  sheet.entries.getD entry .zero

/-- Write the result of a calculation into the next entry, and return it as it stands
there. A calculation without a result leaves zero. -/
def record (sheet : Worksheet) (result : Except Fault Value) :
    Worksheet × Except Fault Value :=
  match result with
  | .ok v =>
      let v := v.ascribe sheet.entries.size
      (⟨sheet.entries.push v⟩, .ok v)
  | .error fault => (⟨sheet.entries.push .zero⟩, .error fault)

end Worksheet
end FourFours
