import Collate.Diff.Basic

/-!
# Projection

Puts the coloured form of each line into the entry that refers to it. The entries keep their tags,
their references and their order.
-/

namespace Collate

/-- An entry with the coloured forms of the lines that it refers to. -/
structure ProjectedEntry where
  /-- The entry. -/
  entry : Entry
  /-- The coloured left line. -/
  left : Option Text
  /-- The coloured right line. -/
  right : Option Text

/-- The entries of a diff with the coloured forms of their lines. -/
def Diff.project (d : Diff) : List ProjectedEntry :=
  d.entries.map fun e =>
    ⟨e, e.left?.bind d.left.highlightedLine?, e.right?.bind d.right.highlightedLine?⟩

end Collate
