import Collate.Terminal.Styled

/-!
# Painted rows

A row as it is written to a sink: every chunk between the codes of its style and a reset, when the
sink shows styles, and its text alone otherwise.
-/

namespace Collate.Terminal

/-- The text of a chunk between its codes and a reset. A style without codes leaves the text as it
is. -/
def Chunk.painted (depth : Colour.Depth) (c : Chunk) : Text :=
  match c.style.codes depth with
  | [] => c.text
  | codes =>
    escapeChar :: '[' :: Text.joinWith [';'] (codes.map Text.ofNat) ++
      'm' :: c.text ++ [escapeChar, '[', '0', 'm']

/-- A row as written, with its newline; without a number of colours nothing is styled. -/
def paintRow (depth : Option Colour.Depth) (row : Styled) : Text :=
  (match depth with
    | some depth => row.flatMap (Chunk.painted depth)
    | none => row.plain) ++ ['\n']

end Collate.Terminal
