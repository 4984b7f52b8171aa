import Collate.Terminal.Styled

/-!
# Wrapping

Cuts a styled text into pieces that fit a width. A piece ends before the first character that would
make it too wide, but never before it holds a character that takes cells, so a character wider than
the width gets a piece of its own. A text that fits as a whole is not cut.
-/

namespace Collate.Terminal

/-- The lengths of the pieces of the rest of a text. The piece being filled has `taken` characters
that take `filled` cells. -/
def pieceLengths (width : Nat) (filled taken : Nat) : Text → List Nat
  | [] => [taken]
  | c :: t =>
    if filled ≠ 0 ∧ width < filled + charCells c then
      taken :: pieceLengths width (charCells c) 1 t
    else pieceLengths width (filled + charCells c) (taken + 1) t

namespace Styled

/-- Cuts a styled text after `n` characters. -/
def splitAt (n : Nat) : Styled → Styled × Styled
  | [] => ([], [])
  | c :: rest =>
    if c.text.length ≤ n then
      let (before, after) := splitAt (n - c.text.length) rest
      (c :: before, after)
    else if n = 0 then ([], c :: rest)
    else ([⟨c.text.take n, c.style⟩], ⟨c.text.drop n, c.style⟩ :: rest)

/-- Cuts a styled text into pieces of the given lengths. -/
def divide : List Nat → Styled → List Styled
  | [], _ => []
  | n :: ns, s =>
    let (piece, rest) := splitAt n s
    piece :: divide ns rest

/-- The pieces of a styled text that fit `width` cells. -/
def wrap (width : Nat) (s : Styled) : List Styled :=
  if s.cells ≤ width then [s] else divide (pieceLengths width 0 0 s.plain) s

end Styled

end Collate.Terminal
