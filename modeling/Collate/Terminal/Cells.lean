import Collate.Text.Basic
import Collate.Terminal.CellTable

/-!
# Cell widths

How many cells of a terminal row a character and a text take. A text takes the sum over its
characters, with two exceptions that depend on neighbours: a joiner takes nothing and swallows the
character after it, and the emoji variation selector widens the narrow character that it follows.
-/

namespace Collate.Terminal

/-- The zero-width joiner. -/
def joiner : Char := '\u200d'

/-- The variation selector that asks for the emoji form of a character. -/
def emojiSelector : Char := '\ufe0f'

/-- Whether a character is a control code that takes no cell. -/
def isControlCode (n : Nat) : Bool := (1 ≤ n && n ≤ 0x1F) || (0x7F ≤ n && n ≤ 0x9F)

/-- The cells of a character by itself. -/
def charCells (c : Char) : Nat :=
  let n := c.toNat
  if isControlCode n then 0
  else if zeroWidthRanges.holds n then 0
  else if doubleWidthRanges.holds n then 2
  else 1

/-- Whether the emoji selector widens a character. -/
def isWidened (c : Char) : Bool := widenedRanges.holds c.toNat

/-- The cells of the rest of a text. `skip` tells that a joiner stands before it; `last` is the last
character that took cells, unless a selector has used it up. -/
def cellsFrom (skip : Bool) (last : Option Char) : Text → Nat
  | [] => 0
  | c :: t =>
    if skip then cellsFrom false last t
    else if c = joiner then cellsFrom true last t
    else if c = emojiSelector then
      (if last.any isWidened then 1 else 0) + cellsFrom false none t
    else charCells c + cellsFrom false (if charCells c = 0 then last else some c) t

/-- The cells of a text. -/
def cells (t : Text) : Nat := cellsFrom false none t

/-- The cells of a text without joiners and selectors add up. -/
theorem cellsFrom_eq_foldr {last : Option Char} {t : Text}
    (h : ∀ c ∈ t, c ≠ joiner ∧ c ≠ emojiSelector) :
    cellsFrom false last t = t.foldr (charCells · + ·) 0 := by
  induction t generalizing last with
  | nil => simp [cellsFrom]
  | cons c t ih =>
    have hc := h c (by simp)
    simp [cellsFrom, hc.1, hc.2, ih fun d hd => h d (by simp [hd])]

end Collate.Terminal
