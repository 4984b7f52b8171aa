/-!
# Edit distance

The least number of insertions, deletions and substitutions of single characters that turn one text
into another, by the usual table kept one row at a time, and the distance as a share of the longer
text.
-/

namespace Collate.Similarity

variable {α : Type} [DecidableEq α]

/-- The rest of a row of the table. `left` is the cell just filled; `diagonal` and the list after it
are the row above, from the column before the next one on. -/
def fillRow (a : α) : List α → (left : Nat) → (diagonal : Nat) → (above : List Nat) → List Nat
  | b :: bs, left, diagonal, up :: above =>
    let here := min (up + 1) (min (left + 1) (diagonal + if a = b then 0 else 1))
    here :: fillRow a bs here up above
  | _, _, _, _ => []

/-- The row for one more character `a` of the first text, from the row above it. -/
def nextRow (bs : List α) (row : List Nat) (a : α) : List Nat :=
  match row with
  | [] => []
  | first :: above => (first + 1) :: fillRow a bs (first + 1) first above

/-- The last row of the table of `as` against `bs`. -/
def lastRow (as bs : List α) : List Nat := as.foldl (nextRow bs) (List.range (bs.length + 1))

/-- The least number of single-character edits from `as` to `bs`. -/
def editDistance (as bs : List α) : Nat := (lastRow as bs).getLastD 0

/-- The edit distance as a share of the longer text. Equal texts and an empty one are settled at
once; the table is filled along the longer text, so that its rows are short. -/
def editShare (as bs : List α) : Rat :=
  if as = bs then 0
  else if as = [] ∨ bs = [] then 1
  else if as.length < bs.length then (editDistance bs as : Rat) / (bs.length : Rat)
  else (editDistance as bs : Rat) / (as.length : Rat)

end Collate.Similarity
