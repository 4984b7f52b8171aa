/-!
# Matching blocks

How much two texts have in common by their longest common blocks: the longest stretch that stands in
both is taken first, then the same is done with what lies before it and with what lies after it. Of
stretches of equal length the one that starts earliest in the first text is taken, and of those the
one that starts earliest in the second.
-/

namespace Collate.Similarity

variable {α : Type} [DecidableEq α]

/-- A stretch of `size` items that stands in both lists, from `left` and from `right` on. -/
structure Block where
  /-- Where the stretch starts in the first list. -/
  left : Nat
  /-- Where the stretch starts in the second list. -/
  right : Nat
  /-- The length of the stretch. -/
  size : Nat
  deriving DecidableEq, Repr

/-- For each place in the second list, how far it agrees with the first list from an item `a` on.
`below` holds the same numbers for the first list after `a`. -/
def runRow (a : α) : List α → (below : List Nat) → List Nat
  | [], _ => []
  | b :: bs, below => (if a = b then below.tail.headD 0 + 1 else 0) :: runRow a bs below.tail

/-- The first place of the greatest number in a row that starts at `place`, and that number;
place and number zero for a row without positive numbers. -/
def longestInRow (place : Nat) : List Nat → Nat × Nat
  | [] => (0, 0)
  | n :: ns =>
    let later := longestInRow (place + 1) ns
    if 0 < n ∧ later.2 ≤ n then (place, n) else later

/-- The row of agreement of a list's first item and the longest block of the list, which starts at
place `place` of the whole first list. -/
def scanBlocks (bs : List α) (place : Nat) : List α → List Nat × Block
  | [] => ([], ⟨0, 0, 0⟩)
  | a :: as =>
    let (below, later) := scanBlocks bs (place + 1) as
    let row := runRow a bs below
    let (right, size) := longestInRow 0 row
    (row, if 0 < size ∧ later.size ≤ size then ⟨place, right, size⟩ else later)

/-- The longest block of two lists, the earliest of several. -/
def longestBlock (as bs : List α) : Block := (scanBlocks bs 0 as).2

/-- The total size of the matching blocks, with a bound on the number of blocks to take. -/
def matchedWithin : Nat → List α → List α → Nat
  | 0, _, _ => 0
  | n + 1, as, bs =>
    let block := longestBlock as bs
    if block.size = 0 then 0
    else
      matchedWithin n (as.take block.left) (bs.take block.right) + block.size +
        matchedWithin n (as.drop (block.left + block.size)) (bs.drop (block.right + block.size))

/-- The total size of the matching blocks of two lists. A block uses up an item of the first list,
so there are no more of them than it has items. -/
def matched (as bs : List α) : Nat := matchedWithin as.length as bs

/-- Twice the matched size as a share of both lengths; 1 for two empty lists. -/
def blockRatio (as bs : List α) : Rat :=
  if as.length + bs.length = 0 then 1
  else (2 * matched as bs : Nat) / (as.length + bs.length : Nat)

end Collate.Similarity
