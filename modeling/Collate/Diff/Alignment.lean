import Collate.Diff.Basic

/-!
# Alignment

The lines that two listings have in common, as many and in order, by a longest common subsequence;
and the entries of the diff that keeps exactly these. Between two kept lines the removed ones come
first and the added ones after them.

What both lists start with and end with is matched at once, and only the middle pays for a table.
`suffixTable` holds a row for each suffix of the left list, with the length of the longest common
subsequence against each suffix of the right one; the walk goes down the left side when that loses
nothing.
-/

namespace Collate.Alignment

variable {α : Type} [DecidableEq α]

/-- How many items two lists start with in common. -/
def commonLead : List α → List α → Nat
  | a :: as, b :: bs => if a = b then commonLead as bs + 1 else 0
  | _, _ => 0

/-- The row of a list with first item `a`, from the row `below` of the list after it: for each
suffix of the second list, the length of the longest common subsequence. -/
def suffixRow (a : α) : List α → (below : List Nat) → List Nat
  | b :: bs, down :: below =>
    let row := suffixRow a bs below
    (if a = b then below.headD 0 + 1 else max down (row.headD 0)) :: row
  | _, _ => [0]

/-- The rows of all suffixes of a list, its own first and that of the empty one last. -/
def suffixTable (bs : List α) : List α → List (List Nat)
  | [] => [List.replicate (bs.length + 1) 0]
  | a :: as =>
    let table := suffixTable bs as
    suffixRow a bs (table.headD []) :: table

/-- Walks through the table from place `(i, j)` on and collects the matches. The lists are the
suffixes at that place and the rows those of the first one. -/
def walk (i j : Nat) : (as bs : List α) → (rows : List (List Nat)) → List (Nat × Nat)
  | a :: as, b :: bs, rows =>
    if a = b then (i, j) :: walk (i + 1) (j + 1) as bs rows.tail
    else if (rows.headD []).getD (j + 1) 0 ≤ (rows.tail.headD []).getD j 0 then
      walk (i + 1) j as (b :: bs) rows.tail
    else walk i (j + 1) (a :: as) bs rows
  | _, _, _ => []
  termination_by as bs => as.length + bs.length

/-- Matches of a common stretch of `n` items from place `(i, j)` on. -/
def stretch (i j n : Nat) : List (Nat × Nat) := (List.range n).map fun k => (i + k, j + k)

/-- Moves matches by an offset that both sides share. -/
def shift (offset : Nat) (matched : List (Nat × Nat)) : List (Nat × Nat) :=
  matched.map fun (i, j) => (offset + i, offset + j)

/-- A longest common subsequence of two lists, as the pairs of indices that it matches. -/
def commonSubsequence (as bs : List α) : List (Nat × Nat) :=
  let lead := commonLead as bs
  let as' := as.drop lead
  let bs' := bs.drop lead
  let trail := commonLead as'.reverse bs'.reverse
  let as'' := as'.take (as'.length - trail)
  let bs'' := bs'.take (bs'.length - trail)
  stretch 0 0 lead ++ shift lead (walk 0 0 as'' bs'' (suffixTable bs'' as'')) ++
    stretch (as.length - trail) (bs.length - trail) trail

/-- Removals of the lines from `i` up to but not including `n`. -/
def removals (i n : Nat) : List Entry := (List.range' i (n - i)).map fun (k : Nat) => .removed k

/-- Additions of the lines from `j` up to but not including `m`. -/
def additions (j m : Nat) : List Entry := (List.range' j (m - j)).map fun (k : Nat) => .added k

/-- The entries from place `(i, j)` up to the ends `(n, m)` that keep the given matches: before each
match and after the last one the removals and then the additions. -/
def fillGaps (n m : Nat) (i j : Nat) : List (Nat × Nat) → List Entry
  | [] => removals i n ++ additions j m
  | (a, b) :: rest =>
    removals i a ++ additions j b ++ .unchanged a b :: fillGaps n m (a + 1) (b + 1) rest

/-- The entries that keep a longest common subsequence of two lists of lines. -/
def alignLines (as bs : List α) : List Entry :=
  fillGaps as.length bs.length 0 0 (commonSubsequence as bs)

end Collate.Alignment

namespace Collate

/-- The diff of two listings that keeps as many lines as can be kept. -/
def Diff.align (left right : Listing) : Except Failure Diff :=
  Diff.ofEntries left right (Alignment.alignLines left.lines right.lines)

end Collate
