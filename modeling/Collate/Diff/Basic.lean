import Collate.Diff.Entry
import Collate.Listing

/-!
# Diffs

A diff of two listings is a list of entries that rebuilds both: the left references of its entries
are the indices of the left listing in order, the right ones those of the right listing. Whoever
holds a diff can therefore read each listing off its entries; a list of entries that drops, repeats
or reorders a line of either side is no diff.
-/

namespace Collate

/-- The indices of a listing of `n` lines. -/
def indices (n : Nat) : List Int := (List.range n).map Int.ofNat

/-- A diff of two listings. -/
structure Diff where
  /-- The left listing. -/
  left : Listing
  /-- The right listing. -/
  right : Listing
  /-- The entries. -/
  entries : List Entry
  /-- The left references are the left lines in order. -/
  left_rebuilt : entries.filterMap Entry.left? = indices left.size
  /-- The right references are the right lines in order. -/
  right_rebuilt : entries.filterMap Entry.right? = indices right.size

namespace Diff

/-- The diff with these entries, if they rebuild both listings. The left side is looked at first. -/
def ofEntries (left right : Listing) (entries : List Entry) : Except Failure Diff :=
  if hl : entries.filterMap Entry.left? = indices left.size then
    if hr : entries.filterMap Entry.right? = indices right.size then
      .ok ⟨left, right, entries, hl, hr⟩
    else .error (.rightNotRebuilt right.size)
  else .error (.leftNotRebuilt left.size)

/-- The diff of the same listings with other entries. -/
def withEntries (d : Diff) (entries : List Entry) : Except Failure Diff :=
  ofEntries d.left d.right entries

/-- The left lines as the entries give them. -/
def leftLines (d : Diff) : List Text :=
  d.entries.filterMap fun e => e.left?.bind d.left.line?

/-- The right lines as the entries give them. -/
def rightLines (d : Diff) : List Text :=
  d.entries.filterMap fun e => e.right?.bind d.right.line?

/-- The number of entries with a tag. -/
def count (d : Diff) (t : Tag) : Nat := d.entries.countP (·.tag = t)

/-- The number of entries with each tag. -/
def stats (d : Diff) : List (Tag × Nat) := Tag.all.map fun t => (t, d.count t)

/-- Whether any entry is not unchanged. -/
def hasChanges (d : Diff) : Bool := d.entries.any (·.tag ≠ .unchanged)

/-- The counts in words, as a record of numbers under the names of the tags. -/
def statsText (d : Diff) : String :=
  (Setting.record (d.stats.map fun (t, n) => (t.name, .int n))).literal

end Diff

end Collate
