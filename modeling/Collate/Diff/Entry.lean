import Collate.CodeType

/-!
# Diff entries

One record of a diff. Its tag says how the two sides relate, and it refers to a line of the left
listing, of the right one, or of both, by index from zero. References are whole numbers of either
sign: an entry says nothing about whether such a line exists, a diff does.
-/

namespace Collate

/-- How the two sides of an entry relate. -/
inductive Tag
  /-- The same line on both sides. -/
  | unchanged
  /-- A line of the left side only. -/
  | removed
  /-- A line of the right side only. -/
  | added
  /-- A line of the left side and what became of it. -/
  | changed
  deriving DecidableEq, Repr

namespace Tag

/-- The name of a tag. -/
def name : Tag → String
  | .unchanged => "unchanged"
  | .removed => "removed"
  | .added => "added"
  | .changed => "changed"

/-- All tags, in the order in which they are counted. -/
def all : List Tag := [.unchanged, .removed, .added, .changed]

/-- The tag of a name. -/
def ofName? (s : String) : Option Tag := all.find? (·.name == s)

end Tag

/-- A record of a diff. -/
inductive Entry
  /-- The line `left` is kept as the line `right`. -/
  | unchanged (left right : Int)
  /-- The line `left` has no counterpart. -/
  | removed (left : Int)
  /-- The line `right` has no counterpart. -/
  | added (right : Int)
  /-- The line `left` became the line `right`. -/
  | changed (left right : Int)
  deriving DecidableEq, Repr

namespace Entry

/-- The tag of an entry. -/
def tag : Entry → Tag
  | .unchanged .. => .unchanged
  | .removed _ => .removed
  | .added _ => .added
  | .changed .. => .changed

@[simp] theorem tag_unchanged (l r : Int) : (unchanged l r).tag = .unchanged := rfl

@[simp] theorem tag_removed (l : Int) : (removed l).tag = .removed := rfl

@[simp] theorem tag_added (r : Int) : (added r).tag = .added := rfl

@[simp] theorem tag_changed (l r : Int) : (changed l r).tag = .changed := rfl

/-- The line of the left side, unless the entry is an addition. -/
def left? : Entry → Option Int
  | .unchanged l _ | .changed l _ | .removed l => some l
  | .added _ => none

/-- The line of the right side, unless the entry is a removal. -/
def right? : Entry → Option Int
  | .unchanged _ r | .changed _ r | .added r => some r
  | .removed _ => none

/-- The entry with a tag and two references, if the references are those that the tag asks for. -/
def ofReferences? : Tag → (left right : Option Int) → Option Entry
  | .unchanged, some l, some r => some (.unchanged l r)
  | .changed, some l, some r => some (.changed l r)
  | .removed, some l, none => some (.removed l)
  | .added, none, some r => some (.added r)
  | _, _, _ => none

end Entry

end Collate
