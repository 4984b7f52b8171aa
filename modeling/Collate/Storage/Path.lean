import Collate.Text.Basic

/-!
# Paths

A path names a file by the directories on the way to it. Empty steps and steps to the same directory
mean nothing and are left out; a step to the directory above is kept, because whether it is allowed
depends on what stands before it. Where a path is walked as it was written, a step to the same
directory is kept as well, since it asks for a directory.
-/

namespace Collate.Storage

/-- A path as its steps. -/
structure Path where
  /-- How many slashes the path starts with: none for a path from the working directory, one or two
  for a path from the root. -/
  slashes : Nat
  /-- The steps. -/
  steps : List Text
  deriving DecidableEq, Repr

namespace Path

/-- The step to the same directory. -/
def here : Text := ['.']

/-- The step to the directory above. -/
def up : Text := ['.', '.']

/-- How many slashes at the start of a text count: exactly two are kept, any others are one. -/
def leadingSlashes (t : Text) : Nat :=
  match (t.takeWhile (· = '/')).length with
  | 0 => 0
  | 2 => 2
  | _ => 1

/-- The steps of a text as they are written; empty ones mean nothing. -/
def stepsOf (t : Text) : List Text := (Text.splitOn '/' t).filter (· ≠ [])

/-- The path that a text names. -/
def ofText (t : Text) : Path := ⟨leadingSlashes t, (stepsOf t).filter (· ≠ here)⟩

/-- Whether a path starts at the root of all directories. -/
def isAbsolute (p : Path) : Bool := p.slashes != 0

/-- A path in its plain form; the empty path is a point. -/
def written (p : Path) : Text :=
  if p.slashes = 0 ∧ p.steps = [] then here
  else List.replicate p.slashes '/' ++ Text.joinWith ['/'] p.steps

/-- Whether a text asks for a directory by ending in a slash. -/
def asksForDirectory (t : Text) : Bool := t.getLast? == some '/'

/-- Steps with every step up taken against the step before it, without looking at what is there.
`done` holds the steps so far, the last one first. -/
def collapse (done : List Text) : List Text → List Text
  | [] => done.reverse
  | step :: rest => if step = up then collapse done.tail rest else collapse (step :: done) rest

/-- The path from the root that a path means in the directory at the steps `place`, with every step
up taken. -/
def fromRoot (place : List Text) (p : Path) : Path :=
  ⟨max 1 p.slashes, collapse (if p.isAbsolute then [] else place.reverse) p.steps⟩

end Path

end Collate.Storage
