import Collate.Text.Quoted

/-!
# Obstacles

Why a name cannot be opened as a file, with the number and the wording that belong to it.
-/

namespace Collate.Storage

/-- Why a file cannot be opened. -/
inductive Obstacle
  /-- There is nothing, or no directory to put it in. -/
  | missing
  /-- It is a directory. -/
  | isDirectory
  /-- A step on the way is a file. -/
  | notDirectory
  /-- A step or the whole path has too many bytes. -/
  | tooLong
  deriving DecidableEq, Repr

namespace Obstacle

/-- The number of an obstacle. -/
def number : Obstacle → Nat
  | missing => 2
  | isDirectory => 21
  | notDirectory => 20
  | tooLong => 36

/-- The wording of an obstacle. -/
def wording : Obstacle → String
  | missing => "No such file or directory"
  | isDirectory => "Is a directory"
  | notDirectory => "Not a directory"
  | tooLong => "File name too long"

/-- What is said about an obstacle at a name. -/
def describe (o : Obstacle) (name : Text) : String :=
  s!"[Errno {o.number}] {o.wording}: {String.ofList (Text.quoted name)}"

end Obstacle

end Collate.Storage
