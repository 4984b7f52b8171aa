import Collate.Failure

/-!
# Reports made by a caller

A caller may report a failure of its own in one of the categories. Every category has its details,
of which the first has to be given; a file that is not there and one that cannot be written have a
message of their own where none is given.
-/

namespace Collate

/-- What a report may say. -/
inductive Detail
  /-- The message. -/
  | message
  /-- The name of the refused parameter. -/
  | parameter
  /-- The refused value. -/
  | value
  /-- The index of the line concerned. -/
  | line
  /-- The file concerned. -/
  | path
  /-- The stage of rendering concerned. -/
  | stage
  /-- What lay behind the failure. -/
  | cause
  deriving DecidableEq, Repr

/-- Details of a report. -/
abbrev Details := List (Detail × Setting)

/-- The details that a report of a category is made of, in order. -/
def Category.details : Category → List Detail
  | .general | .brokenDiff => [.message, .cause]
  | .validation => [.message, .parameter, .value, .cause]
  | .highlightMismatch => [.message, .line]
  | .file => [.message, .path, .cause]
  | .missingFile | .outputWrite => [.path, .message, .cause]
  | .rendering => [.message, .stage, .cause]

namespace Report

/-- A text, or another one where there is none. -/
def messageOr (fallback : String) : Setting → Setting
  | .null => .text fallback
  | message => message

/-- The report of a category with these details. -/
def ofDetails (c : Category) (given : Details) : Report :=
  let get (d : Detail) : Setting := (given.lookup d).getD .null
  let trouble : Option Trouble :=
    match get .cause with
    | .null => none
    | value => some (.foreign value.kindName)
  let path := get .path
  let plain : Report := { category := c, message := get .message, trouble }
  match c with
  | .general | .brokenDiff => plain
  | .validation => { plain with parameter := get .parameter, value := get .value }
  | .highlightMismatch =>
    { plain with parameter := .text "highlighted", value := get .line, line := get .line }
  | .file => { plain with path }
  | .missingFile =>
    { plain with message := messageOr (Failure.missingFile path.shown).message plain.message, path }
  | .rendering => { plain with stage := get .stage }
  | .outputWrite =>
    { plain with
      message := messageOr (Failure.unwritable path.shown).message plain.message
      path
      stage := .text "file_write" }

/-- The report of a category with these details, first those that are told by their place and then
those that are told by name. A detail that the category does not have or that is given twice is
refused, and so is the lack of the first one. -/
def make (c : Category) (placed : List Setting) (named : Details) : Except Failure Report :=
  let byPlace := c.details.zip placed
  let isAmong (given : Details) (d : Detail) : Bool := given.any (·.1 == d)
  if placed.length ≤ c.details.length &&
      named.all (fun n => c.details.contains n.1 && !isAmong byPlace n.1) &&
      c.details.head?.any (isAmong (byPlace ++ named)) then
    .ok (ofDetails c (byPlace ++ named))
  else .error (.misuse .wrongKind)

end Report

end Collate
