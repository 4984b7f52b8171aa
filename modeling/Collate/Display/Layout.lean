import Collate.Diff.Projection
import Collate.Display.Environment
import Collate.Terminal.Wrap

/-!
# Layout

The rows of the side-by-side display. Every entry becomes a group of rows: the left line, a gutter
of three cells that shows the tag, and the right line, each line wrapped to the column; the rows of
a group that a shorter side does not reach are blank there. With line numbers the number of its line
stands beside every piece of it.

The column is as wide as the longest line but no wider than the width leaves room for, and a cell at
least. It is measured on the plain lines with their tabs expanded.

A layout can fail in two ways only: the spaces for a tab are more than a text can count or than the
machine has memory for, or a coloured line holds a number that cannot be read. Both are looked at
beforehand (`Layout.checkTabs`, `Layout.checkLines`); the layout itself always answers.
-/

namespace Collate.Display

open Collate.Options Collate.Terminal

/-- The gutter of a tag, three cells wide. -/
def gutter : Tag → Text
  | .unchanged => [' ', '┃', ' ']
  | .removed => ['⟪', '┫', ' ']
  | .added => [' ', '┣', '⟫']
  | .changed => ['⟪', '╋', '⟫']

/-- The cells of a gutter. -/
def gutterWidth : Nat := 3

/-- A line with spaces for its tabs. -/
def expandTabs (tabWidth : Nat) (line : Text) : Text :=
  line.flatMap fun c => if c = '\t' then List.replicate tabWidth ' ' else [c]

/-- Spaces that fill a column after `used` cells. -/
def fill (column used : Nat) : Text := List.replicate (column - used) ' '

namespace Layout

/-- The digits of a line number; none, if lines are not numbered. -/
def numberWidth (o : DisplayOptions) (d : Diff) : Nat :=
  if o.lineNumbers.holds then (Text.ofNat (max (max d.left.size d.right.size) 1)).length else 0

/-- The cells of a line number and the space beside it. -/
def numberColumns (o : DisplayOptions) (d : Diff) : Nat :=
  if numberWidth o d = 0 then 0 else numberWidth o d + 1

/-- The cells of the longest line. -/
def longestLine (o : DisplayOptions) (d : Diff) : Nat :=
  ((d.left.lines ++ d.right.lines).map fun line => cells (expandTabs o.tabWidth line)).foldl max 0

/-- The cells of a column, not counting line numbers. -/
def columnWidth (o : DisplayOptions) (d : Diff) : Nat :=
  let room := Int.fdiv ((o.width : Int) - gutterWidth) 2 - numberColumns o d
  (max 1 (min (longestLine o d : Int) room)).toNat

/-- Whether the coloured form of a line is shown: when colours are shown and it has one. -/
def showsColours (o : DisplayOptions) (plain highlighted : Text) : Bool :=
  o.colour.holds && highlighted != plain

/-- What is shown of a line. -/
def lineText (o : DisplayOptions) (plain highlighted : Text) : Styled :=
  if showsColours o plain highlighted then Styled.decode (expandTabs o.tabWidth highlighted)
  else Styled.ofText .plain (expandTabs o.tabWidth plain)

/-- The pieces of the line at an index of a listing; none where there is no line. -/
def pieces (o : DisplayOptions) (column : Nat) (l : Listing) (i : Option Int) : List Styled :=
  match i.bind l.line?, i.bind l.highlightedLine? with
  | some plain, some highlighted => (lineText o plain highlighted).wrap column
  | _, _ => []

/-- The pieces of both sides row by row; a side that has run out has none. -/
def pairUp : List Styled → List Styled → List (Option Styled × Option Styled)
  | l :: ls, r :: rs => (some l, some r) :: pairUp ls rs
  | l :: ls, [] => (some l, none) :: pairUp ls []
  | [], r :: rs => (none, some r) :: pairUp [] rs
  | [], [] => []

/-- The number beside a piece, right-aligned; blank beside no piece. -/
def number (width : Nat) (i : Option Int) (piece : Option Styled) : Text :=
  Text.padLeft width
    (match piece, i with
      | some _, some i => Text.ofNat (i + 1).toNat
      | _, _ => [])

/-- A row: number, left piece, filling, gutter, right piece, filling, number. Without line numbers
nothing follows the right piece. -/
def row (numberWidth column : Nat) (e : Entry) (left right : Option Styled) : Styled :=
  let unstyled (t : Text) : Styled := Styled.ofText .plain t
  let content (piece : Option Styled) : Styled := piece.getD []
  (if numberWidth = 0 then [] else unstyled (number numberWidth e.left? left ++ [' '])) ++
    content left ++ unstyled (fill column (content left).cells) ++ unstyled (gutter e.tag) ++
    content right ++
    (if numberWidth = 0 then []
    else
      unstyled (fill column (content right).cells) ++
        unstyled (' ' :: number numberWidth e.right? right))

/-- The rows of an entry, in columns and numbers of given widths. -/
def group (o : DisplayOptions) (d : Diff) (numberWidth column : Nat) (e : Entry) : List Styled :=
  (pairUp (pieces o column d.left e.left?) (pieces o column d.right e.right?)).map
    fun (left, right) => row numberWidth column e left right

end Layout

/-- The rows of the display of a diff. -/
def layout (o : DisplayOptions) (d : Diff) : List Styled :=
  let numberWidth := Layout.numberWidth o d
  let column := Layout.columnWidth o d
  d.entries.flatMap (Layout.group o d numberWidth column)

namespace Layout

/-! ## What stands against a layout -/

/-- The most spaces that a text can count. -/
def mostSpaces : Nat := 0x7fff_ffff_ffff_ffff

/-- Refuses a tab width for which the spaces cannot be made, `spaces` being the most that there is
memory for. They are made for every line, whether it holds a tab or not. -/
def checkTabs (o : DisplayOptions) (d : Diff) (spaces : Nat) : Except Failure Unit :=
  if d.left.lines = [] ∧ d.right.lines = [] then .ok ()
  else if mostSpaces < o.tabWidth then .error .tooManySpaces
  else if spaces < o.tabWidth then .error .noMemory
  else .ok ()

/-- Refuses the line at an index of a listing if its coloured form is shown and cannot be read. -/
def checkLine (o : DisplayOptions) (l : Listing) (i : Option Int) : Except Failure Unit :=
  match i.bind l.line?, i.bind l.highlightedLine? with
  | some plain, some highlighted =>
    if showsColours o plain highlighted then
      (Styled.read (expandTabs o.tabWidth highlighted)).map fun _ => ()
    else .ok ()
  | _, _ => .ok ()

/-- Refuses a diff of which a coloured line is shown and cannot be read. -/
def checkLines (o : DisplayOptions) (d : Diff) : Except Failure Unit :=
  d.entries.forM fun e => do
    checkLine o d.left e.left?
    checkLine o d.right e.right?

/-- The cells of a column, if the lines can be measured. -/
def column (o : DisplayOptions) (d : Diff) (spaces : Nat := Environment.usualSpaces) :
    Except Failure Nat := do
  checkTabs o d spaces
  return columnWidth o d

/-- The rows of the display of a diff, if there can be any. -/
def rows (o : DisplayOptions) (d : Diff) (spaces : Nat := Environment.usualSpaces) :
    Except Failure (List Styled) := do
  checkTabs o d spaces
  checkLines o d
  return layout o d

end Layout

end Collate.Display
