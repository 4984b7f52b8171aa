import Collate.Options.Fields

/-!
# Display options

How a diff is shown: the number of spaces for a tab, the width of the whole display, whether lines
are numbered, whether colours are shown, and whether they are shown even where no terminal is. Both
widths are positive whole numbers; the rest are conditions.
-/

namespace Collate.Options

/-- Options of the side-by-side display. -/
structure DisplayOptions where
  /-- The number of spaces in place of a tab. -/
  tabWidth : Nat
  /-- The width of the display in cells. -/
  width : Nat
  /-- Whether lines are numbered. -/
  lineNumbers : Setting
  /-- Whether colours are shown. -/
  colour : Setting
  /-- Whether colours are shown on any sink. -/
  forceTerminal : Setting
  /-- A tab takes a space at least. -/
  tabWidth_pos : 0 < tabWidth
  /-- The display has a cell at least. -/
  width_pos : 0 < width

namespace DisplayOptions

/-- The positive whole number that a field holds. -/
def positive (fs : Fields) (name : String) : Except Failure Positive :=
  match fs.get name with
  | .int n =>
    match Positive.ofInt? n with
    | some p => .ok p
    | none => .error (.notPositive name (.int n))
  | value => .error (.notPositive name value)

/-- The options with these fields. The tab width is checked before the width. -/
def ofFields (fs : Fields) : Except Failure DisplayOptions := do
  let tabWidth ← positive fs "tab_width"
  let width ← positive fs "width"
  return ⟨tabWidth, width, fs.get "line_numbers", fs.get "color", fs.get "force_terminal",
    tabWidth.property, width.property⟩

/-- The fields of options. -/
def fields (o : DisplayOptions) : Fields :=
  [("tab_width", .int o.tabWidth), ("width", .int o.width), ("line_numbers", o.lineNumbers),
    ("color", o.colour), ("force_terminal", o.forceTerminal)]

/-- The options used where none are given. -/
def standard : DisplayOptions where
  tabWidth := 4
  width := 80
  lineNumbers := .bool false
  colour := .bool true
  forceTerminal := .bool false
  tabWidth_pos := by decide
  width_pos := by decide

/-- The options with these values and the standard ones for the rest. -/
def make (given : Fields) : Except Failure DisplayOptions := do
  ofFields (← standard.fields.override given)

/-- Options with some values replaced. -/
def update (o : DisplayOptions) (given : Fields) : Except Failure DisplayOptions := do
  ofFields (← o.fields.override given)

end DisplayOptions

end Collate.Options
