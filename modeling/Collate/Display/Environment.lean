import Collate.Number.Reading
import Collate.Options.Display
import Collate.Terminal.Style
import Collate.Text.Blank
import Collate.Text.Case

/-!
# Environment

What a program finds around it when it shows something: variables, and streams that may be
terminals. From these come the width of a display that was not given one, the standing wish for line
numbers, and the answer to whether a sink shows colours and how many.

Two variables hold the size of the terminal. Where the size matters, digits in them that make no
whole number are a failure, and anything else that makes none is as good as nothing.

The memory of the machine belongs to the surroundings as well. Of all that it can run out for, only
the spaces in place of one tab are looked at, since options alone decide how many they are; that
there is memory for the lines and the rows themselves is taken for granted.
-/

namespace Collate.Display

open Collate.Number Collate.Options Collate.Terminal

/-- A stream that a display may be written to. -/
inductive Stream
  /-- A buffer in memory. -/
  | buffer
  /-- A terminal. -/
  | terminal
  /-- No stream in particular, which stands for standard output. -/
  | standard
  /-- A stream that is closed and cannot tell what it is. -/
  | closed
  /-- Something that cannot be a terminal. -/
  | object
  deriving DecidableEq, Repr

/-- Whether a stream says that it is a terminal. No stream in particular says nothing. -/
def Stream.isTerminal : Stream → Bool
  | .terminal => true
  | _ => false

/-- The spaces that there is memory for where nothing is said about the machine. -/
def Environment.usualSpaces : Nat := 0x10_0000_0000

/-- The surroundings of a display. -/
structure Environment where
  /-- The variables and their values. -/
  bindings : List (String × String)
  /-- Whether standard output is a terminal. -/
  outputIsTerminal : Bool := false
  /-- The most spaces that there is memory for in place of a tab. -/
  spaces : Nat := Environment.usualSpaces

namespace Environment

/-- The variables that matter. -/
def variableNames : List String :=
  ["CODE_DIFFS_LINE_NUMBERS", "COLORTERM", "COLUMNS", "FORCE_COLOR", "LINES", "TERM",
    "TTY_COMPATIBLE"]

/-- The value of a variable. -/
def get? (env : Environment) (name : String) : Option String := env.bindings.lookup name

/-- The value of a variable without blanks around it and in small letters; nothing for one that is
unset. -/
def word (env : Environment) (name : String) : String :=
  String.ofList
    ((Text.trim Text.isBlank ((env.get? name).getD "").toList).map Text.small)

/-- The whole number that a variable holds, if it consists of digits. -/
def number? (env : Environment) (name : String) : Except Failure (Option Nat) :=
  let t := ((env.get? name).getD "").toList
  if t = [] || !t.all fun c => Text.isDigit c || Text.isOrnamentalDigit c then .ok none
  else
    let lead := t.takeWhile Text.isDigit
    if mostDigits < lead.length then .error (.tooManyDigits lead.length)
    else if lead ≠ t then .error (.notWhole t)
    else .ok (some (digitsValue (t.filterMap Text.digitValue?)))

/-- The width of a display where nothing else is known. -/
def fallbackWidth : Nat := DisplayOptions.standard.width

/-! ## Conditions from variables -/

/-- The values, in small letters, that turn a variable on. -/
def onValues : List String := ["true", "1", "yes", "on"]

/-- Whether a variable is on; `standing` for one that is unset or blank. -/
def flag (env : Environment) (name : String) (standing : Bool) : Bool :=
  match env.word name with
  | "" => standing
  | value => onValues.contains value

/-- Whether lines are numbered where nothing else is said. -/
def lineNumbers (env : Environment) : Bool := env.flag "CODE_DIFFS_LINE_NUMBERS" false

/-! ## Terminals -/

/-- Whether the stream that is written to is a terminal. -/
def reachesTerminal (env : Environment) : Stream → Bool
  | .standard => env.outputIsTerminal
  | s => s.isTerminal

/-- Whether a sink counts as a terminal. Two variables can settle it, the first by `0` or `1`, the
second by being there, empty for no. -/
def countsAsTerminal (env : Environment) (s : Stream) : Bool :=
  match env.get? "TTY_COMPATIBLE" with
  | some "0" => false
  | some "1" => true
  | _ =>
    match env.get? "FORCE_COLOR" with
    | some value => value != ""
    | none => env.reachesTerminal s

/-- Whether the terminal is one that takes no escape sequences. -/
def isDumb (env : Environment) : Bool :=
  let term := String.ofList (((env.get? "TERM").getD "").toList.map Text.small)
  term == "dumb" || term == "unknown"

/-- The width of the terminal behind a stream, or the fallback where there is none. A terminal that
takes no escape sequences is as wide as the fallback, unless its number of lines is known. -/
def terminalWidth (env : Environment) (s : Stream) : Except Failure Nat := do
  if !env.reachesTerminal s then return fallbackWidth
  let columns ← env.number? "COLUMNS"
  let lines ← env.number? "LINES"
  if env.isDumb && env.countsAsTerminal s && lines.isNone then return fallbackWidth
  match columns with
  | none | some 0 => return fallbackWidth
  | some n => return n

/-! ## Displays on a stream -/

/-- Whether a display with these options takes a stream for a terminal. -/
def takesForTerminal (env : Environment) (o : DisplayOptions) (s : Stream) : Bool :=
  o.colour.holds && (o.forceTerminal.holds || env.countsAsTerminal s)

/-- How many colours a terminal is said to show: by a variable for those that show all, or by the
last part of the terminal's name. -/
def depth (env : Environment) : Colour.Depth :=
  if ["truecolor", "24bit"].contains (env.word "COLORTERM") then .full
  else
    let kind := (Text.splitOn '-' (env.word "TERM").toList).getLastD []
    if ["256color", "kitty"].contains (String.ofList kind) then .palette else .sixteen

/-- How many colours a display with these options shows on a stream, if it shows any. -/
def depth? (env : Environment) (o : DisplayOptions) (s : Stream) : Option Colour.Depth :=
  if env.takesForTerminal o s && !env.isDumb then some env.depth else none

/-- Looks at the size of the terminal for a display whose width is known. The number of lines is
looked at in any case, that of columns for the first row, unless the lines are known or the terminal
has no size. -/
def checkSize (env : Environment) (o : DisplayOptions) (s : Stream) (anyRow : Bool) :
    Except Failure Unit := do
  let lines ← env.number? "LINES"
  if anyRow && lines.isNone && !(env.isDumb && env.takesForTerminal o s) then
    let _ ← env.number? "COLUMNS"

/-! ## Options from the environment -/

/-- Names of the options that may be left to the environment. -/
def openFields : Fields :=
  [("tab_width", .null), ("width", .null), ("line_numbers", .null), ("color", .bool true),
    ("force_terminal", .bool false)]

/-- A value, or another one where it is missing. -/
def orElse (value fallback : Setting) : Setting :=
  match value with
  | .null => fallback
  | value => value

/-- Display options for a stream: what is not given comes from the environment. -/
def resolve (env : Environment) (s : Stream) (given : Fields) : Except Failure DisplayOptions := do
  let fs ← openFields.override given
  let width ←
    match fs.get "width" with
    | .null => (env.terminalWidth s).map fun n => Setting.int n
    | value => pure value
  DisplayOptions.ofFields
    [("tab_width", orElse (fs.get "tab_width") (.int DisplayOptions.standard.tabWidth)),
      ("width", width),
      ("line_numbers", orElse (fs.get "line_numbers") (.bool env.lineNumbers)),
      ("color", fs.get "color"), ("force_terminal", fs.get "force_terminal")]

end Environment

/-- When a comparison is coloured: always, never, or where a terminal is. -/
inductive ColourMode
  /-- On a terminal. -/
  | auto
  /-- Always. -/
  | always
  /-- Never. -/
  | never
  deriving DecidableEq, Repr

namespace ColourMode

/-- The name of a mode. -/
def name : ColourMode → String
  | auto => "auto"
  | always => "always"
  | never => "never"

/-- The modes, in the order in which they are offered. -/
def all : List ColourMode := [auto, always, never]

/-- The mode of a name. Any other name is as good as `auto`. -/
def ofName (s : String) : ColourMode := (all.find? (·.name == s)).getD auto

/-- Whether a comparison is coloured, when a stream says whether it is a terminal. -/
def applies (onTerminal : Bool) : ColourMode → Bool
  | auto => onTerminal
  | always => true
  | never => false

end ColourMode

end Collate.Display
