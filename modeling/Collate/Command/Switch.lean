import Collate.Command.Value
import Collate.Display.Environment

/-!
# Switches

The switches of the command, how they are spelled, and what a word of the command line is: a value,
the divider after which everything is a value, a switch, or a switch that does not exist.

A long spelling may be cut short as long as only one spelling starts that way. More may be attached
in the same word, after an equals sign or, with a short spelling, at once. A word that starts with a
dash is a value all the same when it is the dash alone, a negative number, or holds a space.
-/

namespace Collate.Command

/-- A switch of the command. -/
inductive Switch
  /-- Explains the command. -/
  | help
  /-- The kind of code. -/
  | kind
  /-- Keeps generated names as they are. -/
  | noNormalize
  /-- The function whose generated names lose their counters. -/
  | functionName
  /-- Keeps near lines apart. -/
  | noOptimize
  /-- How alike two lines have to be to be merged. -/
  | tolerance
  /-- The metric. -/
  | distance
  /-- When there are colours. -/
  | colour
  /-- The lexer. -/
  | language
  /-- The theme. -/
  | theme
  /-- The width of the display. -/
  | width
  /-- The width of a tab. -/
  | tabWidth
  /-- Whether lines are numbered. -/
  | lineNumbers
  /-- The file that the display is written to. -/
  | output
  /-- The level of the log. -/
  | logLevel
  /-- The file of the log. -/
  | logFile
  /-- Writes log records in full. -/
  | trace
  deriving DecidableEq, Repr

namespace Switch

/-- The spellings of a switch. -/
def spellings : Switch → List String
  | help => ["-h", "--help"]
  | kind => ["--type", "-t"]
  | noNormalize => ["--no-normalize"]
  | functionName => ["--function-name"]
  | noOptimize => ["--no-optimize"]
  | tolerance => ["--tolerance"]
  | distance => ["--distance"]
  | colour => ["--color"]
  | language => ["--language", "-l"]
  | theme => ["--theme"]
  | width => ["--width", "-W"]
  | tabWidth => ["--tab-width"]
  | lineNumbers => ["--line-numbers", "--no-line-numbers", "-n"]
  | output => ["--output", "-o"]
  | logLevel => ["--log-level"]
  | logFile => ["--log-file"]
  | trace => ["--trace"]

/-- All switches, in the order in which they are offered. -/
def all : List Switch :=
  [help, kind, noNormalize, functionName, noOptimize, tolerance, distance, colour, language, theme,
    width, tabWidth, lineNumbers, output, logLevel, logFile, trace]

/-- Whether a switch has a value. -/
def takesValue : Switch → Bool
  | help | noNormalize | noOptimize | lineNumbers | trace => false
  | _ => true

/-- A switch under all its spellings, as messages name it. -/
def title (s : Switch) : String := String.intercalate "/" s.spellings

/-- Every spelling with its switch. -/
def table : List (Text × Switch) :=
  all.flatMap fun s => s.spellings.map fun name => (name.toList, s)

/-- The switch of a spelling. -/
def ofSpelling? (t : Text) : Option Switch := table.lookup t

end Switch

/-! ## Words -/

/-- What a word of the command line is. -/
inductive Word
  /-- A value. -/
  | value (t : Text)
  /-- The mark after which every word is a value. -/
  | divider
  /-- A switch, its spelling in full, and what is attached to it, if anything is. -/
  | switch (s : Switch) (spelling : Text) (attached : Option Text)
  /-- A word like a switch that is none. -/
  | unknown (t : Text)
  deriving DecidableEq, Repr

/-- The word that marks the beginning of values. -/
def dividerText : Text := ['-', '-']

/-- Whether a text is an optional run of digits, a point and digits, or digits only, after a dash. A
newline at the end does not count. -/
def isNegativeNumber : Text → Bool
  | '-' :: t =>
    let t := if t.getLast? = some '\n' then t.dropLast else t
    let isDigit (c : Char) : Bool := (Text.digitValue? c).isSome
    let rest := t.dropWhile isDigit
    match rest with
    | [] => !t.isEmpty
    | '.' :: places => !places.isEmpty && places.all isDigit
    | _ => false
  | _ => false

/-- A word at its first equals sign: what stands before it, and what after it, if there is a sign. -/
def atEquals (t : Text) : Text × Option Text :=
  match Text.cutAt? ['='] t with
  | some (name, value) => (name, some value)
  | none => (t, none)

/-- The switches that a word may mean which is no spelling in full, with what is attached. A long
word may be the start of a spelling, a short one a spelling and what is glued to it. -/
def Switch.candidates (t : Text) : List (Switch × Text × Option Text) :=
  match t with
  | '-' :: '-' :: _ =>
    let (start, attached) := atEquals t
    (table.filter fun (name, _) => start.isPrefixOf name).map fun (name, s) => (s, name, attached)
  | dash :: letter :: rest =>
    (table.filter (·.1 = [dash, letter])).map fun (name, s) => (s, name, some rest)
  | _ => []

/-- What a word is that starts with a dash and is no spelling in full. -/
def looseWord (t : Text) : Except Failure Word :=
  match Switch.candidates t with
  | [(s, name, attached)] => .ok (.switch s name attached)
  | [] => .ok (if isNegativeNumber t || t.contains ' ' then .value t else .unknown t)
  | several =>
    let names := String.intercalate ", " (several.map fun c => String.ofList c.2.1)
    refuse s!"ambiguous option: {String.ofList t} could match {names}"

/-- What a word is in front of the divider. -/
def readWord (t : Text) : Except Failure Word :=
  if t.head? ≠ some '-' || t = ['-'] then .ok (.value t)
  else
    match Switch.ofSpelling? t with
    | some s => .ok (.switch s t none)
    | none =>
      match atEquals t with
      | (name, some value) =>
        match Switch.ofSpelling? name with
        | some s => .ok (.switch s name (some value))
        | none => looseWord t
      | _ => looseWord t

/-- What the words of a command line are. -/
def readWords : List Text → Except Failure (List Word)
  | [] => .ok []
  | t :: rest =>
    if t = dividerText then .ok (.divider :: rest.map .value)
    else do return (← readWord t) :: (← readWords rest)

end Collate.Command
