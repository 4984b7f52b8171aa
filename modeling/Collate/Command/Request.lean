import Collate.Command.Switch
import Collate.Options.Comparison

/-!
# Requests

What the command is asked to do, read from the words of the command line. Words are taken from left
to right: a switch takes its value from its own word or from the next one, short switches may share
a word, and two values stand for the two codes. The divider belongs to the value next to it; where it
is the value itself nothing is given. What is left over is refused at the end, after it is known that
both codes are named.
-/

namespace Collate.Command

open Collate.Display

/-- What stands for a code: the name of a file, or a dash for standard input. -/
abbrev Operand := Given Text

/-- The tolerance used where none is given. -/
def standardTolerance : Tolerance := ⟨sevenTenths, checkTolerance_sevenTenths⟩

/-- The levels that a log may have, in the order in which they are offered. -/
def logLevels : List String := ["DEBUG", "INFO", "WARNING", "ERROR"]

/-- What the switches of a command line ask for. -/
structure Wishes where
  /-- The kind of code. -/
  kind : Given CodeType := .value .text
  /-- Whether generated names lose their counters. -/
  normalize : Bool := true
  /-- The function whose names lose their counters, if not all do. -/
  functionName : Option (Given Text) := none
  /-- Whether near lines are merged. -/
  optimize : Bool := true
  /-- How alike two lines have to be to be merged. -/
  tolerance : Given Tolerance := .value standardTolerance
  /-- The metric. -/
  distance : Given Metric := .value .levenshtein
  /-- When there are colours. -/
  colour : Given ColourMode := .value .auto
  /-- The lexer, if not that of the kind. -/
  language : Option (Given Text) := none
  /-- The theme, if there is one. -/
  theme : Option (Given String) := none
  /-- The width of the display, if not that of the terminal. -/
  width : Option (Given Positive) := none
  /-- The width of a tab, if not the standard one. -/
  tabWidth : Option (Given Positive) := none
  /-- Whether lines are numbered, if it is said. -/
  lineNumbers : Option Bool := none
  /-- The file that the display is written to, if there is one. -/
  output : Option Text := none
  /-- The level of the log. -/
  logLevel : Given String := .value "WARNING"
  /-- The file of the log, if there is one. -/
  logFile : Option Text := none
  /-- Whether log records are written in full. -/
  trace : Bool := false

/-- A request to compare two codes. -/
structure Request where
  /-- What stands for the left code. -/
  left : Operand
  /-- What stands for the right code. -/
  right : Operand
  /-- What the switches ask for. -/
  wishes : Wishes

/-- The names of files that a request mentions. -/
def Request.names (r : Request) : List Text :=
  [r.left.value?, r.right.value?, r.wishes.output, r.wishes.logFile].filterMap id

/-- Why a command line leads to no comparison. -/
inductive Stop
  /-- It asks for an explanation of the command. -/
  | help
  /-- It makes no sense. -/
  | usage (message : String)
  deriving DecidableEq, Repr

/-! ## Switches -/

/-- Fails with what a switch has against its value. -/
def Switch.stop {α : Type} (s : Switch) (reason : String) : Except Stop α :=
  .error (.usage s!"argument {s.title}: {reason}")

/-- What a text gives to a switch that reads its value, or what the switch has against it. The
divider gives nothing and is not read. -/
def Switch.accept {α : Type} (s : Switch) (read : Text → Except Failure α) (t : Text) :
    Except Stop (Given α) :=
  if t = dividerText then .ok .nothing
  else
    match read t with
    | .ok a => .ok (.value a)
    | .error f => s.stop f.message

namespace Wishes

/-- Takes in a switch without a value. Of the spellings of one that can be turned off, that which
says so turns it off. -/
def addFlag (w : Wishes) : Switch × Text → Except Stop Wishes
  | (.help, _) => .error .help
  | (.noNormalize, _) => .ok { w with normalize := false }
  | (.noOptimize, _) => .ok { w with optimize := false }
  | (.lineNumbers, spelling) =>
    .ok { w with lineNumbers := some (!("--no-".toList.isPrefixOf spelling)) }
  | (.trace, _) => .ok { w with trace := true }
  | _ => .ok w

/-- Takes in a switch with its value. -/
def addValue (w : Wishes) (s : Switch) (t : Text) : Except Stop Wishes := do
  match s with
  | .kind => return { w with kind := ← s.accept (readChoice CodeType.all CodeType.name) t }
  | .functionName => return { w with functionName := some (← s.accept .ok t) }
  | .tolerance => return { w with tolerance := ← s.accept readTolerance t }
  | .distance => return { w with distance := ← s.accept (readChoice Metric.all Metric.name) t }
  | .colour => return { w with colour := ← s.accept (readChoice ColourMode.all ColourMode.name) t }
  | .language => return { w with language := some (← s.accept .ok t) }
  | .theme => return { w with theme := some (← s.accept readTheme t) }
  | .width => return { w with width := some (← s.accept readPositive t) }
  | .tabWidth => return { w with tabWidth := some (← s.accept readPositive t) }
  | .output => return { w with output := (← s.accept .ok t).value? }
  | .logLevel => return { w with logLevel := ← s.accept (readChoice logLevels id) t }
  | .logFile => return { w with logFile := (← s.accept .ok t).value? }
  | _ => return w

end Wishes

/-! ## Switches that share a word -/

/-- How a word with switches ends. -/
inductive Ending
  /-- Nothing is left to do. -/
  | complete
  /-- The last switch has its value in the word. -/
  | value (s : Switch) (t : Text)
  /-- The last switch takes the next word for its value. -/
  | wanting (s : Switch)
  deriving DecidableEq, Repr

/-- The switches without values that a word holds, each with its spelling, and how it ends. -/
abbrev Cluster := List (Switch × Text) × Ending

/-- Refuses what is attached to a switch. -/
def Switch.refuseAttached {α : Type} (s : Switch) (t : Text) : Except Stop α :=
  s.stop s!"ignored explicit argument {inQuotes t}"

/-- Whether a spelling is a dash and a letter. -/
def isShort (spelling : Text) : Bool := !dividerText.isPrefixOf spelling

/-- A switch with characters attached to it: its value, if it has one, or else further switches, each
a letter. Without characters nothing is attached. -/
def unpackLetters (s : Switch) (spelling : Text) : Text → Except Stop Cluster
  | [] => .ok (if s.takesValue then ([], .wanting s) else ([(s, spelling)], .complete))
  | c :: rest =>
    if s.takesValue then .ok ([], .value s (c :: rest))
    else
      match if isShort spelling then Switch.ofSpelling? ['-', c] else none with
      | none => s.refuseAttached (c :: rest)
      | some next => do
        let (flags, ending) ← unpackLetters next ['-', c] rest
        return ((s, spelling) :: flags, ending)

/-- The switches of a word. What is attached to the first one may be an empty value. -/
def unpack (s : Switch) (spelling : Text) : Option Text → Except Stop Cluster
  | none => unpackLetters s spelling []
  | some [] => if s.takesValue then .ok ([], .value s []) else s.refuseAttached []
  | some t => unpackLetters s spelling t

/-! ## Command lines -/

/-- What has been read of a command line. -/
structure Progress where
  /-- What stands for the codes, as far as it has come up. -/
  operands : List Operand := []
  /-- What the switches ask for so far. -/
  wishes : Wishes := {}
  /-- What is left over. -/
  extras : List Text := []

namespace Progress

/-- Whether both codes are named. -/
def isFull (p : Progress) : Bool := 2 ≤ p.operands.length

/-- Takes in what stands for a code. -/
def addOperand (p : Progress) (o : Operand) : Progress := { p with operands := p.operands ++ [o] }

/-- Leaves a word over. -/
def addExtra (p : Progress) (t : Text) : Progress := { p with extras := p.extras ++ [t] }

/-- Takes in a word with switches. -/
def addCluster (p : Progress) (flags : List (Switch × Text)) : Except Stop Progress := do
  return { p with wishes := ← flags.foldlM Wishes.addFlag p.wishes }

/-- Takes in a switch with its value. -/
def addValue (p : Progress) (s : Switch) (t : Text) : Except Stop Progress := do
  return { p with wishes := ← p.wishes.addValue s t }

/-- Takes in the words of a command line. -/
def gather (p : Progress) : List Word → Except Stop Progress
  | [] => .ok p
  | .unknown t :: rest => (p.addExtra t).gather rest
  | .divider :: .value t :: rest =>
    if p.isFull then (p.addExtra dividerText).gather (.value t :: rest)
    else (p.addOperand (.value t)).gather rest
  | .divider :: rest => (p.addExtra dividerText).gather rest
  | .value t :: .divider :: rest =>
    if p.isFull then (p.addExtra t).gather (.divider :: rest)
    else (p.addOperand (.value t)).gather rest
  | .value t :: rest =>
    if p.isFull then (p.addExtra t).gather rest
    else (p.addOperand (if t = dividerText then .nothing else .value t)).gather rest
  | .switch s spelling attached :: rest => do
    let (flags, ending) ← unpack s spelling attached
    match ending with
    | .complete => (← p.addCluster flags).gather rest
    | .value last t => (← (← p.addCluster flags).addValue last t).gather rest
    | .wanting last =>
      match rest with
      | .value t :: rest => (← (← p.addCluster flags).addValue last t).gather rest
      | _ => last.stop "expected one argument"
  termination_by words => words.length

/-- The request of a command line that has been read. Both codes have to be named, and nothing may
be left over. -/
def request (p : Progress) : Except Stop Request :=
  match p.operands with
  | left :: right :: _ =>
    if p.extras = [] then .ok ⟨left, right, p.wishes⟩
    else
      let words := String.intercalate " " (p.extras.map String.ofList)
      .error (.usage s!"unrecognized arguments: {words}")
  | operands =>
    let names := String.intercalate ", " (["original", "modified"].drop operands.length)
    .error (.usage s!"the following arguments are required: {names}")

end Progress

/-- Reads a command line. Every word is looked at before the first one is taken in. -/
def readRequest (texts : List Text) : Except Stop Request :=
  match readWords texts with
  | .error f => .error (.usage f.message)
  | .ok words => do (← Progress.gather {} words).request

end Collate.Command
