import Collate.Command.Request
import Collate.Command.Session
import Collate.Display.Render
import Collate.Storage.Code

/-!
# Running the command

A run reads the command line, sets up the log, reads and compares the two codes, and writes the
display to standard output or to a file. The file is emptied before the codes are read, so it keeps
nothing of what it held even when the comparison fails. A run ends with a status, which says what
kind of failure there was, and leaves a session behind.
-/

namespace Collate.Command

open Collate.Display Collate.Journal Collate.Options Collate.Storage

/-- What a run finds around it besides files. -/
structure Surroundings where
  /-- The environment. -/
  environment : Environment
  /-- What there is to read on standard input. -/
  input : List UInt8

/-- The end of a run. -/
structure Outcome where
  /-- How the run ends. -/
  status : Status
  /-- What it leaves behind. -/
  session : Session

/-! ## Options -/

/-- A setting that is a text. -/
def settingOfText (t : Text) : Setting := .text (String.ofList t)

namespace Wishes

/-- The options of the comparison. -/
def comparison (w : Wishes) (coloured : Bool) : Except Failure ComparisonOptions :=
  ComparisonOptions.ofFields
    [("code_type", w.kind.setting fun k => .text k.name), ("color", .bool coloured),
      ("normalize", .bool w.normalize),
      ("function_name", Given.settingOrNull settingOfText w.functionName),
      ("optimize", .bool w.optimize), ("tolerance", w.tolerance.setting fun x => .float x.val),
      ("distance", w.distance.setting fun m => .text m.name),
      ("language", Given.settingOrNull settingOfText w.language),
      ("theme", Given.settingOrNull .text w.theme)]

/-- What is said about the options of the display; the rest is left to the environment. -/
def display (w : Wishes) (coloured : Bool) : Fields :=
  let width : Option (Given Positive) → Setting := Given.settingOrNull fun n => .int n.val
  [("tab_width", width w.tabWidth), ("width", width w.width),
    ("line_numbers", (w.lineNumbers.map .bool).getD .null), ("color", .bool coloured),
    ("force_terminal", .bool (w.colour = .value .always))]

end Wishes

/-! ## Reading, comparing, showing -/

/-- The operand that stands for standard input. -/
def standardInput : Text := ['-']

/-- The code that an operand stands for. -/
def readOperand (w : Surroundings) (fs : Files) : Operand → Except Failure Text
  | .nothing => .error .noFileName
  | .value name =>
    if name = standardInput then
      match Text.Utf8.decode w.input with
      | .ok t => .ok (Text.unifyNewlines t)
      | .error bad => .error (.unreadableInput bad)
    else readCode fs name

/-- Reads the two codes of a request and compares them. The options are looked at before a code is
read. -/
def compared (w : Surroundings) (fs : Files) (coloured : Bool) (r : Request) : Noted Diff := do
  let o ← Noted.lift (r.wishes.comparison coloured)
  let code1 ← Noted.lift (readOperand w fs r.left)
  let code2 ← Noted.lift (readOperand w fs r.right)
  Compare.codes o none code1 code2

/-- The rows of the display of a diff on a stream, as they are written. -/
def shown (env : Environment) (s : Stream) (coloured : Bool) (wishes : Wishes) (d : Diff) :
    Noted (List Text) := do
  let o ← Noted.lift (env.resolve s (wishes.display coloured))
  Noted.note .environment ("Resolved render options: " ++ o.fields.describe "RenderOptions")
  let column ← Noted.lift (Layout.column o d env.spaces)
  Noted.note .display s!"Laying out {d.entries.length} entries with column width {column}"
  Noted.lift (painted env o s d)

/-- Whether a request for a display on a stream is answered in colour. -/
def isColoured (w : Surroundings) (stream : Stream) (r : Request) : Bool :=
  (r.wishes.colour.value?.getD .auto).applies (w.environment.reachesTerminal stream)

/-- What is said of two codes without a difference. -/
def noDifferences : String := "No differences found.\n"

/-- Answers a request for a display on a stream: the session afterwards and the rows to write. -/
def answer (w : Surroundings) (s : Session) (stream : Stream) (r : Request) :
    Session × Except Failure (List Text) :=
  let coloured := isColoured w stream r
  let comparison := compared w s.files coloured r
  let s := s.keep comparison.notes
  match comparison.result with
  | .error f => (s, .error f)
  | .ok d =>
    let s := if d.hasChanges then s else s.complain noDifferences
    let rows := shown w.environment stream coloured r.wishes d
    (s.keep rows.notes, rows.result)

/-! ## Runs -/

/-- What is recorded and what is said of a failure at the end of a run. Those that belong to no
category are reported as unexpected. -/
def lastWords (f : Failure) : String × String :=
  match f.category? with
  | some _ => ("Comparison failed", s!"Error: {f.message}\n")
  | none => ("Unexpected error", s!"Error comparing code: {f.message}\n")

/-- What is said of a file that was written. -/
def written (name : Text) : String := s!"Diff written to: {String.ofList name}\n"

/-- What is said of a file that cannot be written. -/
def notWritten (name : Text) (f : Failure) : String :=
  s!"Error: cannot write {String.ofList name}: {f.message}\n"

/-- Ends a run with a failure. -/
def giveUp (s : Session) (f : Failure) : Outcome :=
  ⟨f.status, (s.record ⟨Source.command.name, debug, (lastWords f).1⟩).complain (lastWords f).2⟩

/-- Writes the display to standard output. -/
def runToOutput (w : Surroundings) (s : Session) (r : Request) : Outcome :=
  match answer w s .standard r with
  | (s, .ok rows) => ⟨.success, s.print rows.flatten⟩
  | (s, .error f) => giveUp s f

/-- Ends a run that writes to a file with a failure. A name that is blocked, whatever it was needed
for, keeps the file from being written. -/
def giveUpFile (s : Session) (name : Text) (f : Failure) : Outcome :=
  match f with
  | .blocked .. => ⟨.badFile, s.complain (notWritten name f)⟩
  | f => giveUp s f

/-- Writes the display to a file. -/
def runToFile (w : Surroundings) (s : Session) (name : Text) (r : Request) : Outcome :=
  match s.files.forWriting name with
  | .error f => giveUpFile s name f
  | .ok steps =>
    match answer w { s with files := s.files.put steps [] } .buffer r with
    | (s, .ok rows) =>
      let s := { s with files := s.files.overwrite steps (Text.Utf8.encode rows.flatten) }
      ⟨.success, s.complain (written name)⟩
    | (s, .error f) => giveUpFile s name f

/-- Sets up the log as a request asks for it. -/
def setUp (s : Session) (r : Request) : Except Failure Session :=
  s.configure (levelOf (r.wishes.logLevel.setting .text)) r.wishes.logFile r.wishes.trace

/-- Writes the display to the file that a request names, or else to standard output. -/
def runToTarget (w : Surroundings) (s : Session) (r : Request) : Outcome :=
  match r.wishes.output with
  | none | some [] => runToOutput w s r
  | some name => runToFile w s name r

/-- Carries out a request. A log file that is not warned of but fails keeps the run from starting. -/
def carryOut (w : Surroundings) (s : Session) (r : Request) : Except Failure Outcome := do
  let s ← setUp s r
  if r.left = .value standardInput ∧ r.right = .value standardInput then
    return ⟨.badFile, s.complain "Error: only one of the two inputs can be read from stdin\n"⟩
  else return runToTarget w s r

/-- Runs the command with the words of its command line. -/
def run (w : Surroundings) (s : Session) (words : List Text) : Except Failure Outcome :=
  match readRequest words with
  | .ok r => carryOut w s r
  | .error .help => .ok ⟨.success, s⟩
  | .error (.usage message) =>
    .ok ⟨.unusable, s.complain s!"codediffs: error: {message}\n"⟩

end Collate.Command
