import Collate.Journal.Note
import Collate.Setting
import Collate.Text.Case

/-!
# Logs

A log takes records of a level and a logger and passes on those that are at least at its own level.
A record is written as a line, short or in full. The full form starts with the time, which the log
is told and does not look up.

Loggers below the package's own belong to it. A log that has not been set up, and any logger that is
not the package's, leave warnings and worse to a last resort that writes the bare message.
-/

namespace Collate.Journal

/-! ## Levels -/

/-- The names of the levels that have one, the usual name of each first. -/
def levelNames : List (String × Int) :=
  [("CRITICAL", 50), ("ERROR", 40), ("WARNING", 30), ("INFO", 20), ("DEBUG", 10), ("NOTSET", 0),
    ("FATAL", 50), ("WARN", 30)]

/-- The level of warnings. -/
def warning : Int := 30

/-- The level of notes. -/
def debug : Int := 10

/-- The name of a level. -/
def levelName (level : Int) : String :=
  match levelNames.find? fun entry => entry.2 = level with
  | some (name, _) => name
  | none => s!"Level {level}"

/-- The level that a setting asks for: a number is a level, a name in any case is that level's, and
anything else asks for warnings. -/
def levelOf : Setting → Int
  | .int n => n
  | .bool b => if b then 1 else 0
  | value =>
    (levelNames.lookup (String.ofList (value.shown.toList.map Text.capital))).getD warning

/-! ## Records -/

/-- How a record is written. -/
inductive Form
  /-- The level and the message. -/
  | short
  /-- The time, the level, the logger and the message. -/
  | full
  deriving DecidableEq, Repr

/-- A record. -/
structure Record where
  /-- The name of the logger. -/
  logger : String
  /-- The level. -/
  level : Int
  /-- The message. -/
  message : String
  deriving DecidableEq, Repr

/-- The record of a note. -/
def Note.record (n : Note) : Record := ⟨n.source.name, debug, n.message⟩

/-- A record as a line. -/
def Record.line (time : String) (r : Record) : Form → Text
  | .short => (s!"{levelName r.level}: {r.message}\n").toList
  | .full => (s!"[{time}] [{levelName r.level}] [{r.logger}] {r.message}\n").toList

/-! ## Logs -/

/-- A log of the package. -/
structure Log where
  /-- The least level of a record that is passed on; zero leaves it to the surroundings. -/
  level : Int := 0
  /-- Whether the console gets a copy. -/
  console : Bool := false
  /-- The steps of the file that gets a copy, if one does. -/
  file : Option (List Text) := none
  /-- Whether records go on to the surroundings. -/
  propagates : Bool := true
  /-- How records are written. -/
  form : Form := .short
  /-- The time as it is written. -/
  time : String := ""

namespace Log

/-- The number of places that get a copy. -/
def handlers (log : Log) : Nat :=
  (if log.console then 1 else 0) + (if log.file.isSome then 1 else 0)

/-- Whether a logger is the package's own or below it. -/
def owns (logger : String) : Bool :=
  logger == Source.package.name || (Source.package.name ++ ".").toList.isPrefixOf logger.toList

/-- Whether a record is passed on. Levels of zero and below never are. -/
def passes (log : Log) (r : Record) : Bool :=
  let least := if owns r.logger && log.level ≠ 0 then log.level else warning
  0 < r.level && least ≤ r.level

/-- What a record adds to the console and to the file. -/
def lines (log : Log) (r : Record) : Text × Text :=
  if !log.passes r then ([], [])
  else if owns r.logger && log.handlers ≠ 0 then
    let line := r.line log.time log.form
    (if log.console then line else [], if log.file.isSome then line else [])
  else if warning ≤ r.level then (r.message.toList ++ ['\n'], [])
  else ([], [])

end Log

end Collate.Journal
