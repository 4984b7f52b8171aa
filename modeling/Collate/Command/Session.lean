import Collate.Journal.Log
import Collate.Storage.Files
import Collate.Text.Utf8

/-!
# Sessions

What a run of the command leaves behind: the files, the log with its settings, and what was written
to standard output and to standard error. Log records go to standard error and to the end of the log
file; setting up a log again closes the one before it.
-/

namespace Collate.Command

open Collate.Journal Collate.Storage

/-- The state of a run. -/
structure Session where
  /-- The files. -/
  files : Files
  /-- The log. -/
  log : Log := {}
  /-- What was written to standard output. -/
  output : Text := []
  /-- What was written to standard error. -/
  errors : Text := []

namespace Session

/-- Writes a text to standard error. -/
def complain (s : Session) (message : String) : Session :=
  { s with errors := s.errors ++ message.toList }

/-- Writes a text to standard output. -/
def print (s : Session) (t : Text) : Session := { s with output := s.output ++ t }

/-- Adds a text at the end of the log file, if there is one. -/
def logToFile (s : Session) (t : Text) : Session :=
  match s.log.file with
  | some steps =>
    if t = [] then s else { s with files := s.files.append steps (Text.Utf8.encode t) }
  | none => s

/-- Gives a record to the log. -/
def record (s : Session) (r : Record) : Session :=
  let (console, file) := s.log.lines r
  { s.logToFile file with errors := s.errors ++ console }

/-- Gives notes to the log. -/
def keep (s : Session) (notes : List Note) : Session :=
  notes.foldl (fun s n => s.record n.record) s

/-- Gives a record of the package as a whole to the log. -/
def recordAtLevel (s : Session) (level : Int) (message : String) : Session :=
  s.record ⟨Source.package.name, level, message⟩

/-- Lets the log write to a file as well. The file is made if it is not there. A name that is blocked
is warned of. -/
def openLog (s : Session) (name : Text) : Except Failure Session :=
  let full := ((Path.ofText name).fromRoot s.files.place).written
  match s.files.forWriting full with
  | .ok steps =>
    let s := { s with
      files := s.files.append steps []
      log := { s.log with file := some steps } }
    .ok (s.recordAtLevel debug s!"Logging to file: {String.ofList name}")
  | .error f =>
    match f with
    | .blocked .. =>
      .ok (s.recordAtLevel warning
        s!"Could not create log file {String.ofList name}: {f.message}")
    | f => .error f

/-- Sets up the log with a level, a file unless its name is empty, and short or full records. -/
def configure (s : Session) (level : Int) (file : Option Text) (inFull : Bool) :
    Except Failure Session :=
  let log : Log :=
    { level, console := true, propagates := false, form := if inFull then .full else .short,
      time := s.log.time }
  let s := { s with log }
  match file with
  | none | some [] => .ok s
  | some name => s.openLog name

end Session

end Collate.Command
