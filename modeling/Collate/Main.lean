import Collate.Command.Run
import Std.Time.Format

/-!
# The command

Gathers what a run needs to know: the words of the command line, the variables, standard input where
it is read, and the files that the words mention. After the run it writes back the files that have
changed and what was written to the two streams. All decisions are taken by the run.
-/

namespace Collate.Main

open Collate.Command Collate.Storage

/-- Reads what is left of a stream. -/
partial def readAll (s : IO.FS.Stream) (soFar : ByteArray) : IO ByteArray := do
  let chunk ← s.read 65536
  if chunk.isEmpty then return soFar else readAll s (soFar ++ chunk)

/-- What stands at the steps on the way to a path, and at its end. -/
def nodesAt (place : List Text) (p : Path) : IO (List (List Text × Node)) := do
  let directory ← IO.currentDir
  let found ← (List.range' 1 p.steps.length).filterMapM fun n => do
    let start : Path := { p with steps := p.steps.take n }
    let name := directory / String.ofList start.written
    let steps := (start.fromRoot place).steps
    if ← name.isDir then return some (steps, Node.directory)
    else if ← name.pathExists then
      return some (steps, Node.file (← IO.FS.readBinFile name).data.toList)
    else return none
  return found

/-- The files that a command line mentions. -/
def mentioned (words : List Text) : IO Files := do
  let place := (Path.ofText (← IO.currentDir).toString.toList).steps
  let names :=
    match readRequest words with
    | .ok r => r.names
    | .error _ => []
  let nodes ← names.mapM fun name => nodesAt place (Path.ofText name)
  return ⟨place, nodes.flatten⟩

/-- Writes the files that a run has changed. -/
def writeBack (before after : Files) : IO Unit :=
  after.entries.forM fun (steps, node) => do
    match node with
    | .file bytes =>
      if before.entries.lookup steps != some node then
        let path : Path := ⟨1, steps⟩
        IO.FS.writeBinFile (String.ofList path.written) ⟨bytes.toArray⟩
    | .directory => pure ()

/-- The variables that matter and have a value. -/
def bindings : IO (List (String × String)) :=
  Display.Environment.variableNames.filterMapM fun name => do
    return (← IO.getEnv name).map fun value => (name, value)

/-- The time as a log writes it. -/
def time : IO String := do
  return (← Std.Time.PlainDateTime.now).format "uuuu-MM-dd HH:mm:ss"

/-- Runs the command with the words of its command line and gives the number of its status. -/
def perform (words : List Text) : IO Nat := do
  let stdin ← IO.getStdin
  let stdout ← IO.getStdout
  let stderr ← IO.getStderr
  let files ← mentioned words
  let input ← if words.contains standardInput then readAll stdin .empty else pure .empty
  let environment := { bindings := ← bindings, outputIsTerminal := ← stdout.isTty }
  match run ⟨environment, input.data.toList⟩ { files, log := { time := ← time } } words with
  | .ok outcome =>
    writeBack files outcome.session.files
    stdout.putStr (String.ofList outcome.session.output)
    stderr.putStr (String.ofList outcome.session.errors)
    return outcome.status.code
  | .error f =>
    stderr.putStr (f.message ++ "\n")
    return f.status.code

end Collate.Main

/-- The command. -/
def main (args : List String) : IO UInt32 := do
  return (← Collate.Main.perform (args.map String.toList)).toUInt32
