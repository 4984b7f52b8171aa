import Collate.Display.Environment
import Collate.Display.Layout
import Collate.Terminal.Paint

/-!
# Rendering

Writes the rows of a display to a sink, one write for each row with its newline. A sink may refuse a
write; what it took before stays written, and rendering stops with the sink's name.
-/

namespace Collate.Display

open Collate.Options Collate.Terminal

/-- What takes a display. -/
structure Sink where
  /-- The name of the sink in a failure. -/
  name : String := ""
  /-- What kind of stream it is. -/
  stream : Stream := .buffer
  /-- How many writes it takes before it refuses one; none, if it takes all. -/
  goodWrites : Option Nat := none

/-- Refuses a stream that no row can be written to. -/
def Stream.checkWritable : Stream → Except Failure Unit
  | .closed => .error .closedSink
  | .object => .error (.misuse .lacking)
  | _ => .ok ()

/-- The rows of a display as they are written to a stream, if they can be. -/
def painted (env : Environment) (o : DisplayOptions) (s : Stream) (d : Diff) :
    Except Failure (List Text) := do
  let rows ← Layout.rows o d env.spaces
  env.checkSize o s !rows.isEmpty
  if !rows.isEmpty then s.checkWritable
  return rows.map (paintRow (env.depth? o s))

/-- The sink after one more write, if it takes one. -/
def Sink.next? (sink : Sink) : Option Sink :=
  match sink.goodWrites with
  | none => some sink
  | some 0 => none
  | some (n + 1) => some { sink with goodWrites := some n }

/-- Writes texts one after the other up to the first one that the sink refuses: what the sink holds
afterwards, and whether it took them all. -/
def Sink.write : Sink → List Text → Text × Bool
  | _, [] => ([], true)
  | sink, t :: ts =>
    match sink.next? with
    | none => ([], false)
    | some sink =>
      let (written, all) := sink.write ts
      (t ++ written, all)

/-- Renders a diff to a sink: what the sink holds afterwards, and the failure if there was one. -/
def render (env : Environment) (o : DisplayOptions) (sink : Sink) (d : Diff) :
    Text × Except Failure Unit :=
  match painted env o sink.stream d with
  | .error f => ([], .error f)
  | .ok rows =>
    let (written, all) := sink.write rows
    (written, if all then .ok () else .error (.unwritable sink.name))

/-- A diff as it is written to a stream that takes all. -/
def renderTo (env : Environment) (o : DisplayOptions) (s : Stream) (d : Diff) :
    Except Failure Text :=
  (painted env o s d).map List.flatten

/-- Shows a diff on a stream with options from the environment for what is not given. Colours cannot
be forced on it. -/
def sideBySide (env : Environment) (s : Stream) (given : Fields) (d : Diff) :
    Except Failure Text := do
  if given.any (·.1 == "force_terminal") then throw (.misuse .wrongKind)
  let o ← env.resolve s given
  renderTo env o s d

/-- A diff in words: its display with the standard options and without colours. -/
def describe (env : Environment) (d : Diff) : Except Failure Text :=
  renderTo env { DisplayOptions.standard with colour := .bool false } .buffer d

end Collate.Display
