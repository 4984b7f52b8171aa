import Collate.Failure
import Collate.Storage.Path

/-!
# Files

Files as a value: which names there are, and the bytes under them. A path is walked from the root,
or from the working directory, on; each step but the last has to be a directory, and a step up leads
back to where the one before it came from. The directory above the root is the root.

Main statements: after bytes are put under a name they are there (`lookup_put_self`), and nothing
else has changed (`lookup_put_of_ne`).
-/

namespace Collate.Storage

/-- What stands under a name. -/
inductive Node
  /-- A file with its bytes. -/
  | file (bytes : List UInt8)
  /-- A directory. -/
  | directory
  deriving DecidableEq, Repr

/-- Files by the steps that lead to them from the root. -/
structure Files where
  /-- The steps to the working directory. -/
  place : List Text
  /-- The names in use and what stands under them. -/
  entries : List (List Text × Node)
  deriving Repr

namespace Files

/-! ## Walking -/

/-- The most bytes of a step. -/
def longestStep : Nat := 255

/-- The most bytes of a path. -/
def longestPath : Nat := 4095

/-- Whether a text has more than so many bytes. -/
def isLonger (t : Text) (most : Nat) : Bool := most < (Text.Utf8.encode t).length

/-- What stands at some steps. A name with steps below it, and one on the way to the working
directory, is a directory. -/
def node? (fs : Files) (steps : List Text) : Option Node :=
  if steps.isPrefixOf fs.place then some .directory
  else
    match fs.entries.lookup steps with
    | some n => some n
    | none =>
      if fs.entries.any fun e => steps.isPrefixOf e.1 then some .directory else none

/-- Walks into the directory at the end of some steps; `done` holds the steps taken, the last one
first. -/
def enter (fs : Files) (done : List Text) : List Text → Except Obstacle (List Text)
  | [] => .ok done
  | step :: rest =>
    if step = Path.here then fs.enter done rest
    else if step = Path.up then fs.enter done.tail rest
    else if isLonger step longestStep then .error .tooLong
    else
      match fs.node? (step :: done).reverse with
      | some .directory => fs.enter (step :: done) rest
      | some (.file _) => .error .notDirectory
      | none => .error .missing

/-- Walks along a text: to the directory that holds the last step, and to that step, if the text
does not end in a directory by its form. -/
def walk (fs : Files) (fromRoot : Bool) (steps : List Text) :
    Except Obstacle (List Text × Option Text) := do
  let parent ← fs.enter (if fromRoot then [] else fs.place.reverse) steps.dropLast
  match steps.getLast? with
  | none => return (parent, none)
  | some step =>
    if step = Path.here ∨ step = Path.up then return (parent, none) else return (parent, some step)

/-- What stands at the end of a path. -/
def find (fs : Files) (p : Path) : Except Obstacle Node := do
  if isLonger p.written longestPath then throw .tooLong
  match ← fs.walk p.isAbsolute p.steps with
  | (_, none) => return .directory
  | (parent, some step) =>
    if isLonger step longestStep then throw .tooLong
    match fs.node? (step :: parent).reverse with
    | some n => return n
    | none => throw .missing

/-- The steps of the file that a text names for writing: one that is there, or a free name. A slash
at the end is an obstacle whatever stands there. -/
def target (fs : Files) (name : Text) : Except Obstacle (List Text) := do
  if name = [] then throw .missing
  if isLonger name longestPath then throw .tooLong
  match ← fs.walk (name.head? == some '/') (Path.stepsOf name) with
  | (_, none) => throw .isDirectory
  | (parent, some step) =>
    let steps := (step :: parent).reverse
    if Path.asksForDirectory name then throw .isDirectory
    if isLonger step longestStep then throw .tooLong
    if fs.node? steps = some .directory then throw .isDirectory
    return steps

/-- The bytes of the file that a path leads to. -/
def read (fs : Files) (p : Path) : Except Failure (List UInt8) :=
  if '\x00' ∈ p.written then .error (.missingFile (String.ofList p.written))
  else
    match fs.find p with
    | .ok (.file bytes) => .ok bytes
    | .error .tooLong => .error (.blocked .tooLong p.written)
    | _ => .error (.missingFile (String.ofList p.written))

/-- The steps of the file that a text names for writing, or what is reported. -/
def forWriting (fs : Files) (name : Text) : Except Failure (List Text) :=
  if '\x00' ∈ name then .error .nullInName
  else (fs.target name).mapError fun o => .blocked o name

/-! ## Writing -/

/-- Entries with a file under a name, in the place of what stood there or else at the end. -/
def putEntry (steps : List Text) (bytes : List UInt8) :
    List (List Text × Node) → List (List Text × Node)
  | [] => [(steps, .file bytes)]
  | e :: rest =>
    if e.1 = steps then (steps, .file bytes) :: rest else e :: putEntry steps bytes rest

/-- Puts bytes under a name. -/
def put (fs : Files) (steps : List Text) (bytes : List UInt8) : Files :=
  { fs with entries := putEntry steps bytes fs.entries }

/-- The bytes under a name; none, if it is not that of a file. -/
def bytesAt (fs : Files) (steps : List Text) : List UInt8 :=
  match fs.node? steps with
  | some (.file bytes) => bytes
  | _ => []

/-- Adds bytes at the end of a file. -/
def append (fs : Files) (steps : List Text) (bytes : List UInt8) : Files :=
  fs.put steps (fs.bytesAt steps ++ bytes)

/-- Writes bytes over the start of a file; what it holds beyond them stays. -/
def overwrite (fs : Files) (steps : List Text) (bytes : List UInt8) : Files :=
  fs.put steps (bytes ++ (fs.bytesAt steps).drop bytes.length)

/-- What is put under a name is there. -/
@[simp] theorem lookup_put_self (fs : Files) (steps : List Text) (bytes : List UInt8) :
    (fs.put steps bytes).entries.lookup steps = some (.file bytes) := by
  show (putEntry steps bytes fs.entries).lookup steps = _
  induction fs.entries with
  | nil => simp [putEntry]
  | cons e rest ih =>
    obtain ⟨name, node⟩ := e
    by_cases h : name = steps
    · simp [putEntry, h]
    · simpa [putEntry, h, List.lookup_cons, beq_false_of_ne (Ne.symm h)] using ih

/-- Nothing else changes. -/
theorem lookup_put_of_ne (fs : Files) {steps other : List Text} (bytes : List UInt8)
    (h : other ≠ steps) : (fs.put steps bytes).entries.lookup other = fs.entries.lookup other := by
  show (putEntry steps bytes fs.entries).lookup other = _
  induction fs.entries with
  | nil => simp [putEntry, List.lookup_cons, beq_false_of_ne h]
  | cons e rest ih =>
    obtain ⟨name, node⟩ := e
    by_cases hn : name = steps
    · subst hn
      simp [putEntry, List.lookup_cons, beq_false_of_ne h]
    · by_cases ho : other = name
      · subst ho
        simp [putEntry, hn]
      · simpa [putEntry, hn, List.lookup_cons, beq_false_of_ne ho] using ih

end Files

end Collate.Storage
