import Collate.Diff.Entry
import Collate.Number.Reading
import Collate.Setting
import Collate.Storage.Obstacle
import Collate.Text.Utf8

/-!
# Failures

Every way in which a comparison or a rendering can fail, as the cause, with its wording in one
function (`Failure.message`). The failures that belong to this library fall into categories, and a
category has a more general one above it; how the command ends follows from the category.
The other failures are those of a call that makes no sense: a value of the wrong kind, a name that
is no field, an assignment to a finished options value.
-/

namespace Collate

/-! ## Exit statuses -/

/-- How the command ends. -/
inductive Status
  /-- As it should. -/
  | success
  /-- With a failure that has no status of its own. -/
  | failed
  /-- Without something that it needs to run, or with words that it does not understand. -/
  | unusable
  /-- With an option or argument out of its range. -/
  | badValue
  /-- With a file that cannot be used. -/
  | badFile
  /-- With a display that cannot be produced. -/
  | badRendering
  deriving DecidableEq, Repr

/-- The number of a status. -/
def Status.code : Status → Nat
  | success => 0
  | failed => 1
  | unusable => 2
  | badValue => 3
  | badFile => 4
  | badRendering => 7

/-! ## Categories -/

/-- The categories of failure that a caller can tell apart. -/
inductive Category
  /-- Any failure of the library. -/
  | general
  /-- An option or argument out of its range. -/
  | validation
  /-- A coloured listing that is not its plain listing. -/
  | highlightMismatch
  /-- Entries that do not rebuild both listings. -/
  | brokenDiff
  /-- A file that cannot be used. -/
  | file
  /-- A file that is not there. -/
  | missingFile
  /-- A display that cannot be produced. -/
  | rendering
  /-- A display that cannot be written out. -/
  | outputWrite
  deriving DecidableEq, Repr

namespace Category

/-- A category and those above it, the most general last. -/
def ancestry : Category → List Category
  | .general => [.general]
  | .validation => [.validation, .general]
  | .highlightMismatch => [.highlightMismatch, .validation, .general]
  | .brokenDiff => [.brokenDiff, .general]
  | .file => [.file, .general]
  | .missingFile => [.missingFile, .file, .general]
  | .rendering => [.rendering, .general]
  | .outputWrite => [.outputWrite, .rendering, .general]

/-- How the command ends after a failure: as the most special category says that says anything. -/
def status (c : Category) : Status :=
  if .validation ∈ c.ancestry then .badValue
  else if .file ∈ c.ancestry then .badFile
  else if .rendering ∈ c.ancestry then .badRendering
  else .failed

end Category

/-! ## Causes -/

/-- What kept a file from being read or written. -/
inductive Trouble
  /-- The bytes are no text. -/
  | undecodable (bad : Text.Utf8.BadSequence)
  /-- The sink refuses to take more. -/
  | refused
  /-- Trouble of a caller's own, by the name of its kind. -/
  | foreign (kind : String)
  deriving DecidableEq

/-- A call that makes no sense. -/
inductive Misuse
  /-- A value of a kind that the operation does not take, or a field that does not exist. -/
  | wrongKind
  /-- A value that is compared with a number and is none. -/
  | incomparable (value : Setting)
  /-- A value that is looked up in a table and cannot be a key. -/
  | noKey (value : Setting)
  /-- A value that lacks the operation asked of it. -/
  | lacking
  /-- An assignment to a finished options value. -/
  | readOnly

/-- The wording of a call that makes no sense, where it has one. -/
def Misuse.message : Misuse → String
  | incomparable value => s!"'<=' not supported between instances of 'float' and '{value.kindName}'"
  | noKey value => s!"unhashable type: '{value.kindName}'"
  | wrongKind | lacking | readOnly => ""

/-- A cause of failure. -/
inductive Failure
  /-- A width that is no positive whole number. -/
  | notPositive (name : String) (value : Setting)
  /-- A tolerance outside the range from 0 to 1. -/
  | toleranceOutside (value : Setting)
  /-- A kind of code that does not exist, given for a parameter. -/
  | unknownCodeType (parameter : String) (value : Setting)
  /-- A kind of code other than the one that the comparison is for. -/
  | conflictingCodeType (requested : Setting) (expected : CodeType)
  /-- A distance metric that does not exist. -/
  | unknownMetric (value : Setting)
  /-- A lexer that does not exist. -/
  | unknownLexer (value : Setting)
  /-- A theme that does not exist. -/
  | unknownTheme (value : Setting)
  /-- No lead to look for in generated names. -/
  | noLeads
  /-- A function name that no generated name can hold. -/
  | badFunctionName (value : Setting)
  /-- A line that holds a newline. -/
  | newlineInLine (index : Nat) (line : Text)
  /-- Coloured and plain lines differ in number. -/
  | lineCount (highlighted plain : Nat)
  /-- A coloured line is not its plain line. -/
  | lineMismatch (index : Nat) (plain : Text)
  /-- The entries do not rebuild the left listing. -/
  | leftNotRebuilt (lines : Nat)
  /-- The entries do not rebuild the right listing. -/
  | rightNotRebuilt (lines : Nat)
  /-- A file that is not there. -/
  | missingFile (path : String)
  /-- A file that cannot be read as text. -/
  | unreadable (path : String) (bad : Text.Utf8.BadSequence)
  /-- A sink that refuses what is written to it. -/
  | unwritable (sink : String)
  /-- Standard input that cannot be read as text. -/
  | unreadableInput (bad : Text.Utf8.BadSequence)
  /-- No name where that of a file is needed. -/
  | noFileName
  /-- A name that cannot be opened as a file. -/
  | blocked (obstacle : Storage.Obstacle) (name : Text)
  /-- A name with a null character. -/
  | nullInName
  /-- Digits of which some are not decimal, where a whole number is needed. -/
  | notWhole (digits : Text)
  /-- A whole number with too many digits. -/
  | tooManyDigits (count : Nat)
  /-- More spaces than a text can count. -/
  | tooManySpaces
  /-- More spaces than there is memory for. -/
  | noMemory
  /-- A sink that is closed. -/
  | closedSink
  /-- References that do not fit a tag. -/
  | badReferences (tag : Tag) (left right : Option Int)
  /-- A value that names no tag. -/
  | unknownTag (value : Setting)
  /-- A command line argument that is refused, with the reason. -/
  | badArgument (reason : String)
  /-- A call that makes no sense. -/
  | misuse (kind : Misuse)

/-! ## Reports -/

/-- A failure of the library as a caller sees it: its category, its message and what it concerns.
The details that a category does not have are `null`. -/
structure Report where
  /-- The category. -/
  category : Category
  /-- The message. -/
  message : Setting
  /-- What lay behind it. -/
  trouble : Option Trouble := none
  /-- The name of the refused parameter. -/
  parameter : Setting := .null
  /-- The refused value. -/
  value : Setting := .null
  /-- The index of the line concerned. -/
  line : Setting := .null
  /-- The file concerned. -/
  path : Setting := .null
  /-- The stage of rendering concerned. -/
  stage : Setting := .null

namespace Failure

/-- The text of an optional reference in a message. -/
private def showReference : Option Int → String
  | some n => toString n
  | none => "None"

/-- The wording of a cause. -/
def message : Failure → String
  | notPositive name value => s!"{name} must be a positive integer, got {value.literal}"
  | toleranceOutside value => s!"tolerance must be between 0 and 1, got {value.shown}"
  | unknownCodeType _ value =>
    s!"Unknown code type: {value.shown}. Must be one of: {CodeType.choices}"
  | conflictingCodeType requested expected =>
    s!"Conflicting code type: {requested.shown} passed to the {expected.name} comparison"
  | unknownMetric value =>
    s!"Unknown distance metric: {value.shown}. Must be one of: levenshtein, difflib"
  | unknownLexer value => s!"Unknown Pygments lexer: {value.shown}"
  | unknownTheme value => s!"Unknown Pygments theme: {value.shown}"
  | noLeads => "At least one module name prefix is required"
  | badFunctionName value =>
    s!"Invalid function name for module name normalization: {value.literal}"
  | newlineInLine index _ => s!"Line {index + 1} contains a newline"
  | lineCount highlighted plain =>
    s!"Highlighted code has {highlighted} lines but plain code has {plain} lines"
  | lineMismatch index plain =>
    s!"Highlighted line {index + 1} does not match plain line: {String.ofList (Text.quoted plain)}"
  | leftNotRebuilt lines => s!"Diff entries do not reconstruct the left code ({lines} lines)"
  | rightNotRebuilt lines => s!"Diff entries do not reconstruct the right code ({lines} lines)"
  | missingFile path => s!"File not found: {path}"
  | unreadable path bad => s!"Cannot read {path}: {bad.message}"
  | unwritable sink => s!"Failed to write output file: {sink}"
  | unreadableInput bad => bad.message
  | noFileName => "expected str, bytes or os.PathLike object, not list"
  | blocked obstacle name => obstacle.describe name
  | nullInName => "embedded null byte"
  | notWhole digits =>
    s!"invalid literal for int() with base 10: {String.ofList ((Text.quoted digits).take 200)}"
  | tooManyDigits count =>
    s!"Exceeds the limit ({Number.mostDigits} digits) for integer string conversion: value has " ++
      s!"{count} digits; use sys.set_int_max_str_digits() to increase the limit"
  | tooManySpaces => "cannot fit 'int' into an index-sized integer"
  | noMemory => ""
  | closedSink => "I/O operation on closed file"
  | badReferences tag left right =>
    s!"Invalid line references for {tag.name} entry: left={showReference left}, " ++
      s!"right={showReference right}"
  | unknownTag value => s!"{value.literal} is not a valid DiffTag"
  | badArgument reason => reason
  | misuse kind => kind.message

/-- The category of a failure of the library. -/
def category? : Failure → Option Category
  | notPositive .. | toleranceOutside _ | unknownCodeType .. | conflictingCodeType ..
  | unknownMetric _ | unknownLexer _ | unknownTheme _ | noLeads | badFunctionName _
  | newlineInLine .. => some .validation
  | lineCount .. | lineMismatch .. => some .highlightMismatch
  | leftNotRebuilt _ | rightNotRebuilt _ => some .brokenDiff
  | missingFile _ => some .missingFile
  | unreadable .. => some .file
  | unwritable _ => some .outputWrite
  | unreadableInput _ | noFileName | blocked .. | nullInName | notWhole _ | tooManyDigits _
  | tooManySpaces | noMemory | closedSink | badReferences .. | unknownTag _ | badArgument _
  | misuse _ => none

/-- The parameter that a failure names and the value that it refuses. -/
def parameter? : Failure → Option (String × Setting)
  | notPositive name value => some (name, value)
  | toleranceOutside value => some ("tolerance", value)
  | unknownCodeType parameter value => some (parameter, value)
  | conflictingCodeType requested _ => some ("code_type", requested)
  | unknownMetric value => some ("distance", value)
  | unknownLexer value => some ("language", value)
  | unknownTheme value => some ("theme", value)
  | noLeads => some ("prefixes", .null)
  | badFunctionName value => some ("function_name", value)
  | newlineInLine _ line => some ("lines", .text (String.ofList line))
  | lineCount .. => some ("highlighted", .null)
  | lineMismatch index _ => some ("highlighted", .int index)
  | _ => none

/-- What lay behind a failure. -/
def trouble? : Failure → Option Trouble
  | unreadable _ bad => some (.undecodable bad)
  | unwritable _ => some .refused
  | _ => none

/-- The report of a failure of the library. -/
def report? (f : Failure) : Option Report :=
  f.category?.map fun category =>
    { category
      message := .text f.message
      trouble := f.trouble?
      parameter := (f.parameter?.map fun p => .text p.1).getD .null
      value := (f.parameter?.map (·.2)).getD .null
      line := match f with | lineMismatch index _ => .int index | _ => .null
      path :=
        match f with
        | missingFile path | unreadable path _ | unwritable path => .text path
        | _ => .null
      stage := match f with | unwritable _ => .text "file_write" | _ => .null }

/-- How the command ends after a failure. -/
def status (f : Failure) : Status := (f.category?.map Category.status).getD .failed

end Failure

/-! ## Steps that may fail -/

/-- A step succeeds exactly when it leaves a value. -/
theorem toOption_eq_some_iff {ε α : Type} {x : Except ε α} {a : α} :
    x.toOption = some a ↔ x = .ok a := by
  constructor
  · intro h
    cases x with
    | ok b =>
      cases h
      rfl
    | error e => cases h
  · rintro rfl
    rfl

/-- A step succeeds with something exactly when it leaves a value. -/
theorem isSome_toOption_iff {ε α : Type} {x : Except ε α} :
    x.toOption.isSome = true ↔ ∃ a, x = .ok a := by
  simp only [Option.isSome_iff_exists, toOption_eq_some_iff]

/-- A step leaves a value with some property exactly when it succeeds with such a value. -/
theorem toOption_map_eq_some_iff {ε α β : Type} {x : Except ε α} {f : α → β} {b : β} :
    x.toOption.map f = some b ↔ ∃ a, x = .ok a ∧ f a = b := by
  simp only [Option.map_eq_some_iff, toOption_eq_some_iff]

/-- One step after another succeeds exactly when both do. -/
theorem bind_eq_ok_iff {α β : Type} {x : Except Failure α} {f : α → Except Failure β} {b : β} :
    (x >>= f) = .ok b ↔ ∃ a, x = .ok a ∧ f a = .ok b := by
  constructor
  · intro h
    cases x with
    | ok a => exact ⟨a, rfl, h⟩
    | error e => cases h
  · rintro ⟨a, rfl, h⟩
    exact h

/-- One step after another fails when the first does, or the second after it. -/
theorem bind_eq_error_iff {α β : Type} {x : Except Failure α} {f : α → Except Failure β}
    {e : Failure} :
    (x >>= f) = .error e ↔ x = .error e ∨ ∃ a, x = .ok a ∧ f a = .error e := by
  constructor
  · intro h
    cases x with
    | ok a => exact .inr ⟨a, rfl, h⟩
    | error e' =>
      cases h
      exact .inl rfl
  · rintro (rfl | ⟨a, rfl, h⟩)
    · rfl
    · exact h

end Collate
