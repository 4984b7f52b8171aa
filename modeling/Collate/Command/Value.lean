import Collate.Highlight.Themes
import Collate.Number.Reading
import Collate.Similarity.Metric

/-!
# Values of the command line

How the values that follow switches are read: positive whole numbers, tolerances, themes and choices
from a list. A value that is refused is refused with a reason in words, and a theme that does not
exist with the names of themes that look like it.

The mark that divides switches from values may itself stand where a value does. It is taken out, so
that nothing is left in the value's place; the options show that as an empty list.
-/

namespace Collate.Command

open Collate.Highlight Collate.Number Collate.Similarity

/-- A tolerance from 0 to 1. -/
abbrev Tolerance := { x : Binary64 // checkTolerance (.float x) = .ok () }

/-- What is left in a value's place. -/
inductive Given (α : Type)
  /-- Nothing. -/
  | nothing
  /-- A value. -/
  | value (a : α)
  deriving DecidableEq, Repr

namespace Given

variable {α : Type}

/-- The value, if there is one. -/
def value? : Given α → Option α
  | nothing => none
  | value a => some a

/-- What is given as an option. -/
def setting (f : α → Setting) : Given α → Setting
  | nothing => .list []
  | value a => f a

/-- What may be given, as an option. -/
def settingOrNull (f : α → Setting) : Option (Given α) → Setting
  | none => .null
  | some g => g.setting f

end Given

/-- Refuses a value with a reason. -/
def refuse {α : Type} (reason : String) : Except Failure α := .error (.badArgument reason)

/-- Reads a positive whole number. -/
def readPositive (t : Text) : Except Failure Positive :=
  match readInt? t with
  | none => refuse s!"must be an integer, got '{String.ofList t}'"
  | some n =>
    match Positive.ofInt? n with
    | some p => .ok p
    | none => refuse s!"must be positive, got {n}"

/-- Reads a tolerance. -/
def readTolerance (t : Text) : Except Failure Tolerance :=
  match readDecimal? t with
  | none => refuse s!"tolerance must be a number, got '{String.ofList t}'"
  | some x =>
    match h : checkTolerance (.float x) with
    | .ok () => .ok ⟨x, h⟩
    | .error f => refuse f.message

/-! ## Themes -/

/-- How alike a theme and a name have to be for the theme to be suggested. -/
def leastLikeness : Rat := 3 / 5

/-- How many themes are suggested at most. -/
def mostSuggestions : Nat := 3

/-- The themes that look most like a name. Of themes that do so equally, those later in the alphabet
are kept. -/
def nearestThemes (name : Text) : List String :=
  let alike := themes.map fun t => (t, blockRatio t.toList name)
  let near := alike.reverse.filter fun (_, ratio) => leastLikeness ≤ ratio
  ((near.mergeSort fun a b => b.2 ≤ a.2).take mostSuggestions).map (·.1)

/-- The themes to suggest in place of a name, in alphabetical order. -/
def suggestions (name : Text) : List String :=
  let nearest := nearestThemes name
  themes.filter nearest.contains

/-- Reads the name of a theme. -/
def readTheme (t : Text) : Except Failure String :=
  let name := String.ofList t
  if themes.contains name then .ok name
  else
    let hint :=
      match suggestions t with
      | [] => ""
      | names => "Did you mean: " ++ String.intercalate ", " names ++ "? "
    refuse
      s!"Invalid Pygments theme '{name}'. {hint}See https://pygments.org/styles/ for full list."

/-! ## Choices -/

/-- A text in quotes. -/
def inQuotes (t : Text) : String := String.ofList (Text.quoted t)

/-- Reads one of several names. -/
def readChoice {α : Type} (all : List α) (name : α → String) (t : Text) : Except Failure α :=
  match all.find? fun a => (name a).toList == t with
  | some a => .ok a
  | none =>
    let names := String.intercalate ", " (all.map fun a => inQuotes (name a).toList)
    refuse s!"invalid choice: {inQuotes t} (choose from {names})"

end Collate.Command
