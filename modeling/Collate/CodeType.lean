/-!
# Kinds of code

The five kinds of listing that can be compared. The kind decides which lexer colours a listing and
whether it holds generated names whose counters change from one compilation to the next.
-/

namespace Collate

/-- A kind of listing. -/
inductive CodeType
  /-- Any text. -/
  | text
  /-- Native assembly. -/
  | native
  /-- LLVM intermediate representation. -/
  | llvm
  /-- Typed intermediate representation. -/
  | typed
  /-- A printed syntax tree or source snippet. -/
  | ast
  deriving DecidableEq, Repr

namespace CodeType

/-- The name a caller gives for a kind. -/
def name : CodeType → String
  | .text => "text"
  | .native => "native"
  | .llvm => "llvm"
  | .typed => "typed"
  | .ast => "ast"

/-- All kinds, in the order in which they are offered. -/
def all : List CodeType := [.text, .native, .llvm, .typed, .ast]

/-- The kind of a name. -/
def ofName? (s : String) : Option CodeType := all.find? (·.name == s)

/-- The names on offer, as an error message lists them. -/
def choices : String := String.intercalate ", " (all.map name)

/-- The lexer that colours a kind, if one does. -/
def lexer? : CodeType → Option String
  | .text => none
  | .native => some "gas"
  | .llvm => some "llvm"
  | .typed | .ast => some "julia"

/-- Whether listings of this kind hold generated names. -/
def hasGeneratedNames : CodeType → Bool
  | .native | .llvm => true
  | _ => false

/-- Every kind is found under its name. -/
@[simp] theorem ofName?_name (t : CodeType) : ofName? t.name = some t := by
  cases t <;> decide

end CodeType

end Collate
