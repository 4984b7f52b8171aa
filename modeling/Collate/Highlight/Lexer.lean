import Collate.Failure
import Collate.Highlight.Themes
import Collate.Terminal.Escape
import Collate.Text.Case
import Collate.Text.Lines

/-!
# Lexers

A lexer colours code for the terminal, line for line. What the colours are does not matter to a
comparison; that a line shows the same characters does. So a colouring lexer here puts every line
between one style escape and another, and the lexer for plain text leaves lines as they are.

Before it colours anything a lexer drops a byte order mark, makes every line end a newline and ends
the last line.

Lexers are looked up in a register that is not this library's and holds many more of them. Here are
those that code of some kind is coloured with and a few besides (`lexerNames`); every other name
counts as one of no lexer, also where the register has one.
-/

namespace Collate.Highlight

/-- Something that colours code. -/
abbrev Highlighter := Text → Text

/-- The lexers known here, by the names under which they are found. The register of all lexers has
more names; only these are told from names of no lexer. -/
def lexerNames : List String := ["llvm", "gas", "julia", "jl", "python", "text", "nasm"]

/-- A lexer with a theme, as they were asked for. -/
structure Lexer where
  /-- The name of the lexer. -/
  language : String
  /-- The theme of its colours; without one the sixteen basic colours are used. -/
  theme : Option String
  deriving DecidableEq, Repr

/-- The palette that a lexer's colours come from. -/
inductive Palette
  /-- The sixteen basic colours. -/
  | basic
  /-- The 256 colours that a theme needs. -/
  | extended
  deriving DecidableEq, Repr

namespace Lexer

/-- The name by which a lexer is found: capitals count as small letters. -/
def key (language : String) : String := String.ofList (language.toList.map Text.small)

/-- The palette of a lexer. -/
def palette (l : Lexer) : Palette := if l.theme.isSome then .extended else .basic

/-- The theme that a setting names. -/
def themeOf : Setting → Except Failure (Option String)
  | .null => .ok none
  | .text s => if themes.contains s then .ok (some s) else .error (.unknownTheme (.text s))
  | value => .error (.unknownTheme value)

/-- The lexer with a name and a theme. The lexer is looked up before the theme. -/
def find (language theme : Setting) : Except Failure Lexer := do
  match language with
  | .text name =>
    if lexerNames.contains (key name) then return ⟨name, ← themeOf theme⟩
    else throw (.unknownLexer language)
  | value => if value.holds then throw (.misuse .lacking) else throw (.unknownLexer value)

/-- The name of the lexer for a kind of code: the one asked for, or else that of the kind, if it has
one. -/
def nameFor? (kind : CodeType) (language : Setting) : Option Setting :=
  if language.holds then some language else kind.lexer?.map .text

/-- The lexer for a kind of code, if there is one. -/
def forKind (kind : CodeType) (language theme : Setting) : Except Failure (Option Lexer) :=
  match nameFor? kind language with
  | none => .ok none
  | some name => (find name theme).map some

/-- The lexer for the kind of code that a setting names, if there is one. -/
def forNamedKind (kind language theme : Setting) : Except Failure (Option Lexer) :=
  if kind.isKey then
    match kind.text?.bind CodeType.ofName? with
    | some t => forKind t language theme
    | none => .error (.unknownCodeType "code_type" kind)
  else .error (.misuse .wrongKind)

/-- A lexer in words. -/
def describe (l : Lexer) : String :=
  let theme := (l.theme.map Setting.text).getD .null
  s!"PygmentsHighlighter(language={(Setting.text l.language).literal}, theme={theme.literal})"

/-- Whether a lexer colours anything. -/
def colours (l : Lexer) : Bool := key l.language != "text"

/-- The escape that starts a coloured line. -/
def opening : Text := [Terminal.escapeChar, '[', '3', '6', 'm']

/-- The escape that ends a coloured line. -/
def closing : Text := [Terminal.escapeChar, '[', '3', '9', 'm']

/-- Code as a lexer reads it: without its mark, with newlines for line ends and one at its end. -/
def prepare (code : Text) : Text :=
  let t := Text.unifyNewlines (Text.dropMark code)
  if t.getLast? = some '\n' then t else t ++ ['\n']

/-- Coloured code. No code stays no code. -/
def highlight (l : Lexer) : Highlighter
  | [] => []
  | code =>
    if l.colours then
      Text.unlines ((Text.splitOn '\n' (prepare code).dropLast).map fun line =>
        opening ++ line ++ closing)
    else prepare code

/-- Coloured lines, one for each line given. -/
def highlightLines (l : Lexer) : List Text → List Text
  | [] => []
  | lines => Text.splitLines (l.highlight (Text.unlines lines))

end Lexer

end Collate.Highlight
