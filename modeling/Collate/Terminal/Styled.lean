import Collate.Failure
import Collate.Terminal.Cells
import Collate.Terminal.Escape
import Collate.Terminal.Style

/-!
# Styled text

A styled text is a list of chunks, each a stretch of text in one style. Text that is put into a
styled text loses five control characters which would move a cursor; a line with escape sequences
becomes one chunk for every stretch between two of them.
-/

namespace Collate.Terminal

/-- A stretch of text in one style. -/
structure Chunk where
  /-- The characters. -/
  text : Text
  /-- Their style. -/
  style : Style
  deriving DecidableEq, Repr

/-- Text in stretches of one style each. -/
abbrev Styled := List Chunk

/-- The control characters that styled text does not keep: bell, backspace, vertical tab, form feed
and carriage return. -/
def isStripped (c : Char) : Bool :=
  c == '\x07' || c == '\x08' || c == '\x0b' || c == '\x0c' || c == '\r'

/-- Text without the control characters that styled text does not keep. -/
def withoutControls (t : Text) : Text := t.filter (!isStripped ·)

namespace Styled

/-- The characters of a styled text. -/
def plain (s : Styled) : Text := s.flatMap (·.text)

/-- The cells of a styled text. -/
def cells (s : Styled) : Nat := Terminal.cells s.plain

/-- Text in one style; nothing, if no character is left. -/
def ofText (style : Style) (t : Text) : Styled :=
  match withoutControls t with
  | [] => []
  | t => [⟨t, style⟩]

/-- The characters of unstyled text. -/
@[simp] theorem plain_ofText (style : Style) (t : Text) :
    (ofText style t).plain = withoutControls t := by
  unfold ofText
  split <;> simp_all [plain]

/-- Appending styled texts appends their characters. -/
@[simp] theorem plain_append (s t : Styled) : plain (s ++ t) = s.plain ++ t.plain := by
  simp [plain]

/-! ## Decoding -/

/-- The parameters of a style escape: numbers between semicolons, at most 255. An empty one is zero,
and one that is no number is left out. -/
def parameters (body : Text) : List Nat :=
  (Text.splitOn ';' body).filterMap fun p =>
    if p.all (between '0' '9') then
      some (min 255 (p.foldl (fun n c => 10 * n + (c.toNat - '0'.toNat)) 0))
    else none

/-- What stands after the last carriage return of a line. -/
def afterReturn (t : Text) : Text := (t.reverse.takeWhile (· ≠ '\r')).reverse

/-- The chunks of a line's tokens from a style on, and the style at its end. -/
def ofTokens (style : Style) : List Token → Styled × Style
  | [] => ([], style)
  | .text t :: rest =>
    let (chunks, last) := ofTokens style rest
    (ofText style t ++ chunks, last)
  | .escape (.style body) :: rest => ofTokens (style.applyCodes (parameters body)) rest
  | .escape _ :: rest => ofTokens style rest

/-- The chunks of a line with escape sequences, and the style at its end. -/
def ofLine (style : Style) (line : Text) : Styled × Style :=
  ofTokens style (tokens (afterReturn line))

/-- The chunks of lines, with a newline between neighbours; the style goes on from line to line. -/
def ofLines (style : Style) : List Text → Styled
  | [] => []
  | [line] => (ofLine style line).1
  | line :: rest =>
    let (chunks, last) := ofLine style line
    chunks ++ ⟨['\n'], .plain⟩ :: ofLines last rest

/-- The styled form of a text with escape sequences. -/
def decode (t : Text) : Styled := ofLines .plain (Text.splitOn '\n' t)

/-! ## Long numbers

A number in a style escape may have as many digits as any whole number that is read. One with more
makes the text unreadable, whatever its value.
-/

/-- The digits of the first number in a style escape that has too many. -/
def longParameter? (body : Text) : Option Nat :=
  ((Text.splitOn ';' body).find? fun p =>
    p.all (between '0' '9') && decide (Number.mostDigits < p.length)).map List.length

/-- The digits of the first number with too many of them in a token. -/
def longInToken? : Token → Option Nat
  | .escape (.style body) => longParameter? body
  | _ => none

/-- The digits of the first number with too many of them in the style escapes of a text. -/
def longNumber? (t : Text) : Option Nat :=
  (Text.splitOn '\n' t).findSome? fun line => (tokens (afterReturn line)).findSome? longInToken?

/-- Reads a text with escape sequences as a styled text. -/
def read (t : Text) : Except Failure Styled :=
  match longNumber? t with
  | some count => .error (.tooManyDigits count)
  | none => .ok (decode t)

/-! ## Runs -/

/-- The stretches of equal style, as long as they can be. -/
def runs : Styled → Styled
  | [] => []
  | c :: rest =>
    match runs rest with
    | d :: more => if c.style = d.style then ⟨c.text ++ d.text, d.style⟩ :: more else c :: d :: more
    | [] => [c]

end Styled

/-- The characters that a line with escape sequences shows, if it can be read. -/
def readPlain (line : Text) : Except Failure Text := (Styled.read line).map Styled.plain

end Collate.Terminal
