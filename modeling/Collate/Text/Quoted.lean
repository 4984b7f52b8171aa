import Collate.Text.Basic
import Collate.Text.Printable

/-!
# Quoted texts

How a text is written inside a message that names it as a value: between quotes, with the characters
that cannot be shown written as escapes. The quote is the single one, unless the text holds a single
quote and no double one.
-/

namespace Collate.Text

/-- `digits` hexadecimal digits of a code point, with zeros in front. -/
def hexadecimal (digits n : Nat) : Text :=
  let shown := Nat.toDigits 16 n
  List.replicate (digits - shown.length) '0' ++ shown

/-- One character of a quoted text. -/
def quoteChar (quote c : Char) : Text :=
  if c = quote || c = '\\' then ['\\', c]
  else if c = '\t' then ['\\', 't']
  else if c = '\n' then ['\\', 'n']
  else if c = '\r' then ['\\', 'r']
  else if isPrintable c then [c]
  else if c.toNat < 0x100 then '\\' :: 'x' :: hexadecimal 2 c.toNat
  else if c.toNat < 0x10000 then '\\' :: 'u' :: hexadecimal 4 c.toNat
  else '\\' :: 'U' :: hexadecimal 8 c.toNat

/-- A text as a quoted value. -/
def quoted (t : Text) : Text :=
  let quote := if t.contains '\'' && !t.contains '"' then '"' else '\''
  quote :: t.flatMap (quoteChar quote) ++ [quote]

end Collate.Text
