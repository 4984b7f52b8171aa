import Collate.Text.Basic

/-!
# Letter case

Which small letter and which capital stands for a letter where words of ASCII letters are compared
without regard to case. Three letters beyond ASCII have an ASCII letter for their other case.
-/

namespace Collate.Text

/-- A letter as a small one; the Kelvin sign is a capital K. -/
def small (c : Char) : Char := if c = '\u212a' then 'k' else c.toLower

/-- A letter as a capital; the dotless i and the long s have ASCII capitals. -/
def capital (c : Char) : Char :=
  if c = '\u0131' then 'I' else if c = '\u017f' then 'S' else c.toUpper

end Collate.Text
