import Collate.Failure

/-!
# Named fields

Options come as values under names. A set of fields has a value for each of its names; other values
may be given for some of them, and a name that is none of them is refused.
-/

namespace Collate.Options

/-- Values under names, in a fixed order. -/
abbrev Fields := List (String × Setting)

namespace Fields

/-- The value of a field. -/
def get (fs : Fields) (name : String) : Setting := (fs.lookup name).getD .null

/-- Fields with the given values in place of their own. -/
def override (fs given : Fields) : Except Failure Fields :=
  if given.all fun g => fs.any fun f => f.1 == g.1 then
    .ok (fs.map fun f => (f.1, (given.lookup f.1).getD f.2))
  else .error (.misuse .wrongKind)

/-- Fields in words, as an options value of a kind shows itself. -/
def describe (kind : String) (fs : Fields) : String :=
  kind ++ "(" ++ String.intercalate ", " (fs.map fun f => f.1 ++ "=" ++ f.2.literal) ++ ")"

/-- Whether two sets of fields have equal values. -/
def same (fs gs : Fields) : Bool :=
  fs.length == gs.length && (fs.zip gs).all fun (f, g) => f.1 == g.1 && f.2.same g.2

end Fields

end Collate.Options
