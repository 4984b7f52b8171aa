import Collate.Number.Shortest
import Collate.Text.Quoted

/-!
# Settings

The value of an option as a caller gives it. An option may be given any value at all; what does not
fit is refused by name and value, so the value is kept as it came. Three readings of a setting
matter: as a condition (`holds`), as a number (`amount?`), and as text, either plain (`shown`) or as
it stands inside a list (`literal`). Numbers of all three kinds compare by value.
-/

namespace Collate

open Collate.Number

/-- A value given for an option. -/
inductive Setting
  /-- No value. -/
  | null
  /-- A truth value. -/
  | bool (b : Bool)
  /-- A whole number. -/
  | int (n : Int)
  /-- A double-precision number. -/
  | float (x : Binary64)
  /-- A text. -/
  | text (s : String)
  /-- A list of values. -/
  | list (items : List Setting)
  /-- Values under names, in the order given. -/
  | record (fields : List (String × Setting))

namespace Setting

instance : Inhabited Setting := ⟨.null⟩

/-! ## As text -/

mutual
/-- A setting as it is written inside a list or after "got": texts are quoted. -/
def literal : Setting → String
  | .null => "None"
  | .bool b => if b then "True" else "False"
  | .int n => toString n
  | .float x => String.ofList x.write
  | .text s => String.ofList (Text.quoted s.toList)
  | .list items => "[" ++ String.intercalate ", " (literals items) ++ "]"
  | .record fields => "\x7b" ++ String.intercalate ", " (literalFields fields) ++ "\x7d"
/-- The literals of a list. -/
def literals : List Setting → List String
  | [] => []
  | s :: rest => literal s :: literals rest
/-- The literals of a record, each after its quoted name. -/
def literalFields : List (String × Setting) → List String
  | [] => []
  | (name, s) :: rest =>
    (String.ofList (Text.quoted name.toList) ++ ": " ++ literal s) :: literalFields rest
end

/-- A setting as plain text: a text is itself, anything else its literal. -/
def shown : Setting → String
  | .text s => s
  | s => s.literal

/-! ## As a condition -/

/-- Whether a setting counts as true: all do but no value, false, zero and what is empty. -/
def holds : Setting → Bool
  | .null => false
  | .bool b => b
  | .int n => n != 0
  | .float x => !x.sameValue Binary64.zero
  | .text s => !s.isEmpty
  | .list items => !items.isEmpty
  | .record fields => !fields.isEmpty

/-! ## As a number -/

/-- A setting that is a number: a whole one, a truth value counting as 0 or 1, or a double. -/
inductive Amount
  /-- A whole number. -/
  | whole (n : Int)
  /-- A double-precision number. -/
  | real (x : Binary64)
  deriving DecidableEq

/-- The number that a setting is, if it is one. -/
def amount? : Setting → Option Amount
  | .bool b => some (.whole (if b then 1 else 0))
  | .int n => some (.whole n)
  | .float x => some (.real x)
  | _ => none

/-- Equality of numbers by value. -/
def Amount.same : Amount → Amount → Bool
  | .whole m, .whole n => m == n
  | .real x, .real y => x.sameValue y
  | .whole n, .real x | .real x, .whole n => x.value? == some (n : Rat)

/-- Whether a number lies between 0 and 1, both included. -/
def Amount.inUnit : Amount → Bool
  | .whole n => 0 ≤ n && n ≤ 1
  | .real x =>
    match x.value? with
    | some r => 0 ≤ r && r ≤ 1
    | none => false

/-- Whether a number is at most a double. -/
def Amount.atMost (bound : Binary64) : Amount → Bool
  | .whole n => bound.value?.any fun r => (n : Rat) ≤ r
  | .real x => x.le bound

/-! ## Equality -/

mutual
/-- Equality of settings: numbers by value whatever their kind, records without regard to order. -/
def same : Setting → Setting → Bool
  | .null, .null => true
  | .text s, .text t => s == t
  | .list xs, .list ys => sameItems xs ys
  | .record xs, .record ys => xs.length == ys.length && sameFields xs ys
  | x, y =>
    match x.amount?, y.amount? with
    | some a, some b => a.same b
    | _, _ => false
/-- Equality of lists, item by item. -/
def sameItems : List Setting → List Setting → Bool
  | [], [] => true
  | x :: xs, y :: ys => same x y && sameItems xs ys
  | _, _ => false
/-- Whether every field of one record has an equal field in another. -/
def sameFields : List (String × Setting) → List (String × Setting) → Bool
  | [], _ => true
  | (name, x) :: xs, ys =>
    (match ys.lookup name with
      | some y => same x y
      | none => false) && sameFields xs ys
end

/-- Whether a setting can be a key of a table: lists and records cannot. -/
def isKey : Setting → Bool
  | .list _ | .record _ => false
  | _ => true

/-- The name of the kind of a setting. -/
def kindName : Setting → String
  | .null => "NoneType"
  | .bool _ => "bool"
  | .int _ => "int"
  | .float _ => "float"
  | .text _ => "str"
  | .list _ => "list"
  | .record _ => "dict"

/-- The text that a setting is, if it is one. -/
def text? : Setting → Option String
  | .text s => some s
  | _ => none

end Setting

/-! ## Positive numbers -/

/-- A positive whole number. -/
abbrev Positive := { n : Nat // 0 < n }

/-- A whole number as a positive one, if it is. -/
def Positive.ofInt? (n : Int) : Option Positive :=
  if h : 0 < n then some ⟨n.toNat, Int.pos_iff_toNat_pos.1 h⟩ else none

end Collate
