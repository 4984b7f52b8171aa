import Collate.Number.Binary64
import Collate.Text.Basic
import Collate.Text.Blank
import Collate.Text.Digit

/-!
# Reading numbers

Numbers as people type them: with blanks around, a sign, digits of any script and single underscores
between digits. A whole number and a decimal number are read by two grammars of their own; the
decimal one also knows the words for infinity and for what is not a number.
-/

namespace Collate.Number

open Collate.Text

/-- Whether a character may stand around a number: the blanks do, but not the four separators of
files, groups, records and units. -/
def surrounds (c : Char) : Bool := isBlank c && !('\x1c' ≤ c && c ≤ '\x1f')

/-- A sign in front: whether it is a minus, and what follows. -/
def readSign : Text → Bool × Text
  | '-' :: t => (true, t)
  | '+' :: t => (false, t)
  | t => (false, t)

/-- Digits with single underscores between them, from the front: their values and what follows. An
underscore that no digit follows is left where it stands. -/
def readDigits : Text → List Nat × Text
  | [] => ([], [])
  | c :: t =>
    match digitValue? c with
    | none => ([], c :: t)
    | some d =>
      match t with
      | '_' :: e :: rest =>
        match digitValue? e with
        | some _ =>
          let (ds, rest) := readDigits (e :: rest)
          (d :: ds, rest)
        | none => ([d], t)
      | t =>
        let (ds, rest) := readDigits t
        (d :: ds, rest)

/-- The number that decimal digits stand for. -/
def digitsValue (ds : List Nat) : Nat := ds.foldl (fun n d => 10 * n + d) 0

/-- The most digits that a whole number may have. -/
def mostDigits : Nat := 4300

/-- Reads a whole number. -/
def readInt? (t : Text) : Option Int :=
  let (negative, body) := readSign (Text.trim surrounds t)
  match readDigits body with
  | ([], _) => none
  | (ds, []) =>
    if mostDigits < ds.length then none
    else some (if negative then -(digitsValue ds : Int) else (digitsValue ds : Int))
  | _ => none

/-- The exponent after `e` or `E`; zero where there is none. -/
def readExponent? : Text → Option Int
  | [] => some 0
  | c :: t =>
    if c = 'e' || c = 'E' then
      let (negative, body) := readSign t
      match readDigits body with
      | ([], _) => none
      | (ds, []) => some (if negative then -(digitsValue ds : Int) else (digitsValue ds : Int))
      | _ => none
    else none

/-- Reads an unsigned decimal number written in digits. -/
def readDecimalBody? (negative : Bool) (body : Text) : Option Binary64 :=
  let (whole, rest) := readDigits body
  let (places, rest) :=
    match rest with
    | '.' :: t => readDigits t
    | t => ([], t)
  if whole.isEmpty && places.isEmpty then none
  else
    (readExponent? rest).map fun exponent =>
      ofDecimal negative (digitsValue (whole ++ places)) (exponent - places.length)

/-- An ASCII capital as its small letter. -/
def lowerAscii (c : Char) : Char := c.toLower

/-- Reads a decimal number. -/
def readDecimal? (t : Text) : Option Binary64 :=
  let (negative, body) := readSign (Text.trim surrounds t)
  let word := String.ofList (body.map lowerAscii)
  if word = "inf" || word = "infinity" then some (.infinite negative)
  else if word = "nan" then some .nan
  else readDecimalBody? negative body

end Collate.Number
