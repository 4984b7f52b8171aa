import Collate.Number.Binary64
import Collate.Text.Basic

/-!
# Shortest decimal form

A double-precision number is written with the fewest digits that read back as the same number; of
several such forms with equally many digits the one nearest to the number is taken. For each count
of digits only the two neighbours of the number on that decimal grid need a try, since rounding to
binary is monotone.
-/

namespace Collate.Number

/-- A positive decimal: `digits` with the point after the first `point` of them. -/
structure Decimal where
  /-- The significant digits, as one number. -/
  digits : Nat
  /-- How many digits stand before the point; may be negative or beyond the digits. -/
  point : Int
  deriving DecidableEq, Repr

/-- How many decimal digits the whole part of `num / den` has; for a quotient below one, minus the
number of zeros after the point. -/
def pointOf (num den : Nat) : Int :=
  if den ≤ num then ((Nat.toDigits 10 (num / den)).length : Int)
  else
    let steps := (Nat.toDigits 10 (den / num)).length
    -- `num / den` lies in `(10 ^ (-steps), 10 ^ (1 - steps)]`
    if num * Nat.pow 10 (steps - 1) = den then 2 - (steps : Int) else 1 - (steps : Int)

/-- The neighbours of `num / den` on the grid of decimals with `count` digits before `10 ^ (point -
count)`, and twice the distance of the lower one measured in that grid against its unit. -/
def gridBelow (num den : Nat) (point : Int) (count : Nat) : Nat × Ordering :=
  let exponent := point - count
  let (num, den) :=
    if 0 ≤ exponent then (num, den * Nat.pow 10 exponent.toNat)
    else (num * Nat.pow 10 (-exponent).toNat, den)
  (num / den, compare (2 * (num % den)) den)

/-- A decimal with `count` digits that reads back as `target`, the nearest to `num / den` if there
are two. -/
def readsBack? (target : Binary64) (num den : Nat) (point : Int) (count : Nat) : Option Decimal :=
  let (below, side) := gridBelow num den point count
  let reads (digits : Nat) : Bool := ofDecimal false digits (point - count) = target
  let up := below + 1
  let first := if side = .gt || (side = .eq && below % 2 = 1) then up else below
  let second := if first = up then below else up
  (if reads first then some first else if reads second then some second else none).map fun digits =>
    -- rounding up may carry into one more digit
    if digits = Nat.pow 10 count then ⟨Nat.pow 10 (count - 1), point + 1⟩ else ⟨digits, point⟩

/-- The first of `counts` digits that suffices. -/
def shortestFrom (target : Binary64) (num den : Nat) (point : Int) : List Nat → Decimal
  | [] => ⟨(gridBelow num den point 17).1, point⟩
  | count :: counts =>
    match readsBack? target num den point count with
    | some d => d
    | none => shortestFrom target num den point counts

/-- The shortest decimal that reads back as the positive number `significand * 2 ^ exponent`. -/
def shortest (significand : Nat) (exponent : Int) : Decimal :=
  let (num, den) :=
    if 0 ≤ exponent then (significand * Nat.pow 2 exponent.toNat, 1)
    else (significand, Nat.pow 2 (-exponent).toNat)
  shortestFrom (.finite false significand exponent) num den (pointOf num den)
    ((List.range 17).map (· + 1))

/-- How a number is written: which exponents of ten are written as places before or after the point,
and how the others are marked. -/
structure DecimalForm where
  /-- The least exponent of the first digit that is written without a mark. -/
  least : Int
  /-- The exponent of the first digit from which on a mark is used. -/
  bound : Int
  /-- The fewest digits of a marked exponent. -/
  exponentDigits : Nat

/-- Numbers from `10 ^ -4` to below `10 ^ 16` are written out; a marked exponent has two digits at
least. -/
def plainForm : DecimalForm := ⟨-4, 16, 2⟩

/-- A positive decimal in words of digits. A whole number keeps `.0`. -/
def Decimal.write (form : DecimalForm) (d : Decimal) : Text :=
  let raw := Nat.toDigits 10 d.digits
  let digits := (raw.reverse.dropWhile (· = '0')).reverse
  let exponent := d.point - 1
  if form.least ≤ exponent && exponent < form.bound then
    if d.point ≤ 0 then '0' :: '.' :: List.replicate (-d.point).toNat '0' ++ digits
    else
      let whole := digits.take d.point.toNat
      let rest := digits.drop d.point.toNat
      whole ++ List.replicate (d.point.toNat - whole.length) '0' ++
        '.' :: (if rest = [] then ['0'] else rest)
  else
    let mantissa :=
      match digits with
      | first :: next :: rest => first :: '.' :: next :: rest
      | digits => digits
    let shown := Nat.toDigits 10 exponent.natAbs
    mantissa ++ 'e' :: (if exponent < 0 then '-' else '+') ::
      List.replicate (form.exponentDigits - shown.length) '0' ++ shown

/-- A double-precision number as text. -/
def Binary64.write : Binary64 → Text
  | .nan => ['n', 'a', 'n']
  | .infinite negative => if negative then ['-', 'i', 'n', 'f'] else ['i', 'n', 'f']
  | .finite negative significand exponent =>
    let magnitude :=
      if significand = 0 then ['0', '.', '0']
      else (shortest significand exponent).write plainForm
    if negative then '-' :: magnitude else magnitude

end Collate.Number
