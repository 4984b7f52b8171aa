/-!
# Double-precision numbers

The numbers of IEEE 754 binary64 as exact values: a finite one is `significand * 2 ^ exponent` with
a sign. Rounding takes an exact quotient to the nearest such number, a tie to the even significand;
comparison and arithmetic go through the rational value, so nothing here depends on a machine's
floating point. Powers are those of the natural numbers, `Nat.pow`, which evaluate at once.
-/

namespace Collate.Number

/-- Divides and rounds to the nearest whole number, a tie to the even one. -/
def divideRounding (num den : Nat) : Nat :=
  let quotient := num / den
  let rest := num % den
  if 2 * rest < den then quotient
  else if 2 * rest = den then quotient + quotient % 2
  else quotient + 1

/-- A double-precision number. In a finite one the significand is below `2 ^ 53` and is at least
`2 ^ 52` unless the exponent is the least, `-1074`. -/
inductive Binary64
  /-- Not a number. -/
  | nan
  /-- An infinity. -/
  | infinite (negative : Bool)
  /-- A finite number. -/
  | finite (negative : Bool) (significand : Nat) (exponent : Int)
  deriving DecidableEq, Repr

namespace Binary64

/-- The least exponent, that of the numbers closest to zero. -/
def leastExponent : Int := -1074

/-- The greatest exponent of a finite number. -/
def greatestExponent : Int := 971

/-- Zero without a sign. -/
def zero : Binary64 := .finite false 0 leastExponent

/-- `num / den * 2 ^ (-exponent)`, rounded to a whole number. -/
def scaled (num den : Nat) (exponent : Int) : Nat :=
  if 0 ≤ exponent then divideRounding num (den * Nat.pow 2 exponent.toNat)
  else divideRounding (num * Nat.pow 2 (-exponent).toNat) den

/-- The exponent at which `num / den` has 53 binary digits, or the least one. -/
def exponentOf (num den : Nat) : Int :=
  let guess : Int := (num.log2 : Int) - (den.log2 : Int) - 52
  let holds53 : Bool :=
    if 0 ≤ guess then den * Nat.pow 2 (guess.toNat + 52) ≤ num
    else den * Nat.pow 2 52 ≤ num * Nat.pow 2 (-guess).toNat
  max leastExponent (if holds53 then guess else guess - 1)

/-- The double-precision number nearest to the quotient `num / den`, with a sign. A quotient beyond
the greatest finite number, rounding included, gives an infinity. -/
def ofQuotient (negative : Bool) (num den : Nat) : Binary64 :=
  if num = 0 then .finite negative 0 leastExponent
  else
    let exponent := exponentOf num den
    let significand := scaled num den exponent
    let (significand, exponent) :=
      if significand = Nat.pow 2 53 then (Nat.pow 2 52, exponent + 1) else (significand, exponent)
    if greatestExponent < exponent then .infinite negative
    else .finite negative significand exponent

/-- The number nearest to a rational one. -/
def ofRat (r : Rat) : Binary64 := ofQuotient (r.num < 0) r.num.natAbs r.den

/-- The value of a finite number. -/
def finiteValue (negative : Bool) (significand : Nat) (exponent : Int) : Rat :=
  let magnitude : Rat :=
    if 0 ≤ exponent then ((significand * Nat.pow 2 exponent.toNat : Nat) : Rat)
    else (significand : Rat) / ((Nat.pow 2 (-exponent).toNat : Nat) : Rat)
  if negative then -magnitude else magnitude

/-- The value of a number that is finite. -/
def value? : Binary64 → Option Rat
  | .finite negative significand exponent => some (finiteValue negative significand exponent)
  | _ => none

/-- `x ≤ y`; never, when one of them is not a number. -/
def le : Binary64 → Binary64 → Bool
  | .nan, _ | _, .nan => false
  | .infinite true, _ | _, .infinite false => true
  | .infinite false, _ | _, .infinite true => false
  | .finite n s e, .finite n' s' e' => finiteValue n s e ≤ finiteValue n' s' e'

/-- Equality of values: a zero equals the other zero, and what is not a number equals nothing. -/
def sameValue (x y : Binary64) : Bool := le x y && le y x

/-- The number that a pattern of 64 bits stands for. -/
def ofBits (bits : UInt64) : Binary64 :=
  let n := bits.toNat
  let negative : Bool := Nat.pow 2 63 ≤ n
  let biased : Nat := n / Nat.pow 2 52 % Nat.pow 2 11
  let fraction : Nat := n % Nat.pow 2 52
  if biased = 2047 then (if fraction = 0 then .infinite negative else .nan)
  else if biased = 0 then .finite negative fraction leastExponent
  else .finite negative (fraction + Nat.pow 2 52) ((biased : Int) - 1075)

/-- The pattern of 64 bits of a number. -/
def toBits : Binary64 → UInt64
  | .nan => 0x7ff8000000000000
  | .infinite negative => if negative then 0xfff0000000000000 else 0x7ff0000000000000
  | .finite negative significand exponent =>
    let sign : Nat := if negative then Nat.pow 2 63 else 0
    if significand < Nat.pow 2 52 then (sign + significand).toUInt64
    else (sign + (exponent + 1075).toNat * Nat.pow 2 52 + (significand - Nat.pow 2 52)).toUInt64

end Binary64

/-- The number nearest to `digits * 10 ^ exponent`. Exponents far outside the range of the format
are settled without computing the power. -/
def ofDecimal (negative : Bool) (digits : Nat) (exponent : Int) : Binary64 :=
  let places : Int := (Nat.toDigits 10 digits).length
  if digits = 0 then .finite negative 0 Binary64.leastExponent
  else if 400 < exponent + places then .infinite negative
  else if exponent + places < -400 then .finite negative 0 Binary64.leastExponent
  else if 0 ≤ exponent then Binary64.ofQuotient negative (digits * Nat.pow 10 exponent.toNat) 1
  else Binary64.ofQuotient negative digits (Nat.pow 10 (-exponent).toNat)

end Collate.Number
