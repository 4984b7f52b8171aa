import Collate.Number.Binary64
import Collate.Text.Basic

/-!
# Styles

How a stretch of terminal text looks: thirteen attributes, each set, unset or left open, and the
colours of the text and of its ground. Styles are given by numeric codes one after the other; a
later code wins over an earlier one, and a style can be written as words and as codes again.
-/

namespace Collate.Terminal

/-! ## Colours -/

/-- A colour of a terminal. -/
inductive Colour
  /-- A colour of the palette of 256. -/
  | palette (n : Nat)
  /-- A mixture of red, green and blue, each up to 255. -/
  | mixed (red green blue : Nat)
  /-- The terminal's own colour. -/
  | plain
  deriving DecidableEq, Repr

namespace Colour

open Collate.Number

/-- A number up to 255 as two hexadecimal digits. -/
def hexByte (n : Nat) : Text := [Nat.digitChar (n / 16), Nat.digitChar (n % 16)]

/-- The name of a colour. -/
def name : Colour → String
  | palette n => s!"color({n})"
  | mixed r g b => String.ofList ('#' :: hexByte r ++ hexByte g ++ hexByte b)
  | plain => "default"

/-- The step of the colour cube for a part of a mixture: the part over 95 below 95, from there on
one step and a step for every 40. A half goes to the even neighbour. -/
def cubeStep (n : Nat) : Nat :=
  if n < 95 then divideRounding n 95 else divideRounding (40 + (n - 95)) 40

/-- A quotient in double precision. -/
def inDouble (r : Rat) : Rat := (Binary64.ofRat r).value?.getD 0

/-- Lightness and saturation of a mixture with the greatest part `most` and the least part `least`,
every step rounded to double precision. -/
def lightnessAndSaturation (most least : Nat) : Rat × Rat :=
  let high := inDouble (mkRat most 255)
  let low := inDouble (mkRat least 255)
  let sum := inDouble (high + low)
  let spread := inDouble (high - low)
  let room := if sum ≤ 1 then sum else inDouble (inDouble (2 - high) - low)
  (sum / 2, if high = low then 0 else inDouble (spread / room))

/-- The saturation below which a mixture counts as grey. -/
def greyBound : Rat := inDouble (15 / 100)

/-- The palette colour that stands for a mixture. A mixture of low saturation becomes one of the 26
greys by its lightness, any other a colour of the cube. -/
def nearest (red green blue : Nat) : Nat :=
  let (lightness, saturation) :=
    lightnessAndSaturation (max red (max green blue)) (min red (min green blue))
  if saturation < greyBound then
    let shade := inDouble (lightness * 25)
    let grey := divideRounding shade.num.natAbs shade.den
    if grey = 0 then 16 else if grey = 25 then 231 else 231 + grey
  else 16 + 36 * cubeStep red + 6 * cubeStep green + cubeStep blue

/-! ### Sixteen colours -/

/-- The parts of red, green and blue of a colour. -/
abbrev Parts := Nat × Nat × Nat

/-- The sixteen colours as terminals show them that have no others. -/
def basicParts : List Parts :=
  [(0, 0, 0), (170, 0, 0), (0, 170, 0), (170, 85, 0), (0, 0, 170), (170, 0, 170), (0, 170, 170),
    (170, 170, 170), (85, 85, 85), (255, 85, 85), (85, 255, 85), (255, 255, 85), (85, 85, 255),
    (255, 85, 255), (85, 255, 255), (255, 255, 255)]

/-- The parts of a colour of the palette beyond the sixteen: first a cube of six levels for each
part, then 24 greys. -/
def partsOf (n : Nat) : Parts :=
  let level (k : Nat) : Nat := if k = 0 then 0 else 55 + 40 * k
  if n < 232 then (level ((n - 16) / 36), level ((n - 16) / 6 % 6), level ((n - 16) % 6))
  else (8 + 10 * (n - 232), 8 + 10 * (n - 232), 8 + 10 * (n - 232))

/-- How far two colours look apart: green counts most, and red and blue count by how red both are. -/
def apart (x y : Parts) : Nat :=
  let square (a b : Nat) : Nat := (max a b - min a b) * (max a b - min a b)
  let redness := (x.1 + y.1) / 2
  (512 + redness) * square x.1 y.1 / 256 + 4 * square x.2.1 y.2.1 +
    (767 - redness) * square x.2.2 y.2.2 / 256

/-- The one of the sixteen colours that looks most like a colour: the first than which none is
nearer. -/
def nearestBasic (x : Parts) : Nat :=
  let distances := basicParts.map (apart x)
  distances.findIdx fun d => distances.all (d ≤ ·)

/-! ### Codes -/

/-- How many colours a terminal shows. -/
inductive Depth
  /-- The first sixteen of the palette. -/
  | sixteen
  /-- The palette of 256. -/
  | palette
  /-- Every mixture. -/
  | full
  deriving DecidableEq, Repr

/-- The codes of a palette colour as text colour (`base` 30) or as ground (`base` 40). -/
def paletteCodes (base n : Nat) : List Nat :=
  if n < 8 then [base + n]
  else if n < 16 then [base + 60 + (n - 8)]
  else [base + 8, 5, n]

/-- The codes that set a colour on a terminal. A colour that it does not show is reduced to one that
it does. -/
def codes (depth : Depth) (base : Nat) : Colour → List Nat
  | palette n =>
    paletteCodes base (if depth = .sixteen ∧ 16 ≤ n then nearestBasic (partsOf n) else n)
  | mixed r g b =>
    match depth with
    | .sixteen => paletteCodes base (nearestBasic (r, g, b))
    | .palette => [base + 8, 5, nearest r g b]
    | .full => [base + 8, 2, r, g, b]
  | plain => [base + 9]

end Colour

/-! ## Attributes -/

/-- An attribute of a style. -/
inductive Attribute
  | bold
  | dim
  | italic
  | underline
  | blink
  | blink2
  | reverse
  | conceal
  | strike
  | underline2
  | frame
  | encircle
  | overline
  deriving DecidableEq, Repr

namespace Attribute

/-- All attributes, in the order in which they are written. -/
def all : List Attribute :=
  [bold, dim, italic, underline, blink, blink2, reverse, conceal, strike, underline2, frame,
    encircle, overline]

/-- The name of an attribute. -/
def name : Attribute → String
  | bold => "bold"
  | dim => "dim"
  | italic => "italic"
  | underline => "underline"
  | blink => "blink"
  | blink2 => "blink2"
  | reverse => "reverse"
  | conceal => "conceal"
  | strike => "strike"
  | underline2 => "underline2"
  | frame => "frame"
  | encircle => "encircle"
  | overline => "overline"

/-- The code that sets an attribute. -/
def code : Attribute → Nat
  | bold => 1
  | dim => 2
  | italic => 3
  | underline => 4
  | blink => 5
  | blink2 => 6
  | reverse => 7
  | conceal => 8
  | strike => 9
  | underline2 => 21
  | frame => 51
  | encircle => 52
  | overline => 53

/-- The attributes that a code unsets. -/
def unsetBy : Nat → List Attribute
  | 22 => [dim, bold]
  | 23 => [italic]
  | 24 => [underline]
  | 25 => [blink]
  | 26 => [blink2]
  | 27 => [reverse]
  | 28 => [conceal]
  | 29 => [strike]
  | 54 => [frame, encircle]
  | 55 => [overline]
  | _ => []

end Attribute

/-! ## Styles -/

/-- A style. `marks` holds the attributes that are set (`true`) or unset (`false`), in their order;
the others are left open, and so is a colour that is absent. -/
structure Style where
  /-- The attributes that are not left open. -/
  marks : List (Attribute × Bool) := []
  /-- The colour of the text. -/
  colour : Option Colour := none
  /-- The colour of the ground. -/
  ground : Option Colour := none
  deriving DecidableEq, Repr

namespace Style

/-- The style that leaves everything open. -/
def plain : Style := {}

/-- Sets or unsets an attribute. -/
def mark (s : Style) (a : Attribute) (on : Bool) : Style :=
  { s with
    marks := Attribute.all.filterMap fun b =>
      if b = a then some (b, on) else (s.marks.lookup b).map fun v => (b, v) }

/-- A style as words: the attributes, the colour, and the ground after `on`. -/
def words (s : Style) : String :=
  String.intercalate " "
    (s.marks.map (fun (a, on) => if on then a.name else "not " ++ a.name) ++
      s.colour.toList.map Colour.name ++
      s.ground.toList.flatMap fun g => ["on", g.name])

/-- The codes that give a style on a terminal: those of the attributes that are set, then the
colours. What is unset needs no code. -/
def codes (depth : Colour.Depth) (s : Style) : List Nat :=
  (s.marks.filterMap fun (a, on) => if on then some a.code else none) ++
    s.colour.toList.flatMap (Colour.codes depth 30) ++
    s.ground.toList.flatMap (Colour.codes depth 40)

/-- The colour that one of the simple codes means, counted from `base`. -/
def simpleColour? (base code : Nat) : Option Colour :=
  if base ≤ code ∧ code < base + 8 then some (.palette (code - base))
  else if code = base + 9 then some .plain
  else if base + 60 ≤ code ∧ code < base + 68 then some (.palette (code - base - 60 + 8))
  else none

/-- Applies one code that stands by itself; an unknown code changes nothing. -/
def applyCode (s : Style) (code : Nat) : Style :=
  if code = 0 then plain
  else
    match Attribute.all.find? (·.code == code) with
    | some a => s.mark a true
    | none =>
      match simpleColour? 30 code, simpleColour? 40 code with
      | some c, _ => { s with colour := some c }
      | none, some c => { s with ground := some c }
      | none, none => (Attribute.unsetBy code).foldl (fun s a => s.mark a false) s

/-- Puts a colour behind the text or into it. -/
def paint (s : Style) (behind : Bool) (c : Colour) : Style :=
  if behind then { s with ground := some c } else { s with colour := some c }

/-- Applies codes one after the other. The codes 38 and 48 take a colour from the codes after them:
`5` and a palette number, or `2` and three parts of a mixture. Where these are missing the rest is
dropped; another kind of colour is passed over. -/
def applyCodes (s : Style) : List Nat → Style
  | [] => s
  | 38 :: rest => applyColour s false rest
  | 48 :: rest => applyColour s true rest
  | code :: rest => applyCodes (s.applyCode code) rest
where
  /-- Applies the codes after a 38 or 48. -/
  applyColour (s : Style) (behind : Bool) : List Nat → Style
    | 5 :: n :: rest => applyCodes (s.paint behind (.palette n)) rest
    | 2 :: r :: g :: b :: rest => applyCodes (s.paint behind (.mixed r g b)) rest
    | [] => s
    | kind :: rest => if kind = 5 ∨ kind = 2 then s else applyCodes s rest

end Style

end Collate.Terminal
