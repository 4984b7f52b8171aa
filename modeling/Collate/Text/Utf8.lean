import Collate.Text.Lines

/-!
# UTF-8

Bytes of a file as a text and back. Decoding stops at the first sequence that is no character and
says where it starts, how long it is and what is wrong with it; a sequence that breaks off is as
long as the bytes that still could have started a character.
-/

namespace Collate.Text.Utf8

/-- What is wrong with a sequence of bytes. -/
inductive Flaw
  /-- No character starts with this byte. -/
  | start
  /-- A byte that should continue a character does not. -/
  | continuation
  /-- The bytes end inside a character. -/
  | ending
  deriving DecidableEq, Repr

/-- A sequence of bytes that is no character: its first position, its bytes and its flaw. -/
structure BadSequence where
  /-- Position of the first byte of the sequence. -/
  position : Nat
  /-- The bytes of the sequence; never empty. -/
  bytes : List UInt8
  /-- What is wrong. -/
  flaw : Flaw
  deriving DecidableEq, Repr

/-- The wording of a flaw. -/
def Flaw.message : Flaw → String
  | .start => "invalid start byte"
  | .continuation => "invalid continuation byte"
  | .ending => "unexpected end of data"

/-- The wording of a bad sequence: one byte is shown, more are only counted. -/
def BadSequence.message (bad : BadSequence) : String :=
  let place :=
    match bad.bytes with
    | [b] => s!"byte 0x{String.ofList (Nat.toDigits 16 b.toNat)} in position {bad.position}"
    | bytes => s!"bytes in position {bad.position}-{bad.position + bytes.length - 1}"
  s!"'utf-8' codec can't decode {place}: {bad.flaw.message}"

/-- The values that the bytes after `lead` may take and the bits that `lead` itself holds: the
bounds of the second byte, the number of bytes that follow, and the bits. -/
def leadOf? (lead : UInt8) : Option (Nat × Nat × Nat × Nat) :=
  let n := lead.toNat
  if 0xC2 ≤ n && n ≤ 0xDF then some (0x80, 0xBF, 1, n - 0xC0)
  else if n = 0xE0 then some (0xA0, 0xBF, 2, 0)
  else if n = 0xED then some (0x80, 0x9F, 2, 0xD)
  else if 0xE1 ≤ n && n ≤ 0xEF then some (0x80, 0xBF, 2, n - 0xE0)
  else if n = 0xF0 then some (0x90, 0xBF, 3, 0)
  else if n = 0xF4 then some (0x80, 0x8F, 3, 4)
  else if 0xF1 ≤ n && n ≤ 0xF3 then some (0x80, 0xBF, 3, n - 0xF0)
  else none

/-- Reads the bytes that continue a character: `count` of them, the first between `low` and `high`.
Answers the code point and the bytes after it, or the bytes that could be read and the flaw. -/
def continue? (low high : Nat) (bits : Nat) :
    (count : Nat) → List UInt8 → Except (List UInt8 × Flaw) (Nat × List UInt8)
  | 0, bytes => .ok (bits, bytes)
  | _ + 1, [] => .error ([], .ending)
  | count + 1, b :: bytes =>
    if low ≤ b.toNat && b.toNat ≤ high then
      match continue? 0x80 0xBF (bits * 64 + (b.toNat - 0x80)) count bytes with
      | .ok r => .ok r
      | .error (read, flaw) => .error (b :: read, flaw)
    else .error ([], .continuation)

/-- Reading on leaves no more bytes than there were. -/
theorem length_of_continue? {low high bits count : Nat} {bytes : List UInt8} {r : Nat × List UInt8}
    (h : continue? low high bits count bytes = .ok r) : r.2.length ≤ bytes.length := by
  induction count generalizing low high bits bytes with
  | zero => simp [continue?] at h; subst h; simp
  | succ count ih =>
    cases bytes with
    | nil => simp [continue?] at h
    | cons b bytes =>
      simp only [continue?] at h
      split at h
      · split at h
        · rename_i r' hr
          cases h
          exact Nat.le_trans (ih hr) (by simp)
        · simp at h
      · simp at h

/-- Decodes bytes of which the first stands at `position`. -/
def decodeFrom (position : Nat) : List UInt8 → Except BadSequence Text
  | [] => .ok []
  | b :: bytes =>
    if b.toNat < 0x80 then (decodeFrom (position + 1) bytes).map (Char.ofNat b.toNat :: ·)
    else
      match leadOf? b with
      | none => .error ⟨position, [b], .start⟩
      | some (low, high, count, bits) =>
        match h : continue? low high bits count bytes with
        | .error (read, flaw) => .error ⟨position, b :: read, flaw⟩
        | .ok (code, rest) =>
          have : rest.length ≤ bytes.length := length_of_continue? h
          (decodeFrom (position + 1 + count) rest).map (Char.ofNat code :: ·)
  termination_by bytes => bytes.length

/-- The text that bytes stand for, or the first sequence that stands for none. -/
def decode (bytes : List UInt8) : Except BadSequence Text := decodeFrom 0 bytes

/-- The bytes of one character. -/
def encodeChar (c : Char) : List UInt8 :=
  let n := c.toNat
  if n < 0x80 then [n.toUInt8]
  else if n < 0x800 then [(0xC0 + n / 64).toUInt8, (0x80 + n % 64).toUInt8]
  else if n < 0x10000 then
    [(0xE0 + n / 4096).toUInt8, (0x80 + n / 64 % 64).toUInt8, (0x80 + n % 64).toUInt8]
  else
    [(0xF0 + n / 262144).toUInt8, (0x80 + n / 4096 % 64).toUInt8, (0x80 + n / 64 % 64).toUInt8,
      (0x80 + n % 64).toUInt8]

/-- The bytes of a text. -/
def encode (t : Text) : List UInt8 := t.flatMap encodeChar

/-- The bytes of a byte order mark. -/
def markBytes : List UInt8 := [0xEF, 0xBB, 0xBF]

/-- Bytes of a file without their byte order mark. A file that breaks off inside its mark holds
nothing. -/
def dropMarkBytes (bytes : List UInt8) : List UInt8 :=
  if bytes.isPrefixOf markBytes then []
  else if markBytes.isPrefixOf bytes then bytes.drop markBytes.length
  else bytes

end Collate.Text.Utf8
