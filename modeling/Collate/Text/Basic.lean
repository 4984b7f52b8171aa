/-!
# Texts

A text is the list of its characters, and so is a line of it. Lists are what every stage of the
comparison recurses on; `String` appears where a text is a name or a message.

Main statements: joining texts and cutting off a lead (`dropLead?`) undo each other.
-/

namespace Collate

/-- A text or a line of text, as its characters in order. -/
abbrev Text := List Char

namespace Text

/-- Joins texts with `separator` between neighbours. -/
def joinWith (separator : Text) : List Text → Text
  | [] => []
  | [t] => t
  | t :: ts => t ++ separator ++ joinWith separator ts

/-- Ends every line with a newline. -/
def unlines : List Text → Text
  | [] => []
  | t :: ts => t ++ '\n' :: unlines ts

/-- What follows `lead`, when the text starts with it. -/
def dropLead? : (lead : Text) → Text → Option Text
  | [], t => some t
  | _ :: _, [] => none
  | c :: lead, d :: t => if c = d then dropLead? lead t else none

/-- A text starts with a lead exactly when it is the lead followed by what is left. -/
theorem dropLead?_eq_some_iff {lead t rest : Text} :
    dropLead? lead t = some rest ↔ t = lead ++ rest := by
  induction lead generalizing t with
  | nil => simp [dropLead?]
  | cons c lead ih =>
    cases t with
    | nil => simp [dropLead?]
    | cons d t =>
      by_cases h : c = d
      · simp [dropLead?, h, ih]
      · simp [dropLead?, h, Ne.symm h]

/-- Cuts `t` at the first place where `mark` starts; the mark belongs to neither part. -/
def cutAt? (mark : Text) : Text → Option (Text × Text)
  | [] => if mark = [] then some ([], []) else none
  | c :: t =>
    match dropLead? mark (c :: t) with
    | some rest => some ([], rest)
    | none => (cutAt? mark t).map fun (before, after) => (c :: before, after)

/-- Puts `fresh` in place of every occurrence of `old`, from left to right without overlap. An
empty `old` occurs before every character and at the end. The number bounds the characters left. -/
def replaceFrom (old fresh : Text) : Nat → Text → Text
  | 0, t => t
  | n + 1, t =>
    match dropLead? old t with
    | some rest =>
      if old = [] then
        match t with
        | [] => fresh
        | c :: t => fresh ++ c :: replaceFrom old fresh n t
      else fresh ++ replaceFrom old fresh n rest
    | none =>
      match t with
      | [] => []
      | c :: t => c :: replaceFrom old fresh n t

/-- Puts `fresh` in place of every occurrence of `old`. -/
def replaceAll (old fresh t : Text) : Text := replaceFrom old fresh (t.length + 1) t

/-- Drops the characters of a class from both ends. -/
def trim (p : Char → Bool) (t : Text) : Text :=
  ((t.dropWhile p).reverse.dropWhile p).reverse

/-- The parts of a text between the occurrences of `mark`, one more than there are marks. -/
def splitOn (mark : Char) : Text → List Text
  | [] => [[]]
  | c :: t =>
    if c = mark then [] :: splitOn mark t
    else
      match splitOn mark t with
      | [] => [[c]]
      | first :: rest => (c :: first) :: rest

/-- Spaces in front, as many as it takes to reach `width` characters. -/
def padLeft (width : Nat) (t : Text) : Text := List.replicate (width - t.length) ' ' ++ t

/-- The decimal digits of a natural number. -/
def ofNat (n : Nat) : Text := Nat.toDigits 10 n

end Text

end Collate
