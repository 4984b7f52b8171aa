import Collate.Failure
import Collate.Terminal.Styled
import Collate.Text.Lines

/-!
# Listings

A listing is a text as its lines, together with a coloured form of every line. A coloured line shows
the characters of its plain line once its escape sequences are taken out; a listing without colours
has its plain lines as coloured ones.

Main statement: a coloured form is accepted exactly when it agrees with the plain lines one by one
(`checkColours_eq_ok_iff`).
-/

namespace Collate

open Collate.Terminal

/-- Whether a coloured line is a form of a plain one: the same line, or one that can be read and
shows it. -/
def agrees (plain highlighted : Text) : Bool :=
  plain == highlighted ||
    (match readPlain highlighted with
      | .ok t => t == plain
      | .error _ => false)

/-- What is wrong with a coloured line as the form of the plain line at an index. -/
def disagreement? (index : Nat) (plain highlighted : Text) : Option Failure :=
  if plain = highlighted then none
  else
    match readPlain highlighted with
    | .ok t => if t = plain then none else some (.lineMismatch index plain)
    | .error f => some f

/-- Nothing is wrong exactly with a form of the plain line. -/
theorem disagreement?_eq_none_iff {index : Nat} {plain highlighted : Text} :
    disagreement? index plain highlighted = none ↔ agrees plain highlighted = true := by
  unfold disagreement? agrees
  by_cases h : plain = highlighted
  · simp [h]
  · cases hr : readPlain highlighted <;> simp [h]

/-- What is wrong with the first line of two equally long listings, from index `index` on, whose
forms disagree. -/
def firstDisagreement? (index : Nat) : List Text → List Text → Option Failure
  | plain :: ps, highlighted :: hs =>
    match disagreement? index plain highlighted with
    | some f => some f
    | none => firstDisagreement? (index + 1) ps hs
  | _, _ => none

/-- Coloured lines fit plain ones when there are as many and each is a form of its plain line. -/
def checkColours (plain highlighted : List Text) : Except Failure Unit :=
  if plain.length ≠ highlighted.length then
    .error (.lineCount highlighted.length plain.length)
  else
    match firstDisagreement? 0 plain highlighted with
    | some f => .error f
    | none => .ok ()

/-- A listing: plain lines and as many coloured ones. -/
structure Listing where
  /-- The plain lines. -/
  lines : List Text
  /-- The coloured lines. -/
  highlighted : List Text
  /-- There is a coloured line for every plain one. -/
  length_eq : highlighted.length = lines.length
  /-- A coloured line shows what its plain line holds. -/
  agree : ∀ p ∈ lines.zip highlighted, agrees p.1 p.2 = true
  /-- A line holds no newline. -/
  one_line : ∀ line ∈ lines, '\n' ∉ line

/-- Without a disagreement the lines agree one by one. -/
theorem agree_of_firstDisagreement? {index : Nat} {plain highlighted : List Text}
    (h : firstDisagreement? index plain highlighted = none) :
    ∀ p ∈ plain.zip highlighted, agrees p.1 p.2 = true := by
  induction plain generalizing highlighted index with
  | nil => simp
  | cons p ps ih =>
    cases highlighted with
    | nil => simp
    | cons x xs =>
      simp only [firstDisagreement?] at h
      split at h
      · simp at h
      · rename_i hp
        intro q hq
        rcases List.mem_cons.1 hq with rfl | hq
        · exact disagreement?_eq_none_iff.1 hp
        · exact ih h q hq

/-- Lines that agree one by one have no disagreement. -/
theorem firstDisagreement?_eq_none {index : Nat} {plain highlighted : List Text}
    (h : ∀ p ∈ plain.zip highlighted, agrees p.1 p.2 = true) :
    firstDisagreement? index plain highlighted = none := by
  induction plain generalizing highlighted index with
  | nil => simp [firstDisagreement?]
  | cons p ps ih =>
    cases highlighted with
    | nil => simp [firstDisagreement?]
    | cons x xs =>
      have hp := (@disagreement?_eq_none_iff index p x).2 (h (p, x) (by simp))
      simp only [firstDisagreement?, hp]
      exact ih fun q hq => h q (by simp [hq])

/-- A coloured form is accepted exactly when it agrees with the plain lines one by one. -/
theorem checkColours_eq_ok_iff {plain highlighted : List Text} :
    checkColours plain highlighted = .ok () ↔
      highlighted.length = plain.length ∧ ∀ p ∈ plain.zip highlighted, agrees p.1 p.2 = true := by
  constructor
  · intro h
    simp only [checkColours] at h
    split at h
    · simp at h
    · rename_i hl
      split at h
      · simp at h
      · rename_i hd
        exact ⟨by simpa [eq_comm] using hl, agree_of_firstDisagreement? hd⟩
  · rintro ⟨hl, ha⟩
    simp [checkColours, hl, firstDisagreement?_eq_none ha]

namespace Listing

/-- The first line, from index `index` on, that holds a newline. -/
def firstNewline? (index : Nat) : List Text → Option (Nat × Text)
  | [] => none
  | line :: rest => if '\n' ∈ line then some (index, line) else firstNewline? (index + 1) rest

/-- Where no line is found, no line holds a newline. -/
theorem not_mem_of_firstNewline? {index : Nat} {lines : List Text}
    (h : firstNewline? index lines = none) : ∀ line ∈ lines, '\n' ∉ line := by
  induction lines generalizing index with
  | nil => simp
  | cons line rest ih =>
    simp only [firstNewline?] at h
    split at h
    · simp at h
    · rename_i hn
      intro l hl
      rcases List.mem_cons.1 hl with rfl | hl
      · exact hn
      · exact ih h l hl

/-- A line agrees with itself. -/
theorem agree_self (lines : List Text) : ∀ p ∈ lines.zip lines, agrees p.1 p.2 = true := by
  intro p hp
  have : p.1 = p.2 := by
    induction lines with
    | nil => simp at hp
    | cons l ls ih =>
      rcases List.mem_cons.1 hp with rfl | hp
      · rfl
      · exact ih hp
  simp [agrees, this]

/-- The listing of lines without colours. -/
def plain (lines : List Text) (h : ∀ line ∈ lines, '\n' ∉ line) : Listing :=
  ⟨lines, lines, rfl, agree_self lines, h⟩

/-- The listing of lines and, if there are any, of their coloured forms. A newline inside a line is
found first. -/
def ofLines (lines : List Text) (highlighted : Option (List Text)) : Except Failure Listing :=
  match hn : firstNewline? 0 lines with
  | some (index, line) => .error (.newlineInLine index line)
  | none =>
    match highlighted with
    | none => .ok (plain lines (not_mem_of_firstNewline? hn))
    | some highlighted =>
      match hc : checkColours lines highlighted with
      | .error f => .error f
      | .ok () =>
        have h := checkColours_eq_ok_iff.1 hc
        .ok ⟨lines, highlighted, h.1, h.2, not_mem_of_firstNewline? hn⟩

/-- The listing of a text and, if there is one, of its coloured form, both split into lines. -/
def ofText (text : Text) (highlighted : Option Text) : Except Failure Listing :=
  ofLines (Text.splitLines text) (highlighted.map Text.splitLines)

/-- Whether the coloured lines differ from the plain ones. -/
def isHighlighted (l : Listing) : Bool := l.highlighted != l.lines

/-- The number of lines. -/
def size (l : Listing) : Nat := l.lines.length

/-- The plain line at an index. -/
def line? (l : Listing) (i : Int) : Option Text := if i < 0 then none else l.lines[i.toNat]?

/-- The coloured line at an index. -/
def highlightedLine? (l : Listing) (i : Int) : Option Text :=
  if i < 0 then none else l.highlighted[i.toNat]?

end Listing

end Collate
