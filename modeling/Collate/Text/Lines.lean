import Collate.Text.Basic

/-!
# Lines

How a text falls into lines, and how the line ends of a file become newlines. A line ends at any of
ten characters; a carriage return with the newline after it is one end. The last line may lack its
end, and an end at the very end of the text starts no further line.

Main statement: no line holds a character that ends lines (`not_isLineEnd_of_mem_splitLines`).
-/

namespace Collate.Text

/-- The characters that end a line: newline, vertical tab, form feed, carriage return, the file,
group and record separators, next line, and the line and paragraph separators. -/
def isLineEnd (c : Char) : Bool :=
  c == '\n' || c == '\x0b' || c == '\x0c' || c == '\r' || c == '\x1c' || c == '\x1d' ||
    c == '\x1e' || c == '\x85' || c == '\u2028' || c == '\u2029'

/-- Whether a carriage return opens a two-character line end: the newline after it then ends the
line. -/
def opensPair (c : Char) (t : Text) : Bool := c == '\r' && t.head? == some '\n'

/-- The lines of a text, without their ends. -/
def splitLines : Text → List Text
  | [] => []
  | c :: t =>
    if opensPair c t then splitLines t
    else if isLineEnd c then [] :: splitLines t
    else
      match splitLines t with
      | [] => [[c]]
      | line :: lines => (c :: line) :: lines

/-- A character that ends no line joins the first line of what follows. -/
theorem splitLines_cons {c : Char} {t : Text} (h : isLineEnd c = false) :
    splitLines (c :: t) = (c :: (splitLines t).headD []) :: (splitLines t).tail := by
  have hp : opensPair c t = false := by
    simp only [opensPair, Bool.and_eq_false_imp, beq_iff_eq]
    rintro rfl
    simp [isLineEnd] at h
  rw [splitLines, hp, h]
  cases splitLines t <;> rfl

/-- No line holds a character that ends lines. -/
theorem not_isLineEnd_of_mem_splitLines {t line : Text} (h : line ∈ splitLines t) :
    ∀ c ∈ line, isLineEnd c = false := by
  induction t generalizing line with
  | nil => simp [splitLines] at h
  | cons c t ih =>
    by_cases hc : isLineEnd c = true
    · rw [splitLines, hc] at h
      split at h
      · exact ih h
      · rcases List.mem_cons.1 h with rfl | h
        · simp
        · exact ih h
    · have hc : isLineEnd c = false := by simpa using hc
      rw [splitLines_cons hc] at h
      rcases List.mem_cons.1 h with rfl | h
      · intro d hd
        rcases List.mem_cons.1 hd with rfl | hd
        · exact hc
        · cases hs : splitLines t with
          | nil => simp [hs] at hd
          | cons first rest => exact @ih first (by simp [hs]) d (by simpa [hs] using hd)
      · exact ih (List.mem_of_mem_tail h)

/-- Every carriage return, with the newline after it if there is one, becomes a newline. -/
def unifyNewlines : Text → Text
  | [] => []
  | c :: t =>
    if opensPair c t then unifyNewlines t
    else (if c = '\r' then '\n' else c) :: unifyNewlines t

/-- The byte order mark. -/
def byteOrderMark : Char := '\ufeff'

/-- Drops one byte order mark at the start. -/
def dropMark : Text → Text
  | [] => []
  | c :: t => if c = byteOrderMark then t else c :: t

end Collate.Text
