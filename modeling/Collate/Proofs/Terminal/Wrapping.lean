import Mathlib.Data.List.SplitLengths
import Collate.Terminal.Wrap

/-!
# Wrapping as a cut of the characters

Where a styled text is cut depends on its characters only, and so do the characters of its pieces:
wrapping a styled text and reading the pieces is wrapping what the text reads
(`Styled.map_plain_wrap`). The same holds of the characters with their styles, the letters of the
text (`Styled.map_letters_divide`). The pieces of a text are the text again when they are put
together (`flatten_wrapText`), and there is at least one.

What is counted are the cells of characters one by one. The invariant is that of the piece being
filled: the cells that have been counted for it fit, or are those of a single character
(`cellSum_le_or_holdsOne_of_mem_splitLengths`). Cells of characters add up to the cells of a text
unless it holds a joiner or a selector. So without these two, and with no character wider than the
width, every piece fits (`cells_le_of_mem_wrapText`).
-/

namespace Collate.Terminal

/-! ## Cells that add up -/

/-- The cells of the characters of a text, one by one. -/
def cellSum (t : Text) : Nat := t.foldr (charCells · + ·) 0

@[simp] theorem cellSum_nil : cellSum [] = 0 := rfl

@[simp] theorem cellSum_cons (c : Char) (t : Text) :
    cellSum (c :: t) = charCells c + cellSum t := rfl

@[simp] theorem cellSum_append (s t : Text) : cellSum (s ++ t) = cellSum s + cellSum t := by
  induction s with
  | nil => simp
  | cons c s ih => simp [ih, Nat.add_assoc]

/-- A text without joiners and selectors: its cells add up. -/
def AddsUp (t : Text) : Prop := joiner ∉ t ∧ emojiSelector ∉ t

/-- A text adds up if each of its characters does. -/
theorem AddsUp.of_forall_mem {t : Text} (h : ∀ c ∈ t, c ≠ joiner ∧ c ≠ emojiSelector) :
    AddsUp t :=
  ⟨fun hc => (h _ hc).1 rfl, fun hc => (h _ hc).2 rfl⟩

theorem AddsUp.of_sublist {s t : Text} (ht : AddsUp t) (h : s.Sublist t) : AddsUp s :=
  ⟨fun hc => ht.1 (h.mem hc), fun hc => ht.2 (h.mem hc)⟩

@[simp] theorem addsUp_append {s t : Text} : AddsUp (s ++ t) ↔ AddsUp s ∧ AddsUp t := by
  simp only [AddsUp, List.mem_append, not_or]
  exact and_and_and_comm

/-- The cells of a text are those of its characters, if they add up. -/
theorem cells_eq_cellSum {t : Text} (h : AddsUp t) : cells t = cellSum t := by
  have hall : ∀ c ∈ t, c ≠ joiner ∧ c ≠ emojiSelector :=
    fun c hc => ⟨fun heq => h.1 (heq ▸ hc), fun heq => h.2 (heq ▸ hc)⟩
  exact cellsFrom_eq_foldr hall

/-- A text with a single character that takes cells. -/
def HoldsOne (t : Text) : Prop := t.countP (charCells · ≠ 0) = 1

instance : DecidablePred HoldsOne := fun _ => inferInstanceAs (Decidable (_ = 1))

/-- A text takes no cells if none of its characters does. -/
theorem cellSum_eq_zero_iff {t : Text} : cellSum t = 0 ↔ t.countP (charCells · ≠ 0) = 0 := by
  induction t with
  | nil => simp
  | cons c t ih =>
    rw [cellSum_cons, Nat.add_eq_zero_iff, ih, List.countP_cons, Nat.add_eq_zero_iff]
    simp [and_comm]

/-- Behind characters without cells a single one with cells is the only one. -/
theorem holdsOne_append_singleton {t : Text} {c : Char} (ht : cellSum t = 0)
    (hc : charCells c ≠ 0) : HoldsOne (t ++ [c]) := by
  rw [HoldsOne, List.countP_append, cellSum_eq_zero_iff.1 ht]
  simp [hc]

/-- The cells of a text with a single character that takes cells are those of the character. -/
theorem HoldsOne.exists_cellSum_eq {t : Text} (h : HoldsOne t) :
    ∃ c ∈ t, cellSum t = charCells c := by
  induction t with
  | nil => cases h
  | cons c t ih =>
    rw [HoldsOne, List.countP_cons] at h
    by_cases hc : charCells c = 0
    · obtain ⟨d, hd, hsum⟩ := ih (by simpa [HoldsOne, hc] using h)
      exact ⟨d, List.mem_cons_of_mem c hd, by rw [cellSum_cons, hc, hsum, Nat.zero_add]⟩
    · have hrest : cellSum t = 0 := cellSum_eq_zero_iff.2 (by simpa [hc] using h)
      exact ⟨c, List.mem_cons_self, by rw [cellSum_cons, hrest, Nat.add_zero]⟩

/-! ## Lengths of pieces -/

/-- The lengths of the pieces add up: no character is left out. -/
theorem foldr_pieceLengths (width filled taken : Nat) (t : Text) :
    (pieceLengths width filled taken t).foldr (· + ·) 0 = taken + t.length := by
  induction t generalizing filled taken with
  | nil => simp [pieceLengths]
  | cons c t ih =>
    rw [pieceLengths]
    split
    · rw [List.foldr_cons, ih, List.length_cons]
      omega
    · rw [ih, List.length_cons]
      omega

/-- A list that is as long as a text is put together again from pieces of the text's lengths. -/
theorem flatten_splitLengths_pieceLengths {α : Type} (width : Nat) {t : Text} {xs : List α}
    (h : xs.length = t.length) :
    ((pieceLengths width 0 0 t).splitLengths xs).flatten = xs := by
  apply List.flatten_splitLengths
  rw [List.sum_eq_foldr, foldr_pieceLengths, Nat.zero_add, h]

theorem pieceLengths_ne_nil (width filled taken : Nat) (t : Text) :
    pieceLengths width filled taken t ≠ [] := by
  induction t generalizing filled taken with
  | nil => exact List.cons_ne_nil _ _
  | cons c t ih =>
    rw [pieceLengths]
    split
    · exact List.cons_ne_nil _ _
    · exact ih _ _

/-! ## Pieces of a text -/

/-- The pieces of a text that fit `width` cells. -/
def wrapText (width : Nat) (t : Text) : List Text :=
  if cells t ≤ width then [t] else (pieceLengths width 0 0 t).splitLengths t

/-- **The pieces of a text are the text**, one after the other. -/
theorem flatten_wrapText (width : Nat) (t : Text) : (wrapText width t).flatten = t := by
  unfold wrapText
  split
  · exact List.flatten_singleton
  · exact flatten_splitLengths_pieceLengths width rfl

/-- Every text has a piece. -/
theorem wrapText_ne_nil (width : Nat) (t : Text) : wrapText width t ≠ [] := by
  unfold wrapText
  split
  · exact List.cons_ne_nil _ _
  · rw [← List.length_pos_iff, List.length_splitLengths, List.length_pos_iff]
    exact pieceLengths_ne_nil _ _ _ _

/-- The empty text has one piece, which is empty. -/
theorem wrapText_nil (width : Nat) : wrapText width [] = [[]] :=
  if_pos (Nat.zero_le width)

/-- A piece is a part of the text. -/
theorem infix_of_mem_wrapText {width : Nat} {t piece : Text} (h : piece ∈ wrapText width t) :
    piece <:+: t := by
  have hinfix := List.infix_of_mem_flatten h
  rwa [flatten_wrapText] at hinfix

/-- A piece holds characters of the text in their order. -/
theorem sublist_of_mem_wrapText {width : Nat} {t piece : Text} (h : piece ∈ wrapText width t) :
    piece.Sublist t :=
  (infix_of_mem_wrapText h).sublist

section fits

variable {width filled taken : Nat} {u t piece : Text}

/-- Behind the characters `u` of the piece being filled, which are as many and take as many cells as
have been counted, the characters of every piece fit, or a single one of them takes cells. -/
theorem cellSum_le_or_holdsOne_of_mem_splitLengths (htaken : u.length = taken)
    (hfilled : cellSum u = filled) (hfits : filled ≤ width ∨ HoldsOne u) :
    ∀ piece ∈ (pieceLengths width filled taken t).splitLengths (u ++ t),
      cellSum piece ≤ width ∨ HoldsOne piece := by
  have hadd : ∀ {u : Text} (c : Char), cellSum u = 0 →
      cellSum u + charCells c ≤ width ∨ HoldsOne (u ++ [c]) := by
    intro u c hu
    by_cases hc : charCells c = 0
    · exact .inl (by omega)
    · exact .inr (holdsOne_append_singleton hu hc)
  induction t generalizing u filled taken with
  | nil =>
    subst htaken hfilled
    simpa [pieceLengths] using hfits
  | cons c t ih =>
    subst htaken hfilled
    rw [pieceLengths]
    split
    · rw [List.splitLengths_cons, List.take_left, List.drop_left, List.forall_mem_cons]
      refine ⟨hfits, ih (u := [c]) rfl (by simp) ?_⟩
      simpa using hadd (u := []) c rfl
    · rename_i hcut
      rw [List.append_cons]
      refine ih (by simp) (by simp) ?_
      by_cases hempty : cellSum u = 0
      · exact hadd c hempty
      · rw [not_and, Nat.not_lt] at hcut
        exact .inl (hcut hempty)

/-- A piece of a text fits, or its characters do, or a single one of them takes cells. -/
theorem fits_of_mem_wrapText (h : piece ∈ wrapText width t) :
    cells piece ≤ width ∨ cellSum piece ≤ width ∨ HoldsOne piece := by
  unfold wrapText at h
  split at h
  · rename_i hfits
    rw [List.mem_singleton.1 h]
    exact .inl hfits
  · exact .inr (cellSum_le_or_holdsOne_of_mem_splitLengths (u := []) rfl rfl
      (.inl (Nat.zero_le _)) piece h)

/-- **Pieces fit**, where cells add up and no character is wider than the width. -/
theorem cells_le_of_mem_wrapText (hadds : AddsUp t) (hwide : ∀ c ∈ t, charCells c ≤ width)
    (h : piece ∈ wrapText width t) : cells piece ≤ width := by
  have hpiece := sublist_of_mem_wrapText h
  rcases fits_of_mem_wrapText h with hfits | hfits | hone
  · exact hfits
  · rwa [cells_eq_cellSum (hadds.of_sublist hpiece)]
  · obtain ⟨c, hc, hsum⟩ := hone.exists_cellSum_eq
    rw [cells_eq_cellSum (hadds.of_sublist hpiece), hsum]
    exact hwide c (hpiece.mem hc)

end fits

/-! ## Pieces of a styled text -/

namespace Styled

/-- The characters of a styled text, each with its style. -/
def letters (s : Styled) : List (Char × Style) := s.flatMap fun c => c.text.map (·, c.style)

/-- Without their styles the letters are the characters. -/
theorem map_fst_letters (s : Styled) : s.letters.map Prod.fst = s.plain := by
  rw [letters, plain, List.map_flatMap]
  congr 1
  funext c
  rw [List.map_map]
  exact List.map_id c.text

theorem length_letters (s : Styled) : s.letters.length = s.plain.length := by
  rw [← map_fst_letters, List.length_map]

/-- Cutting a styled text after `n` characters cuts its letters there. -/
theorem letters_splitAt (n : Nat) (s : Styled) :
    (splitAt n s).1.letters = s.letters.take n ∧ (splitAt n s).2.letters = s.letters.drop n := by
  induction s generalizing n with
  | nil => simp [splitAt, letters]
  | cons c rest ih =>
    have hletters : ∀ c rest, letters (c :: rest) = c.text.map (·, c.style) ++ letters rest :=
      fun c rest => List.flatMap_cons
    rw [splitAt, hletters, List.take_append, List.drop_append, List.length_map]
    split
    · rename_i hlength
      obtain ⟨hbefore, hafter⟩ := ih (n - c.text.length)
      have hall : (c.text.map (·, c.style)).length ≤ n := by rwa [List.length_map]
      rw [List.take_of_length_le hall, List.drop_eq_nil_of_le hall, hletters, hbefore, hafter]
      exact ⟨rfl, rfl⟩
    · rename_i hlength
      have hnone : n - c.text.length = 0 := by omega
      rw [hnone]
      split
      · rename_i hzero
        subst hzero
        exact ⟨rfl, rfl⟩
      · simp [letters, List.map_take, List.map_drop]

/-- Cutting a styled text into lengths cuts its letters into them. -/
theorem map_letters_divide (lengths : List Nat) (s : Styled) :
    (divide lengths s).map letters = lengths.splitLengths s.letters := by
  induction lengths generalizing s with
  | nil => rfl
  | cons n lengths ih =>
    obtain ⟨hbefore, hafter⟩ := letters_splitAt n s
    rw [divide, List.map_cons, ih, List.splitLengths_cons, hbefore, hafter]

/-- A styled text is cut where its characters are. -/
theorem plain_splitAt (n : Nat) (s : Styled) :
    (splitAt n s).1.plain = s.plain.take n ∧ (splitAt n s).2.plain = s.plain.drop n := by
  obtain ⟨hbefore, hafter⟩ := letters_splitAt n s
  simp only [← map_fst_letters, hbefore, hafter, List.map_take, List.map_drop, and_self]

/-- Cutting a styled text into lengths cuts its characters into them. -/
theorem map_plain_divide (lengths : List Nat) (s : Styled) :
    (divide lengths s).map plain = lengths.splitLengths s.plain := by
  induction lengths generalizing s with
  | nil => rfl
  | cons n lengths ih =>
    obtain ⟨hbefore, hafter⟩ := plain_splitAt n s
    rw [divide, List.map_cons, ih, List.splitLengths_cons, hbefore, hafter]

/-- **Wrapping a styled text wraps its characters**, whatever their styles are. -/
theorem map_plain_wrap (width : Nat) (s : Styled) :
    (s.wrap width).map plain = wrapText width s.plain := by
  unfold wrap wrapText cells
  split
  · rfl
  · exact map_plain_divide _ s

end Styled

end Collate.Terminal
