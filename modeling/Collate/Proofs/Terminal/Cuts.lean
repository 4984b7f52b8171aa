import Mathlib.Data.List.Chain
import Collate.Proofs.Terminal.Wrapping

/-!
# Where a text is cut

Wrapping only puts cuts into a text: its pieces have the characters of the text in their order, each
in its style. There is no cut without need. Two pieces that follow each other meet at a cut
(`IsCut`): the characters of the first take cells, and with the next character they would take more
than the width.

The invariant is again that of the piece being filled. What has been counted for it are the cells of
its characters, and whatever follows, the piece starts with them (`exists_splitLengths_eq_cons`).
That no piece is empty follows from the cuts, since a cut has characters on both of its sides
(`ne_nil_of_isChain`).
-/

namespace Collate.Terminal

/-- Whether a text has to be cut between two neighbouring parts of it: the first one takes cells, and
more than `width` with the first character of the other. -/
def IsCut (width : Nat) (before after : Text) : Prop :=
  0 < cellSum before ∧ ∃ c, after.head? = some c ∧ width < cellSum before + charCells c

section cuts

variable {width filled taken : Nat} {u t : Text}

/-- The first piece starts with the characters `u` that have been counted for it. -/
theorem exists_splitLengths_eq_cons (width filled : Nat) (htaken : u.length = taken) (t : Text) :
    ∃ v pieces, (pieceLengths width filled taken t).splitLengths (u ++ t) = (u ++ v) :: pieces := by
  induction t generalizing filled taken u with
  | nil =>
    subst htaken
    exact ⟨[], [], by simp [pieceLengths]⟩
  | cons c t ih =>
    subst htaken
    rw [pieceLengths]
    split
    · rw [List.splitLengths_cons, List.take_left]
      exact ⟨[], _, by rw [List.append_nil]⟩
    · have htaken : (u ++ [c]).length = u.length + 1 := List.length_append
      obtain ⟨v, pieces, heq⟩ := ih (filled + charCells c) htaken
      rw [List.append_cons, heq, List.append_assoc]
      exact ⟨c :: v, pieces, rfl⟩

/-- Behind the characters `u` of the piece being filled, which are as many and take as many cells as
have been counted, there is a cut between any two pieces. -/
theorem isChain_isCut_splitLengths (htaken : u.length = taken) (hfilled : cellSum u = filled) :
    ((pieceLengths width filled taken t).splitLengths (u ++ t)).IsChain (IsCut width) := by
  induction t generalizing filled taken u with
  | nil =>
    subst htaken
    simp [pieceLengths]
  | cons c t ih =>
    subst htaken hfilled
    rw [pieceLengths]
    split
    · rename_i hcut
      have hone : [c].length = 1 := List.length_singleton
      obtain ⟨v, pieces, heq⟩ := exists_splitLengths_eq_cons width (charCells c) hone t
      have hrest : ((pieceLengths width (charCells c) 1 t).splitLengths ([c] ++ t)).IsChain
          (IsCut width) := ih hone (by simp)
      rw [List.splitLengths_cons, List.take_left, List.drop_left]
      refine List.isChain_cons.2 ⟨?_, hrest⟩
      rw [List.singleton_append] at heq
      rw [heq]
      rintro after ⟨⟩
      exact ⟨Nat.pos_of_ne_zero hcut.1, c, rfl, hcut.2⟩
    · rw [List.append_cons]
      exact ih (by simp) (by simp)

/-- There is a cut between any two pieces of a text. -/
theorem isChain_isCut_wrapText (width : Nat) (t : Text) :
    (wrapText width t).IsChain (IsCut width) := by
  unfold wrapText
  split
  · exact List.isChain_singleton _
  · exact isChain_isCut_splitLengths (u := []) rfl rfl

/-- Parts with cuts between them are not empty, but for a single part of an empty text. -/
theorem ne_nil_of_isChain {pieces : List Text} (hcuts : pieces.IsChain (IsCut width))
    (hne : pieces.flatten ≠ []) : ∀ piece ∈ pieces, piece ≠ [] := by
  have hcut := List.isChain_iff_forall_rel_of_append_cons_cons.1 hcuts
  rintro piece hpiece rfl
  obtain ⟨before, after, rfl⟩ := List.append_of_mem hpiece
  rcases after with _ | ⟨next, after⟩
  · rcases List.eq_nil_or_concat' before with rfl | ⟨before, last, rfl⟩
    · exact hne rfl
    · rw [List.append_assoc] at hcut
      obtain ⟨-, c, hc, -⟩ := hcut rfl
      cases hc
  · obtain ⟨hcells, -⟩ := hcut rfl
    exact absurd hcells (lt_irrefl 0)

end cuts

namespace Styled

/-- The letters of a styled text are those of its pieces. -/
theorem flatMap_letters_wrap (width : Nat) (s : Styled) :
    (s.wrap width).flatMap letters = s.letters := by
  unfold wrap
  split
  · exact List.flatMap_singleton _ _
  · rw [List.flatMap_def, map_letters_divide]
    exact flatten_splitLengths_pieceLengths width s.length_letters

/-- **Wrapping loses nothing and cuts only where it must.** The pieces of a styled text have its
characters in their order, each in the style that it had. The empty text is its only piece, and no
piece of another text is empty. At every cut the characters of the piece before it take cells, and
more than the width with the next character. And all cuts that must be are there: unless the whole
text fits, the characters of a piece do, or a single one of them takes cells. -/
theorem wrap_lossless (width : Nat) (s : Styled) :
    (s.wrap width).flatMap letters = s.letters ∧
    (s.plain = [] → s.wrap width = [s]) ∧
    (s.plain ≠ [] → ∀ piece ∈ s.wrap width, piece.plain ≠ []) ∧
    (s.wrap width).IsChain (fun before after => IsCut width before.plain after.plain) ∧
    ∀ piece ∈ s.wrap width,
      s.cells ≤ width ∨ cellSum piece.plain ≤ width ∨ HoldsOne piece.plain := by
  have hcuts := isChain_isCut_wrapText width s.plain
  have hmem : ∀ piece ∈ s.wrap width, piece.plain ∈ wrapText width s.plain := by
    intro piece hpiece
    rw [← map_plain_wrap]
    exact List.mem_map_of_mem hpiece
  refine ⟨flatMap_letters_wrap width s, ?_, ?_, ?_, ?_⟩
  · intro hnil
    have hfits : s.cells ≤ width := by
      rw [cells, hnil]
      exact Nat.zero_le width
    exact if_pos hfits
  · intro hne piece hpiece
    rw [← flatten_wrapText width s.plain] at hne
    exact ne_nil_of_isChain hcuts hne _ (hmem piece hpiece)
  · rwa [← map_plain_wrap, List.isChain_map] at hcuts
  · intro piece hpiece
    by_cases hfits : s.cells ≤ width
    · exact .inl hfits
    · have hpiece := hmem piece hpiece
      rw [cells] at hfits
      rw [wrapText, if_neg hfits] at hpiece
      exact .inr (cellSum_le_or_holdsOne_of_mem_splitLengths (u := []) rfl rfl
        (.inl (Nat.zero_le _)) _ hpiece)

/-- An accent stays with its letter, a wide character fills a piece, and a piece in two styles is not
cut between them. -/
theorem wrap_lossless_accent :
    let bold := Style.plain.mark .bold true
    let s : Styled := [⟨['e', '\u0301', '漢', 'x'], bold⟩, ⟨['y', 'z'], .plain⟩]
    s.plain ≠ [] ∧
    s.wrap 2 = [[⟨['e', '\u0301'], bold⟩], [⟨['漢'], bold⟩], [⟨['x'], bold⟩, ⟨['y'], .plain⟩],
      [⟨['z'], .plain⟩]] ∧
    (s.wrap 2).flatMap letters = s.letters ∧ (∀ piece ∈ s.wrap 2, piece.plain ≠ []) ∧
    (s.wrap 2).IsChain fun before after => IsCut 2 before.plain after.plain := by
  intro bold s
  have hne : s.plain ≠ [] := by decide
  obtain ⟨hletters, -, hpieces, hcuts, -⟩ := wrap_lossless 2 s
  exact ⟨hne, by decide +kernel, hletters, hpieces hne, hcuts⟩

end Styled

end Collate.Terminal
