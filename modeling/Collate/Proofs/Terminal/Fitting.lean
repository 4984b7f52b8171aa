import Collate.Proofs.Terminal.Wrapping

/-!
# Pieces that do not fit

Wrapping counts the cells of characters one by one. Put together they can take other cells. A joiner
swallows the character behind it, so a text may take fewer. The emoji selector takes no cell by
itself and widens the character in front of it, so a text may take more: this is what a piece that
is too wide always comes from (`cells_le_cellSum`), and without joiners a piece that is filled is
too wide exactly if it holds such a character (`cellSum_lt_cells_iff`).

How much too wide a piece can be is seen by letting the characters pay for the selectors. If each
pays twice for its cells, one that is widened has paid for its selector too. So a text never takes
more than twice the cells of its characters (`cells_le_two_mul`).
-/

namespace Collate.Terminal

open Collate.Text

/-! ## Characters and selectors -/

theorem charCells_emojiSelector : charCells emojiSelector = 0 := by decide +kernel

/-- Whether a text has a selector for a character in front of it: one that only characters without
cells precede, or that stands behind a joiner. `joined` tells that there is a joiner already. -/
def SelectorAhead (joined : Bool) (t : Text) : Prop :=
  ∃ v w, t = v ++ emojiSelector :: w ∧
    (joined = true ∨ joiner ∈ v ∨ ∀ d ∈ v, charCells d = 0)

/-- Whether a text holds a character with cells that can be widened and a selector for it. -/
def Widens (t : Text) : Prop :=
  ∃ u c v, t = u ++ c :: v ∧ charCells c ≠ 0 ∧ isWidened c = true ∧ SelectorAhead false v

theorem SelectorAhead.cons_of_joined {c : Char} {t : Text} (h : SelectorAhead true t) :
    SelectorAhead true (c :: t) := by
  obtain ⟨v, w, rfl, -⟩ := h
  exact ⟨c :: v, w, rfl, .inl rfl⟩

theorem SelectorAhead.cons_joiner {joined : Bool} {t : Text} (h : SelectorAhead true t) :
    SelectorAhead joined (joiner :: t) := by
  obtain ⟨v, w, rfl, -⟩ := h
  exact ⟨joiner :: v, w, rfl, .inr (.inl List.mem_cons_self)⟩

theorem SelectorAhead.cons {joined : Bool} {c : Char} {t : Text} (hc : charCells c = 0)
    (h : SelectorAhead joined t) : SelectorAhead joined (c :: t) := by
  obtain ⟨v, w, rfl, hv⟩ := h
  refine ⟨c :: v, w, rfl, hv.imp_right (Or.imp (List.mem_cons_of_mem c) fun hzero => ?_)⟩
  exact List.forall_mem_cons.2 ⟨hc, hzero⟩

theorem Widens.cons {t : Text} (h : Widens t) (c : Char) : Widens (c :: t) := by
  obtain ⟨u, d, v, rfl, hd⟩ := h
  exact ⟨c :: u, d, v, rfl, hd⟩

/-- A text around one with a widened character has one. -/
theorem Widens.of_infix {s t : Text} (hs : Widens s) (h : s <:+: t) : Widens t := by
  obtain ⟨before, after, rfl⟩ := h
  obtain ⟨u, c, v, rfl, hcells, hwide, x, w, rfl, hx⟩ := hs
  exact ⟨before ++ u, c, x ++ emojiSelector :: (w ++ after), by simp, hcells, hwide, x, w ++ after,
    rfl, hx⟩

/-- Without selectors nothing is widened. -/
theorem not_widens_of_not_mem {t : Text} (h : emojiSelector ∉ t) : ¬ Widens t := by
  rintro ⟨u, c, v, rfl, -, -, x, w, rfl, -⟩
  exact h (by simp)

/-! ## Cells of a text and of its characters -/

/-- The rest of a text takes no more cells than its characters, if it widens none of them and none
in front of it. -/
theorem cellsFrom_le_cellSum {skip joined : Bool} {last : Option Char} {t : Text}
    (hskip : skip = true → joined = true)
    (hlast : ∀ d ∈ last, isWidened d = true → ¬ SelectorAhead joined t) (h : ¬ Widens t) :
    cellsFrom skip last t ≤ cellSum t := by
  fun_induction cellsFrom skip last t generalizing joined with
  | case1 => exact Nat.zero_le _
  | case2 last c t ih =>
    obtain rfl := hskip rfl
    have hrest : ∀ d ∈ last, isWidened d = true → ¬ SelectorAhead true t :=
      fun d hd hwide hahead => hlast d hd hwide hahead.cons_of_joined
    exact (ih nofun hrest fun hw => h (hw.cons c)).trans (Nat.le_add_left _ _)
  | case3 skip last t _ ih =>
    have hrest : ∀ d ∈ last, isWidened d = true → ¬ SelectorAhead true t :=
      fun d hd hwide hahead => hlast d hd hwide hahead.cons_joiner
    exact (ih (fun _ => rfl) hrest fun hw => h (hw.cons _)).trans (Nat.le_add_left _ _)
  | case4 skip last t _ _ ih =>
    -- a selector with a widened character in front of it would be ahead of that
    have hnone : last.any isWidened = false := by
      cases last with
      | none => rfl
      | some d =>
        refine Bool.eq_false_iff.2 fun hwide => hlast d rfl hwide ⟨[], t, rfl, ?_⟩
        exact .inr (.inr (by simp))
    have hrest := @ih false nofun nofun fun hw => h (hw.cons _)
    rw [hnone, cellSum_cons, charCells_emojiSelector]
    simpa using hrest
  | case5 skip last c t _ _ _ ih =>
    rw [cellSum_cons]
    refine Nat.add_le_add_left ?_ _
    split at ih
    · rename_i hc
      rw [if_pos hc]
      exact @ih joined nofun (fun d hd hwide hahead => hlast d hd hwide (hahead.cons hc))
        fun hw => h (hw.cons c)
    · rename_i hc
      rw [if_neg hc]
      refine @ih false nofun ?_ fun hw => h (hw.cons c)
      intro d hd hwide hahead
      obtain rfl := Option.mem_some_iff.1 hd
      exact h ⟨[], _, t, rfl, hc, hwide, hahead⟩

/-- A text that widens no character takes no more cells than its characters. -/
theorem cells_le_cellSum {t : Text} (h : ¬ Widens t) : cells t ≤ cellSum t :=
  @cellsFrom_le_cellSum false false none t nofun nofun h

/-- Each selector widens one character at most. -/
theorem cellsFrom_le_add_count (skip : Bool) (last : Option Char) (t : Text) :
    cellsFrom skip last t ≤ cellSum t + t.count emojiSelector := by
  fun_induction cellsFrom skip last t with
  | case1 => exact Nat.zero_le _
  | case2 last c t ih =>
    rw [cellSum_cons, List.count_cons]
    omega
  | case3 skip last t _ ih =>
    rw [cellSum_cons, List.count_cons]
    omega
  | case4 skip last t _ _ ih =>
    rw [cellSum_cons, List.count_cons_self]
    split <;> omega
  | case5 skip last c t _ _ _ ih =>
    rw [cellSum_cons, List.count_cons]
    omega

/-- A character that can be widened has a cell left to pay for the selector. -/
theorem cellsFrom_le_two_mul (skip : Bool) (last : Option Char) (t : Text) :
    cellsFrom skip last t ≤ 2 * cellSum t + if last.any isWidened then 1 else 0 := by
  fun_induction cellsFrom skip last t with
  | case1 => exact Nat.zero_le _
  | case2 last c t ih =>
    rw [cellSum_cons]
    omega
  | case3 skip last t _ ih =>
    rw [cellSum_cons]
    omega
  | case4 skip last t _ _ ih =>
    rw [Option.any_none, if_neg Bool.false_ne_true] at ih
    rw [cellSum_cons]
    omega
  | case5 skip last c t _ _ _ ih =>
    rw [cellSum_cons]
    split at ih
    · rename_i hc
      rw [if_pos hc]
      omega
    · rename_i hc
      rw [if_neg hc]
      have hone : (if (some c).any isWidened then 1 else 0) ≤ 1 := by split <;> omega
      omega

/-- A text never takes more than twice the cells of its characters. -/
theorem cells_le_two_mul (t : Text) : cells t ≤ 2 * cellSum t := by
  have h := cellsFrom_le_two_mul false none t
  rwa [Option.any_none, if_neg Bool.false_ne_true, Nat.add_zero] at h

/-! ## Texts without joiners -/

/-- Without joiners the characters of the first part of a text take their cells at least. -/
theorem exists_cellsFrom_append_le {u : Text} (hu : joiner ∉ u) (last : Option Char) (w : Text) :
    ∃ last', cellSum u + cellsFrom false last' w ≤ cellsFrom false last (u ++ w) := by
  induction u generalizing last with
  | nil => exact ⟨last, by simp⟩
  | cons c u ih =>
    rw [List.mem_cons, not_or] at hu
    obtain ⟨hc, hu⟩ := hu
    rw [List.cons_append, cellSum_cons, cellsFrom, if_neg Bool.false_ne_true, if_neg (Ne.symm hc)]
    split
    · rename_i hselector
      obtain ⟨last', hle⟩ := ih hu none
      refine ⟨last', ?_⟩
      rw [hselector, charCells_emojiSelector]
      omega
    · obtain ⟨last', hle⟩ := ih hu (if charCells c = 0 then last else some c)
      exact ⟨last', by omega⟩

/-- Without joiners a text takes the cells of its characters at least. -/
theorem cellSum_le_cellsFrom {t : Text} (ht : joiner ∉ t) (last : Option Char) :
    cellSum t ≤ cellsFrom false last t := by
  obtain ⟨last', hle⟩ := exists_cellsFrom_append_le ht last []
  rw [List.append_nil] at hle
  exact (Nat.le_add_right _ _).trans hle

/-- A selector behind a character that it widens takes a cell. -/
theorem cellSum_lt_cellsFrom {c : Char} (hc : isWidened c = true) {v w : Text}
    (hzero : ∀ d ∈ v, charCells d = 0) (hv : joiner ∉ v) (hw : joiner ∉ w) :
    cellSum w < cellsFrom false (some c) (v ++ emojiSelector :: w) := by
  have hselector : ∀ w, joiner ∉ w →
      cellSum w < cellsFrom false (some c) (emojiSelector :: w) := by
    intro w hw
    have hrest := cellSum_le_cellsFrom hw none
    rw [cellsFrom, if_neg Bool.false_ne_true, if_neg (by decide), if_pos rfl, Option.any_some,
      if_pos hc]
    omega
  induction v with
  | nil => exact hselector w hw
  | cons d v ih =>
    rw [List.mem_cons, not_or] at hv
    obtain ⟨hd, hv⟩ := hv
    obtain ⟨hdzero, hzero⟩ := List.forall_mem_cons.1 hzero
    by_cases hfirst : d = emojiSelector
    · subst hfirst
      have hrest : joiner ∉ v ++ emojiSelector :: w := by simp [hv, hw, hd]
      have hsum : cellSum w ≤ cellSum (v ++ emojiSelector :: w) := by
        rw [cellSum_append, cellSum_cons]
        omega
      exact hsum.trans_lt (hselector _ hrest)
    · rw [List.cons_append, cellsFrom, if_neg Bool.false_ne_true, if_neg (Ne.symm hd),
        if_neg hfirst, if_pos hdzero, hdzero, Nat.zero_add]
      exact ih hzero hv

/-- **Without joiners a text takes more cells than its characters exactly if it widens one.** -/
theorem cellSum_lt_cells_iff {t : Text} (ht : joiner ∉ t) : cellSum t < cells t ↔ Widens t := by
  constructor
  · intro h
    by_contra hnone
    exact absurd h (Nat.not_lt.2 (cells_le_cellSum hnone))
  · rintro ⟨u, c, v, rfl, hcells, hwide, x, w, rfl, hx⟩
    simp only [List.mem_append, List.mem_cons, not_or] at ht
    obtain ⟨hu, hjoiner, hxj, -, hw⟩ := ht
    have hzero : ∀ d ∈ x, charCells d = 0 :=
      (hx.resolve_left Bool.false_ne_true).resolve_left hxj
    have hselector : c ≠ emojiSelector := fun h => hcells (h ▸ charCells_emojiSelector)
    obtain ⟨last, hle⟩ := exists_cellsFrom_append_le hu none (c :: (x ++ emojiSelector :: w))
    have hrest := cellSum_lt_cellsFrom hwide hzero hxj hw
    have hx0 : cellSum x = 0 := by
      rw [cellSum_eq_zero_iff, List.countP_eq_zero]
      simpa using hzero
    rw [cellsFrom, if_neg Bool.false_ne_true, if_neg (Ne.symm hjoiner), if_neg hselector,
      if_neg hcells] at hle
    refine lt_of_lt_of_le ?_ hle
    simp only [cellSum_append, cellSum_cons, charCells_emojiSelector]
    omega

/-! ## Pieces -/

/-- A piece that is too wide, and not because of a single character, holds a character that is
widened. -/
theorem fits_or_widens_of_mem_wrapText {width : Nat} {t piece : Text}
    (h : piece ∈ wrapText width t) :
    cells piece ≤ width ∨ HoldsOne piece ∨
      (Widens piece ∧ cells piece ≤ width + piece.count emojiSelector ∧
        cells piece ≤ 2 * width) := by
  rcases fits_of_mem_wrapText h with hfits | hsum | hone
  · exact .inl hfits
  · by_cases hwidens : Widens piece
    · have hcount : cells piece ≤ cellSum piece + piece.count emojiSelector :=
        cellsFrom_le_add_count false none piece
      have htwice := cells_le_two_mul piece
      exact .inr (.inr ⟨hwidens, by omega, by omega⟩)
    · exact .inl ((cells_le_cellSum hwidens).trans hsum)
  · exact .inr (.inl hone)

namespace Styled

/-- **Which pieces fit.** A text in which the emoji selector widens no character is cut into pieces
that fit, but for those with a single character that takes cells. Of any text a piece is too wide
otherwise only if it holds a character that is widened, then by a cell for each selector at most and
by no more than the width; and without joiners a piece whose characters fill the width is too wide
exactly if it holds one. -/
theorem wrap_fits (width : Nat) (s : Styled) :
    (¬ Widens s.plain →
      ∀ piece ∈ s.wrap width, piece.cells ≤ width ∨ HoldsOne piece.plain) ∧
    ∀ piece ∈ s.wrap width,
      (piece.cells ≤ width ∨ HoldsOne piece.plain ∨
        (Widens piece.plain ∧ piece.cells ≤ width + piece.plain.count emojiSelector ∧
          piece.cells ≤ 2 * width)) ∧
      (joiner ∉ piece.plain → cellSum piece.plain = width →
        (width < piece.cells ↔ Widens piece.plain)) := by
  have hmem : ∀ piece ∈ s.wrap width, piece.plain ∈ wrapText width s.plain := by
    intro piece hpiece
    rw [← map_plain_wrap]
    exact List.mem_map_of_mem hpiece
  refine ⟨?_, ?_⟩
  · intro hnone piece hpiece
    rcases fits_or_widens_of_mem_wrapText (hmem piece hpiece) with hfits | hone | ⟨hwidens, -⟩
    · exact .inl hfits
    · exact .inr hone
    · exact absurd (hwidens.of_infix (infix_of_mem_wrapText (hmem piece hpiece))) hnone
  · intro piece hpiece
    refine ⟨fits_or_widens_of_mem_wrapText (hmem piece hpiece), ?_⟩
    rintro hjoiner rfl
    exact cellSum_lt_cells_iff hjoiner

/-- A piece of two characters with cells that is too wide: a heart with its selector, which takes
two cells, and a letter behind it. -/
theorem wrap_too_wide :
    let s : Styled := [⟨['\u2764', emojiSelector, 'a', 'b'], .plain⟩]
    ∃ piece ∈ s.wrap 2, ¬ (piece.cells ≤ 2 ∨ HoldsOne piece.plain) := by
  refine ⟨[⟨['\u2764', emojiSelector, 'a'], .plain⟩], ?_, ?_⟩
  · decide +kernel
  · decide +kernel

/-- A wide character in a single column, with a joiner and an accent around it, and the heart that
makes its piece too wide. -/
theorem wrap_fits_heart :
    let narrow : Styled := [⟨['e', '\u0301', '\u6f22', joiner, 'x', 'y'], .plain⟩]
    let heart : Styled := [⟨['\u2764', emojiSelector, 'a', 'b'], .plain⟩]
    ¬ Widens narrow.plain ∧
    (∀ piece ∈ narrow.wrap 1, piece.cells ≤ 1 ∨ HoldsOne piece.plain) ∧
    ∃ piece ∈ heart.wrap 2, joiner ∉ piece.plain ∧ cellSum piece.plain = 2 ∧
      Widens piece.plain ∧ 2 < piece.cells ∧ piece.cells ≤ 2 + 1 := by
  intro narrow heart
  have hnone : ¬ Widens narrow.plain := not_widens_of_not_mem (by decide)
  let piece : Styled := [⟨['\u2764', emojiSelector, 'a'], .plain⟩]
  have hpiece : piece ∈ heart.wrap 2 := by decide +kernel
  have hjoiner : joiner ∉ piece.plain := by decide
  have hsum : cellSum piece.plain = 2 := by decide +kernel
  have hwidens : Widens piece.plain :=
    ⟨[], '\u2764', [emojiSelector, 'a'], rfl, by decide +kernel, by decide +kernel, [], ['a'],
      rfl, by simp⟩
  obtain ⟨hbound, hwide⟩ := (wrap_fits 2 heart).2 piece hpiece
  have hcells : 2 < piece.cells := (hwide hjoiner hsum).2 hwidens
  refine ⟨hnone, (wrap_fits 1 narrow).1 hnone, piece, hpiece, hjoiner, hsum, hwidens, hcells, ?_⟩
  rcases hbound with hfits | hone | ⟨-, hcount, -⟩
  · exact absurd hcells (Nat.not_lt.2 hfits)
  · exact absurd hone (by decide +kernel)
  · exact hcount

end Styled

end Collate.Terminal
