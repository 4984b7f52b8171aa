import Mathlib.Data.Nat.Digits.Defs
import Collate.Proofs.Display.Rows
import Collate.Proofs.Listing.Tabs

/-!
# The columns of a display

Whatever the colours, a row consists of two halves of one width: a number field if lines are
numbered, a piece of a line, and filling. A number field is as wide as the largest number
(`length_ofNat_le_numberWidth`), and a piece fits the column if no character of the lines is wider
than that (`cells_le_of_mem_pieces`). A coloured line does not bring in others: with its tabs
expanded it shows characters of its plain line and spaces (`mem_plain_lineText`).

`layout_aligned` is the statement about whole displays: the gutter of every row starts at the same
cell, and rows are as wide as the halves and the gutter, so they fit the width that was asked for
wherever there is room for a cell on either side.
-/

namespace Collate.Display

open Collate.Options Collate.Terminal

/-! ## Characters that take one cell -/

/-- A character that takes one cell, wherever it stands. -/
def IsNarrow (c : Char) : Prop := charCells c = 1 ∧ c ≠ joiner ∧ c ≠ emojiSelector

/-- A text of such characters takes as many cells as it has characters. -/
theorem cells_of_isNarrow {t : Text} (h : ∀ c ∈ t, IsNarrow c) :
    AddsUp t ∧ cells t = t.length := by
  have hadds : AddsUp t := .of_forall_mem fun c hc => (h c hc).2
  refine ⟨hadds, ?_⟩
  rw [cells_eq_cellSum hadds]
  clear hadds
  induction t with
  | nil => rfl
  | cons c t ih =>
    obtain ⟨hc, ht⟩ := List.forall_mem_cons.1 h
    rw [cellSum_cons, hc.1, ih ht, List.length_cons, Nat.add_comm]

theorem isNarrow_space : IsNarrow ' ' := by
  unfold IsNarrow
  decide

/-- Digits take one cell each. -/
theorem isNarrow_of_mem_ofNat {c : Char} {n : Nat} (h : c ∈ Text.ofNat n) : IsNarrow c := by
  have hdigits : ∀ d ∈ "0123456789".toList,
      charCells d = 1 ∧ d ≠ joiner ∧ d ≠ emojiSelector := Text.forall_mem_of_all (by decide)
  exact hdigits c (mem_of_mem_ofNat h)

/-- Spaces take one cell each. -/
theorem cells_replicate (n : Nat) :
    AddsUp (List.replicate n ' ') ∧ cells (List.replicate n ' ') = n := by
  have h := cells_of_isNarrow (t := List.replicate n ' ') fun c hc =>
    List.eq_of_mem_replicate hc ▸ isNarrow_space
  rwa [List.length_replicate] at h

/-- Every gutter is as wide as gutters are. -/
theorem cells_gutter (tag : Tag) : AddsUp (gutter tag) ∧ cells (gutter tag) = gutterWidth := by
  have hnarrow : ∀ c ∈ gutter tag, charCells c = 1 ∧ c ≠ joiner ∧ c ≠ emojiSelector := by
    cases tag <;> exact Text.forall_mem_of_all (by decide +kernel)
  have hlength : (gutter tag).length = gutterWidth := by cases tag <;> rfl
  rw [← hlength]
  exact cells_of_isNarrow hnarrow

/-- The cells of texts that add up. -/
theorem cells_append {s t : Text} (hs : AddsUp s) (ht : AddsUp t) :
    cells (s ++ t) = cells s + cells t := by
  rw [cells_eq_cellSum (addsUp_append.2 ⟨hs, ht⟩), cellSum_append, cells_eq_cellSum hs,
    cells_eq_cellSum ht]

/-! ## Halves -/

/-- A half that fits its place: the number takes up its field, and the piece takes no more than the
column. -/
structure Half.Fits (numberWidth column : Nat) (h : Half) : Prop where
  /-- The number takes up its field, if there is one. -/
  number : numberWidth ≠ 0 → AddsUp h.number ∧ cells h.number = numberWidth
  /-- The piece fits the column. -/
  content : AddsUp h.content ∧ cells h.content ≤ column

/-- The cells of one side of a row: a number field, if there is one, with a space beside it, and the
column. -/
def sideWidth (numberWidth column : Nat) : Nat :=
  (if numberWidth = 0 then 0 else numberWidth + 1) + column

section row

variable {numberWidth column : Nat} {r : RowText}

/-- Filling brings a piece to the width of the column. -/
theorem cells_append_fill {piece : Text} (h : AddsUp piece ∧ cells piece ≤ column) :
    AddsUp (piece ++ fill column (cells piece)) ∧
      cells (piece ++ fill column (cells piece)) = column := by
  obtain ⟨hadds, hcells⟩ := cells_replicate (column - cells piece)
  refine ⟨addsUp_append.2 ⟨h.1, hadds⟩, ?_⟩
  rw [fill, cells_append h.1 hadds, hcells]
  exact Nat.add_sub_cancel' h.2

/-- A number field and a space take one cell more than the field. -/
theorem cells_number_space {number : Text} (h : AddsUp number ∧ cells number = numberWidth) :
    AddsUp (number ++ [' ']) ∧ cells (number ++ [' ']) = numberWidth + 1 := by
  obtain ⟨hadds, hcells⟩ := cells_replicate 1
  refine ⟨addsUp_append.2 ⟨h.1, hadds⟩, ?_⟩
  rw [cells_append h.1 (t := [' ']) hadds, h.2]
  exact congrArg (numberWidth + ·) hcells

/-- What stands before the gutter takes up one side. -/
theorem RowText.cells_before (h : r.left.Fits numberWidth column) :
    AddsUp (r.before numberWidth column) ∧
      cells (r.before numberWidth column) = sideWidth numberWidth column := by
  obtain ⟨hadds, hcells⟩ := cells_append_fill h.content
  unfold RowText.before sideWidth
  rw [List.append_assoc]
  split
  · rw [List.nil_append, Nat.zero_add]
    exact ⟨hadds, hcells⟩
  · rename_i hwidth
    obtain ⟨hnumber, hfield⟩ := cells_number_space (h.number hwidth)
    exact ⟨addsUp_append.2 ⟨hnumber, hadds⟩, by rw [cells_append hnumber hadds, hfield, hcells]⟩

/-- What stands behind the gutter takes no more than one side, and all of it with a number. -/
theorem RowText.cells_after (h : r.right.Fits numberWidth column) :
    AddsUp (r.after numberWidth column) ∧
      cells (r.after numberWidth column) ≤ sideWidth numberWidth column ∧
      (numberWidth ≠ 0 → cells (r.after numberWidth column) = sideWidth numberWidth column) := by
  unfold RowText.after sideWidth
  split
  · rename_i hwidth
    rw [List.append_nil, Nat.zero_add]
    exact ⟨h.content.1, h.content.2, fun hne => absurd hwidth hne⟩
  · rename_i hwidth
    obtain ⟨hadds, hcells⟩ := cells_append_fill h.content
    obtain ⟨hspace, hone⟩ := cells_replicate 1
    obtain ⟨hnumber, hfield⟩ := h.number hwidth
    have hend : AddsUp (' ' :: r.right.number) ∧
        cells (' ' :: r.right.number) = numberWidth + 1 := by
      refine ⟨addsUp_append.2 ⟨hspace, hnumber⟩, ?_⟩
      rw [← List.singleton_append]
      exact (cells_append hspace hnumber).trans (by rw [hone, hfield, Nat.add_comm])
    rw [← List.append_assoc, cells_append hadds hend.1, hcells, hend.2]
    exact ⟨addsUp_append.2 ⟨hadds, hend.1⟩, (Nat.add_comm _ _).le, fun _ => Nat.add_comm _ _⟩

/-- A row is as wide as its sides and its gutter. -/
theorem RowText.cells_text {tag : Tag} (hleft : r.left.Fits numberWidth column)
    (hright : r.right.Fits numberWidth column) (hgutter : r.gutter = Display.gutter tag) :
    cells (r.text numberWidth column) ≤ 2 * sideWidth numberWidth column + gutterWidth ∧
      (numberWidth ≠ 0 →
        cells (r.text numberWidth column) = 2 * sideWidth numberWidth column + gutterWidth) := by
  obtain ⟨hbefore, hstart⟩ := cells_before hleft
  obtain ⟨hafter, hle, heq⟩ := cells_after hright
  obtain ⟨htag, hwidth⟩ := cells_gutter tag
  rw [← hgutter] at htag hwidth
  rw [RowText.text, cells_append (addsUp_append.2 ⟨hbefore, htag⟩) hafter,
    cells_append hbefore htag, hstart, hwidth]
  exact ⟨by omega, fun hne => by rw [heq hne]; omega⟩

end row

/-! ## Line numbers -/

section numbers

variable {o : DisplayOptions} {d : Diff}

/-- A number has no fewer digits than a smaller one. -/
theorem length_ofNat_le_length_ofNat {m n : Nat} (h : m ≤ n) :
    (Text.ofNat m).length ≤ (Text.ofNat n).length := by
  have hpos : 0 < (Text.ofNat n).length := Nat.length_toDigits_pos
  have hn : n < 10 ^ (Text.ofNat n).length :=
    (Nat.length_toDigits_le_iff (by decide) hpos).1 le_rfl
  exact (Nat.length_toDigits_le_iff (by decide) hpos).2 (h.trans_lt hn)

/-- Every line number has room in its field. -/
theorem length_ofNat_le_numberWidth {n : Nat} (h : o.lineNumbers.holds = true)
    (hn : n ≤ max d.left.size d.right.size) :
    (Text.ofNat n).length ≤ Layout.numberWidth o d := by
  rw [Layout.numberWidth, if_pos h]
  exact length_ofNat_le_length_ofNat (hn.trans (le_max_left _ _))

/-- A number field is as wide as the number of lines of the longer listing. -/
theorem numberColumns_eq :
    Layout.numberColumns o d =
      if o.lineNumbers.holds then (Text.ofNat (max d.left.size d.right.size)).length + 1
      else 0 := by
  have hmax : (Text.ofNat (max (max d.left.size d.right.size) 1)).length =
      (Text.ofNat (max d.left.size d.right.size)).length := by
    rcases Nat.eq_zero_or_pos (max d.left.size d.right.size) with h | h
    · rw [h]
      rfl
    · rw [max_eq_left h]
  unfold Layout.numberColumns Layout.numberWidth
  split_ifs with hnumbers hzero hzero
  · exact absurd hzero (Nat.length_toDigits_pos).ne'
  · rw [hmax]
  · rfl
  · exact absurd rfl hzero

/-- With room for a cell on either side, the sides and the gutter fit the width asked for. -/
theorem two_mul_sideWidth_le
    (h : 1 ≤ Int.fdiv ((o.width : Int) - gutterWidth) 2 - Layout.numberColumns o d) :
    2 * sideWidth (Layout.numberWidth o d) (Layout.columnWidth o d) + gutterWidth ≤ o.width := by
  have hcolumn : (Layout.columnWidth o d : Int) ≤
      Int.fdiv ((o.width : Int) - gutterWidth) 2 - Layout.numberColumns o d := by
    simp only [Layout.columnWidth]
    omega
  have hside : sideWidth (Layout.numberWidth o d) (Layout.columnWidth o d) =
      Layout.numberColumns o d + Layout.columnWidth o d := rfl
  rw [Int.fdiv_eq_ediv_of_nonneg _ (by decide)] at hcolumn
  rw [hside]
  omega

end numbers

/-! ## Pieces -/

section pieces

variable {o : DisplayOptions} {column numberWidth : Nat} {l : Listing} {i : Option Int}

/-- A line is shown with its own characters and spaces, be it in colours or not. -/
theorem mem_plain_lineText {plain highlighted : Text} (h : agrees plain highlighted = true)
    {c : Char} (hc : c ∈ (Layout.lineText o plain highlighted).plain) : c = ' ' ∨ c ∈ plain := by
  unfold Layout.lineText at hc
  split at hc
  · rename_i hcolours
    have hread := readPlain_of_showsColours h hcolours
    have hshown := Styled.mem_plain_decode_expandTabs o.tabWidth_pos hc
    rwa [plain_decode_of_readPlain hread] at hshown
  · rw [Styled.plain_ofText] at hc
    exact mem_expandTabs (List.mem_of_mem_filter hc)

/-- **A piece of a line fits the column** if every character of the lines does. -/
theorem cells_le_of_mem_pieces (hcolumn : 0 < column) (hadds : ∀ line ∈ l.lines, AddsUp line)
    (hwide : ∀ line ∈ l.lines, ∀ c ∈ line, charCells c ≤ column) {piece : Styled}
    (h : piece ∈ Layout.pieces o column l i) :
    AddsUp piece.plain ∧ cells piece.plain ≤ column := by
  unfold Layout.pieces at h
  split at h
  · rename_i plain highlighted hplain hhighlighted
    obtain ⟨n, rfl, hplain⟩ := Option.bind_eq_some_iff.1 hplain
    have hzip := mem_zip_of_line? hplain hhighlighted
    have hline : plain ∈ l.lines := List.of_mem_zip hzip |>.1
    have hmem : ∀ c ∈ (Layout.lineText o plain highlighted).plain, c = ' ' ∨ c ∈ plain :=
      fun c => mem_plain_lineText (l.agree _ hzip)
    have hshown : AddsUp (Layout.lineText o plain highlighted).plain := by
      constructor
      · exact fun hc => (hadds plain hline).1 ((hmem _ hc).resolve_left (by decide))
      · exact fun hc => (hadds plain hline).2 ((hmem _ hc).resolve_left (by decide))
    have hfits : ∀ c ∈ (Layout.lineText o plain highlighted).plain, charCells c ≤ column := by
      intro c hc
      rcases hmem c hc with rfl | hc
      · rw [isNarrow_space.1]
        exact hcolumn
      · exact hwide plain hline c hc
    have hpiece : piece.plain ∈ wrapText column (Layout.lineText o plain highlighted).plain := by
      rw [← Styled.map_plain_wrap]
      exact List.mem_map_of_mem h
    exact ⟨hshown.of_sublist (sublist_of_mem_wrapText hpiece),
      cells_le_of_mem_wrapText hshown hfits hpiece⟩
  · cases h

/-- Halves fit if their pieces and the number of their line do. -/
theorem fits_of_mem_halves {pieces : List Text} {rest : Nat} {h : Half}
    (hpieces : ∀ p ∈ pieces, AddsUp p ∧ cells p ≤ column)
    (hnumber : ∀ n, i = some n → numberWidth ≠ 0 →
      (Text.ofNat (n + 1).toNat).length ≤ numberWidth)
    (hmem : h ∈ halves numberWidth i rest pieces) : h.Fits numberWidth column := by
  have hblank : ∀ content, (AddsUp content ∧ cells content ≤ column) →
      ∀ piece, piece.getD [] = content →
      Half.Fits numberWidth column ⟨List.replicate numberWidth ' ', piece⟩ :=
    fun content hcontent piece hpiece =>
      ⟨fun _ => cells_replicate numberWidth, by rw [Half.content, hpiece]; exact hcontent⟩
  have hempty : AddsUp [] ∧ cells [] ≤ column := ⟨(cells_replicate 0).1, Nat.zero_le _⟩
  rw [halves, List.mem_append, List.mem_map] at hmem
  rcases hmem with ⟨p, hp, rfl⟩ | hmem
  · cases i with
    | none => exact hblank p (hpieces p hp) _ rfl
    | some n =>
      refine ⟨fun hwidth => ?_, hpieces p hp⟩
      have hnarrow := cells_of_isNarrow
        (t := Text.padLeft numberWidth (Text.ofNat (n + 1).toNat)) fun c hc => by
          rcases List.mem_append.1 hc with hc | hc
          · exact List.eq_of_mem_replicate hc ▸ isNarrow_space
          · exact isNarrow_of_mem_ofNat hc
      have hlength := hnumber n rfl hwidth
      refine ⟨hnarrow.1, hnarrow.2.trans ?_⟩
      rw [Text.padLeft, List.length_append, List.length_replicate]
      omega
  · rw [List.eq_of_mem_replicate hmem]
    cases i with
    | none => exact hblank [] hempty _ rfl
    | some n => exact hblank [] hempty _ rfl

end pieces

/-! ## Whole displays -/

/-- **The rows of a display are aligned.** Let the lines hold neither joiners nor selectors, and no
character wider than the column. Then the gutter of every row starts at the same cell, behind a
number field with a space, if lines are numbered, and the column. A row is no wider than two such
sides and the gutter, and with line numbers it is as wide as that; so with room for a cell on either
side it fits the width that was asked for. -/
theorem layout_aligned (o : DisplayOptions) (d : Diff)
    (hadds : ∀ line ∈ d.left.lines ++ d.right.lines, joiner ∉ line ∧ emojiSelector ∉ line)
    (hwide : ∀ line ∈ d.left.lines ++ d.right.lines, ∀ c ∈ line,
      charCells c ≤ Layout.columnWidth o d) :
    let side := Layout.numberColumns o d + Layout.columnWidth o d
    Layout.numberColumns o d =
      (if o.lineNumbers.holds then (Text.ofNat (max d.left.size d.right.size)).length + 1
      else 0) ∧
    ∀ row ∈ layout o d,
      (∃ e ∈ d.entries, ∃ r : RowText,
        row ∈ Layout.group o d (Layout.numberWidth o d) (Layout.columnWidth o d) e ∧
        row.plain = r.text (Layout.numberWidth o d) (Layout.columnWidth o d) ∧
        r.gutter = gutter e.tag ∧
        cells (r.before (Layout.numberWidth o d) (Layout.columnWidth o d)) = side) ∧
      row.cells ≤ 2 * side + 3 ∧
      (o.lineNumbers.holds = true → row.cells = 2 * side + 3) ∧
      (1 ≤ Int.fdiv ((o.width : Int) - 3) 2 - Layout.numberColumns o d →
        row.cells ≤ o.width) := by
  intro side
  refine ⟨numberColumns_eq, ?_⟩
  have hcolumn : 0 < Layout.columnWidth o d := by
    simp only [Layout.columnWidth]
    omega
  rw [List.forall_mem_append] at hadds hwide
  intro row hrow
  obtain ⟨e, he, hrow⟩ := List.mem_flatMap.1 hrow
  have hplain : row.plain ∈ (Layout.group o d (Layout.numberWidth o d)
      (Layout.columnWidth o d) e).map Styled.plain := List.mem_map_of_mem hrow
  rw [Layout.map_plain_group] at hplain
  obtain ⟨r, hr, htext⟩ := List.mem_map.1 hplain
  have hnumber : ∀ n : Int, 0 ≤ n → n < (max d.left.size d.right.size : Nat) →
      Layout.numberWidth o d ≠ 0 →
      (Text.ofNat (n + 1).toNat).length ≤ Layout.numberWidth o d := by
    intro n hlow hhigh hwidth
    refine length_ofNat_le_numberWidth ?_ (by omega)
    by_contra hoff
    exact hwidth (if_neg hoff)
  have hleft : r.left.Fits (Layout.numberWidth o d) (Layout.columnWidth o d) := by
    have hmem := List.mem_map_of_mem (f := RowText.left) hr
    rw [map_left_rowTexts] at hmem
    refine fits_of_mem_halves ?_ ?_ hmem
    · rw [List.forall_mem_map]
      exact fun piece => cells_le_of_mem_pieces hcolumn hadds.1 hwide.1
    · intro n hn
      obtain ⟨hlow, hhigh⟩ := d.left?_inRange he hn
      exact hnumber n hlow (hhigh.trans_le (Int.ofNat_le.2 (le_max_left _ _)))
  have hright : r.right.Fits (Layout.numberWidth o d) (Layout.columnWidth o d) := by
    have hmem := List.mem_map_of_mem (f := RowText.right) hr
    rw [map_right_rowTexts] at hmem
    refine fits_of_mem_halves ?_ ?_ hmem
    · rw [List.forall_mem_map]
      exact fun piece => cells_le_of_mem_pieces hcolumn hadds.2 hwide.2
    · intro n hn
      obtain ⟨hlow, hhigh⟩ := d.right?_inRange he hn
      exact hnumber n hlow (hhigh.trans_le (Int.ofNat_le.2 (le_max_right _ _)))
  have hgutter := gutter_of_mem_rowTexts _ _ _ _ r hr
  obtain ⟨hle, heq⟩ := RowText.cells_text hleft hright hgutter
  rw [Styled.cells, ← htext]
  refine ⟨⟨e, he, r, hrow, rfl, hgutter, (RowText.cells_before hleft).2⟩, hle, ?_, ?_⟩
  · intro hnumbers
    refine heq ?_
    rw [Layout.numberWidth, if_pos hnumbers]
    exact Nat.length_toDigits_pos.ne'
  · exact fun hroom => hle.trans (two_mul_sideWidth_le hroom)

/-- A coloured line with a wide character and a tab, wrapped beside a line with a combining one, and
an added empty line: with line numbers the display has three rows, and every one takes all of the
seventeen cells it has. -/
theorem layout_aligned_coloured :
    let o : DisplayOptions := ⟨4, 17, .bool true, .bool true, .null, by decide, by decide⟩
    let left : Listing := ⟨["漢\tx".toList], ["\x1b[36m漢\tx\x1b[39m".toList], rfl,
      by decide +kernel, by decide⟩
    let right : Listing := .plain ["e\u0301y".toList, []] (by decide)
    ∃ d, Diff.ofEntries left right [.changed 0 0, .added 1] = .ok d ∧
      (∀ line ∈ d.left.lines ++ d.right.lines, joiner ∉ line ∧ emojiSelector ∉ line) ∧
      (∀ line ∈ d.left.lines ++ d.right.lines, ∀ c ∈ line,
        charCells c ≤ Layout.columnWidth o d) ∧
      1 ≤ Int.fdiv ((o.width : Int) - 3) 2 - Layout.numberColumns o d ∧
      Layout.numberColumns o d + Layout.columnWidth o d = 7 ∧
      (layout o d).length = 3 ∧
      ∀ row ∈ layout o d, row.cells = 17 ∧ row.cells ≤ o.width := by
  intro o left right
  obtain ⟨d, hd⟩ : ∃ d, Diff.ofEntries left right [.changed 0 0, .added 1] = .ok d := ⟨_, rfl⟩
  have hlines : d.left.lines ++ d.right.lines = ["漢\tx".toList, "e\u0301y".toList, []] := by
    cases hd
    rfl
  have hcolumn : Layout.columnWidth o d = 5 := by
    cases hd
    decide +kernel
  have hnumber : Layout.numberColumns o d = 2 := by
    cases hd
    decide +kernel
  have hadds : ∀ line ∈ d.left.lines ++ d.right.lines,
      joiner ∉ line ∧ emojiSelector ∉ line := by
    rw [hlines]
    decide
  have hwide : ∀ line ∈ d.left.lines ++ d.right.lines, ∀ c ∈ line,
      charCells c ≤ Layout.columnWidth o d := by
    have hall : ["漢\tx".toList, "e\u0301y".toList, []].all
        (fun line => line.all fun c => decide (charCells c ≤ 5)) = true := by decide +kernel
    rw [hlines, hcolumn]
    exact fun line hline => Text.forall_mem_of_all (List.all_eq_true.1 hall line hline)
  have hroom : 1 ≤ Int.fdiv ((o.width : Int) - 3) 2 - Layout.numberColumns o d := by
    rw [hnumber]
    decide
  have hside : Layout.numberColumns o d + Layout.columnWidth o d = 7 := by
    rw [hnumber, hcolumn]
  have hlength : (layout o d).length = 3 := by
    rw [Layout.layout_eq]
    cases hd
    decide +kernel
  refine ⟨d, hd, hadds, hwide, hroom, hside, hlength, fun row hrow => ?_⟩
  obtain ⟨-, -, hcells, hfits⟩ := (layout_aligned o d hadds hwide).2 row hrow
  rw [hcells rfl, hside]
  exact ⟨rfl, by decide⟩

end Collate.Display
