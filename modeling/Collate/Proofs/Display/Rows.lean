import Mathlib.Data.List.Forall2
import Collate.Display.Layout
import Collate.Proofs.Diff.Path
import Collate.Proofs.Terminal.Wrapping
import Collate.Proofs.Text.Lines

/-!
# What the rows of a display read

A row reads as two halves with a gutter between them. A half has a number field and, if its line
reaches the row, a piece of the line; filling brings it to the column. Styles do not matter for what
a row reads, so the rows of an entry are given by the pieces of its two lines as plain text
(`Layout.map_plain_group`), and each side of them by its own pieces: as many halves as there are
pieces hold one each, in order, and the halves after them hold none (`map_left_rowTexts`,
`map_right_rowTexts`).

A listing may be shown as its plain lines (`ShowsPlain`); it is without colours. Then the pieces are
those of the plain line with its tabs expanded, and nothing stands against a display but the width
of a tab. `layout_reads_listings` is the statement about whole displays: they show both listings,
every line once and in order.
-/

namespace Collate.Display

open Collate.Options Collate.Terminal

/-! ## Characters that a row adds -/

/-- A decimal digit is one of ten characters. -/
theorem mem_of_isDigit {c : Char} (h : c.isDigit = true) : c ∈ "0123456789".toList := by
  have hall : ∀ n < 58, 48 ≤ n → Char.ofNat n ∈ "0123456789".toList := by decide
  obtain ⟨hlow, hhigh⟩ : 48 ≤ c.toNat ∧ c.toNat ≤ 57 := by
    simp only [Char.isDigit, Bool.and_eq_true, decide_eq_true_eq, UInt32.le_iff_toNat_le] at h
    exact h
  have hc := hall c.toNat (Nat.lt_succ_of_le hhigh) hlow
  rwa [Char.ofNat_toNat] at hc

/-- A number is written with decimal digits. -/
theorem mem_of_mem_ofNat {c : Char} {n : Nat} (h : c ∈ Text.ofNat n) :
    c ∈ "0123456789".toList :=
  mem_of_isDigit (Nat.isDigit_of_mem_toDigits (by decide) (by decide) h)

/-- A text that holds none of the characters that styled text drops is kept. -/
theorem withoutControls_eq_self {t : Text} (h : ∀ c ∈ t, isStripped c = false) :
    withoutControls t = t :=
  List.filter_eq_self.2 fun c hc => by rw [h c hc]; rfl

/-- Spaces are kept. -/
theorem withoutControls_replicate (n : Nat) :
    withoutControls (List.replicate n ' ') = List.replicate n ' ' := by
  apply withoutControls_eq_self
  intro c hc
  rw [List.eq_of_mem_replicate hc]
  rfl

/-- A number is kept. -/
theorem withoutControls_ofNat (n : Nat) : withoutControls (Text.ofNat n) = Text.ofNat n := by
  apply withoutControls_eq_self
  intro c hc
  have hdigits : ∀ d ∈ "0123456789".toList, isStripped d = false :=
    Text.forall_mem_of_all (by decide)
  exact hdigits c (mem_of_mem_ofNat hc)

theorem withoutControls_append (s t : Text) :
    withoutControls (s ++ t) = withoutControls s ++ withoutControls t :=
  List.filter_append _ _

/-- A gutter is kept. -/
theorem withoutControls_gutter (tag : Tag) : withoutControls (gutter tag) = gutter tag := by
  cases tag <;> decide

/-! ## Halves and rows -/

/-- One side of a row. -/
structure Half where
  /-- The field for the number of the line. -/
  number : Text
  /-- The piece of the line, if the line reaches the row. -/
  piece : Option Text

/-- A row as it reads. -/
structure RowText where
  /-- The left side. -/
  left : Half
  /-- What stands between the sides. -/
  gutter : Text
  /-- The right side. -/
  right : Half

namespace Half

/-- What a half shows of its line. -/
def content (h : Half) : Text := h.piece.getD []

/-- What halves show of a line together; nothing where no half holds a piece. -/
def shown? (halves : List Half) : Option Text :=
  match halves.filterMap piece with
  | [] => none
  | pieces => some pieces.flatten

/-- The half for a piece of the line at an index, or for none. The number of the line stands beside
a piece, right-aligned. -/
def ofPiece (width : Nat) (i : Option Int) (piece : Option Text) : Half :=
  match i, piece with
  | some n, some p => ⟨Text.padLeft width (Text.ofNat (n + 1).toNat), some p⟩
  | _, piece => ⟨List.replicate width ' ', piece⟩

@[simp] theorem piece_ofPiece (width : Nat) (i : Option Int) (p : Option Text) :
    (ofPiece width i p).piece = p := by
  unfold ofPiece
  split <;> rfl

end Half

namespace RowText

/-- What a row writes up to its gutter, in columns and number fields of given widths. -/
def before (numberWidth column : Nat) (r : RowText) : Text :=
  (if numberWidth = 0 then [] else r.left.number ++ [' ']) ++ r.left.content ++
    fill column (cells r.left.content)

/-- What a row writes behind its gutter. Without number fields nothing follows the right piece. -/
def after (numberWidth column : Nat) (r : RowText) : Text :=
  r.right.content ++
    (if numberWidth = 0 then []
    else fill column (cells r.right.content) ++ ' ' :: r.right.number)

/-- A row as it is written. -/
def text (numberWidth column : Nat) (r : RowText) : Text :=
  r.before numberWidth column ++ r.gutter ++ r.after numberWidth column

end RowText

/-- The rows of an entry whose lines fall into the given pieces. -/
def rowTexts (numberWidth : Nat) (e : Entry) (lefts rights : List Text) : List RowText :=
  List.zipWithAll (fun l r => ⟨Half.ofPiece numberWidth e.left? l, gutter e.tag,
    Half.ofPiece numberWidth e.right? r⟩) lefts rights

namespace Layout

/-- The number field beside a piece does not depend on its styles. -/
theorem number_eq (width : Nat) (i : Option Int) (piece : Option Styled) :
    number width i piece = (Half.ofPiece width i (piece.map Styled.plain)).number := by
  cases piece <;> cases i <;> simp [number, Half.ofPiece, Text.padLeft]

/-- A number field is kept. -/
theorem withoutControls_number (width : Nat) (i : Option Int) (piece : Option Styled) :
    withoutControls (number width i piece) = number width i piece := by
  unfold number Text.padLeft
  rw [withoutControls_append, withoutControls_replicate]
  cases piece with
  | none => rfl
  | some p =>
    cases i with
    | none => rfl
    | some n => rw [withoutControls_ofNat]

/-- A row reads as its halves do. -/
theorem plain_row (numberWidth column : Nat) (e : Entry) (left right : Option Styled) :
    (row numberWidth column e left right).plain =
      RowText.text numberWidth column
        ⟨Half.ofPiece numberWidth e.left? (left.map Styled.plain), gutter e.tag,
          Half.ofPiece numberWidth e.right? (right.map Styled.plain)⟩ := by
  have hcontent : ∀ (i : Option Int) (piece : Option Styled),
      (Half.ofPiece numberWidth i (piece.map Styled.plain)).content = (piece.getD []).plain := by
    intro i piece
    rw [Half.content, Half.piece_ofPiece]
    cases piece <;> rfl
  have hspace : withoutControls [' '] = [' '] := by decide
  have hbefore : withoutControls (number numberWidth e.left? left ++ [' ']) =
      number numberWidth e.left? left ++ [' '] := by
    rw [withoutControls_append, withoutControls_number, hspace]
  have hafter : withoutControls (' ' :: number numberWidth e.right? right) =
      ' ' :: number numberWidth e.right? right := by
    rw [← List.singleton_append, withoutControls_append, withoutControls_number, hspace]
  unfold row RowText.text RowText.before RowText.after
  simp only [Styled.plain_append, Styled.plain_ofText, withoutControls_gutter, hcontent,
    ← number_eq, fill, withoutControls_replicate, Styled.cells, ← List.append_assoc]
  split
  · rfl
  · simp only [Styled.plain_append, Styled.plain_ofText, withoutControls_replicate, hbefore, hafter]

/-- The rows of an entry pair up the pieces of its lines. -/
theorem pairUp_eq (ls rs : List Styled) : pairUp ls rs = List.zipWithAll Prod.mk ls rs := by
  induction ls generalizing rs with
  | nil =>
    induction rs with
    | nil => rw [pairUp, List.nil_zipWithAll, List.map_nil]
    | cons r rs ih => rw [pairUp, ih, List.nil_zipWithAll, List.nil_zipWithAll, List.map_cons]
  | cons l ls ih =>
    cases rs with
    | nil => rw [pairUp, ih, List.zipWithAll_nil, List.zipWithAll_nil, List.map_cons]
    | cons r rs => rw [pairUp, ih, List.zipWithAll_cons_cons]

/-- The rows of an entry, by the pieces of its lines. -/
theorem group_eq (o : DisplayOptions) (d : Diff) (numberWidth column : Nat) (e : Entry) :
    group o d numberWidth column e =
      List.zipWithAll (row numberWidth column e) (pieces o column d.left e.left?)
        (pieces o column d.right e.right?) := by
  rw [group, pairUp_eq, List.map_zipWithAll]

/-- **What the rows of an entry read is given by what the pieces of its lines read.** -/
theorem map_plain_group (o : DisplayOptions) (d : Diff) (numberWidth column : Nat) (e : Entry) :
    (group o d numberWidth column e).map Styled.plain =
      (rowTexts numberWidth e ((pieces o column d.left e.left?).map Styled.plain)
        ((pieces o column d.right e.right?).map Styled.plain)).map
          (RowText.text numberWidth column) := by
  rw [group_eq, rowTexts, List.zipWithAll_map]
  simp only [List.map_zipWithAll, plain_row, Option.map_eq_map]

/-- The rows of a display, by the pieces of the lines. -/
theorem layout_eq (o : DisplayOptions) (d : Diff) :
    layout o d = d.entries.flatMap fun e =>
      List.zipWithAll (row (numberWidth o d) (columnWidth o d) e)
        (pieces o (columnWidth o d) d.left e.left?)
        (pieces o (columnWidth o d) d.right e.right?) := by
  unfold layout
  dsimp only
  congr 1
  funext e
  exact group_eq o d _ _ e

end Layout

/-! ## The sides of an entry's rows -/

/-- The halves on one side of an entry's rows: one for each piece of its line, and `rest` more. -/
def halves (numberWidth : Nat) (i : Option Int) (rest : Nat) (pieces : List Text) : List Half :=
  pieces.map (fun p => Half.ofPiece numberWidth i (some p)) ++
    List.replicate rest (Half.ofPiece numberWidth i none)

section sides

variable (numberWidth : Nat) (e : Entry) (lefts rights : List Text)

theorem map_left_rowTexts :
    (rowTexts numberWidth e lefts rights).map RowText.left =
      halves numberWidth e.left? (rights.length - lefts.length) lefts := by
  rw [rowTexts, List.map_zipWithAll]
  induction lefts generalizing rights with
  | nil => simp [halves, List.nil_zipWithAll, List.map_const']
  | cons l lefts ih =>
    cases rights with
    | nil => simp [halves, List.zipWithAll_nil]
    | cons r rights =>
      rw [List.zipWithAll_cons_cons, ih]
      simp [halves]

theorem map_right_rowTexts :
    (rowTexts numberWidth e lefts rights).map RowText.right =
      halves numberWidth e.right? (lefts.length - rights.length) rights := by
  rw [rowTexts, List.map_zipWithAll]
  induction rights generalizing lefts with
  | nil => simp [halves, List.zipWithAll_nil, List.map_const']
  | cons r rights ih =>
    cases lefts with
    | nil => simp [halves, List.nil_zipWithAll]
    | cons l lefts =>
      rw [List.zipWithAll_cons_cons, ih]
      simp [halves]

/-- Every row of an entry shows the gutter of its tag. -/
theorem gutter_of_mem_rowTexts :
    ∀ r ∈ rowTexts numberWidth e lefts rights, r.gutter = gutter e.tag := by
  unfold rowTexts
  induction lefts generalizing rights with
  | nil => simp [List.nil_zipWithAll]
  | cons l lefts ih =>
    cases rights with
    | nil => simp [List.zipWithAll_nil]
    | cons r rights =>
      rw [List.zipWithAll_cons_cons, List.forall_mem_cons]
      exact ⟨rfl, ih rights⟩

end sides

/-- The pieces on one side are those that its halves hold. -/
theorem filterMap_piece_halves (numberWidth : Nat) (i : Option Int) (rest : Nat)
    (pieces : List Text) : (halves numberWidth i rest pieces).filterMap Half.piece = pieces := by
  simp [halves, List.filterMap_append, List.filterMap_map]

/-! ## What is shown of a line -/

/-- What a display shows of a line: its tabs are spaces, and the control characters that styled text
does not keep are gone. -/
def shownLine (o : DisplayOptions) (line : Text) : Text :=
  withoutControls (expandTabs o.tabWidth line)

/-- The halves on one side of an entry's rows show the line that the entry refers to there: the
pieces make up the line, an empty line has one empty piece, and the number of the line stands beside
every piece and nowhere else. Without a line no half holds a piece. -/
structure ShowsSide (o : DisplayOptions) (l : Listing) (numberWidth : Nat) (i : Option Int)
    (halves : List Half) : Prop where
  /-- The pieces make up the line. -/
  shown : Half.shown? halves = (i.bind l.line?).map (shownLine o)
  /-- An empty line has one empty piece. -/
  one_piece : Half.shown? halves = some [] → halves.filterMap Half.piece = [[]]
  /-- Without a line every half is blank. -/
  blank : i = none → ∀ h ∈ halves, h.number = List.replicate numberWidth ' ' ∧ h.piece = none
  /-- The number of the line stands beside its pieces and nowhere else. -/
  number : ∀ n, i = some n → ∀ h ∈ halves, h.number =
    if h.piece.isSome then Text.padLeft numberWidth (Text.ofNat (n + 1).toNat)
    else List.replicate numberWidth ' '

/-- The pieces of the line at an index as plain text; none where there is no line. -/
def pieceTexts (o : DisplayOptions) (column : Nat) (l : Listing) (i : Option Int) : List Text :=
  match i.bind l.line? with
  | some line => wrapText column (shownLine o line)
  | none => []

section side

variable {o : DisplayOptions} {column numberWidth : Nat} {l : Listing} {i : Option Int}

/-- There is a coloured line wherever there is a plain one. -/
theorem exists_highlightedLine? {n : Int} {plain : Text} (h : l.line? n = some plain) :
    ∃ highlighted, l.highlightedLine? n = some highlighted := by
  obtain ⟨i, rfl, hi⟩ := Listing.exists_of_line?_eq_some h
  have hlt : i < l.highlighted.length := by
    rw [l.length_eq]
    exact (List.getElem?_eq_some_iff.1 hi).1
  exact ⟨_, itemAt?_of_lt hlt⟩

/-- A coloured line is the form of the plain line at its index. -/
theorem mem_zip_of_line? {n : Int} {plain highlighted : Text} (hplain : l.line? n = some plain)
    (hhighlighted : l.highlightedLine? n = some highlighted) :
    (plain, highlighted) ∈ l.lines.zip l.highlighted := by
  obtain ⟨i, rfl, hi⟩ := Listing.exists_of_line?_eq_some hplain
  obtain ⟨j, hij, hj⟩ := exists_of_itemAt?_eq_some hhighlighted
  obtain rfl : i = j := Int.ofNat_inj.1 hij
  exact List.mem_iff_getElem?.2 ⟨i, List.getElem?_zip_eq_some.2 ⟨hi, hj⟩⟩

/-- A coloured line that differs from its plain line is read as that. -/
theorem readPlain_of_agrees {plain highlighted : Text} (h : agrees plain highlighted = true)
    (hne : highlighted ≠ plain) : readPlain highlighted = .ok plain := by
  unfold agrees at h
  rw [beq_false_of_ne (Ne.symm hne), Bool.false_or] at h
  cases hread : readPlain highlighted with
  | ok t =>
    rw [hread] at h
    exact congrArg Except.ok (eq_of_beq h)
  | error f =>
    rw [hread] at h
    cases h

/-- So a coloured form that is shown is read as the plain line, while its tabs are not expanded. -/
theorem readPlain_of_showsColours {plain highlighted : Text} (h : agrees plain highlighted = true)
    (hcolours : Layout.showsColours o plain highlighted = true) :
    readPlain highlighted = .ok plain := by
  rw [Layout.showsColours, Bool.and_eq_true, bne_iff_ne] at hcolours
  exact readPlain_of_agrees h hcolours.2

/-- A listing that is shown as its plain lines: every line reads as the plain line does, and where
the coloured form is shown, it can be read. -/
structure ShowsPlain (o : DisplayOptions) (l : Listing) : Prop where
  /-- A line reads as the plain line does. -/
  shown : ∀ p ∈ l.lines.zip l.highlighted, (Layout.lineText o p.1 p.2).plain = shownLine o p.1
  /-- A coloured form that is shown can be read. -/
  readable : ∀ p ∈ l.lines.zip l.highlighted, Layout.showsColours o p.1 p.2 = true →
    ∃ s, Styled.read (expandTabs o.tabWidth p.2) = .ok s

/-- Without colours every listing is shown as its plain lines. -/
theorem showsPlain_of_colour (h : o.colour.holds = false) : ShowsPlain o l := by
  have hplain : ∀ plain highlighted, Layout.showsColours o plain highlighted = false := by
    intro plain highlighted
    rw [Layout.showsColours, h, Bool.false_and]
  constructor
  · rintro ⟨plain, highlighted⟩ -
    simp only [Layout.lineText, hplain, Bool.false_eq_true, if_false, Styled.plain_ofText,
      shownLine]
  · rintro ⟨plain, highlighted⟩ - hcolours
    rw [hplain] at hcolours
    cases hcolours

/-- The pieces of a line that is shown as the plain line are those of the plain line. -/
theorem map_plain_pieces (h : ShowsPlain o l) :
    (Layout.pieces o column l i).map Styled.plain = pieceTexts o column l i := by
  unfold Layout.pieces pieceTexts
  cases hline : i.bind l.line? with
  | none => rfl
  | some plain =>
    obtain ⟨n, rfl, hn⟩ := Option.bind_eq_some_iff.1 hline
    obtain ⟨highlighted, hhighlighted⟩ := exists_highlightedLine? hn
    simp only [Option.bind_some, hhighlighted, Styled.map_plain_wrap,
      h.shown _ (mem_zip_of_line? hn hhighlighted)]

/-- Nothing stands against a line that is shown as the plain line. -/
theorem checkLine_eq_ok (h : ShowsPlain o l) : Layout.checkLine o l i = .ok () := by
  unfold Layout.checkLine
  split
  · rename_i plain highlighted hplain hhighlighted
    obtain ⟨n, rfl, hplain⟩ := Option.bind_eq_some_iff.1 hplain
    split
    · rename_i hcolours
      obtain ⟨s, hs⟩ := h.readable _ (mem_zip_of_line? hplain hhighlighted) hcolours
      rw [hs]
      rfl
    · rfl
  · rfl

/-- The halves for the pieces of a line show it. -/
theorem showsSide_halves (rest : Nat) :
    ShowsSide o l numberWidth i (halves numberWidth i rest (pieceTexts o column l i)) where
  shown := by
    rw [Half.shown?, filterMap_piece_halves, pieceTexts]
    cases i.bind l.line? with
    | none => rfl
    | some line =>
      have hflatten := flatten_wrapText column (shownLine o line)
      dsimp only [Option.map_some]
      split
      · rename_i hnil
        exact absurd hnil (wrapText_ne_nil column _)
      · rw [hflatten]
  one_piece := by
    rw [Half.shown?, filterMap_piece_halves, pieceTexts]
    cases i.bind l.line? with
    | none => exact fun h => nomatch h
    | some line =>
      have hflatten := flatten_wrapText column (shownLine o line)
      dsimp only
      split
      · exact fun h => nomatch h
      · rw [hflatten]
        intro h
        rw [Option.some.inj h, wrapText_nil]
  blank := by
    rintro rfl h hh
    rw [halves, pieceTexts, Option.bind_none, List.map_nil, List.nil_append] at hh
    rw [List.eq_of_mem_replicate hh]
    exact ⟨rfl, rfl⟩
  number := by
    rintro n rfl h hh
    rw [halves, List.mem_append, List.mem_map] at hh
    rcases hh with ⟨p, -, rfl⟩ | hh
    · rfl
    · rw [List.eq_of_mem_replicate hh]
      rfl

end side

/-! ## Whole displays -/

section layout

variable (o : DisplayOptions) (d : Diff)

/-- The rows of an entry with plain lines. -/
def groupTexts (e : Entry) : List RowText :=
  rowTexts (Layout.numberWidth o d) e (pieceTexts o (Layout.columnWidth o d) d.left e.left?)
    (pieceTexts o (Layout.columnWidth o d) d.right e.right?)

variable {o d}

/-- An entry of a diff has a row. -/
theorem groupTexts_ne_nil {e : Entry} (he : e ∈ d.entries) : groupTexts o d e ≠ [] := by
  have hpieces : ∀ (l : Listing) (i : Int), 0 ≤ i → i < l.size →
      pieceTexts o (Layout.columnWidth o d) l (some i) ≠ [] := by
    intro l i hlow hhigh
    obtain ⟨n, rfl⟩ := Int.eq_ofNat_of_zero_le hlow
    have hline := Listing.line?_of_lt (l := l) (Int.ofNat_lt.1 hhigh)
    simp only [pieceTexts, Option.bind_some, hline]
    exact wrapText_ne_nil _ _
  have hside : pieceTexts o (Layout.columnWidth o d) d.left e.left? ≠ [] ∨
      pieceTexts o (Layout.columnWidth o d) d.right e.right? ≠ [] := by
    have hleft : ∀ l, e.left? = some l → 0 ≤ l ∧ l < d.left.size := fun l => d.left?_inRange he
    have hright : ∀ r, e.right? = some r → 0 ≤ r ∧ r < d.right.size :=
      fun r => d.right?_inRange he
    cases e with
    | added r => exact .inr (hpieces _ r (hright r rfl).1 (hright r rfl).2)
    | unchanged l r | changed l r | removed l =>
      exact .inl (hpieces _ l (hleft l rfl).1 (hleft l rfl).2)
  intro hnil
  have hl := map_left_rowTexts (Layout.numberWidth o d) e
    (pieceTexts o (Layout.columnWidth o d) d.left e.left?)
    (pieceTexts o (Layout.columnWidth o d) d.right e.right?)
  have hr := map_right_rowTexts (Layout.numberWidth o d) e
    (pieceTexts o (Layout.columnWidth o d) d.left e.left?)
    (pieceTexts o (Layout.columnWidth o d) d.right e.right?)
  rw [groupTexts] at hnil
  rw [hnil, List.map_nil] at hl hr
  have hl := congrArg (List.filterMap Half.piece) hl
  have hr := congrArg (List.filterMap Half.piece) hr
  rw [filterMap_piece_halves] at hl hr
  exact hside.elim (fun h => h hl.symm) (fun h => h hr.symm)

/-- Nothing but the width of a tab stands against a display of plain lines. -/
theorem rows_eq_map_checkTabs (spaces : Nat) (hleft : ShowsPlain o d.left)
    (hright : ShowsPlain o d.right) :
    Layout.rows o d spaces = (Layout.checkTabs o d spaces).map fun _ => layout o d := by
  have hlines : Layout.checkLines o d = .ok () := by
    unfold Layout.checkLines
    induction d.entries with
    | nil => rfl
    | cons e es ih =>
      rw [List.forM_eq_forM, List.forM_cons, checkLine_eq_ok hleft, checkLine_eq_ok hright]
      exact ih
  unfold Layout.rows
  rw [hlines]
  cases Layout.checkTabs o d spaces <;> rfl

/-- What a display of plain lines reads. -/
theorem map_plain_layout (hleft : ShowsPlain o d.left) (hright : ShowsPlain o d.right) :
    (layout o d).map Styled.plain = d.entries.flatMap fun e =>
      (groupTexts o d e).map (RowText.text (Layout.numberWidth o d) (Layout.columnWidth o d)) := by
  rw [layout, List.map_flatMap]
  congr 1
  funext e
  rw [Layout.map_plain_group, map_plain_pieces hleft, map_plain_pieces hright, groupTexts]

/-- **A display without colours shows both listings, every line once and in order.** Its rows are
those of the entries, one group after the other. A group has a row at least, every row of it shows
the gutter of the entry's tag, and each side of it shows the line that the entry refers to there:
its pieces one after the other, its number beside every piece, and blanks elsewhere. What the groups
show on a side are the lines of the listing with their tabs expanded. Such a display can always be
made unless there is no room for the spaces of a tab, however many there is memory for. -/
theorem layout_reads_listings (o : DisplayOptions) (d : Diff) (spaces : Nat)
    (h : o.colour.holds = false) :
    Layout.rows o d spaces = (Layout.checkTabs o d spaces).map (fun _ => layout o d) ∧
    ∃ groups : List (List RowText),
      (layout o d).map Styled.plain =
        groups.flatten.map (RowText.text (Layout.numberWidth o d) (Layout.columnWidth o d)) ∧
      List.Forall₂ (fun (e : Entry) (group : List RowText) =>
        group ≠ [] ∧ (∀ row ∈ group, row.gutter = gutter e.tag) ∧
        ShowsSide o d.left (Layout.numberWidth o d) e.left? (group.map RowText.left) ∧
        ShowsSide o d.right (Layout.numberWidth o d) e.right? (group.map RowText.right))
        d.entries groups ∧
      groups.filterMap (fun group => Half.shown? (group.map RowText.left)) =
        d.left.lines.map (shownLine o) ∧
      groups.filterMap (fun group => Half.shown? (group.map RowText.right)) =
        d.right.lines.map (shownLine o) := by
  have hleft : ∀ e, ShowsSide o d.left (Layout.numberWidth o d) e.left?
      ((groupTexts o d e).map RowText.left) := by
    intro e
    rw [groupTexts, map_left_rowTexts]
    exact showsSide_halves _
  have hright : ∀ e, ShowsSide o d.right (Layout.numberWidth o d) e.right?
      ((groupTexts o d e).map RowText.right) := by
    intro e
    rw [groupTexts, map_right_rowTexts]
    exact showsSide_halves _
  have hl : ShowsPlain o d.left := showsPlain_of_colour h
  have hr : ShowsPlain o d.right := showsPlain_of_colour h
  refine ⟨rows_eq_map_checkTabs spaces hl hr, d.entries.map (groupTexts o d), ?_, ?_, ?_, ?_⟩
  · rw [map_plain_layout hl hr, ← List.flatMap_def, List.map_flatMap]
  · rw [List.forall₂_map_right_iff, List.forall₂_same]
    intro e he
    exact ⟨groupTexts_ne_nil he, gutter_of_mem_rowTexts _ _ _ _, hleft e,
      hright e⟩
  · rw [List.filterMap_map, ← d.leftLines_eq, Diff.leftLines, List.map_filterMap]
    congr 1
    funext e
    exact (hleft e).shown
  · rw [List.filterMap_map, ← d.rightLines_eq, Diff.rightLines, List.map_filterMap]
    congr 1
    funext e
    exact (hright e).shown

/-- A line with a tab beside a shorter one of wide characters, and an empty line, in a display with
line numbers that has room for three cells on either side. -/
theorem layout_reads_listings_wrapped :
    let o : DisplayOptions := ⟨2, 13, .bool true, .bool false, .null, by decide, by decide⟩
    let left : Listing := .plain ["ab\tcde".toList, []] (by decide)
    let right : Listing := .plain ["漢字x".toList] (by decide)
    o.colour.holds = false ∧
    ∃ d, Diff.ofEntries left right [.changed 0 0, .removed 1] = .ok d ∧
      Layout.rows o d = .ok (layout o d) ∧
      ∃ groups : List (List RowText),
        (layout o d).map Styled.plain = groups.flatten.map (RowText.text 1 3) ∧
        groups.length = 2 ∧
        groups.filterMap (fun group => Half.shown? (group.map RowText.left)) =
          ["ab  cde".toList, []] ∧
        groups.filterMap (fun group => Half.shown? (group.map RowText.right)) =
          ["漢字x".toList] := by
  intro o left right
  have hcolour : o.colour.holds = false := by decide
  obtain ⟨d, hd⟩ : ∃ d, Diff.ofEntries left right [.changed 0 0, .removed 1] = .ok d := ⟨_, rfl⟩
  obtain ⟨hrows, groups, hplain, hgroups, hleft, hright⟩ :=
    layout_reads_listings o d Environment.usualSpaces hcolour
  refine ⟨hcolour, d, hd, ?_, groups, ?_, ?_, ?_, ?_⟩
  · rw [hrows]
    cases hd
    rfl
  · have hnumber : Layout.numberWidth o d = 1 := by
      cases hd
      decide +kernel
    have hcolumn : Layout.columnWidth o d = 3 := by
      cases hd
      decide +kernel
    rw [hplain, hnumber, hcolumn]
  · rw [← hgroups.length_eq]
    cases hd
    rfl
  · rw [hleft]
    cases hd
    decide
  · rw [hright]
    cases hd
    decide

end layout

end Collate.Display
