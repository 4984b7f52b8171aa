import Collate.Display.Render
import Collate.Proofs.Display.Rows
import Collate.Proofs.Listing.Tabs

/-!
# Displays on sinks that refuse

A display is written row by row, and a sink may refuse any of the writes. Since all rows are laid out
before the first one is written, it does not matter to the rows which sink they are for: a sink that
takes `n` writes holds the first `n` rows of the display and nothing of the others
(`Sink.write_of_goodWrites`). As no row holds a newline (`newline_not_mem_of_mem_layout`), what is
written falls into whole rows.

What can keep a display from being written at all is found before the first write: more spaces for a
tab than a text can count or there is memory for, and a size of the terminal that is no number
(`checkDisplay`).
-/

namespace Collate.Display

open Collate.Options Collate.Terminal

/-! ## Sinks -/

namespace Sink

variable {sink : Sink}

/-- A sink that takes all writes goes on taking them. -/
theorem next?_of_none (h : sink.goodWrites = none) : sink.next? = some sink := by
  rw [next?, h]

/-- A sink that takes no more writes refuses the next one. -/
theorem next?_of_zero (h : sink.goodWrites = some 0) : sink.next? = none := by
  rw [next?, h]

/-- A write uses up one of those that a sink takes. -/
theorem next?_of_succ {n : Nat} (h : sink.goodWrites = some (n + 1)) :
    sink.next? = some { sink with goodWrites := some n } := by
  rw [next?, h]

/-- A sink that takes all writes holds all texts. -/
theorem write_of_none (h : sink.goodWrites = none) (texts : List Text) :
    sink.write texts = (texts.flatten, true) := by
  induction texts with
  | nil => rfl
  | cons t ts ih => simp only [write, next?_of_none h, ih, List.flatten_cons]

/-- **A sink that takes `n` writes holds the first `n` texts**, and has taken all if there are no
more. -/
theorem write_of_goodWrites {n : Nat} (h : sink.goodWrites = some n) (texts : List Text) :
    sink.write texts = ((texts.take n).flatten, decide (texts.length ≤ n)) := by
  induction texts generalizing sink n with
  | nil => simp [write]
  | cons t ts ih =>
    cases n with
    | zero =>
      simp only [write, next?_of_zero h]
      simp
    | succ n =>
      have hrest := @ih { sink with goodWrites := some n } n rfl
      simp only [write, next?_of_succ h, hrest]
      simp

end Sink

/-! ## Rows are single lines -/

section newline

variable {numberWidth column : Nat}

/-- What a row reads consists of what its halves hold, its gutter, and spaces. -/
theorem RowText.mem_text {r : RowText} {c : Char} (h : c ∈ r.text numberWidth column) :
    c = ' ' ∨ (c ∈ r.left.number ∨ c ∈ r.left.content) ∨ c ∈ r.gutter ∨
      (c ∈ r.right.number ∨ c ∈ r.right.content) := by
  unfold RowText.text RowText.before RowText.after fill at h
  split at h
  · simp only [List.mem_append, List.mem_replicate, List.not_mem_nil, false_or, or_false] at h
    tauto
  · simp only [List.mem_append, List.mem_replicate, List.mem_cons, List.not_mem_nil,
      or_false] at h
    tauto

/-- A number field holds digits and spaces, and the pieces of halves are those given. -/
theorem of_mem_halves {i : Option Int} {rest : Nat} {pieces : List Text} {h : Half}
    (hh : h ∈ halves numberWidth i rest pieces) :
    (∀ c ∈ h.number, c = ' ' ∨ c ∈ "0123456789".toList) ∧
      ∀ c ∈ h.content, ∃ p ∈ pieces, c ∈ p := by
  have hspaces : ∀ n, ∀ c ∈ List.replicate n ' ', c = ' ' ∨ c ∈ "0123456789".toList :=
    fun n c hc => .inl (List.eq_of_mem_replicate hc)
  have hnumber : ∀ piece, ∀ c ∈ (Half.ofPiece numberWidth i piece).number,
      c = ' ' ∨ c ∈ "0123456789".toList := by
    intro piece c hc
    unfold Half.ofPiece at hc
    split at hc
    · rcases List.mem_append.1 hc with hc | hc
      · exact hspaces _ c hc
      · exact .inr (mem_of_mem_ofNat hc)
    · exact hspaces _ c hc
  rw [halves, List.mem_append, List.mem_map] at hh
  rcases hh with ⟨p, hp, rfl⟩ | hh
  · refine ⟨hnumber _, fun c hc => ⟨p, hp, ?_⟩⟩
    rwa [Half.content, Half.piece_ofPiece] at hc
  · rw [List.eq_of_mem_replicate hh]
    refine ⟨hnumber _, fun c hc => ?_⟩
    rw [Half.content, Half.piece_ofPiece] at hc
    cases hc

/-- A piece of a line holds no newline. -/
theorem newline_not_mem_pieceTexts {o : DisplayOptions} {l : Listing} {i : Option Int} {p : Text}
    (h : p ∈ pieceTexts o column l i) : '\n' ∉ p := by
  unfold pieceTexts at h
  split at h
  · rename_i line hline
    obtain ⟨n, -, hn⟩ := Option.bind_eq_some_iff.1 hline
    obtain ⟨k, -, hk⟩ := Listing.exists_of_line?_eq_some hn
    intro hc
    have hshown := (sublist_of_mem_wrapText h).mem hc
    rcases mem_expandTabs (List.mem_of_mem_filter hshown) with hspace | hmem
    · exact absurd hspace (by decide)
    · exact l.one_line line (List.mem_of_getElem? hk) hmem
  · cases h

variable {o : DisplayOptions} {d : Diff}

/-- **A row of a display without colours holds no newline.** -/
theorem newline_not_mem_of_mem_layout (h : o.colour.holds = false) {row : Styled}
    (hrow : row ∈ layout o d) : '\n' ∉ row.plain := by
  have hplain : row.plain ∈ (layout o d).map Styled.plain := List.mem_map_of_mem hrow
  rw [map_plain_layout (showsPlain_of_colour h) (showsPlain_of_colour h)] at hplain
  obtain ⟨e, -, hplain⟩ := List.mem_flatMap.1 hplain
  obtain ⟨r, hr, htext⟩ := List.mem_map.1 hplain
  have hleft := List.mem_map_of_mem (f := RowText.left) hr
  have hright := List.mem_map_of_mem (f := RowText.right) hr
  rw [groupTexts, map_left_rowTexts] at hleft
  rw [groupTexts, map_right_rowTexts] at hright
  obtain ⟨hleftNumber, hleftContent⟩ := of_mem_halves hleft
  obtain ⟨hrightNumber, hrightContent⟩ := of_mem_halves hright
  have hnumber : ∀ number : Text, (∀ c ∈ number, c = ' ' ∨ c ∈ "0123456789".toList) →
      '\n' ∉ number := by
    intro number hall hc
    have hdigit := hall _ hc
    revert hdigit
    decide
  have hgutter : '\n' ∉ r.gutter := by
    rw [gutter_of_mem_rowTexts _ _ _ _ r hr]
    cases e.tag <;> decide
  intro hc
  rw [← htext] at hc
  rcases RowText.mem_text hc with hspace | (hc | hc) | hc | hc | hc
  · exact absurd hspace (by decide)
  · exact hnumber _ hleftNumber hc
  · obtain ⟨p, hp, hc⟩ := hleftContent _ hc
    exact newline_not_mem_pieceTexts hp hc
  · exact hgutter hc
  · exact hnumber _ hrightNumber hc
  · obtain ⟨p, hp, hc⟩ := hrightContent _ hc
    exact newline_not_mem_pieceTexts hp hc

end newline

/-! ## Whole displays -/

/-- What can stand against a display without colours on a stream that can be written to. All of it
is looked at before the first row is written. -/
def checkDisplay (env : Environment) (o : DisplayOptions) (s : Stream) (d : Diff) :
    Except Failure Unit := do
  Layout.checkTabs o d env.spaces
  env.checkSize o s !(layout o d).isEmpty

/-- A row as it is written without colours. -/
def writtenRow (row : Styled) : Text := row.plain ++ ['\n']

section display

variable {env : Environment} {o : DisplayOptions} {s : Stream} {d : Diff}

/-- Nothing stands against a display with tabs of so many spaces as a text can count and there is
memory for, where the variables for the size of the terminal can be read. -/
theorem checkDisplay_eq_ok (hmost : o.tabWidth ≤ Layout.mostSpaces) (htabs : o.tabWidth ≤ env.spaces)
    (hsize : ∀ name ∈ ["LINES", "COLUMNS"], ∃ size, env.number? name = .ok size) :
    checkDisplay env o s d = .ok () := by
  obtain ⟨lines, hlines⟩ := hsize "LINES" (by simp)
  obtain ⟨columns, hcolumns⟩ := hsize "COLUMNS" (by simp)
  have hcheck : Layout.checkTabs o d env.spaces = .ok () := by
    unfold Layout.checkTabs
    rw [if_neg (Nat.not_lt.2 hmost), if_neg (Nat.not_lt.2 htabs), ite_self]
  simp only [checkDisplay, hcheck, Environment.checkSize, hlines, hcolumns, bind, Except.bind,
    pure, Except.pure, ite_self]

/-- Without colours the rows are written as they read. -/
theorem painted_eq (hcolour : o.colour.holds = false) (hs : s.checkWritable = .ok ()) :
    painted env o s d = (checkDisplay env o s d).map fun _ => (layout o d).map writtenRow := by
  have hdepth : env.depth? o s = none := by
    simp [Environment.depth?, Environment.takesForTerminal, hcolour]
  have hpaint : paintRow none = writtenRow := rfl
  have hrows : Layout.rows o d env.spaces = (Layout.checkTabs o d env.spaces).map
      fun _ => layout o d :=
    rows_eq_map_checkTabs env.spaces (showsPlain_of_colour hcolour) (showsPlain_of_colour hcolour)
  rw [painted, checkDisplay, hrows, hdepth, hpaint]
  cases Layout.checkTabs o d env.spaces with
  | error f => rfl
  | ok _ =>
    simp only [Except.map, bind, Except.bind, hs]
    cases env.checkSize o s !(layout o d).isEmpty <;> simp [pure, Except.pure]

end display

/-- **A sink that refuses a write holds the rows before it, and rendering says so.** A display
without colours is rendered to a sink that takes `n` writes. Unless something stands against the
display, the sink then holds the first `n` rows, each with a newline behind it and none inside,
which is how the display begins on a sink that takes all. Rendering succeeds exactly if there are no
more rows; otherwise it fails with a report that the sink with its name refused. What stands against
a display keeps all of it from being written; it takes more spaces for a tab than a text can count
or there is memory for, or a size of the terminal in digits that are no number. -/
theorem render_prefix (env : Environment) (o : DisplayOptions) (d : Diff) (name : String)
    (s : Stream) (n : Nat) (hcolour : o.colour.holds = false) (hs : s.checkWritable = .ok ()) :
    (∀ row ∈ layout o d, '\n' ∉ row.plain) ∧
    (o.tabWidth ≤ Layout.mostSpaces → o.tabWidth ≤ env.spaces →
      (∀ name ∈ ["LINES", "COLUMNS"], ∃ size, env.number? name = .ok size) →
      checkDisplay env o s d = .ok ()) ∧
    match checkDisplay env o s d with
    | .error f => render env o ⟨name, s, some n⟩ d = ([], .error f)
    | .ok () => ∃ written result healthy,
      render env o ⟨name, s, some n⟩ d = (written, result) ∧
      render env o ⟨name, s, none⟩ d = (healthy, .ok ()) ∧
      written = ((layout o d).take n).flatMap writtenRow ∧ written <+: healthy ∧
      (result = .ok () ↔ (layout o d).length ≤ n) ∧
      (n < (layout o d).length → ∃ failure report, result = .error failure ∧
        failure.report? = some report ∧ report.category = .outputWrite ∧
        report.path = .text name ∧ report.trouble = some .refused) := by
  refine ⟨fun row => newline_not_mem_of_mem_layout hcolour, checkDisplay_eq_ok, ?_⟩
  have hpainted := @painted_eq env o s d hcolour hs
  cases hcheck : checkDisplay env o s d with
  | error f =>
    rw [hcheck] at hpainted
    simp only [render, hpainted, Except.map]
  | ok _ =>
    rw [hcheck] at hpainted
    have hwrite := @Sink.write_of_goodWrites ⟨name, s, some n⟩ n rfl
      ((layout o d).map writtenRow)
    have hhealthy := @Sink.write_of_none ⟨name, s, none⟩ rfl
      ((layout o d).map writtenRow)
    rw [← List.map_take, ← List.flatMap_def, List.length_map] at hwrite
    rw [← List.flatMap_def] at hhealthy
    have hprefix : (layout o d).take n <+: layout o d := List.take_prefix n (layout o d)
    simp only [render, hpainted, Except.map, hwrite, hhealthy]
    refine ⟨_, _, _, rfl, rfl, rfl, hprefix.flatMap _, by simp, ?_⟩
    intro hlt
    refine ⟨.unwritable name, _, ?_, rfl, rfl, rfl, rfl⟩
    rw [if_neg]
    simpa using hlt

/-- Two rows on a sink that takes one write. -/
theorem render_prefix_second_row :
    let o : DisplayOptions := ⟨4, 80, .null, .bool false, .null, by decide, by decide⟩
    let lines : Listing := .plain [['a'], ['b', '\t']] (by decide)
    o.colour.holds = false ∧ Stream.checkWritable .buffer = .ok () ∧
    ∃ d, Diff.ofEntries lines lines [.unchanged 0 0, .unchanged 1 1] = .ok d ∧
      checkDisplay { bindings := [] } o .buffer d = .ok () ∧
      ∃ failure report,
        render { bindings := [] } o ⟨"out", .buffer, some 1⟩ d =
          ("a     ┃ a\n".toList, .error failure) ∧
        failure.report? = some report ∧ report.category = .outputWrite ∧
        report.path = .text "out" ∧ report.trouble = some .refused := by
  intro o lines
  have hcolour : o.colour.holds = false := by decide
  obtain ⟨d, hd⟩ : ∃ d, Diff.ofEntries lines lines [.unchanged 0 0, .unchanged 1 1] = .ok d :=
    ⟨_, rfl⟩
  obtain ⟨-, hclear, hrun⟩ := render_prefix { bindings := [] } o d "out" .buffer 1 hcolour rfl
  have hcheck := hclear (by decide) (by decide) (fun name _ => ⟨none, rfl⟩)
  have hlength : (layout o d).length = 2 := by
    rw [Layout.layout_eq]
    cases hd
    decide +kernel
  have hfirst : ((layout o d).take 1).flatMap writtenRow = "a     ┃ a\n".toList := by
    rw [Layout.layout_eq]
    cases hd
    decide +kernel
  rw [hcheck] at hrun
  obtain ⟨written, result, healthy, hrender, -, hwritten, -, -, hrefused⟩ := hrun
  obtain ⟨failure, report, rfl, hreport⟩ := hrefused (by omega)
  refine ⟨hcolour, rfl, d, hd, hcheck, failure, report, ?_, hreport⟩
  rw [hrender, hwritten, hfirst]

/-- A display that is not begun, though the sink would take its only row: for a tab of more spaces
than a text can count, and for a terminal with a superscript for its number of columns. The failures
are none of the sink's. -/
theorem render_not_begun :
    let options (tabWidth : Nat) (h : 0 < tabWidth) : DisplayOptions :=
      ⟨tabWidth, 80, .null, .bool false, .null, h, by decide⟩
    let lines : Listing := .plain [['a']] (by decide)
    ∃ d, Diff.ofEntries lines lines [.unchanged 0 0] = .ok d ∧
      (layout (options (2 ^ 63) (by decide)) d).length ≤ 1 ∧
      (layout (options 4 (by decide)) d).length ≤ 1 ∧
      render { bindings := [] } (options (2 ^ 63) (by decide)) ⟨"out", .buffer, some 1⟩ d =
        ([], .error .tooManySpaces) ∧
      render { bindings := [("COLUMNS", "²")] } (options 4 (by decide)) ⟨"out", .buffer, some 1⟩ d =
        ([], .error (.notWhole ['²'])) ∧
      Failure.tooManySpaces.category? ≠ some .outputWrite ∧
      (Failure.notWhole ['²']).category? ≠ some .outputWrite := by
  intro options lines
  obtain ⟨d, hd⟩ : ∃ d, Diff.ofEntries lines lines [.unchanged 0 0] = .ok d := ⟨_, rfl⟩
  refine ⟨d, hd, ?_, ?_, ?_, ?_, by decide, by decide⟩
  · rw [Layout.layout_eq]
    cases hd
    decide +kernel
  · rw [Layout.layout_eq]
    cases hd
    decide +kernel
  · cases hd
    rfl
  · rw [render, painted_eq rfl rfl, checkDisplay, Layout.layout_eq]
    cases hd
    rfl

end Collate.Display
