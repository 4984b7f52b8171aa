import Collate.Proofs.Comparison.Colours
import Collate.Proofs.Display.Rows
import Collate.Proofs.Listing.Forms

/-!
# Which coloured lines are accepted

Coloured lines that hold the escape character in style escapes only can be judged without reading
any escape: delete the style escapes and compare what is left with the plain lines. A listing is
made exactly if nothing differs, and the failure names the first line that does
(`firstDisagreement?_of_holdsOnlyStyles`). The style escapes may be any, and those with numbers up
to 255 are among them (`isStyleEscape_of_numbers`).

A code is split into lines, given to a highlighter with newlines for the ends of its lines, and what
comes back is split again. For a highlighter that makes a form of every line none of this loses or
moves a line, whatever ends the lines of the code or of the answer
(`Compare.listing_of_forms`).
-/

namespace Collate

open Collate.Display Collate.Highlight Collate.Terminal Collate.Text

/-- A line of characters that styled text keeps. It holds no line end. -/
def IsKept (line : Text) : Prop := ∀ c ∈ line, isLineEnd c = false ∧ isStripped c = false

/-- Such lines hold no newlines. -/
theorem newline_not_mem_of_isKept {lines : List Text} (h : ∀ line ∈ lines, IsKept line) :
    ∀ line ∈ lines, '\n' ∉ line :=
  fun line hline hc => absurd (h line hline _ hc).1 (by decide)

/-- The first place at which two lists of lines differ. -/
structure DifferFirstAt (as bs : List Text) (i : Nat) : Prop where
  /-- Up to there they are the same. -/
  same : as.take i = bs.take i
  /-- There they are not. -/
  differ : as[i]? ≠ bs[i]?

/-- There is one such place at most. -/
theorem DifferFirstAt.eq {as bs : List Text} {i j : Nat} (hi : DifferFirstAt as bs i)
    (hj : DifferFirstAt as bs j) : i = j := by
  have hnot : ∀ {i j : Nat}, DifferFirstAt as bs i → DifferFirstAt as bs j → ¬i < j := by
    intro i j hi hj hlt
    apply hi.differ
    rw [← List.getElem?_take_of_lt hlt, hj.same, List.getElem?_take_of_lt hlt]
  exact Nat.le_antisymm (Nat.not_lt.1 (hnot hj hi)) (Nat.not_lt.1 (hnot hi hj))

section forms

variable {plain form : Text} {lines forms : List Text}

/-- A line that holds the escape character in style escapes only is read as what is left of it when
these are deleted. -/
theorem readPlain_of_holdsOnlyStyles (h : HoldsOnlyStyles form) (hkept : IsKept form) :
    readPlain form = .ok (withoutStyles form) := by
  obtain ⟨line, hline, hform⟩ := h
  have hmem : ∀ c ∈ line, isLineEnd c = false ∧ isStripped c = false :=
    fun c hc => hkept c (hform.sublist.mem hc)
  have hnewline : '\n' ∉ line := fun hc => absurd (hmem _ hc).1 (by decide)
  have hcarriage : '\r' ∉ line := fun hc => absurd (hmem _ hc).1 (by decide)
  rw [hform.readPlain_eq hline hnewline hcarriage, hform.withoutStyles_eq hline,
    withoutControls_eq_self fun c hc => (hmem c hc).2]

/-- A line without the escape character has no style escapes to be deleted. -/
theorem withoutStyles_eq_self (h : escapeChar ∉ plain) : withoutStyles plain = plain :=
  (StyledForm.refl plain).withoutStyles_eq h

/-- A form disagrees with a plain line exactly if something else is left of it. -/
theorem disagreement?_of_holdsOnlyStyles (hplain : escapeChar ∉ plain) (h : HoldsOnlyStyles form)
    (hkept : IsKept form) (index : Nat) :
    disagreement? index plain form =
      if withoutStyles form = plain then none else some (.lineMismatch index plain) := by
  unfold disagreement?
  rw [readPlain_of_holdsOnlyStyles h hkept]
  by_cases heq : plain = form
  · rw [if_pos heq, if_pos]
    rw [← heq, withoutStyles_eq_self hplain]
  · rw [if_neg heq]

/-- **Forms disagree with plain lines at the first line of which something else is left**, and do
not if there is none. -/
theorem firstDisagreement?_of_holdsOnlyStyles (hlines : ∀ line ∈ lines, escapeChar ∉ line)
    (hforms : ∀ form ∈ forms, HoldsOnlyStyles form ∧ IsKept form)
    (hlength : forms.length = lines.length) (index : Nat) :
    (forms.map withoutStyles = lines ∧ firstDisagreement? index lines forms = none) ∨
    ∃ i line, DifferFirstAt (forms.map withoutStyles) lines i ∧
      firstDisagreement? index lines forms = some (.lineMismatch (index + i) line) := by
  induction lines generalizing forms index with
  | nil =>
    rw [List.length_eq_zero_iff.1 hlength]
    exact .inl ⟨rfl, rfl⟩
  | cons line lines ih =>
    obtain ⟨form, forms, rfl⟩ := List.exists_cons_of_length_eq_add_one hlength
    obtain ⟨hline, hlines⟩ := List.forall_mem_cons.1 hlines
    obtain ⟨⟨hform, hkept⟩, hforms⟩ := List.forall_mem_cons.1 hforms
    rw [firstDisagreement?, disagreement?_of_holdsOnlyStyles hline hform hkept, List.map_cons]
    by_cases hleft : withoutStyles form = line
    · rw [if_pos hleft, hleft]
      rcases ih hlines hforms (Nat.succ.inj hlength) (index + 1) with
        ⟨hsame, hnone⟩ | ⟨i, other, ⟨hsame, hdiffer⟩, hsome⟩
      · exact .inl ⟨by rw [hsame], hnone⟩
      · refine .inr ⟨i + 1, other, ⟨by rw [List.take_succ_cons, hsame, List.take_succ_cons], ?_⟩, ?_⟩
        · rwa [List.getElem?_cons_succ, List.getElem?_cons_succ]
        · rw [show index + (i + 1) = index + 1 + i by omega]
          exact hsome
    · rw [if_neg hleft]
      exact .inr ⟨0, line, ⟨rfl, by simpa using hleft⟩, rfl⟩

/-- A failure that reports coloured lines that do not fit, and which line it is. -/
def ReportsMismatch (f : Failure) (line : Setting) : Prop :=
  ∃ report, f.report? = some report ∧ report.category = .highlightMismatch ∧ report.line = line

/-- Coloured lines of another number are refused. -/
theorem ofLines_of_length_ne (hlines : ∀ line ∈ lines, IsKept line)
    (hlength : forms.length ≠ lines.length) :
    Listing.ofLines lines (some forms) = .error (.lineCount forms.length lines.length) := by
  have hcheck : _ = checkColours lines forms := map_ofLines_some (newline_not_mem_of_isKept hlines)
  rw [checkColours, if_pos (Ne.symm hlength)] at hcheck
  cases hlisting : Listing.ofLines lines (some forms) with
  | ok l =>
    rw [hlisting] at hcheck
    cases hcheck
  | error f =>
    rw [hlisting] at hcheck
    cases hcheck
    rfl

/-- **Coloured lines are accepted exactly if the plain lines are left of them**, else the failure
reports the first line at which something else is left, or none if there are more lines or fewer. -/
theorem ofLines_of_holdsOnlyStyles
    (hlines : ∀ line ∈ lines, escapeChar ∉ line ∧ IsKept line)
    (hforms : ∀ form ∈ forms, HoldsOnlyStyles form ∧ IsKept form) :
    ((∃ l, Listing.ofLines lines (some forms) = .ok l) ↔ forms.map withoutStyles = lines) ∧
    (∀ l, Listing.ofLines lines (some forms) = .ok l → l.lines = lines ∧ l.highlighted = forms) ∧
    ∀ f, Listing.ofLines lines (some forms) = .error f →
      if forms.length = lines.length then
        ∃ i : Nat, DifferFirstAt (forms.map withoutStyles) lines i ∧ ReportsMismatch f (.int i)
      else ReportsMismatch f .null := by
  have hkept : ∀ line ∈ lines, IsKept line := fun line hline => (hlines line hline).2
  have hfields : ∀ l, Listing.ofLines lines (some forms) = .ok l →
      l.lines = lines ∧ l.highlighted = forms :=
    fun l hl => ⟨Listing.lines_of_ofLines hl, Listing.highlighted_of_ofLines hl⟩
  by_cases hlength : forms.length = lines.length
  · obtain ⟨haccepted, hrefused⟩ := ofLines_some (newline_not_mem_of_isKept hkept) hlength
    rw [haccepted]
    rcases firstDisagreement?_of_holdsOnlyStyles (fun line hline => (hlines line hline).1) hforms
      hlength 0 with ⟨hsame, hnone⟩ | ⟨i, line, hdiffer, hsome⟩
    · refine ⟨iff_of_true hnone hsame, hfields, fun f hf => ?_⟩
      rw [hrefused f hf] at hnone
      cases hnone
    · refine ⟨iff_of_false (by simp [hsome]) fun hsame => hdiffer.differ (by rw [hsame]), hfields,
        fun f hf => ?_⟩
      rw [hrefused f hf, Nat.zero_add] at hsome
      cases hsome
      rw [if_pos hlength]
      exact ⟨i, hdiffer, _, rfl, rfl, rfl⟩
  · have hrefused := ofLines_of_length_ne hkept hlength
    refine ⟨iff_of_false (by simp [hrefused]) fun hsame => ?_, hfields, fun f hf => ?_⟩
    · exact hlength (by rw [← hsame, List.length_map])
    · rw [hrefused] at hf
      cases hf
      rw [if_neg hlength]
      exact ⟨_, rfl, rfl, rfl⟩

/-- A form of a line of characters that styled text keeps consists of such characters. -/
theorem IsKept.of_styledForm (hkept : IsKept plain) (h : StyledForm plain form) : IsKept form := by
  intro c hc
  constructor
  · rw [← Bool.not_eq_true]
    exact fun hend => absurd (hkept c (h.mem_of_isLineEnd hend hc)).1 (by simp [hend])
  · rw [← Bool.not_eq_true]
    exact fun hstripped =>
      absurd (hkept c (h.mem_of_isStripped hstripped hc)).2 (by simp [hstripped])

/-- Forms of plain lines, one for each, are accepted for them. -/
theorem exists_ofLines_of_forall₂ (hlines : ∀ line ∈ lines, escapeChar ∉ line ∧ IsKept line)
    (hforms : List.Forall₂ StyledForm lines forms) :
    ∃ l, Listing.ofLines lines (some forms) = .ok l ∧ l.lines = lines ∧ l.highlighted = forms := by
  have hforms : (∀ form ∈ forms, HoldsOnlyStyles form ∧ IsKept form) ∧
      forms.map withoutStyles = lines := by
    induction hforms with
    | nil => simp
    | @cons line form lines forms hform hforms ih =>
      obtain ⟨⟨hescape, hkept⟩, hlines⟩ := List.forall_mem_cons.1 hlines
      obtain ⟨hall, hsame⟩ := ih hlines
      rw [List.forall_mem_cons, List.map_cons, hform.withoutStyles_eq hescape, hsame]
      exact ⟨⟨⟨⟨line, hescape, hform⟩, hkept.of_styledForm hform⟩, hall⟩, rfl⟩
  obtain ⟨haccepted, hfields, -⟩ := ofLines_of_holdsOnlyStyles hlines hforms.1
  obtain ⟨l, hl⟩ := haccepted.2 hforms.2
  exact ⟨l, hl, hfields l hl⟩

end forms

namespace Compare

/-- **A listing keeps each line with its form.** Coloured lines that hold the escape character in
style escapes only are accepted for plain lines without it exactly if these are left when the style
escapes are deleted; the failure reports the first line at which something else is left, or none if
there are more lines or fewer. A highlighter that makes a form of every line that it is given, in
whatever way the lines of the code and those of its answer end, gives the listing of the lines of
the code with these forms. -/
theorem listing_of_forms :
    (∀ lines forms : List Text, (∀ line ∈ lines, escapeChar ∉ line ∧ IsKept line) →
      (∀ form ∈ forms, HoldsOnlyStyles form ∧ IsKept form) →
      ((∃ l, Listing.ofLines lines (some forms) = .ok l) ↔ forms.map withoutStyles = lines) ∧
      (∀ l, Listing.ofLines lines (some forms) = .ok l → l.lines = lines ∧ l.highlighted = forms) ∧
      ∀ f, Listing.ofLines lines (some forms) = .error f →
        if forms.length = lines.length then
          ∃ i : Nat, DifferFirstAt (forms.map withoutStyles) lines i ∧ ReportsMismatch f (.int i)
        else ReportsMismatch f .null) ∧
    ∀ code : Text, (∀ c ∈ code, c ≠ escapeChar ∧ (isStripped c = true → isLineEnd c = true)) →
      ∃ lines, FallsInto code lines ∧
        ∀ (h : Highlighter) (forms : List Text), List.Forall₂ StyledForm lines forms →
          (lines ≠ [] → FallsInto (h (unlines lines)) forms) →
          ∃ l, colouredListing code (some h) = .ok l ∧ l.lines = lines ∧ l.highlighted = forms := by
  refine ⟨fun lines forms => ofLines_of_holdsOnlyStyles, fun code hcode => ?_⟩
  have hfalls := fallsInto_splitLines code
  refine ⟨splitLines code, hfalls, fun h forms hforms hanswer => ?_⟩
  have hlines : ∀ line ∈ splitLines code, escapeChar ∉ line ∧ IsKept line := by
    intro line hline
    refine ⟨fun hc => (hcode _ (hfalls.mem hline hc)).1 rfl, fun c hc => ?_⟩
    have hend := not_isLineEnd_of_mem_splitLines hline c hc
    refine ⟨hend, ?_⟩
    rw [← Bool.not_eq_true]
    intro hstripped
    rw [(hcode c (hfalls.mem hline hc)).2 hstripped] at hend
    cases hend
  unfold colouredListing
  by_cases hnil : splitLines code = []
  · -- the highlighter is not asked
    rw [hnil] at hforms ⊢
    cases hforms
    exact ⟨_, rfl, rfl, rfl⟩
  · simp only [if_neg hnil, splitLines_eq_iff.2 (hanswer hnil)]
    exact exists_ofLines_of_forall₂ hlines hforms

/-- A code with blank lines around a line that a vertical tab ends, for a highlighter that ends the
lines of its answer in another way; and two lines of which the second has the form of another one. -/
theorem listing_of_forms_blank :
    let mark (numbers : List Nat) : Text :=
      escapeChar :: '[' :: (joinWith [';'] (numbers.map Text.ofNat) ++ ['m'])
    let style (line : Text) : Text := mark [38, 5, 208] ++ (line ++ mark [])
    let h : Highlighter := fun t => (splitLines t).flatMap fun line => style line ++ ['\r', '\n']
    let code := "\r\nk = 1\x0b\n".toList
    (∀ c ∈ code, c ≠ escapeChar ∧ (isStripped c = true → isLineEnd c = true)) ∧
    (∃ l, colouredListing code (some h) = .ok l ∧ l.lines = [[], "k = 1".toList, []] ∧
      l.highlighted = l.lines.map style) ∧
    ∃ f, Listing.ofLines [['a'], ['b']] (some [['a'], style ['c']]) = .error f ∧
      ReportsMismatch f (.int 1) := by
  intro mark style h code
  obtain ⟨hjudged, hkept⟩ := listing_of_forms
  have hmark : ∀ numbers : List Nat, (∀ n ∈ numbers, n ≤ 255) → ∃ body,
      IsStyleEscape (mark numbers) body := fun numbers h => ⟨_, isStyleEscape_of_numbers h⟩
  have hstyle : ∀ line, StyledForm line (style line) := by
    intro line
    obtain ⟨on, hon⟩ := hmark [38, 5, 208] (by decide)
    obtain ⟨off, hoff⟩ := hmark [] (by simp)
    have hback : StyledForm [] (mark []) := .escape hoff .nil
    have hline := hback.append_left line
    rw [List.append_nil] at hline
    exact .escape hon hline
  have hcode : ∀ c ∈ code, c ≠ escapeChar ∧ (isStripped c = true → isLineEnd c = true) :=
    forall_mem_of_all (by decide)
  refine ⟨hcode, ?_, ?_⟩
  · obtain ⟨lines, hlines, haccepted⟩ := hkept code hcode
    obtain rfl : [[], "k = 1".toList, []] = lines := by
      rw [← splitLines_eq_iff.2 hlines]
      decide
    have hanswer : splitLines (h (unlines [[], "k = 1".toList, []])) =
        [[], "k = 1".toList, []].map style := by decide +kernel
    obtain ⟨l, hl, hplain, hcoloured⟩ := haccepted h ([[], "k = 1".toList, []].map style)
      (List.forall₂_map_right_iff.2 (List.forall₂_same.2 fun line _ => hstyle line))
      fun _ => splitLines_eq_iff.1 hanswer
    exact ⟨l, hl, hplain, by rw [hcoloured, hplain]⟩
  · have hletter : ∀ c ∈ ['a', 'b', 'c'], escapeChar ∉ [c] ∧ IsKept [c] := by
      have hall : ∀ c ∈ ['a', 'b', 'c'],
          escapeChar ≠ c ∧ isLineEnd c = false ∧ isStripped c = false :=
        forall_mem_of_all (by decide)
      intro c hc
      simpa [IsKept] using hall c hc
    have ha := hletter 'a' (by simp)
    have hb := hletter 'b' (by simp)
    have hc := hletter 'c' (by simp)
    have hforms : ∀ form ∈ [['a'], style ['c']], HoldsOnlyStyles form ∧ IsKept form := by
      simp only [List.forall_mem_cons, List.not_mem_nil, false_implies, implies_true, and_true]
      exact ⟨⟨⟨_, ha.1, .refl _⟩, ha.2⟩, ⟨_, hc.1, hstyle _⟩, hc.2.of_styledForm (hstyle _)⟩
    have hfirst : DifferFirstAt ([['a'], style ['c']].map withoutStyles) [['a'], ['b']] 1 :=
      ⟨by decide +kernel, by decide +kernel⟩
    obtain ⟨haccepted, -, hreported⟩ := hjudged [['a'], ['b']] [['a'], style ['c']]
      (List.forall_mem_cons.2 ⟨ha, List.forall_mem_singleton.2 hb⟩) hforms
    cases hlisting : Listing.ofLines [['a'], ['b']] (some [['a'], style ['c']]) with
    | ok l => exact absurd (haccepted.1 ⟨l, hlisting⟩) fun h => hfirst.differ (by rw [h])
    | error f =>
      obtain ⟨i, hdiffer, hreport⟩ := hreported f hlisting
      rw [hdiffer.eq hfirst] at hreport
      exact ⟨f, rfl, hreport⟩

end Compare

end Collate
