import Collate.Proofs.Display.Rows
import Collate.Proofs.Listing.Forms

/-!
# Displays with colours

The coloured form of a line is shown in place of the plain one, with its tabs expanded before it is
read, and the styled text that comes of it is wrapped. Columns are measured on the plain lines.
Where the coloured lines are styled forms of the plain ones, none of this can be told from the
characters of the display: `rows_eq_of_styledForm` says that displays with and without colours read
the same, row by row.
-/

namespace Collate.Display

open Collate.Options Collate.Terminal

/-- A listing whose coloured lines are its plain lines with style escapes at any places, and whose
plain lines hold no escape character. -/
def HasStyledForms (l : Listing) : Prop :=
  ∀ p ∈ l.lines.zip l.highlighted, escapeChar ∉ p.1 ∧ StyledForm p.1 p.2

/-- **Styled forms are shown as the plain lines**, whether colours are shown or not. -/
theorem HasStyledForms.showsPlain {l : Listing} (h : HasStyledForms l) (o : DisplayOptions) :
    ShowsPlain o l := by
  -- a coloured form that is shown is read, with its tabs expanded, as what is shown of the line
  have hread : ∀ p ∈ l.lines.zip l.highlighted, Layout.showsColours o p.1 p.2 = true →
      readPlain (expandTabs o.tabWidth p.2) = .ok (shownLine o p.1) := by
    rintro ⟨plain, highlighted⟩ hp hcolours
    obtain ⟨hescape, hform⟩ := h _ hp
    have hkept : ∀ c ∈ plain, isStripped c = false := by
      have hplain : (Styled.decode highlighted).plain = plain :=
        plain_decode_of_readPlain (readPlain_of_showsColours (l.agree _ hp) hcolours)
      intro c hc
      rw [← hplain] at hc
      exact isStripped_of_mem_decode hc
    have hexpanded : ∀ c, c ≠ ' ' → c ∉ plain → c ∉ expandTabs o.tabWidth plain :=
      fun c hspace hc hmem => (mem_expandTabs hmem).elim hspace hc
    refine (hform.expandTabs o.tabWidth).readPlain_eq (hexpanded _ (by decide) hescape)
      (hexpanded _ (by decide) (l.one_line plain (List.of_mem_zip hp).1)) ?_
    refine hexpanded _ (by decide) fun hc => ?_
    exact absurd (hkept _ hc) (by decide)
  constructor
  · intro p hp
    unfold Layout.lineText
    split
    · rename_i hcolours
      exact plain_decode_of_readPlain (hread p hp hcolours)
    · rw [Styled.plain_ofText, shownLine]
  · intro p hp hcolours
    have hok := hread p hp hcolours
    unfold readPlain at hok
    cases hs : Styled.read (expandTabs o.tabWidth p.2) with
    | ok s => exact ⟨s, rfl⟩
    | error f =>
      rw [hs] at hok
      cases hok

/-- **Colours do not change what a display reads.** Let the coloured lines of both listings be
styled forms of their plain lines. Then under any two wishes for colours, and whatever the other
options and the memory are, there is a display under one if there is one under the other, and the
rows of both read the same, in the same order. -/
theorem rows_eq_of_styledForm (o : DisplayOptions) (colour colour' : Setting) (d : Diff)
    (spaces : Nat) (hleft : HasStyledForms d.left) (hright : HasStyledForms d.right) :
    (Layout.rows { o with colour := colour } d spaces).map (·.map Styled.plain) =
      (Layout.rows { o with colour := colour' } d spaces).map (·.map Styled.plain) ∧
    (layout { o with colour := colour } d).map Styled.plain =
      (layout { o with colour := colour' } d).map Styled.plain := by
  have hlayout : (layout { o with colour := colour } d).map Styled.plain =
      (layout { o with colour := colour' } d).map Styled.plain := by
    rw [map_plain_layout (hleft.showsPlain _) (hright.showsPlain _),
      map_plain_layout (hleft.showsPlain _) (hright.showsPlain _)]
    rfl
  refine ⟨?_, hlayout⟩
  have hchecks : Layout.checkTabs { o with colour := colour } d spaces =
      Layout.checkTabs { o with colour := colour' } d spaces := rfl
  rw [rows_eq_map_checkTabs spaces (hleft.showsPlain _) (hright.showsPlain _),
    rows_eq_map_checkTabs spaces (hleft.showsPlain _) (hright.showsPlain _), hchecks]
  cases Layout.checkTabs { o with colour := colour' } d spaces with
  | error f => rfl
  | ok _ => exact congrArg Except.ok hlayout

/-- A line with escapes in front of it, within it and behind it, in a display with room for three
cells on either side: it has two rows, which differ in their styles and read the same. -/
theorem rows_eq_of_styledForm_within :
    let o : DisplayOptions := ⟨2, 9, .bool false, .null, .null, by decide, by decide⟩
    let bold := "\x1b[1;34m".toList
    let off := "\x1b[m".toList
    let left : Listing := ⟨["a\t漢b".toList],
      [bold ++ 'a' :: '\t' :: (off ++ (bold ++ '漢' :: (off ++ ['b'])))], rfl, by decide +kernel,
      by decide⟩
    let right : Listing := .plain ["a".toList] (by decide)
    HasStyledForms left ∧ HasStyledForms right ∧
    ∃ d rows rows', Diff.ofEntries left right [.changed 0 0] = .ok d ∧
      Layout.rows { o with colour := .bool true } d = .ok rows ∧
      Layout.rows { o with colour := .bool false } d = .ok rows' ∧
      rows.length = 2 ∧ rows ≠ rows' ∧ rows.map Styled.plain = rows'.map Styled.plain := by
  intro o bold off left right
  have hbold : IsStyleEscape bold "1;34".toList := isStyleEscape_of_digits rfl
    (Text.forall_mem_of_all (by decide)) (by decide)
  have hoff : IsStyleEscape off [] := isStyleEscape_of_digits rfl
    (Text.forall_mem_of_all (by decide)) (by decide)
  have hleft : HasStyledForms left := by
    intro p hp
    rw [List.mem_singleton.1 hp]
    refine ⟨by decide, .escape hbold (.char (.char (.escape hoff (.escape hbold ?_))))⟩
    exact .char (.escape hoff (.refl _))
  have hright : HasStyledForms right := by
    intro p hp
    rw [List.mem_singleton.1 hp]
    exact ⟨by decide, .refl _⟩
  obtain ⟨d, hd⟩ : ∃ d, Diff.ofEntries left right [.changed 0 0] = .ok d := ⟨_, rfl⟩
  have hsides : d.left = left ∧ d.right = right := by
    cases hd
    exact ⟨rfl, rfl⟩
  have hshown : ∀ colour, ShowsPlain { o with colour := colour } d.left ∧
      ShowsPlain { o with colour := colour } d.right := fun colour =>
    ⟨(hsides.1 ▸ hleft).showsPlain _, (hsides.2 ▸ hright).showsPlain _⟩
  have hrows : ∀ colour, Layout.rows { o with colour := colour } d =
      .ok (layout { o with colour := colour } d) := by
    intro colour
    rw [rows_eq_map_checkTabs Environment.usualSpaces (hshown colour).1 (hshown colour).2]
    cases hd
    rfl
  have hchunks : (layout { o with colour := .bool true } d).map List.length = [3, 3] ∧
      (layout { o with colour := .bool false } d).map List.length = [3, 2] := by
    cases hd
    simp only [layout, List.flatMap_cons, List.flatMap_nil, Layout.group_eq]
    decide +kernel
  obtain ⟨-, hsame⟩ := rows_eq_of_styledForm o (.bool true) (.bool false) d
    Environment.usualSpaces (hsides.1 ▸ hleft) (hsides.2 ▸ hright)
  refine ⟨hleft, hright, d, _, _, hd, hrows _, hrows _, ?_, fun heq => ?_, hsame⟩
  · have hlength := congrArg List.length hchunks.1
    rwa [List.length_map] at hlength
  · have hlengths := congrArg (List.map List.length) heq
    rw [hchunks.1, hchunks.2] at hlengths
    revert hlengths
    decide

end Collate.Display
