import Collate.Number.Reading
import Collate.Proofs.Listing.Tabs

/-!
# Lines with style escapes in them

A styled form of a line has style escapes at any places of it. If the line holds no escape
character, the escapes of the form are these, so the form is read as the line, less the control
characters that styled text drops (`StyledForm.readPlain_eq`). Expanding tabs makes a form of the
line with expanded tabs (`StyledForm.expandTabs`), since an escape holds no tab. So with forms it
does not matter whether tabs are expanded before or after the escapes are read.

The line can also be had without reading: it is what is left of a form when everything from an
escape character up to the next letter m is deleted (`StyledForm.withoutStyles_eq`).
-/

namespace Collate.Terminal

open Collate.Display Collate.Text

/-- A line with style escapes put in at any places. -/
inductive StyledForm : Text → Text → Prop
  /-- The empty line. -/
  | nil : StyledForm [] []
  /-- A character of the line. -/
  | char {c : Char} {plain styled : Text} (h : StyledForm plain styled) :
    StyledForm (c :: plain) (c :: styled)
  /-- A style escape in front of what is left of the line. -/
  | escape {v body plain styled : Text} (hv : IsStyleEscape v body)
    (h : StyledForm plain styled) : StyledForm plain (v ++ styled)

/-- Numbers between semicolons make a style escape, if none of them has too many digits. -/
theorem isStyleEscape_of_digits {v body : Text} (hv : v = escapeChar :: '[' :: (body ++ ['m']))
    (hbody : ∀ c ∈ body, c.isDigit = true ∨ c = ';')
    (hshort : ∀ p ∈ splitOn ';' body, p.length ≤ Number.mostDigits) : IsStyleEscape v body where
  text_eq := hv
  parameters := by
    intro c hc
    rcases hbody c hc with hdigit | rfl
    · simp only [Char.isDigit, Bool.and_eq_true, decide_eq_true_eq] at hdigit
      simp only [between, Bool.and_eq_true, decide_eq_true_eq]
      exact ⟨hdigit.1, UInt32.le_trans hdigit.2 (by decide)⟩
    · rfl
  short := by
    rw [Styled.longParameter?, Option.map_eq_none_iff, List.find?_eq_none]
    intro p hp
    rw [decide_eq_false (Nat.not_lt.2 (hshort p hp)), Bool.and_false]
    exact Bool.false_ne_true

/-- Numbers up to 255 between semicolons make a style escape. -/
theorem isStyleEscape_of_numbers {numbers : List Nat} (h : ∀ n ∈ numbers, n ≤ 255) :
    IsStyleEscape
      (escapeChar :: '[' :: (joinWith [';'] (numbers.map Text.ofNat) ++ ['m']))
      (joinWith [';'] (numbers.map Text.ofNat)) := by
  have hdigit : ∀ p ∈ numbers.map Text.ofNat, ∀ c ∈ p, c.isDigit = true := by
    intro p hp c hc
    obtain ⟨n, -, rfl⟩ := List.mem_map.1 hp
    exact Nat.isDigit_of_mem_toDigits (by decide) (by decide) hc
  refine isStyleEscape_of_digits rfl (fun c hc => ?_) ?_
  · rcases mem_joinWith hc with rfl | ⟨p, hp, hc⟩
    · exact .inr rfl
    · exact .inl (hdigit p hp c hc)
  · by_cases hnil : numbers = []
    · subst hnil
      simp [joinWith, splitOn]
    · rw [splitOn_joinWith (fun p hp hmem => absurd (hdigit p hp _ hmem) (by decide))
        (by simpa using hnil)]
      intro p hp
      obtain ⟨n, hn, rfl⟩ := List.mem_map.1 hp
      have hlength : (Text.ofNat n).length ≤ 3 :=
        (Nat.length_toDigits_le_iff (by decide) (by decide)).2 (by have := h n hn; omega)
      exact hlength.trans (by decide)

/-- A style escape holds no tab. -/
theorem IsStyleEscape.tab_not_mem {v body : Text} (hv : IsStyleEscape v body) : '\t' ∉ v :=
  hv.not_mem (by decide)

/-- A style escape holds no control character that styled text drops. -/
theorem IsStyleEscape.not_isStripped {v body : Text} (hv : IsStyleEscape v body) :
    ∀ c ∈ v, isStripped c = false := by
  have hcontrols : ∀ c ∈ "\x07\x08\x0b\x0c\r".toList,
      c ≠ escapeChar ∧ c ≠ '[' ∧ between '0' '?' c = false ∧ c ≠ 'm' :=
    forall_mem_of_all (by decide)
  intro c hc
  rw [← Bool.not_eq_true]
  intro hstripped
  exact hv.not_mem (hcontrols c (by simpa [isStripped, or_assoc] using hstripped)) hc

namespace StyledForm

variable {plain styled : Text}

/-- A line is a form of itself. -/
protected theorem refl (line : Text) : StyledForm line line := by
  induction line with
  | nil => exact .nil
  | cons c line ih => exact .char ih

/-- The same characters in front of a line and of a form. -/
theorem append_left (h : StyledForm plain styled) (s : Text) :
    StyledForm (s ++ plain) (s ++ styled) := by
  induction s with
  | nil => exact h
  | cons c s ih => exact .char ih

/-- **Expanding tabs keeps forms.** -/
theorem expandTabs (h : StyledForm plain styled) (n : Nat) :
    StyledForm (Display.expandTabs n plain) (Display.expandTabs n styled) := by
  induction h with
  | nil => exact .nil
  | @char c plain styled h ih =>
    by_cases hc : c = '\t'
    · subst hc
      rw [expandTabs_tab, expandTabs_tab]
      exact ih.append_left _
    · rw [expandTabs_cons hc, expandTabs_cons hc]
      exact .char ih
  | escape hv h ih =>
    rw [expandTabs_append, expandTabs_of_not_mem hv.tab_not_mem]
    exact .escape hv ih

/-- A character of a form is one of the line or of a style escape. -/
theorem mem (h : StyledForm plain styled) {c : Char} (hc : c ∈ styled) :
    c ∈ plain ∨ ∃ v body, IsStyleEscape v body ∧ c ∈ v := by
  induction h with
  | nil => exact .inl hc
  | char h ih =>
    rcases List.mem_cons.1 hc with rfl | hc
    · exact .inl List.mem_cons_self
    · exact (ih hc).imp_left (List.mem_cons_of_mem _)
  | escape hv h ih =>
    rcases List.mem_append.1 hc with hc | hc
    · exact .inr ⟨_, _, hv, hc⟩
    · exact ih hc

/-- A form ends no line where the line does not. -/
theorem mem_of_isLineEnd (h : StyledForm plain styled) {c : Char} (hend : isLineEnd c = true)
    (hc : c ∈ styled) : c ∈ plain := by
  rcases h.mem hc with hc | ⟨v, body, hv, hc⟩
  · exact hc
  · rw [hv.not_isLineEnd c hc] at hend
    cases hend

/-- A form holds the control characters that styled text drops only where the line does. -/
theorem mem_of_isStripped (h : StyledForm plain styled) {c : Char} (hstripped : isStripped c = true)
    (hc : c ∈ styled) : c ∈ plain := by
  rcases h.mem hc with hc | ⟨v, body, hv, hc⟩
  · exact hc
  · rw [hv.not_isStripped c hc] at hstripped
    cases hstripped

/-- A line is what is left of a form. -/
theorem sublist (h : StyledForm plain styled) : plain.Sublist styled := by
  induction h with
  | nil => exact List.Sublist.refl []
  | char h ih => exact ih.cons_cons _
  | escape hv h ih => exact ih.trans (List.sublist_append_right _ _)

/-- A form shows what its line holds. -/
theorem shownChars_eq (h : StyledForm plain styled) (hplain : escapeChar ∉ plain) :
    shownChars styled = withoutControls plain := by
  induction h with
  | nil => exact shownChars_nil
  | @char c plain styled h ih =>
    rw [List.mem_cons, not_or] at hplain
    rw [shownChars_of_eq_none (escapeAt?_of_ne (Ne.symm hplain.1) _), ih hplain.2]
    exact (List.filter_append [c] plain).symm
  | @escape v body plain styled hv h ih =>
    rw [shownChars_of_eq_some (escapeAt?_styleEscape hv styled)]
    exact ih hplain

/-- The numbers in a form can be read. -/
theorem findSome?_eq_none (h : StyledForm plain styled) (hplain : escapeChar ∉ plain) :
    (tokens styled).findSome? Styled.longInToken? = none := by
  induction h with
  | nil =>
    rw [tokens_nil]
    rfl
  | @char c plain styled h ih =>
    rw [List.mem_cons, not_or] at hplain
    rw [tokens_of_eq_none (escapeAt?_of_ne (Ne.symm hplain.1) _), findSome?_longInToken?_cons,
      ih hplain.2]
  | @escape v body plain styled hv h ih =>
    have hshort : Styled.longInToken? (.escape (.style body)) = none := hv.short
    rw [tokens_styleEscape_append hv, List.findSome?_cons, hshort]
    exact ih hplain

/-- **A form is read as its line**, less the control characters that styled text drops. -/
theorem readPlain_eq (h : StyledForm plain styled) (hplain : escapeChar ∉ plain)
    (hnewline : '\n' ∉ plain) (hcarriage : '\r' ∉ plain) :
    readPlain styled = .ok (withoutControls plain) := by
  rw [readPlain_of_not_mem (fun hc => hnewline (h.mem_of_isLineEnd (by decide) hc))
    (fun hc => hcarriage (h.mem_of_isLineEnd (by decide) hc)), h.findSome?_eq_none hplain,
    ← h.shownChars_eq hplain]
  rfl

end StyledForm

/-! ## Lines without their styles -/

/-- A text without what stands from an escape character up to the next letter m; `inside` tells that
such a stretch has begun. -/
def withoutStylesFrom (inside : Bool) : Text → Text
  | [] => []
  | c :: t =>
    if inside then withoutStylesFrom (c != 'm') t
    else if c = escapeChar then withoutStylesFrom true t
    else c :: withoutStylesFrom false t

/-- A line with its style escapes deleted. -/
def withoutStyles (line : Text) : Text := withoutStylesFrom false line

/-- A line that holds the escape character in style escapes only. -/
def HoldsOnlyStyles (line : Text) : Prop := ∃ plain, escapeChar ∉ plain ∧ StyledForm plain line

/-- A stretch that has begun ends with the first letter m. -/
theorem withoutStylesFrom_true_append {s : Text} (hs : 'm' ∉ s) (t : Text) :
    withoutStylesFrom true (s ++ 'm' :: t) = withoutStyles t := by
  induction s with
  | nil => rfl
  | cons c s ih =>
    rw [List.mem_cons, not_or] at hs
    rw [List.cons_append, withoutStylesFrom, if_pos rfl, bne_iff_ne.2 (Ne.symm hs.1), ih hs.2]

/-- A style escape is deleted, whatever follows it. -/
theorem withoutStyles_styleEscape {v body : Text} (hv : IsStyleEscape v body) (t : Text) :
    withoutStyles (v ++ t) = withoutStyles t := by
  have hbody : 'm' ∉ '[' :: body := by
    rw [List.mem_cons, not_or]
    exact ⟨by decide, fun hmem => ne_of_between (hv.parameters _ hmem) (by decide) rfl⟩
  rw [hv.text_eq, withoutStyles, List.cons_append, withoutStylesFrom, if_neg Bool.false_ne_true,
    if_pos rfl, ← withoutStylesFrom_true_append hbody]
  simp

/-- **The line is left of a form when its style escapes are deleted.** -/
theorem StyledForm.withoutStyles_eq {plain styled : Text} (h : StyledForm plain styled)
    (hplain : escapeChar ∉ plain) : withoutStyles styled = plain := by
  induction h with
  | nil => rfl
  | @char c plain styled h ih =>
    rw [List.mem_cons, not_or] at hplain
    rw [withoutStyles, withoutStylesFrom, if_neg Bool.false_ne_true, if_neg (Ne.symm hplain.1)]
    exact congrArg _ (ih hplain.2)
  | escape hv h ih => rw [withoutStyles_styleEscape hv, ih hplain]

/-- A text shows no control characters that styled text drops. -/
theorem isStripped_of_mem_decode {c : Char} {t : Text} (h : c ∈ (Styled.decode t).plain) :
    isStripped c = false := by
  rw [Styled.decode, Styled.mem_plain_ofLines] at h
  rcases h with ⟨rfl, -⟩ | ⟨line, -, hc⟩
  · rfl
  · obtain ⟨token, -, hc⟩ := List.mem_flatMap.1 hc
    cases token with
    | text t => simpa using (List.mem_filter.1 hc).2
    | escape e => cases hc

end Collate.Terminal
