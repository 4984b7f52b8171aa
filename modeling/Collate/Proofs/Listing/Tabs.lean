import Collate.Display.Layout
import Collate.Proofs.Listing.Escapes

/-!
# Tabs in lines with escape sequences

The tabs of a coloured line are expanded before its escape sequences are read. That is not the same
as reading first: no escape holds a tab, but some may hold spaces, so what was text around a tab can
become an escape (`of_escapeAt?_expandTabs`). Every escape of the line itself is still one, with the
same text behind it (`escapeAt?_expandTabs`). So expanding tabs can hide characters of a line, and
it shows none but spaces that the line did not show (`mem_shownChars_expandTabs`,
`Styled.mem_plain_decode_expandTabs`).
-/

namespace Collate.Terminal

open Collate.Text Collate.Display

/-! ## What a line shows, character by character -/

/-- The characters that the tokens of a line show. -/
def shownChars (t : Text) : Text := (tokens t).flatMap Token.shown

theorem shownChars_nil : shownChars [] = [] := by
  rw [shownChars, tokens_nil]
  rfl

/-- Where no escape starts, a character shows itself if styled text keeps it. -/
theorem shownChars_of_eq_none {c : Char} {t : Text} (h : escapeAt? (c :: t) = none) :
    shownChars (c :: t) = withoutControls [c] ++ shownChars t := by
  rw [shownChars, tokens_of_eq_none h, shown_cons, shownChars]

/-- An escape shows nothing. -/
theorem shownChars_of_eq_some {e : Escape} {t rest : Text} (h : escapeAt? t = some (e, rest)) :
    shownChars t = shownChars (behind e rest) := by
  rw [shownChars, tokens_of_eq_some h]
  rfl

/-- Only the escape character starts an escape. -/
theorem escapeAt?_of_ne {c : Char} (hc : c ≠ escapeChar) (t : Text) :
    escapeAt? (c :: t) = none := by
  cases t with
  | nil => rfl
  | cons d t => rw [escapeAt?, if_pos hc]

/-- Characters other than the escape character show themselves, whatever comes behind them. -/
theorem shownChars_append {s : Text} (h : escapeChar ∉ s) (t : Text) :
    shownChars (s ++ t) = withoutControls s ++ shownChars t := by
  induction s with
  | nil => rfl
  | cons c s ih =>
    rw [List.mem_cons, not_or] at h
    rw [List.cons_append, shownChars_of_eq_none (escapeAt?_of_ne (Ne.symm h.1) _), ih h.2,
      ← List.append_assoc]
    congr 1
    exact (List.filter_append [c] s).symm

/-! ## Expanding tabs -/

section tabs

variable {n : Nat}

theorem expandTabs_nil : expandTabs n [] = [] := rfl

theorem expandTabs_tab (t : Text) :
    expandTabs n ('\t' :: t) = List.replicate n ' ' ++ expandTabs n t :=
  List.flatMap_cons

theorem expandTabs_cons {c : Char} (h : c ≠ '\t') (t : Text) :
    expandTabs n (c :: t) = c :: expandTabs n t := by
  rw [expandTabs, List.flatMap_cons, if_neg h]
  rfl

theorem expandTabs_append (s t : Text) :
    expandTabs n (s ++ t) = expandTabs n s ++ expandTabs n t :=
  List.flatMap_append

/-- A text without tabs stays as it is. -/
theorem expandTabs_of_not_mem {t : Text} (h : '\t' ∉ t) : expandTabs n t = t := by
  induction t with
  | nil => rfl
  | cons c t ih =>
    rw [List.mem_cons, not_or] at h
    rw [expandTabs_cons (Ne.symm h.1), ih h.2]

/-- Expanding tabs adds spaces and nothing else. -/
theorem mem_expandTabs {c : Char} {t : Text} (h : c ∈ expandTabs n t) : c = ' ' ∨ c ∈ t := by
  obtain ⟨d, hd, hc⟩ := List.mem_flatMap.1 h
  split at hc
  · exact .inl (List.eq_of_mem_replicate hc)
  · rw [List.mem_singleton.1 hc]
    exact .inr hd

/-- Expanding tabs takes away tabs and nothing else. -/
theorem mem_expandTabs_of_mem {c : Char} {t : Text} (h : c ∈ t) (hc : c ≠ '\t') :
    c ∈ expandTabs n t :=
  List.mem_flatMap.2 ⟨c, h, by rw [if_neg hc]; exact List.mem_singleton_self c⟩

/-- With its tabs expanded a text reaches up to a character other than a space exactly as far as the
text itself. -/
theorem exists_append_of_expandTabs_eq {f : Char} (hf : f ≠ ' ') {t before after : Text}
    (h : expandTabs n t = before ++ f :: after) :
    ∃ s rest, t = s ++ f :: rest ∧ before = expandTabs n s ∧ after = expandTabs n rest := by
  induction t generalizing before with
  | nil => simp [expandTabs_nil] at h
  | cons c t ih =>
    by_cases hc : c = '\t'
    · subst hc
      rw [expandTabs_tab, List.append_eq_append_iff] at h
      rcases h with ⟨mid, rfl, h⟩ | ⟨mid, hspaces, h⟩
      · obtain ⟨s, rest, rfl, rfl, rfl⟩ := ih h
        exact ⟨'\t' :: s, rest, rfl, (expandTabs_tab s).symm, rfl⟩
      · -- the character would be one of the spaces unless these end before it
        cases mid with
        | nil =>
          rw [List.append_nil] at hspaces
          have hhead : expandTabs n t = [] ++ f :: after := h.symm
          obtain ⟨s, rest, rfl, hs, rfl⟩ := ih hhead
          refine ⟨'\t' :: s, rest, rfl, ?_, rfl⟩
          rw [expandTabs_tab, ← hs, List.append_nil, hspaces]
        | cons d mid =>
          have hmem : f ∈ List.replicate n ' ' := by
            rw [hspaces, (List.cons.inj h).1]
            simp
          exact absurd (List.eq_of_mem_replicate hmem) hf
    · rw [expandTabs_cons hc] at h
      cases before with
      | nil =>
        obtain ⟨rfl, rfl⟩ := List.cons.inj h
        exact ⟨[], t, rfl, rfl, rfl⟩
      | cons d before =>
        obtain ⟨hcd, htail⟩ := List.cons.inj h
        obtain ⟨s, rest, rfl, rfl, rfl⟩ := ih htail
        exact ⟨c :: s, rest, rfl, by rw [expandTabs_cons hc, hcd], rfl⟩

/-! ## Escapes around tabs -/

/-- The parts of a control sequence behind its bracket. -/
theorem controlSequence?_eq_some_iff {t body after : Text} {final : Char} :
    controlSequence? t = some (body, final, after) ↔
      ∃ parameters middle, body = parameters ++ middle ∧
        (∀ c ∈ parameters, between '0' '?' c = true) ∧ (∀ c ∈ middle, between ' ' '/' c = true) ∧
        between '@' '~' final = true ∧ t = parameters ++ (middle ++ final :: after) := by
  have hranges : ∀ c, (between ' ' '/' c = true → between '0' '?' c = false) ∧
      (between '@' '~' c = true → between '0' '?' c = false ∧ between ' ' '/' c = false) := by
    intro c
    have hbetween : ∀ low high : Char, between low high c = true ↔
        low.toNat ≤ c.toNat ∧ c.toNat ≤ high.toNat := by
      intro low high
      simp only [between, Bool.and_eq_true, decide_eq_true_eq, Char.le_def, UInt32.le_iff_toNat_le]
      rfl
    have hnot : ∀ low high : Char, between low high c = false ↔
        ¬(low.toNat ≤ c.toNat ∧ c.toNat ≤ high.toNat) := by
      intro low high
      rw [← hbetween, Bool.not_eq_true]
    simp only [hbetween, hnot]
    simp only [Char.reduceToNat]
    omega
  constructor
  · intro h
    unfold controlSequence? at h
    dsimp only at h
    split at h
    · cases h
    · rename_i c rest hrest
      split at h
      · rename_i hc
        cases h
        refine ⟨t.takeWhile (between '0' '?'),
          (t.dropWhile (between '0' '?')).takeWhile (between ' ' '/'), rfl,
          fun c hc => List.mem_takeWhile_imp hc, fun c hc => List.mem_takeWhile_imp hc, hc, ?_⟩
        rw [← hrest, List.takeWhile_append_dropWhile, List.takeWhile_append_dropWhile]
      · cases h
  · rintro ⟨parameters, middle, rfl, hparameters, hmiddle, hfinal, rfl⟩
    have hend : ∀ c ∈ (middle ++ final :: after).head?, between '0' '?' c = false := by
      cases middle with
      | nil => simpa using ((hranges final).2 hfinal).1
      | cons d middle => simpa using (hranges d).1 (hmiddle d List.mem_cons_self)
    have hlast : ∀ c ∈ (final :: after).head?, between ' ' '/' c = false := by
      simpa using ((hranges final).2 hfinal).2
    obtain ⟨htake, hdrop⟩ := takeWhile_append_eq hparameters hend
    obtain ⟨htake', hdrop'⟩ := takeWhile_append_eq hmiddle hlast
    unfold controlSequence?
    simp only [htake, hdrop, htake', hdrop', hfinal, if_true]

/-- A character between two others is none outside. -/
theorem ne_of_between {low high c d : Char} (h : between low high c = true)
    (hd : between low high d = false) : c ≠ d := by
  rintro rfl
  rw [h] at hd
  cases hd

/-- A control sequence holds no tab, so it stays when tabs are expanded. -/
theorem controlSequence?_expandTabs {t body after : Text} {final : Char}
    (h : controlSequence? t = some (body, final, after)) :
    controlSequence? (expandTabs n t) = some (body, final, expandTabs n after) := by
  obtain ⟨parameters, middle, rfl, hparameters, hmiddle, hfinal, rfl⟩ :=
    controlSequence?_eq_some_iff.1 h
  refine controlSequence?_eq_some_iff.2
    ⟨parameters, middle, rfl, hparameters, hmiddle, hfinal, ?_⟩
  rw [expandTabs_append, expandTabs_append, expandTabs_cons (ne_of_between hfinal (by decide)),
    expandTabs_of_not_mem fun hc => ne_of_between (hparameters _ hc) (by decide) rfl,
    expandTabs_of_not_mem fun hc => ne_of_between (hmiddle _ hc) (by decide) rfl]

/-- A control sequence that is there with tabs expanded ends behind characters of the text none of
which is the escape character. -/
theorem of_controlSequence?_expandTabs {t body after : Text} {final : Char}
    (h : controlSequence? (expandTabs n t) = some (body, final, after)) :
    ∃ s rest, t = s ++ rest ∧ escapeChar ∉ s ∧ after = expandTabs n rest := by
  obtain ⟨parameters, middle, -, hparameters, hmiddle, hfinal, heq⟩ :=
    controlSequence?_eq_some_iff.1 h
  rw [← List.append_assoc] at heq
  obtain ⟨s, rest, rfl, hs, rfl⟩ :=
    exists_append_of_expandTabs_eq (ne_of_between hfinal (by decide)) heq
  refine ⟨s ++ [final], rest, by simp, ?_, rfl⟩
  rw [List.mem_append, List.mem_singleton, not_or]
  refine ⟨fun hmem => ?_, Ne.symm (ne_of_between hfinal (by decide))⟩
  have hmem := mem_expandTabs_of_mem (n := n) hmem (by decide)
  rw [← hs, List.mem_append] at hmem
  rcases hmem with hmem | hmem
  · exact ne_of_between (hparameters _ hmem) (by decide) rfl
  · exact ne_of_between (hmiddle _ hmem) (by decide) rfl

/-- Spaces do not hold the end of an operating system command. -/
theorem cutAt?_replicate_append (k : Nat) (t : Text) :
    cutAt? [escapeChar, '\\'] (List.replicate k ' ' ++ t) =
      (cutAt? [escapeChar, '\\'] t).map (Prod.map (List.replicate k ' ' ++ ·) id) := by
  induction k with
  | zero =>
    rw [List.replicate_zero, List.nil_append]
    cases cutAt? [escapeChar, '\\'] t <;> rfl
  | succ k ih =>
    rw [List.replicate_succ, List.cons_append, cutAt?, dropLead?, if_neg (by decide)]
    simp only [ih, Option.map_map]
    rfl

/-- The end of an operating system command is found where it was. -/
theorem cutAt?_expandTabs (hn : 0 < n) (t : Text) :
    cutAt? [escapeChar, '\\'] (expandTabs n t) =
      (cutAt? [escapeChar, '\\'] t).map (Prod.map (expandTabs n) (expandTabs n)) := by
  induction t with
  | nil => rfl
  | cons c t ih =>
    by_cases hc : c = '\t'
    · subst hc
      rw [expandTabs_tab, cutAt?_replicate_append, ih, cutAt?, dropLead?, if_neg (by decide)]
      simp only [Option.map_map]
      rfl
    · have hlead : dropLead? [escapeChar, '\\'] (c :: expandTabs n t) =
          (dropLead? [escapeChar, '\\'] (c :: t)).map (expandTabs n) := by
        by_cases hescape : escapeChar = c
        · rw [dropLead?, if_pos hescape, dropLead?, if_pos hescape]
          cases t with
          | nil => rfl
          | cons d t =>
            by_cases hd : d = '\t'
            · subst hd
              obtain ⟨k, rfl⟩ : ∃ k, n = k + 1 := ⟨n - 1, by omega⟩
              rfl
            · rw [expandTabs_cons hd]
              by_cases hbackslash : '\\' = d <;> simp [dropLead?, hbackslash]
        · rw [dropLead?, if_neg hescape, dropLead?, if_neg hescape]
          rfl
      rw [expandTabs_cons hc, cutAt?, hlead, cutAt?]
      cases dropLead? [escapeChar, '\\'] (c :: t) with
      | some rest => rfl
      | none =>
        simp only [Option.map_none, ih, Option.map_map]
        congr 1
        funext parts
        exact Prod.ext (expandTabs_cons hc parts.1).symm rfl

/-- A tab or a space behind the escape character makes no escape. -/
theorem escapeAt?_gap {d : Char} (hd : d = '\t' ∨ d = ' ') (c : Char) (t : Text) :
    escapeAt? (c :: d :: t) = none := by
  by_cases hc : c = escapeChar
  · subst hc
    rcases hd with rfl | rfl <;> rfl
  · exact escapeAt?_of_ne hc _

/-- Spaces for a tab are one space at least. -/
theorem expandTabs_tab_eq_cons (hn : 0 < n) (t : Text) :
    expandTabs n ('\t' :: t) = ' ' :: (List.replicate (n - 1) ' ' ++ expandTabs n t) := by
  rw [expandTabs_tab, ← Nat.succ_pred_eq_of_pos hn, List.replicate_succ, List.cons_append]
  rfl

/-- **An escape stays when tabs are expanded**, with the same text behind it. -/
theorem escapeAt?_expandTabs (hn : 0 < n) {t rest : Text} {e : Escape}
    (h : escapeAt? t = some (e, rest)) :
    escapeAt? (expandTabs n t) = some (e, expandTabs n rest) := by
  match t with
  | [] => cases h
  | [_] => cases h
  | c :: d :: t =>
    have hd : d ≠ '\t' := by
      rintro rfl
      rw [escapeAt?_gap (.inl rfl)] at h
      cases h
    have hc : c = escapeChar := by
      by_contra hc
      rw [escapeAt?_of_ne hc] at h
      cases h
    subst hc
    rw [expandTabs_cons (by decide), expandTabs_cons hd]
    rw [escapeAt?] at h ⊢
    split_ifs at h ⊢ with hself hdigit hbracket hparen hletter
    · cases h
      rfl
    · obtain ⟨⟨body, final, after⟩, hsequence, heq⟩ := Option.map_eq_some_iff.1 h
      cases heq
      rw [controlSequence?_expandTabs hsequence]
      rfl
    · cases h
      rfl
    · rw [cutAt?_expandTabs hn]
      cases hcut : cutAt? [escapeChar, '\\'] t with
      | none =>
        rw [hcut] at h
        cases h
        rfl
      | some parts =>
        rw [hcut] at h
        cases h
        rfl
    · cases h
      rfl

/-- An escape that is there with tabs expanded only is no character set, and it reaches over
characters of the text none of which is the escape character but the first. -/
theorem of_escapeAt?_expandTabs (hn : 0 < n) {t after : Text} {e : Escape}
    (h : escapeAt? t = none) (h' : escapeAt? (expandTabs n t) = some (e, after)) :
    ∃ s rest, t = escapeChar :: (s ++ rest) ∧ escapeChar ∉ s ∧ e ≠ .charset ∧
      after = expandTabs n rest := by
  cases t with
  | nil => cases h'
  | cons c t =>
    have hc : c = escapeChar := by
      by_contra hc
      by_cases htab : c = '\t'
      · subst htab
        rw [expandTabs_tab_eq_cons hn, escapeAt?_of_ne (by decide)] at h'
        cases h'
      · rw [expandTabs_cons htab, escapeAt?_of_ne hc] at h'
        cases h'
    subst hc
    rw [expandTabs_cons (by decide)] at h'
    cases t with
    | nil => cases h'
    | cons d t =>
      by_cases hd : d = '\t'
      · subst hd
        rw [expandTabs_tab_eq_cons hn, escapeAt?_gap (.inr rfl)] at h'
        cases h'
      · rw [expandTabs_cons hd] at h'
        rw [escapeAt?] at h h'
        split_ifs at h h' with hself hdigit hbracket hparen hletter
        · obtain ⟨⟨body, final, behind⟩, hsequence, heq⟩ := Option.map_eq_some_iff.1 h'
          obtain ⟨s, rest, rfl, hs, rfl⟩ := of_controlSequence?_expandTabs hsequence
          cases heq
          refine ⟨d :: s, rest, rfl, ?_, ?_, rfl⟩
          · rw [hbracket, List.mem_cons, not_or]
            exact ⟨by decide, hs⟩
          · split <;> exact Escape.noConfusion
        · split at h <;> cases h

/-! ## What is shown when tabs are expanded -/

/-- An escape that is there with tabs expanded only hides characters. -/
theorem exists_hidden_of_escapeAt?_expandTabs (hn : 0 < n) {t after : Text} {e : Escape}
    (h : escapeAt? t = none) (h' : escapeAt? (expandTabs n t) = some (e, after)) :
    ∃ rest, rest.length < t.length ∧
      shownChars (expandTabs n t) = shownChars (expandTabs n rest) ∧
      shownChars rest ⊆ shownChars t.tail ∧ shownChars t.tail ⊆ shownChars t := by
  obtain ⟨s, rest, rfl, hs, hcharset, rfl⟩ := of_escapeAt?_expandTabs hn h h'
  refine ⟨rest, ?_, ?_, ?_, ?_⟩
  · rw [List.length_cons, List.length_append]
    omega
  · rw [shownChars_of_eq_some h', behind, if_neg fun hset => hcharset hset.1]
  · rw [List.tail_cons, shownChars_append hs]
    exact List.subset_append_right _ _
  · rw [List.tail_cons, shownChars_of_eq_none h]
    exact List.subset_append_right _ _

/-- **Expanding tabs shows spaces and nothing else that was not shown.** -/
theorem mem_shownChars_expandTabs (hn : 0 < n) {c : Char} {t : Text}
    (h : c ∈ shownChars (expandTabs n t)) : c = ' ' ∨ c ∈ shownChars t := by
  induction hlength : t.length using Nat.strong_induction_on generalizing t with
  | _ k ih =>
    subst hlength
    have hspaces : ∀ m s, c ∈ shownChars (List.replicate m ' ' ++ s) →
        c = ' ' ∨ c ∈ shownChars s := by
      intro m s hc
      have hescape : escapeChar ∉ List.replicate m ' ' := by
        intro hmem
        exact absurd (List.eq_of_mem_replicate hmem) (by decide)
      rw [shownChars_append hescape, List.mem_append] at hc
      exact hc.imp_left fun hc => List.eq_of_mem_replicate (List.mem_of_mem_filter hc)
    -- what is shown behind an escape, be it a character set or not
    have hbehind : ∀ e rest, rest.length < t.length →
        c ∈ shownChars (behind e (expandTabs n rest)) →
        c = ' ' ∨ c ∈ shownChars (behind e rest) := by
      intro e rest hlt hc
      unfold behind at hc ⊢
      cases hrest : escapeAt? rest with
      | some found =>
        rw [escapeAt?_expandTabs hn hrest] at hc
        simp only [Option.isNone_some, Bool.false_eq_true, and_false, if_false] at hc ⊢
        exact ih _ hlt hc rfl
      | none =>
        by_cases he : e = .charset
        · rw [if_pos ⟨he, rfl⟩]
          cases hexpanded : escapeAt? (expandTabs n rest) with
          | some found =>
            obtain ⟨e', after⟩ := found
            obtain ⟨rest', hlt', hshown, hsub, -⟩ :=
              exists_hidden_of_escapeAt?_expandTabs hn hrest hexpanded
            rw [if_neg (by simp [hexpanded]), hshown] at hc
            exact (ih _ (hlt'.trans hlt) hc rfl).imp_right fun hc => hsub hc
          | none =>
            rw [if_pos ⟨he, by rw [hexpanded]; rfl⟩] at hc
            cases rest with
            | nil => exact .inr hc
            | cons d rest =>
              have hlt' : rest.length < t.length := (Nat.lt_succ_self _).trans hlt
              by_cases hd : d = '\t'
              · subst hd
                rw [expandTabs_tab_eq_cons hn, List.tail_cons] at hc
                exact (hspaces _ _ hc).elim .inl fun hc => ih _ hlt' hc rfl
              · rw [expandTabs_cons hd, List.tail_cons] at hc
                exact ih _ hlt' hc rfl
        · rw [if_neg fun hset => he hset.1] at hc ⊢
          exact ih _ hlt hc rfl
    cases t with
    | nil => exact .inr h
    | cons d t =>
      by_cases hd : d = '\t'
      · subst hd
        rw [expandTabs_tab] at h
        rw [shownChars_of_eq_none (escapeAt?_of_ne (by decide) t), List.mem_append]
        rcases hspaces _ _ h with hc | hc
        · exact .inl hc
        · exact (ih _ (Nat.lt_succ_self _) hc rfl).imp_right .inr
      · cases hescape : escapeAt? (d :: t) with
        | some found =>
          obtain ⟨e, rest⟩ := found
          rw [shownChars_of_eq_some (escapeAt?_expandTabs hn hescape)] at h
          rw [shownChars_of_eq_some hescape]
          exact hbehind e rest (length_of_escapeAt? hescape) h
        | none =>
          cases hexpanded : escapeAt? (expandTabs n (d :: t)) with
          | some found =>
            obtain ⟨e', after⟩ := found
            obtain ⟨rest, hlt, hshown, hsub, hsub'⟩ :=
              exists_hidden_of_escapeAt?_expandTabs hn hescape hexpanded
            rw [hshown] at h
            exact (ih _ hlt h rfl).imp_right fun hc => hsub' (hsub hc)
          | none =>
            rw [expandTabs_cons hd] at h hexpanded
            rw [shownChars_of_eq_none hexpanded, List.mem_append] at h
            rw [shownChars_of_eq_none hescape, List.mem_append]
            rcases h with hc | hc
            · exact .inr (.inl hc)
            · exact (ih _ (Nat.lt_succ_self _) hc rfl).imp_right .inr

/-! ## Lines of a text -/

/-- Tabs are expanded line by line. -/
theorem splitOn_expandTabs (t : Text) :
    splitOn '\n' (expandTabs n t) = (splitOn '\n' t).map (expandTabs n) := by
  induction t with
  | nil => rfl
  | cons c t ih =>
    by_cases htab : c = '\t'
    · subst htab
      rw [expandTabs_tab, splitOn_append_of_not_mem, ih, splitOn, if_neg (by decide)]
      · cases splitOn '\n' t with
        | nil => simp [expandTabs_tab, expandTabs_nil]
        | cons line lines => simp [expandTabs_tab]
      · intro hmem
        exact absurd (List.eq_of_mem_replicate hmem) (by decide)
    · rw [expandTabs_cons htab, splitOn, splitOn, ih]
      split
      · rfl
      · cases splitOn '\n' t with
        | nil => simp [expandTabs_cons htab, expandTabs_nil]
        | cons line lines => simp [expandTabs_cons htab]

/-- Tabs are expanded from either end. -/
theorem reverse_expandTabs (t : Text) : (expandTabs n t).reverse = expandTabs n t.reverse := by
  induction t with
  | nil => rfl
  | cons c t ih =>
    rw [List.reverse_cons, expandTabs_append, ← ih]
    by_cases htab : c = '\t'
    · subst htab
      simp [expandTabs_tab, expandTabs_nil]
    · simp [expandTabs_cons htab, expandTabs_nil]

/-- A carriage return stays where it was. -/
theorem takeWhile_expandTabs (t : Text) :
    (expandTabs n t).takeWhile (· ≠ '\r') = expandTabs n (t.takeWhile (· ≠ '\r')) := by
  induction t with
  | nil => rfl
  | cons c t ih =>
    by_cases htab : c = '\t'
    · subst htab
      rw [expandTabs_tab, List.takeWhile_append_of_pos, ih, List.takeWhile_cons_of_pos (by decide),
        expandTabs_tab]
      intro d hd
      rw [List.eq_of_mem_replicate hd]
      decide
    · by_cases hreturn : c = '\r'
      · subst hreturn
        rfl
      · rw [expandTabs_cons htab, List.takeWhile_cons_of_pos (by simpa using hreturn),
          List.takeWhile_cons_of_pos (by simpa using hreturn), ih, expandTabs_cons htab]

/-- Tabs are expanded in what stands after the last carriage return. -/
theorem afterReturn_expandTabs (t : Text) :
    Styled.afterReturn (expandTabs n t) = expandTabs n (Styled.afterReturn t) := by
  rw [Styled.afterReturn, reverse_expandTabs, takeWhile_expandTabs, reverse_expandTabs]
  rfl

namespace Styled

/-- Whatever the style, lines show what their tokens show. -/
theorem mem_plain_ofLines {style : Style} {lines : List Text} {c : Char} :
    c ∈ (ofLines style lines).plain ↔
      (c = '\n' ∧ 1 < lines.length) ∨ ∃ line ∈ lines, c ∈ shownChars (afterReturn line) := by
  have hline : ∀ style line, (ofLine style line).1.plain = shownChars (afterReturn line) :=
    fun style line => plain_ofTokens style _
  induction lines generalizing style with
  | nil => simp [ofLines, plain]
  | cons line lines ih =>
    cases lines with
    | nil => simp [ofLines, hline]
    | cons next lines =>
      have hplain : (ofLines style (line :: next :: lines)).plain =
          shownChars (afterReturn line) ++
            '\n' :: (ofLines (ofLine style line).2 (next :: lines)).plain := by
        rw [ofLines, plain_append, hline]
        · rfl
        · exact List.cons_ne_nil _ _
      have hmore : 1 < (line :: next :: lines).length := by simp
      rw [hplain, List.mem_append, List.mem_cons, List.exists_mem_cons_iff]
      constructor
      · rintro (hc | hc | hc)
        · exact .inr (.inl hc)
        · exact .inl ⟨hc, hmore⟩
        · exact (ih.1 hc).imp (fun hc => ⟨hc.1, hmore⟩) .inr
      · rintro (hc | hc | hc)
        · exact .inr (.inl hc.1)
        · exact .inl hc
        · exact .inr (.inr (ih.2 (.inr hc)))

/-- Read with its tabs expanded, a text shows spaces and what it showed. -/
theorem mem_plain_decode_expandTabs (hn : 0 < n) {c : Char} {t : Text}
    (h : c ∈ (decode (expandTabs n t)).plain) : c = ' ' ∨ c ∈ (decode t).plain := by
  rw [decode, mem_plain_ofLines, splitOn_expandTabs, List.length_map] at h
  rw [decode, mem_plain_ofLines]
  rcases h with h | ⟨line, hline, hc⟩
  · exact .inr (.inl h)
  · obtain ⟨line, hmem, rfl⟩ := List.mem_map.1 hline
    rw [afterReturn_expandTabs] at hc
    exact (mem_shownChars_expandTabs hn hc).imp_right fun hc => .inr ⟨line, hmem, hc⟩

end Styled

end tabs

end Collate.Terminal
