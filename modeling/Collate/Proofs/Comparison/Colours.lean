import Collate.Proofs.Comparison.Faithful
import Collate.Proofs.Listing.Escapes

/-!
# Comparisons with colours

Colours decide nothing about a comparison that has them: what is aligned and merged are the plain
lines. They can only make it fail, since a listing has to show its plain lines once the escapes are
taken out. A highlighter that does no more than put every line between two style escapes should
never make it fail.

It does for lines that do not show themselves. The escapes around a line are taken out, but so are
the bells and backspaces and the escapes that the line itself holds, and what is left is compared
with the line as it was. `Compare.codes_coloured_iff` says that this is the only way to fail, and
`Compare.codes_coloured_bell` is the shortest listing that does.
-/

namespace Collate

open Collate.Highlight Collate.Journal Collate.Options Collate.Terminal Collate.Text

/-! ## Highlighters -/

/-- A line between two texts. -/
def enclose (line : Text) (marks : Text × Text) : Text := marks.1 ++ (line ++ marks.2)

/-- Two texts that are style escapes. -/
def AreStyleEscapes (marks : Text × Text) : Prop :=
  (∃ body, IsStyleEscape marks.1 body) ∧ ∃ body, IsStyleEscape marks.2 body

/-- A highlighter that puts a style escape in front of each line that it is given and one behind it,
and does nothing else. Which ones may depend on the line and on all other lines. -/
def StylesLines (h : Highlighter) : Prop :=
  ∀ lines : List Text, (∀ line ∈ lines, ∀ c ∈ line, isLineEnd c = false) →
    ∃ marks : List (Text × Text), marks.length = lines.length ∧
      (∀ m ∈ marks, AreStyleEscapes m) ∧
        h (unlines lines) = unlines (List.zipWith enclose lines marks)

/-- Puts every line between the same two texts. -/
def wrapLines (before after : Text) : Highlighter := fun code =>
  unlines ((splitLines code).map fun line => enclose line (before, after))

/-- Putting lines between two style escapes is all that `wrapLines` does. -/
theorem stylesLines_wrapLines {before after : Text} (h : AreStyleEscapes (before, after)) :
    StylesLines (wrapLines before after) := by
  intro lines hlines
  refine ⟨List.replicate lines.length (before, after), List.length_replicate, ?_, ?_⟩
  · intro m hm
    rw [List.eq_of_mem_replicate hm]
    exact h
  · rw [wrapLines, splitLines_unlines hlines]
    congr 1
    apply List.ext_getElem
    · simp
    · simp

/-! ## Coloured listings -/

section listing

variable {line : Text} {marks : Text × Text} {h : Highlighter} {code : Text}

/-- A line between style escapes ends nowhere else than the line. -/
theorem not_isLineEnd_enclose (hline : ∀ c ∈ line, isLineEnd c = false)
    (hmarks : AreStyleEscapes marks) : ∀ c ∈ enclose line marks, isLineEnd c = false := by
  obtain ⟨⟨b, hb⟩, ⟨a, ha⟩⟩ := hmarks
  intro c hc
  simp only [enclose, List.mem_append] at hc
  rcases hc with hc | hc | hc
  · exact hb.not_isLineEnd c hc
  · exact hline c hc
  · exact ha.not_isLineEnd c hc

/-- A failure that says that a coloured line does not show its plain line, or that it cannot be
read. -/
def IsColourFailure (f : Failure) : Prop :=
  (∃ index line, f = .lineMismatch index line) ∨ ∃ count, f = .tooManyDigits count

/-- A line cannot be read only for a number that is too long. -/
theorem exists_of_readPlain_eq_error {f : Failure} (h : readPlain line = .error f) :
    ∃ count, f = .tooManyDigits count := by
  unfold readPlain Styled.read at h
  split at h
  · exact ⟨_, (Except.error.inj h).symm⟩
  · cases h

/-- Nothing is wrong with a line between style escapes exactly if the line shows itself. -/
theorem disagreement?_enclose (hline : ∀ c ∈ line, isLineEnd c = false)
    (hmarks : AreStyleEscapes marks) (index : Nat) :
    (disagreement? index line (enclose line marks) = none ↔ ShowsItself line) ∧
    ∀ f, disagreement? index line (enclose line marks) = some f → IsColourFailure f := by
  obtain ⟨⟨b, hb⟩, ⟨a, ha⟩⟩ := hmarks
  have hne : line ≠ enclose line marks := by
    intro heq
    have hlength := congrArg List.length heq
    simp only [enclose, hb.text_eq, List.length_append, List.length_cons] at hlength
    omega
  have hform : readPlain (enclose line marks) = readPlain line := readPlain_between hb ha hline
  rw [← readPlain_eq_self_iff hline]
  unfold disagreement?
  rw [if_neg hne, hform]
  cases hread : readPlain line with
  | ok t => by_cases ht : t = line <;> simp [ht, IsColourFailure]
  | error f => simpa [IsColourFailure] using .inr (exists_of_readPlain_eq_error hread)

/-- Lines between style escapes are accepted as forms of the lines that show themselves, and of no
others. -/
theorem firstDisagreement?_enclose {lines : List Text} {marks : List (Text × Text)}
    (hlines : ∀ line ∈ lines, ∀ c ∈ line, isLineEnd c = false)
    (hmarks : ∀ m ∈ marks, AreStyleEscapes m) (hlength : marks.length = lines.length)
    (index : Nat) :
    (firstDisagreement? index lines (List.zipWith enclose lines marks) = none ↔
      ∀ line ∈ lines, ShowsItself line) ∧
    ∀ f, firstDisagreement? index lines (List.zipWith enclose lines marks) = some f →
      IsColourFailure f := by
  induction lines generalizing marks index with
  | nil => simp [firstDisagreement?]
  | cons line lines ih =>
    obtain ⟨m, marks, rfl⟩ := List.exists_cons_of_length_eq_add_one hlength
    obtain ⟨hline, hlines⟩ := List.forall_mem_cons.1 hlines
    obtain ⟨hm, hmarks⟩ := List.forall_mem_cons.1 hmarks
    obtain ⟨hrest, hfails⟩ := ih hlines hmarks (Nat.succ.inj hlength) (index + 1)
    obtain ⟨hnone, hsome⟩ := disagreement?_enclose hline hm index
    rw [List.zipWith_cons_cons, firstDisagreement?, List.forall_mem_cons, ← hnone]
    cases hfirst : disagreement? index line (enclose line m) with
    | none => simpa using ⟨hrest, hfails⟩
    | some f => simpa using hsome f hfirst

/-- No newline is found in lines that hold none. -/
theorem firstNewline?_eq_none {lines : List Text} (hlines : ∀ line ∈ lines, '\n' ∉ line)
    (index : Nat) : Listing.firstNewline? index lines = none := by
  induction lines generalizing index with
  | nil => rfl
  | cons line lines ih =>
    obtain ⟨hline, hlines⟩ := List.forall_mem_cons.1 hlines
    rw [Listing.firstNewline?, if_neg hline, ih hlines]

/-- Making the listing of lines with forms fails if and as checking the forms does. -/
theorem map_ofLines_some {lines highlighted : List Text} (hlines : ∀ line ∈ lines, '\n' ∉ line) :
    (Listing.ofLines lines (some highlighted)).map (fun _ => ()) =
      checkColours lines highlighted := by
  unfold Listing.ofLines
  split
  · rename_i hnewline
    rw [firstNewline?_eq_none hlines] at hnewline
    cases hnewline
  · dsimp only
    split
    · rename_i hcheck
      exact hcheck.symm
    · rename_i hcheck
      exact hcheck.symm

/-- Lines with forms, as many as there are lines, make a listing unless a form disagrees. -/
theorem ofLines_some {lines highlighted : List Text} (hlines : ∀ line ∈ lines, '\n' ∉ line)
    (hlength : highlighted.length = lines.length) :
    ((∃ l, Listing.ofLines lines (some highlighted) = .ok l) ↔
      firstDisagreement? 0 lines highlighted = none) ∧
    ∀ f, Listing.ofLines lines (some highlighted) = .error f →
      firstDisagreement? 0 lines highlighted = some f := by
  have hcheck : _ = checkColours lines highlighted := map_ofLines_some hlines
  rw [checkColours, if_neg (not_not.2 hlength.symm)] at hcheck
  cases hfirst : firstDisagreement? 0 lines highlighted with
  | none =>
    rw [hfirst] at hcheck
    cases hlisting : Listing.ofLines lines (some highlighted) with
    | ok l => simp
    | error f =>
      rw [hlisting] at hcheck
      cases hcheck
  | some f =>
    rw [hfirst] at hcheck
    cases hlisting : Listing.ofLines lines (some highlighted) with
    | ok l =>
      rw [hlisting] at hcheck
      cases hcheck
    | error f' =>
      rw [hlisting] at hcheck
      cases hcheck
      simp

/-- The coloured form of a code is split into its lines between style escapes. -/
theorem StylesLines.exists_splitLines_eq (hh : StylesLines h) (code : Text) :
    ∃ marks : List (Text × Text), marks.length = (splitLines code).length ∧
      (∀ m ∈ marks, AreStyleEscapes m) ∧
        splitLines (h (unlines (splitLines code))) = List.zipWith enclose (splitLines code) marks := by
  have hends : ∀ line ∈ splitLines code, ∀ c ∈ line, isLineEnd c = false :=
    fun line hline => not_isLineEnd_of_mem_splitLines hline
  obtain ⟨marks, hlength, hmarks, heq⟩ := hh (splitLines code) hends
  refine ⟨marks, hlength, hmarks, ?_⟩
  rw [heq]
  apply splitLines_unlines
  intro form hform
  obtain ⟨i, hi, rfl⟩ := List.getElem_of_mem hform
  rw [List.getElem_zipWith]
  exact not_isLineEnd_enclose (hends _ (List.getElem_mem _)) (hmarks _ (List.getElem_mem _))

/-- **A code has a coloured listing exactly if its lines show themselves**, where the highlighter
does no more than put style escapes around lines. -/
theorem colouredListing_of_stylesLines (hh : StylesLines h) (code : Text) :
    ((∃ l, Compare.colouredListing code (some h) = .ok l) ↔
      ∀ line ∈ splitLines code, ShowsItself line) ∧
    ∀ f, Compare.colouredListing code (some h) = .error f → IsColourFailure f := by
  have hends : ∀ line ∈ splitLines code, ∀ c ∈ line, isLineEnd c = false :=
    fun line hline => not_isLineEnd_of_mem_splitLines hline
  have hnewline : ∀ line ∈ splitLines code, '\n' ∉ line := by
    intro line hline hmem
    have := hends line hline _ hmem
    revert this
    decide
  obtain ⟨marks, hlength, hmarks, hforms⟩ := hh.exists_splitLines_eq code
  have hdisagree := firstDisagreement?_enclose hends hmarks hlength 0
  have hlisting := ofLines_some hnewline
    (show (List.zipWith enclose (splitLines code) marks).length = _ by simp [hlength])
  by_cases hnil : splitLines code = []
  · have hcode : Compare.colouredListing code (some h) = .ok (Listing.plain [] (by simp)) := by
      unfold Compare.colouredListing
      simp only [hnil]
      rfl
    rw [hcode, hnil]
    simp
  · have hcode : Compare.colouredListing code (some h) =
        Listing.ofLines (splitLines code)
          (some (List.zipWith enclose (splitLines code) marks)) := by
      unfold Compare.colouredListing
      simp only [if_neg hnil, hforms]
    rw [hcode]
    exact ⟨hlisting.1.trans hdisagree.1, fun f hf => hdisagree.2 f (hlisting.2 f hf)⟩

end listing

/-! ## The same but for colours -/

/-- Two diffs that are the same but for the colours of their listings. -/
structure Diff.Alike (d d' : Diff) : Prop where
  /-- The entries are the same. -/
  entries : d'.entries = d.entries
  /-- The left lines are the same. -/
  left : d'.left.lines = d.left.lines
  /-- The right lines are the same. -/
  right : d'.right.lines = d.right.lines

namespace Diff

variable {d d' : Diff} {left left' right right' : Listing}

/-- Listings of the same lines align in the same way. -/
theorem exists_align_alike (hleft : left'.lines = left.lines) (hright : right'.lines = right.lines)
    (h : align left right = .ok d) : ∃ d', align left' right' = .ok d' ∧ d.Alike d' := by
  obtain ⟨d', hd'⟩ := exists_align left' right'
  obtain ⟨rfl, rfl, hentries⟩ := of_align_eq_ok h
  obtain ⟨rfl, rfl, hentries'⟩ := of_align_eq_ok hd'
  exact ⟨d', hd', by rw [hentries, hentries', hleft, hright], hleft, hright⟩

/-- Which lines are near does not depend on colours. -/
theorem Alike.nearLines (h : d.Alike d') (distance : Distance) (threshold : Number.Binary64) :
    d'.nearLines distance threshold = d.nearLines distance threshold := by
  funext l r
  unfold Diff.nearLines Listing.line?
  rw [h.left, h.right]

/-- Diffs that are the same but for colours are merged in the same way. -/
theorem Alike.exists_merge (h : d.Alike d') {distance : Distance} {tolerance : Setting} {m : Diff}
    (hm : d.merge distance tolerance = .ok m) :
    ∃ m', d'.merge distance tolerance = .ok m' ∧ m.Alike m' := by
  obtain ⟨htolerance, hcomparable, rfl⟩ := merge_eq_ok_iff.1 hm
  refine ⟨_, merge_eq_ok_iff.2 ⟨htolerance, h.entries ▸ hcomparable, rfl⟩, ?_, h.left, h.right⟩
  rw [h.nearLines]
  unfold mergedBy
  dsimp only
  rw [h.entries]

end Diff

namespace Compare

variable {o : ComparisonOptions} {h : Option Highlighter} {code1 code2 : Text} {d d' : Diff}
  {left left' right right' : Listing}

/-- Without its notes the stage of merging depends on colours as little as the others. -/
theorem exists_merged_alike (hd : d.Alike d') {m : Diff} (hm : (merged o d).result = .ok m) :
    ∃ m', (merged o d').result = .ok m' ∧ m.Alike m' := by
  unfold merged at hm ⊢
  by_cases ho : o.optimize.holds = true
  · rw [if_pos ho] at hm ⊢
    simp only [Noted.result_bind, Noted.result_lift, bind_eq_ok_iff] at hm ⊢
    obtain ⟨metric, hmetric, m, hmerge, -, -, ⟨⟩⟩ := hm
    obtain ⟨m', hmerge', hm'⟩ := hd.exists_merge hmerge
    exact ⟨m', ⟨metric, hmetric, m', hmerge', (), rfl, rfl⟩, hm'⟩
  · rw [if_neg ho] at hm ⊢
    cases hm
    exact ⟨d', rfl, hd⟩

/-- What a comparison does with two listings. -/
def ofListings (o : ComparisonOptions) (left right : Listing) : Except Failure Diff :=
  Diff.align left right >>= fun a => (merged o a).result

/-- Listings of the same lines compare in the same way. -/
theorem exists_ofListings_alike (hleft : left'.lines = left.lines)
    (hright : right'.lines = right.lines) (hd : ofListings o left right = .ok d) :
    ∃ d', ofListings o left' right' = .ok d' ∧ d.Alike d' := by
  obtain ⟨a, ha, hd⟩ := bind_eq_ok_iff.1 hd
  obtain ⟨a', ha', halike⟩ := Diff.exists_align_alike hleft hright ha
  obtain ⟨d', hd', hdd'⟩ := exists_merged_alike halike hd
  exact ⟨d', bind_eq_ok_iff.2 ⟨a', ha', hd'⟩, hdd'⟩

/-- Without its notes a comparison prepares both codes, makes their listings and compares these. -/
theorem result_codes (o : ComparisonOptions) (h : Option Highlighter) (code1 code2 : Text) :
    (codes o h code1 code2).result =
      (prepared o code1 >>= fun text1 => prepared o code2 >>= fun text2 =>
        (highlighterOf o h).result >>= fun h' => colouredListing text1 h' >>= fun left =>
          colouredListing text2 h' >>= fun right => ofListings o left right) := by
  have hok : ∀ {α β : Type} (a : α) (f : α → Except Failure β), (Except.ok a >>= f) = f a :=
    fun _ _ => rfl
  have hend : ∀ {α : Type} (x : Except Failure α), (x >>= fun a => .ok a) = x := by
    intro α x
    cases x <;> rfl
  unfold codes aligned ofListings
  simp only [Noted.result_bind, Noted.result_lift, Noted.result_note, Noted.result_pure,
    result_normalized, hok, hend]

/-- What a comparison does with two prepared codes, with a highlighter or without. -/
def ofPrepared (o : ComparisonOptions) (h : Option Highlighter) (text1 text2 : Text) :
    Except Failure Diff :=
  colouredListing text1 h >>= fun left => colouredListing text2 h >>= fun right =>
    ofListings o left right

section prepared

variable {h' : Option Highlighter} {text1 text2 : Text}

/-- What a comparison comes to when both codes are prepared. -/
theorem result_codes_of_prepared (h1 : prepared o code1 = .ok text1)
    (h2 : prepared o code2 = .ok text2) (hh : (highlighterOf o h).result = .ok h') :
    (codes o h code1 code2).result = ofPrepared o h' text1 text2 := by
  rw [result_codes, h1, h2, hh]
  rfl

/-- A comparison that gives a diff with one highlighter gives the same but for colours with another
one, once this one has made both listings. -/
theorem exists_ofListings_of_ofPrepared (hd : ofPrepared o h text1 text2 = .ok d)
    (hl : colouredListing text1 h' = .ok left') (hr : colouredListing text2 h' = .ok right') :
    ∃ d', ofListings o left' right' = .ok d' ∧ d.Alike d' := by
  obtain ⟨left, hleft, hd⟩ := bind_eq_ok_iff.1 hd
  obtain ⟨right, hright, hd⟩ := bind_eq_ok_iff.1 hd
  exact exists_ofListings_alike
    ((lines_of_colouredListing hl).trans (lines_of_colouredListing hleft).symm)
    ((lines_of_colouredListing hr).trans (lines_of_colouredListing hright).symm) hd

/-- Whether the other highlighter makes both listings decides whether there is a diff. -/
theorem exists_ofPrepared_iff (hd : ofPrepared o h text1 text2 = .ok d) :
    (∃ d', ofPrepared o h' text1 text2 = .ok d') ↔
      (∃ l, colouredListing text1 h' = .ok l) ∧ ∃ r, colouredListing text2 h' = .ok r := by
  constructor
  · rintro ⟨d', hd'⟩
    obtain ⟨l, hl, hd'⟩ := bind_eq_ok_iff.1 hd'
    obtain ⟨r, hr, -⟩ := bind_eq_ok_iff.1 hd'
    exact ⟨⟨l, hl⟩, r, hr⟩
  · rintro ⟨⟨l, hl⟩, r, hr⟩
    obtain ⟨d', hd', -⟩ := exists_ofListings_of_ofPrepared hd hl hr
    exact ⟨d', bind_eq_ok_iff.2 ⟨l, hl, bind_eq_ok_iff.2 ⟨r, hr, hd'⟩⟩⟩

/-- Diffs of the same prepared codes are the same but for colours. -/
theorem alike_of_ofPrepared (hd : ofPrepared o h text1 text2 = .ok d)
    (hd' : ofPrepared o h' text1 text2 = .ok d') : d.Alike d' := by
  obtain ⟨l, hl, hlast⟩ := bind_eq_ok_iff.1 hd'
  obtain ⟨r, hr, hlast⟩ := bind_eq_ok_iff.1 hlast
  obtain ⟨d'', hd'', halike⟩ := exists_ofListings_of_ofPrepared hd hl hr
  rw [hlast] at hd''
  cases hd''
  exact halike

/-- The other highlighter makes a comparison fail only where it makes a listing fail. -/
theorem colouredListing_eq_error_of_ofPrepared (hd : ofPrepared o h text1 text2 = .ok d)
    {f : Failure} (hf : ofPrepared o h' text1 text2 = .error f) :
    colouredListing text1 h' = .error f ∨ colouredListing text2 h' = .error f := by
  rcases bind_eq_error_iff.1 hf with hl | ⟨l, hl, hf⟩
  · exact .inl hl
  · rcases bind_eq_error_iff.1 hf with hr | ⟨r, hr, hf⟩
    · exact .inr hr
    · obtain ⟨d', hd', -⟩ := exists_ofListings_of_ofPrepared hd hl hr
      rw [hd'] at hf
      cases hf

end prepared

/-- **Colours make a comparison fail for lines that do not show themselves, and for no others.**
Where a comparison without colours gives a diff, the same comparison with a highlighter that does no
more than put style escapes around lines gives one exactly if every line shows itself, and then one
with the same entries and the same lines. Else it fails for a coloured line that does not show its
plain line or cannot be read. -/
theorem codes_coloured_iff (o : ComparisonOptions) (given : Option Highlighter) (h : Highlighter)
    (hh : StylesLines h) (code1 code2 : Text) (d : Diff)
    (hd : (codes { o with colour := .bool false } given code1 code2).result = .ok d) :
    ((∃ d', (codes { o with colour := .bool true } (some h) code1 code2).result = .ok d') ↔
      ∀ line ∈ d.left.lines ++ d.right.lines, ShowsItself line) ∧
    (∀ d', (codes { o with colour := .bool true } (some h) code1 code2).result = .ok d' →
      d'.entries = d.entries ∧ d'.left.lines = d.left.lines ∧ d'.right.lines = d.right.lines) ∧
    ∀ f, (codes { o with colour := .bool true } (some h) code1 code2).result = .error f →
      IsColourFailure f := by
  obtain ⟨hlines1, hlines2⟩ := preparedLines_of_codes hd
  rw [result_codes] at hd
  simp only [bind_eq_ok_iff] at hd
  obtain ⟨text1, h1, text2, h2, -, ⟨⟩, left, hleft, right, hright, hd⟩ := hd
  rw [preparedLines, h1] at hlines1
  rw [preparedLines, h2] at hlines2
  have hlines1 : splitLines text1 = d.left.lines := Except.ok.inj hlines1
  have hlines2 : splitLines text2 = d.right.lines := Except.ok.inj hlines2
  -- preparing, aligning and merging do not read the colour option
  have h1 : prepared { o with colour := .bool true } code1 = .ok text1 := h1
  have h2 : prepared { o with colour := .bool true } code2 = .ok text2 := h2
  have hd : ofPrepared { o with colour := .bool true } none text1 text2 = .ok d :=
    bind_eq_ok_iff.2 ⟨left, hleft, bind_eq_ok_iff.2 ⟨right, hright, hd⟩⟩
  obtain ⟨hok1, herror1⟩ := colouredListing_of_stylesLines hh text1
  obtain ⟨hok2, herror2⟩ := colouredListing_of_stylesLines hh text2
  rw [result_codes_of_prepared (h := some h) h1 h2 rfl, exists_ofPrepared_iff hd, hok1, hok2,
    hlines1, hlines2, List.forall_mem_append]
  refine ⟨Iff.rfl, fun d' hd' => ?_, fun f hf => ?_⟩
  · have halike := alike_of_ofPrepared hd hd'
    exact ⟨halike.entries, halike.left, halike.right⟩
  · exact (colouredListing_eq_error_of_ofPrepared hd hf).elim (herror1 f) (herror2 f)

/-- The escapes that colour a line for the terminal are style escapes. -/
theorem areStyleEscapes_lexer : AreStyleEscapes (Lexer.opening, Lexer.closing) :=
  ⟨⟨['3', '6'], rfl, forall_mem_of_all (by decide), by decide⟩,
    ⟨['3', '9'], rfl, forall_mem_of_all (by decide), by decide⟩⟩

/-- Lines with a tab, an escape character that starts no escape, and nothing. -/
theorem codes_coloured_iff_tab :
    let o : ComparisonOptions := ⟨.native, .null, .bool true, .null, .bool true, .int 0,
      .text Metric.levenshtein.name, .null, .null, rfl⟩
    let h := wrapLines Lexer.opening Lexer.closing
    let code1 := "\tcall julia_f_1\x1b\r\n\n".toList
    let code2 := "\tcall julia_f_2\x1b\x0cret".toList
    ∃ d d', (codes { o with colour := .bool false } none code1 code2).result = .ok d ∧
      (codes { o with colour := .bool true } (some h) code1 code2).result = .ok d' ∧
      d'.entries = d.entries ∧ d.entries = [.unchanged 0 0, .changed 1 1] := by
  intro o h code1 code2
  have hentries : (codes { o with colour := .bool false } none code1 code2).result.toOption.map
      (fun d => (d.entries, d.left.lines ++ d.right.lines)) =
        some ([.unchanged 0 0, .changed 1 1],
          ["\tcall f\x1b".toList, [], "\tcall f\x1b".toList, "ret".toList]) := by decide +kernel
  obtain ⟨d, hd, hde⟩ := Option.map_eq_some_iff.1 hentries
  obtain ⟨hde, hlines⟩ := Prod.mk.inj hde
  have hd := toOption_eq_some_iff.1 hd
  obtain ⟨hiff, hsame, -⟩ := codes_coloured_iff o none h
    (stylesLines_wrapLines areStyleEscapes_lexer) code1 code2 d hd
  obtain ⟨d', hd'⟩ := hiff.2 (by rw [hlines]; decide)
  exact ⟨d, d', hd, hd', (hsame d' hd').1, hde⟩

/-- A line with a bell, compared with itself: without colours nothing is changed, with colours the
comparison fails. -/
theorem codes_coloured_bell :
    let o : ComparisonOptions := ⟨.text, .null, .bool true, .null, .bool true, .int 0,
      .text Metric.levenshtein.name, .null, .null, rfl⟩
    let h := wrapLines Lexer.opening Lexer.closing
    let code := "a\x07b".toList
    StylesLines h ∧
      (∃ d, (codes { o with colour := .bool false } none code code).result = .ok d ∧
        d.entries = [.unchanged 0 0]) ∧
      ∃ f, (codes { o with colour := .bool true } (some h) code code).result = .error f ∧
        f.category? = some .highlightMismatch := by
  intro o h code
  have hentries : (codes { o with colour := .bool false } none code code).result.toOption.map
      Diff.entries = some [.unchanged 0 0] := by decide +kernel
  obtain ⟨d, hd, hde⟩ := Option.map_eq_some_iff.1 hentries
  refine ⟨stylesLines_wrapLines areStyleEscapes_lexer,
    ⟨d, toOption_eq_some_iff.1 hd, hde⟩, ?_⟩
  have hfails : (match (codes { o with colour := .bool true } (some h) code code).result with
      | .ok _ => none
      | .error f => f.category?) = some .highlightMismatch := by decide +kernel
  cases hresult : (codes { o with colour := .bool true } (some h) code code).result with
  | ok d' =>
    rw [hresult] at hfails
    cases hfails
  | error f =>
    rw [hresult] at hfails
    exact ⟨f, rfl, hfails⟩

end Compare

end Collate
