import Collate.Compare
import Collate.Proofs.Alignment.Script
import Collate.Proofs.Merge.Preservation

/-!
# The stages of a comparison

A comparison that succeeds has passed through all its stages. This module takes it apart once
(`Compare.of_codes_eq_ok`): both codes could be prepared, and the diff is the alignment of two
listings of the prepared lines, with its near lines merged where that is asked for. Colours and
notes are gone from that statement, since neither decides which lines are compared.

Nothing but the prepared lines of a code reaches the stages after them, so two codes with the same
ones compare in the same way, whether that ends with a diff or with a failure
(`Compare.result_codes_of_lines`).
-/

namespace Collate

open Collate.Highlight Collate.Journal Collate.Options

namespace Compare

/-- A code as it is split into lines: without its byte order mark and, for a kind of code that has
generated names and where that is asked for, without their counters. -/
def prepared (o : ComparisonOptions) (code : Text) : Except Failure Text :=
  if o.normalize.holds && o.codeType.hasGeneratedNames then
    (Names.Pattern.make Names.defaultLeads o.functionName).map fun p =>
      p.shorten (Text.dropMark code)
  else .ok (Text.dropMark code)

/-- The lines of a code that are compared. -/
def preparedLines (o : ComparisonOptions) (code : Text) : Except Failure (List Text) :=
  (prepared o code).map Text.splitLines

/-! ## Preparing -/

/-- Without their notes the first two stages prepare a code. -/
theorem result_normalized (o : ComparisonOptions) (code : Text) :
    (normalized o (Text.dropMark code)).result = prepared o code := by
  unfold normalized prepared
  split
  · rw [Noted.result_bind, Noted.result_lift]
    cases Names.Pattern.make Names.defaultLeads o.functionName with
    | error f => rfl
    | ok p =>
      -- the note on the number of names comes before the same text in either case
      change (ite _ _ _ : Noted Text).result = .ok (p.shorten (Text.dropMark code))
      split <;> rfl
  · rfl

/-- A prepared code gives the prepared lines. -/
theorem preparedLines_eq_ok {o : ComparisonOptions} {code t : Text}
    (h : (normalized o (Text.dropMark code)).result = .ok t) :
    preparedLines o code = .ok (Text.splitLines t) := by
  rw [result_normalized] at h
  rw [preparedLines, h]
  rfl

/-! ## Colouring -/

end Compare

/-- Colours leave the lines of a listing as they are. -/
theorem Listing.lines_of_ofLines {lines : List Text} {highlighted : Option (List Text)}
    {l : Listing} (h : ofLines lines highlighted = .ok l) : l.lines = lines := by
  unfold ofLines at h
  split at h
  · cases h
  · cases highlighted with
    | none =>
      cases h
      rfl
    | some highlighted =>
      dsimp only at h
      split at h
      · cases h
      · cases h
        rfl

/-- The colours of a listing are those that it is made with. -/
theorem Listing.highlighted_of_ofLines {lines highlighted : List Text} {l : Listing}
    (h : ofLines lines (some highlighted) = .ok l) : l.highlighted = highlighted := by
  unfold ofLines at h
  split at h
  · cases h
  · dsimp only at h
    split at h
    · cases h
    · cases h
      rfl

namespace Compare

/-- The lines of a coloured listing are those of its code. -/
theorem lines_of_colouredListing {code : Text} {h : Option Highlighter} {l : Listing}
    (hl : colouredListing code h = .ok l) : l.lines = Text.splitLines code := by
  unfold colouredListing at hl
  cases h with
  | none => exact Listing.lines_of_ofLines hl
  | some h =>
    dsimp only at hl
    split at hl
    · exact Listing.lines_of_ofLines hl
    · exact Listing.lines_of_ofLines hl

/-- Codes of the same lines are coloured in the same way. -/
theorem colouredListing_congr {text text' : Text} (h : Text.splitLines text = Text.splitLines text')
    (highlighter : Option Highlighter) :
    colouredListing text highlighter = colouredListing text' highlighter := by
  unfold colouredListing
  rw [h]

/-! ## Merging -/

/-- The stage of merging, on an aligned diff: some way of telling near lines apart decides, which
calls lines near only where merging is asked for and the named metric does. -/
theorem exists_mergedBy_of_merged {o : ComparisonOptions} {a d : Diff}
    (h : (merged o a).result = .ok d) :
    ∃ near : Int → Int → Bool, d = a.mergedBy near ∧
      ∀ l r, near l r = true → o.optimize.holds = true ∧
        ∃ m, Metric.find o.distance = .ok m ∧
          a.nearLines (.metric m) (thresholdOf o.tolerance) l r = true := by
  unfold merged at h
  split at h
  · rename_i ho
    simp only [Noted.result_bind, Noted.result_lift, bind_eq_ok_iff, Diff.merge_eq_ok_iff] at h
    obtain ⟨m, hm, d', ⟨-, -, hd'⟩, -, -, ⟨⟩⟩ := h
    exact ⟨_, hd', fun l r hnear => ⟨ho, m, hm, hnear⟩⟩
  · cases h
    refine ⟨fun _ _ => false, (a.mergedBy_of_never fun _ _ => rfl).symm, ?_⟩
    intro l r hnear
    cases hnear

/-! ## All stages -/

section codes

variable {o : ComparisonOptions} {h : Option Highlighter} {code1 code2 : Text} {d : Diff}

/-- A comparison that succeeds has prepared both codes, aligned their lines and merged the
alignment. -/
theorem of_codes_eq_ok (hd : (codes o h code1 code2).result = .ok d) :
    ∃ left right a, preparedLines o code1 = .ok left.lines ∧
      preparedLines o code2 = .ok right.lines ∧ Diff.align left right = .ok a ∧
      (merged o a).result = .ok d := by
  unfold codes at hd
  simp only [Noted.result_bind, Noted.result_lift, bind_eq_ok_iff] at hd
  obtain ⟨text1, htext1, text2, htext2, h', -, left, hleft, right, hright, a, ha, d', hd', -, -,
    ⟨⟩⟩ := hd
  refine ⟨left, right, a, ?_, ?_, ?_, hd'⟩
  · rw [preparedLines_eq_ok htext1, lines_of_colouredListing hleft]
  · rw [preparedLines_eq_ok htext2, lines_of_colouredListing hright]
  · unfold aligned at ha
    simp only [Noted.result_bind, Noted.result_lift, bind_eq_ok_iff] at ha
    obtain ⟨a', ha', -, -, ⟨⟩⟩ := ha
    exact ha'

variable {code1' code2' : Text}

/-- Codes with the same prepared lines fail to be prepared in the same way, or both can be. -/
theorem exists_prepared_of_preparedLines_eq
    (hlines : preparedLines o code1 = preparedLines o code1') :
    (∃ f, prepared o code1 = .error f ∧ prepared o code1' = .error f) ∨
      ∃ text text', prepared o code1 = .ok text ∧ prepared o code1' = .ok text' ∧
        Text.splitLines text = Text.splitLines text' := by
  unfold preparedLines at hlines
  cases hp : prepared o code1 with
  | error f =>
    cases hp' : prepared o code1' with
    | error f' =>
      rw [hp, hp'] at hlines
      cases hlines
      exact .inl ⟨f, rfl, rfl⟩
    | ok text' =>
      rw [hp, hp'] at hlines
      cases hlines
  | ok text =>
    cases hp' : prepared o code1' with
    | error f' =>
      rw [hp, hp'] at hlines
      cases hlines
    | ok text' =>
      rw [hp, hp'] at hlines
      exact .inr ⟨text, text', rfl, rfl, Except.ok.inj hlines⟩

/-- **A comparison answers by the prepared lines of the codes,** be it with a diff or with a
failure. -/
theorem result_codes_of_lines (h1 : preparedLines o code1 = preparedLines o code1')
    (h2 : preparedLines o code2 = preparedLines o code2') :
    (codes o h code1 code2).result = (codes o h code1' code2').result := by
  unfold codes
  simp only [Noted.result_bind, Noted.result_lift, result_normalized]
  rcases exists_prepared_of_preparedLines_eq h1 with ⟨f, hf, hf'⟩ | ⟨t1, t1', ht1, ht1', hlines1⟩
  · rw [hf, hf']
    rfl
  rcases exists_prepared_of_preparedLines_eq h2 with ⟨f, hf, hf'⟩ | ⟨t2, t2', ht2, ht2', hlines2⟩
  · rw [ht1, ht1', hf, hf']
    rfl
  · rw [ht1, ht1', ht2, ht2']
    simp only [bind, Except.bind, colouredListing_congr hlines1, colouredListing_congr hlines2]

end codes

end Compare

end Collate
