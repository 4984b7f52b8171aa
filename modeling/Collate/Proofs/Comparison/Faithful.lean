import Collate.Proofs.Alignment.Longest
import Collate.Proofs.Comparison.Stages

/-!
# What a comparison answers

The diff of a comparison is faithful to the codes: it rebuilds the prepared lines of both, keeps as
many of them as can be kept, and shows two lines as one changed line only where the metric calls
them near (`Compare.codes_faithful`). Merging comes after the alignment and could spoil what the
alignment has achieved; that it leaves the kept lines alone is what carries their number and their
equality through it.
-/

namespace Collate

open Collate.Alignment Collate.Highlight Collate.Options

namespace Diff

variable {a d : Diff} {near : Int → Int → Bool} {l r : Int}

/-- A merged diff keeps the lines that the diff keeps. -/
theorem unchanged_mem_mergedBy_iff :
    .unchanged l r ∈ (a.mergedBy near).entries ↔ .unchanged l r ∈ a.entries := by
  have hfilter := (a.runsMerged_mergedBy near).filter_unchanged
  have hkept : ∀ es : List Entry,
      .unchanged l r ∈ es ↔ .unchanged l r ∈ es.filter (·.tag = .unchanged) := by
    intro es
    rw [List.mem_filter]
    exact ⟨fun h => ⟨h, rfl⟩, fun h => h.1⟩
  rw [hkept, hfilter, ← hkept]

end Diff

namespace Compare

variable {o : ComparisonOptions} {h : Option Highlighter} {code1 code2 : Text} {d : Diff}

/-- The listings of a comparison hold the prepared lines. -/
theorem preparedLines_of_codes (hd : (codes o h code1 code2).result = .ok d) :
    preparedLines o code1 = .ok d.left.lines ∧ preparedLines o code2 = .ok d.right.lines := by
  obtain ⟨left, right, a, hleft, hright, ha, hmerged⟩ := of_codes_eq_ok hd
  obtain ⟨rfl, rfl, -⟩ := Diff.of_align_eq_ok ha
  obtain ⟨near, rfl, -⟩ := exists_mergedBy_of_merged hmerged
  exact ⟨hleft, hright⟩

/-- A comparison keeps as many lines as a longest common subsequence has. -/
theorem count_unchanged_of_codes (hd : (codes o h code1 code2).result = .ok d) :
    d.count .unchanged = longest d.left.lines d.right.lines := by
  obtain ⟨left, right, a, -, -, ha, hmerged⟩ := of_codes_eq_ok hd
  obtain ⟨near, rfl, -⟩ := exists_mergedBy_of_merged hmerged
  rw [Diff.count_unchanged_mergedBy, Diff.count_unchanged_align ha]
  obtain ⟨rfl, rfl, -⟩ := Diff.of_align_eq_ok ha
  rfl

/-- A line that a comparison keeps is the same on both sides. -/
theorem line?_eq_of_unchanged_mem_codes (hd : (codes o h code1 code2).result = .ok d) {l r : Int}
    (hmem : .unchanged l r ∈ d.entries) :
    ∃ line, d.left.line? l = some line ∧ d.right.line? r = some line := by
  obtain ⟨left, right, a, -, -, ha, hmerged⟩ := of_codes_eq_ok hd
  obtain ⟨near, rfl, -⟩ := exists_mergedBy_of_merged hmerged
  obtain ⟨line, hl, hr⟩ :=
    Diff.line?_eq_of_unchanged_mem_align ha (Diff.unchanged_mem_mergedBy_iff.1 hmem)
  obtain ⟨rfl, rfl, -⟩ := Diff.of_align_eq_ok ha
  exact ⟨line, hl, hr⟩

/-- A changed line of a comparison comes from merging, which had to find its two lines near. -/
theorem near_of_changed_mem_codes (hd : (codes o h code1 code2).result = .ok d) {l r : Int}
    (hmem : .changed l r ∈ d.entries) :
    o.optimize.holds = true ∧ ∃ m x y, Metric.find o.distance = .ok m ∧
      d.left.line? l = some x ∧ d.right.line? r = some y ∧
      (m.distance x y).le (thresholdOf o.tolerance) = true := by
  obtain ⟨left, right, a, -, -, ha, hmerged⟩ := of_codes_eq_ok hd
  obtain ⟨near, rfl, hnear⟩ := exists_mergedBy_of_merged hmerged
  rcases (a.runsMerged_mergedBy near).of_changed_mem hmem with hold | ⟨-, hlr⟩
  · exact absurd hold (Diff.changed_not_mem_align ha l r)
  · obtain ⟨ho, m, hm, hlines⟩ := hnear l r hlr
    obtain ⟨x, y, hx, hy, hxy⟩ := Diff.of_nearLines hlines
    exact ⟨ho, m, x, y, hm, hx, hy, hxy⟩

/-- A comparison finds no changes exactly in equal listings, whatever the metric and the tolerance:
merging never touches the kept lines, and unequal listings have too few common ones. -/
theorem hasChanges_eq_false_iff_of_codes (hd : (codes o h code1 code2).result = .ok d) :
    d.hasChanges = false ↔ d.left.lines = d.right.lines := by
  rw [d.hasChanges_eq_false_iff, count_unchanged_of_codes hd]
  exact longest_eq_length_iff d.left.lines d.right.lines

/-- **A comparison is faithful.** Its diff rebuilds the prepared lines of both codes. A kept line is
the same on both sides, and no common subsequence of the prepared lines is longer than the kept
lines are. A changed line joins two lines that the named metric puts at most the threshold apart;
unless merging is asked for there is none. -/
theorem codes_faithful (o : ComparisonOptions) (h : Option Highlighter) (code1 code2 : Text)
    (d : Diff) (hd : (codes o h code1 code2).result = .ok d) :
    preparedLines o code1 = .ok d.leftLines ∧ preparedLines o code2 = .ok d.rightLines ∧
    d.left.lines = d.leftLines ∧ d.right.lines = d.rightLines ∧
    (∀ l r, .unchanged l r ∈ d.entries →
      ∃ line, d.left.line? l = some line ∧ d.right.line? r = some line) ∧
    IsGreatest (commonLengths d.leftLines d.rightLines) (d.count .unchanged) ∧
    ∀ l r, .changed l r ∈ d.entries →
      o.optimize.holds = true ∧ ∃ m x y, Metric.find o.distance = .ok m ∧
        d.left.line? l = some x ∧ d.right.line? r = some y ∧
        (m.distance x y).le (thresholdOf o.tolerance) = true := by
  obtain ⟨hleft, hright⟩ := preparedLines_of_codes hd
  rw [d.leftLines_eq, d.rightLines_eq, count_unchanged_of_codes hd]
  exact ⟨hleft, hright, rfl, rfl, fun l r => line?_eq_of_unchanged_mem_codes hd,
    isGreatest_longest _ _, fun l r => near_of_changed_mem_codes hd⟩

/-- Native code behind a byte order mark: names that differ in their counter make equal lines, and
the last lines are near enough for a tolerance of zero. -/
theorem codes_faithful_native :
    let o : ComparisonOptions := ⟨.native, .bool false, .bool true, .null, .bool true, .int 0,
      .text Metric.levenshtein.name, .null, .null, rfl⟩
    let code1 := "\ufeffcall julia_f_1\nab".toList
    let code2 := "call julia_f_2\nac".toList
    ∃ d, (codes o none code1 code2).result = .ok d ∧
      d.entries = [.unchanged 0 0, .changed 1 1] ∧
      preparedLines o code1 = .ok d.leftLines ∧ preparedLines o code2 = .ok d.rightLines ∧
      IsGreatest (commonLengths d.leftLines d.rightLines) (d.count .unchanged) := by
  intro o code1 code2
  have hentries : (codes o none code1 code2).result.toOption.map Diff.entries =
      some [.unchanged 0 0, .changed 1 1] := by decide +kernel
  obtain ⟨d, hd, hde⟩ := Option.map_eq_some_iff.1 hentries
  have hd := toOption_eq_some_iff.1 hd
  obtain ⟨hleft, hright, -, -, -, hlongest, -⟩ := codes_faithful o none code1 code2 d hd
  exact ⟨d, hd, hde, hleft, hright, hlongest⟩

end Compare

end Collate
