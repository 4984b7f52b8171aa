import Collate.Proofs.Merge.Repeat

/-!
# Merging an alignment

Merging does not ask whether two lines are equal, so it would show two equal lines as one changed
line if it found them in one run. In an alignment it never does: the lines of a run stand in one gap
between two matches, and equal lines of a gap would have been matched (`Diff.settled_align`).

So every changed entry of a merged alignment joins different lines, whatever the distance and the
tolerance. Where only equal lines are near, merging an alignment does nothing
(`Diff.merge_align_of_near_eq`).
-/

namespace Collate

open Collate.Merge

/-- A line at an index is a line of the listing. -/
theorem Listing.mem_lines_of_line? {listing : Listing} {i : Int} {line : Text}
    (h : listing.line? i = some line) : line ∈ listing.lines := by
  obtain ⟨i, -, hline⟩ := exists_of_line?_eq_some h
  exact List.mem_of_getElem? hline

namespace Diff

variable {left right : Listing} {a d : Diff} {distance : Distance} {t : Setting} {l r : Int}

/-- The changed entries of a merged alignment come from merging, and join lines of one run. -/
theorem of_changed_mem_mergedBy_align {near : Int → Int → Bool} (ha : align left right = .ok a)
    (hmem : .changed l r ∈ (a.mergedBy near).entries) :
    SameRun a.entries l r ∧ near l r = true := by
  rcases (a.runsMerged_mergedBy near).of_changed_mem hmem with hold | hnew
  · exact absurd hold (changed_not_mem_align ha l r)
  · exact hnew

/-- Lines of one run of an alignment are different. -/
theorem ne_of_sameRun_align (ha : align left right = .ok a) (hrun : SameRun a.entries l r)
    {x y : Text} (hx : a.left.line? l = some x) (hy : a.right.line? r = some y) : x ≠ y := by
  rintro rfl
  have hsame := (settled_align ha).far_of_sameRun hrun
  rw [sameLines, hx, Option.any_some, hy, decide_eq_false_iff_not] at hsame
  exact hsame rfl

/-- Merging does nothing to an alignment of which only equal lines are near. -/
theorem merge_align_of_near_eq (ha : align left right = .ok a) (ht : checkTolerance t = .ok ())
    (hdistance : distance.isComparable = true)
    (hnear : ∀ x ∈ left.lines, ∀ y ∈ right.lines,
      distance.near (thresholdOf t) x y = true → x = y) :
    a.merge distance t = .ok a := by
  have hfar : ∀ l r, SameRun a.entries l r →
      a.nearLines distance (thresholdOf t) l r = false := by
    intro l r hrun
    rw [← Bool.not_eq_true]
    intro hlines
    obtain ⟨x, y, hx, hy, hxy⟩ := of_nearLines hlines
    refine ne_of_sameRun_align ha hrun hx hy (hnear x ?_ y ?_ hxy)
    · obtain ⟨rfl, -, -⟩ := of_align_eq_ok ha
      exact Listing.mem_lines_of_line? hx
    · obtain ⟨-, rfl, -⟩ := of_align_eq_ok ha
      exact Listing.mem_lines_of_line? hy
  exact merge_eq_ok_iff.2 ⟨ht, fun _ => hdistance, (mergedBy_of_far hfar).symm⟩

/-- **A merged alignment shows no equal lines as changed.** Whatever the distance and the tolerance,
a changed entry joins two lines of the listings that are different. The exact share of both metrics
is zero for equal lines only. So with a tolerance of one merging gives the alignment back, as long
as the lines are not too long for a double to tell a small share from zero. -/
theorem merge_align_ne (left right : Listing) :
    ∃ a, align left right = .ok a ∧
      (∀ (distance : Distance) (t : Setting),
        (checkTolerance t = .ok () → distance.isComparable = true →
          ∃ d, a.merge distance t = .ok d) ∧
        ∀ d, a.merge distance t = .ok d → ∀ l r, .changed l r ∈ d.entries →
          ∃ x y, left.line? l = some x ∧ right.line? r = some y ∧ x ≠ y) ∧
      (∀ (m : Metric) (x y : Text), m.share x y = 0 ↔ x = y) ∧
      ∀ (m : Metric) (t : Setting), t.value? = some 1 →
        (∀ x ∈ left.lines, ∀ y ∈ right.lines, m.Distinguishes x y) →
        a.merge (.metric m) t = .ok a := by
  obtain ⟨a, ha⟩ := exists_align left right
  refine ⟨a, ha, ?_, Metric.share_eq_zero_iff, ?_⟩
  · intro distance t
    refine ⟨fun ht hdistance => ⟨_, merge_eq_ok_iff.2 ⟨ht, fun _ => hdistance, rfl⟩⟩, ?_⟩
    intro d hd l r hmem
    obtain ⟨-, -, rfl⟩ := merge_eq_ok_iff.1 hd
    obtain ⟨hrun, hnear⟩ := of_changed_mem_mergedBy_align ha hmem
    obtain ⟨x, y, hx, hy, -⟩ := of_nearLines hnear
    have hne := ne_of_sameRun_align ha hrun hx hy
    obtain ⟨rfl, rfl, -⟩ := of_align_eq_ok ha
    exact ⟨x, y, hx, hy, hne⟩
  · intro m t ht hshort
    have htolerance := checkTolerance_eq_ok_iff.2 ⟨1, ht, zero_le_one, le_refl 1⟩
    refine merge_align_of_near_eq ha htolerance rfl ?_
    intro x hx y hy
    exact Metric.eq_of_near_of_tolerance_one ht (hshort x hx y hy)

/-- The line that both listings share is not shown as changed even where all lines are near, and
with a tolerance of one nothing is. -/
theorem merge_align_ne_swapped :
    let left : Listing := .plain [['a'], ['b']] (by decide)
    let right : Listing := .plain [['b'], ['c']] (by decide)
    ∃ a, align left right = .ok a ∧
      (∃ d, a.merge (.constant (.int 0)) (.int 0) = .ok d ∧
        ∀ l r, .changed l r ∈ d.entries →
          ∃ x y, left.line? l = some x ∧ right.line? r = some y ∧ x ≠ y) ∧
      (∀ m : Metric, ∀ x ∈ left.lines, ∀ y ∈ right.lines, m.Distinguishes x y) ∧
      ∀ m : Metric, a.merge (.metric m) (.int 1) = .ok a := by
  intro left right
  obtain ⟨a, ha, hmerge, -, hone⟩ := merge_align_ne left right
  obtain ⟨hok, hne⟩ := hmerge (.constant (.int 0)) (.int 0)
  obtain ⟨d, hd⟩ := hok rfl rfl
  have hshort : ∀ m : Metric, ∀ x ∈ left.lines, ∀ y ∈ right.lines, m.Distinguishes x y := by
    intro m x hx y hy
    have hlengths : ∀ x ∈ left.lines, ∀ y ∈ right.lines, x.length + y.length = 2 := by decide
    rw [Metric.Distinguishes, hlengths x hx y hy]
    cases m <;> decide +kernel
  exact ⟨a, ha, ⟨d, hd, hne d hd⟩, hshort, fun m => hone m (.int 1) rfl (hshort m)⟩

end Diff

end Collate
