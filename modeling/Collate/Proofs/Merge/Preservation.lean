import Collate.Proofs.Diff.Path
import Collate.Proofs.Merge.Runs

/-!
# Merging keeps a diff a diff

Merging the near lines of a diff gives a diff of the same listings, whatever decides which lines are
near: since both sides keep their references in order, the check that every diff has to pass cannot
fail (`Diff.merge_eq_ok_iff`). What is left to fail is the tolerance, and a distance that is no
number.

The counts follow without looking at a run again. Both diffs count every line of either side once,
and the kept lines are the same, so a changed entry more is a removal less and an addition less
(`Diff.exists_count_mergedBy`).
-/

namespace Collate

open Collate.Merge

namespace Diff

/-- A diff with the near lines of every run merged. -/
def mergedBy (d : Diff) (near : Int → Int → Bool) : Diff where
  left := d.left
  right := d.right
  entries := mergeRuns near d.entries
  left_rebuilt := by
    rw [(runsMerged_mergeRuns near d.entries).filterMap_left?]
    exact d.left_rebuilt
  right_rebuilt := by
    rw [(runsMerged_mergeRuns near d.entries).filterMap_right?]
    exact d.right_rebuilt

/-- The entries of a merged diff are those of the diff, merged run by run. -/
theorem runsMerged_mergedBy (d : Diff) (near : Int → Int → Bool) :
    RunsMerged near d.entries (d.mergedBy near).entries :=
  runsMerged_mergeRuns near d.entries

/-- Where the lines of each run are far apart a merged diff is the diff. -/
theorem mergedBy_of_far {d : Diff} {near : Int → Int → Bool}
    (hfar : ∀ l r, SameRun d.entries l r → near l r = false) : d.mergedBy near = d := by
  have hentries := (d.runsMerged_mergedBy near).eq_of_far hfar
  obtain ⟨left, right, entries, hleft, hright⟩ := d
  unfold mergedBy at hentries ⊢
  congr

/-- Without near lines a merged diff is the diff. -/
theorem mergedBy_of_never (d : Diff) {near : Int → Int → Bool} (hnear : ∀ l r, near l r = false) :
    d.mergedBy near = d :=
  mergedBy_of_far fun l r _ => hnear l r

/-- Merged entries always pass the check of a diff. -/
theorem withEntries_mergeRuns (d : Diff) (near : Int → Int → Bool) :
    d.withEntries (mergeRuns near d.entries) = .ok (d.mergedBy near) :=
  ofEntries_eq_ok_iff.2 ⟨rfl, rfl, rfl⟩

/-- Lines that are near are there. -/
theorem of_nearLines {d : Diff} {l r : Int} {distance : Distance} {threshold : Number.Binary64}
    (h : d.nearLines distance threshold l r = true) :
    ∃ x y, d.left.line? l = some x ∧ d.right.line? r = some y ∧
      distance.near threshold x y = true := by
  unfold nearLines at h
  split at h
  · rename_i x y hx hy
    exact ⟨x, y, hx, hy, h⟩
  · cases h

/-- A merge in its two checks and its result. -/
theorem merge_eq (d : Diff) (distance : Distance) (tolerance : Setting) :
    d.merge distance tolerance = checkTolerance tolerance >>= fun _ =>
      if hasRun d.entries && !distance.isComparable then .error (.misuse .wrongKind)
      else .ok (d.mergedBy (d.nearLines distance (thresholdOf tolerance))) := by
  rw [merge, withEntries_mergeRuns]
  split <;> rfl

/-- A merge succeeds with a tolerance in range and, where lines are compared, a distance that is a
number; its result is the merged diff. -/
theorem merge_eq_ok_iff {d d' : Diff} {distance : Distance} {tolerance : Setting} :
    d.merge distance tolerance = .ok d' ↔
      checkTolerance tolerance = .ok () ∧
      (hasRun d.entries = true → distance.isComparable = true) ∧
      d' = d.mergedBy (d.nearLines distance (thresholdOf tolerance)) := by
  rw [merge_eq, bind_eq_ok_iff]
  constructor
  · rintro ⟨⟨⟩, htolerance, h⟩
    split at h
    · cases h
    · rename_i hcomparable
      cases h
      exact ⟨htolerance, by simpa using hcomparable, rfl⟩
  · rintro ⟨htolerance, hcomparable, rfl⟩
    exact ⟨(), htolerance, if_neg (by simpa using hcomparable)⟩

/-- A tolerance that is refused is no broken diff. -/
theorem category?_of_checkTolerance {tolerance : Setting} {f : Failure}
    (h : checkTolerance tolerance = .error f) : f.category? ≠ some .brokenDiff := by
  unfold checkTolerance at h
  split at h
  · cases h
    simp [Failure.category?]
  · split at h
    · cases h
    · cases h
      simp [Failure.category?]

/-- A merge that fails does not fail for a broken diff. -/
theorem category?_of_merge_eq_error {d : Diff} {distance : Distance} {tolerance : Setting}
    {f : Failure} (h : d.merge distance tolerance = .error f) :
    f.category? ≠ some .brokenDiff := by
  rw [merge_eq] at h
  cases htolerance : checkTolerance tolerance with
  | error f' =>
    rw [htolerance] at h
    cases h
    exact category?_of_checkTolerance htolerance
  | ok _ =>
    rw [htolerance] at h
    change ite _ _ _ = _ at h
    split at h
    · cases h
      simp [Failure.category?]
    · cases h

/-! ## Counts -/

/-- Merging keeps the number of kept lines. -/
theorem count_unchanged_mergedBy (d : Diff) (near : Int → Int → Bool) :
    (d.mergedBy near).count .unchanged = d.count .unchanged := by
  unfold count
  rw [List.countP_eq_length_filter, List.countP_eq_length_filter,
    (d.runsMerged_mergedBy near).filter_unchanged]

/-- Merging loses no changed entry. -/
theorem count_changed_le_mergedBy (d : Diff) (near : Int → Int → Bool) :
    d.count .changed ≤ (d.mergedBy near).count .changed :=
  (d.runsMerged_mergedBy near).countP_changed_le

/-- Every changed entry that merging adds takes the place of a removal and an addition. -/
theorem exists_count_mergedBy (d : Diff) (near : Int → Int → Bool) :
    ∃ k, (d.mergedBy near).count .changed = d.count .changed + k ∧
      (d.mergedBy near).count .removed + k = d.count .removed ∧
      (d.mergedBy near).count .added + k = d.count .added ∧
      (d.mergedBy near).count .unchanged = d.count .unchanged := by
  obtain ⟨k, hk⟩ := Nat.exists_eq_add_of_le (d.count_changed_le_mergedBy near)
  have hkept := d.count_unchanged_mergedBy near
  have hleft := d.count_left
  have hright := d.count_right
  have hleft' := (d.mergedBy near).count_left
  have hright' := (d.mergedBy near).count_right
  change _ = d.left.size at hleft'
  change _ = d.right.size at hright'
  exact ⟨k, hk, by omega, by omega, hkept⟩

/-! ## Merges -/

/-- What merging makes of a diff: a diff of the same listings in which some removals and additions
of one run have become changed entries. -/
structure IsMergeOf (d' d : Diff) : Prop where
  /-- The left listing is the same. -/
  left_eq : d'.left = d.left
  /-- The right listing is the same. -/
  right_eq : d'.right = d.right
  /-- All entries with two lines are still there, in their order. -/
  sublist : (d.entries.filter Entry.isPaired).Sublist d'.entries
  /-- A changed entry was there before, or joins a removed line with an added one of the same run. -/
  of_changed_mem : ∀ l r, .changed l r ∈ d'.entries →
    .changed l r ∈ d.entries ∨ SameRun d.entries l r
  /-- Every changed entry that is new stands in place of one removal and one addition. -/
  counts : ∃ k, d'.count .changed = d.count .changed + k ∧
    d'.count .removed + k = d.count .removed ∧ d'.count .added + k = d.count .added ∧
    d'.count .unchanged = d.count .unchanged

/-- A merged diff is a merge of the diff, whatever decides which lines are near. -/
theorem isMergeOf_mergedBy (d : Diff) (near : Int → Int → Bool) :
    (d.mergedBy near).IsMergeOf d where
  left_eq := rfl
  right_eq := rfl
  sublist := (d.runsMerged_mergedBy near).sublist
  of_changed_mem := by
    intro l r hmem
    rcases (d.runsMerged_mergedBy near).of_changed_mem hmem with hold | ⟨hrun, -⟩
    · exact .inl hold
    · exact .inr hrun
  counts := d.exists_count_mergedBy near

/-- **Merging keeps a diff a diff.** Merged entries always pass the check of a diff, even where what
is near is decided for each pair of lines by itself. With a tolerance in range and a distance that
is a number a merge succeeds, no merge fails for a broken diff, and every merge that succeeds gives
a merge of the diff. -/
theorem merge_preserves (d : Diff) :
    (∀ near : Int → Int → Bool, ∃ d', d.withEntries (mergeRuns near d.entries) = .ok d' ∧
      d'.IsMergeOf d) ∧
    ∀ (distance : Distance) (tolerance : Setting),
      (checkTolerance tolerance = .ok () → distance.isComparable = true →
        ∃ d', d.merge distance tolerance = .ok d') ∧
      (∀ f, d.merge distance tolerance = .error f → f.category? ≠ some .brokenDiff) ∧
      ∀ d', d.merge distance tolerance = .ok d' → d'.IsMergeOf d := by
  refine ⟨?_, ?_⟩
  · intro near
    exact ⟨d.mergedBy near, d.withEntries_mergeRuns near, d.isMergeOf_mergedBy near⟩
  · intro distance tolerance
    refine ⟨?_, fun f => category?_of_merge_eq_error, ?_⟩
    · intro htolerance hcomparable
      exact ⟨_, merge_eq_ok_iff.2 ⟨htolerance, fun _ => hcomparable, rfl⟩⟩
    · intro d' h
      obtain ⟨-, -, rfl⟩ := merge_eq_ok_iff.1 h
      exact d.isMergeOf_mergedBy _

/-- A run behind an addition, with a removal that finds no partner: one pair is merged. -/
theorem merge_preserves_added_first :
    let d : Diff := ⟨.plain [['k'], ['x']] (by decide), .plain [['p'], ['x']] (by decide),
      [.added 0, .removed 0, .removed 1, .added 1], by decide, by decide⟩
    let distance : Distance := .measure fun a b => .whole (if a = b then 0 else 1)
    checkTolerance (.int 1) = .ok () ∧ distance.isComparable = true ∧
    ∃ d', d.merge distance (.int 1) = .ok d' ∧ d'.entries = [.added 0, .removed 0, .changed 1 1] ∧
      d'.IsMergeOf d := by
  intro d distance
  obtain ⟨-, hmerge⟩ := merge_preserves d
  obtain ⟨hok, -, hresult⟩ := hmerge distance (.int 1)
  have htolerance : checkTolerance (.int 1) = .ok () := by rfl
  obtain ⟨d', hd'⟩ := hok htolerance rfl
  refine ⟨htolerance, rfl, d', hd', ?_, hresult d' hd'⟩
  obtain ⟨-, -, rfl⟩ := merge_eq_ok_iff.1 hd'
  decide +kernel

end Diff

end Collate
