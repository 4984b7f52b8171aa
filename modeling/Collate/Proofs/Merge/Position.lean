import Collate.Proofs.Merge.Tolerance

/-!
# Runs paired by position

The walk along the added lines of a run starts behind the removed line that was paired last. If all
lines of the run are near, it stops there each time, so the lines are paired in their order until
one side ends, and what the other side has left stays behind the pairs (`pairRun_of_near`).

A run is merged by itself wherever it stands (`RunAt.mergeRuns_eq`): one that removals precede or
additions follow would not be whole, and with nothing of the kind around it merging cuts the entries
at both its ends (`mergeRuns_append`). With a tolerance of zero that is what becomes of every run,
since no metric gives a distance above one.
-/

namespace Collate

open Collate.Merge

namespace Merge

variable {es before after : List Entry} {ls rs : List Int}

/-- A whole run among other entries: all removals of a stretch with all additions right behind it,
at least one of each. -/
structure RunAt (es before : List Entry) (ls rs : List Int) (after : List Entry) : Prop where
  /-- Where the run stands. -/
  entries_eq : es = before ++ removedLines ls ++ addedLines rs ++ after
  /-- There is a removal. -/
  removed_ne : ls ≠ []
  /-- There is an addition. -/
  added_ne : rs ≠ []
  /-- No removal stands right before the run. -/
  begins : ¬ EndsWith .removed before
  /-- No addition follows the run. -/
  ends : ¬ StartsWith .added after

namespace RunAt

/-- A removed and an added line of a whole run belong to one run. -/
theorem sameRun (h : RunAt es before ls rs after) {l r : Int} (hl : l ∈ ls) (hr : r ∈ rs) :
    SameRun es l r :=
  ⟨before, ls, rs, after, h.entries_eq, hl, hr⟩

/-- A whole run is merged by itself, and so is what stands around it. -/
theorem mergeRuns_eq (h : RunAt es before ls rs after) (near : Int → Int → Bool) :
    mergeRuns near es =
      mergeRuns near before ++ pairRun near ls [] rs ++ mergeRuns near after := by
  have hrun : ¬ StartsWith .added (removedLines ls ++ addedLines rs ++ after) := by
    obtain ⟨l, ls, rfl⟩ := List.exists_cons_of_ne_nil h.removed_ne
    exact nofun
  calc mergeRuns near es
      = mergeRuns near (before ++ (removedLines ls ++ addedLines rs ++ after)) := by
        rw [h.entries_eq]
        simp only [List.append_assoc]
    _ = mergeRuns near before ++ mergeRuns near (removedLines ls ++ addedLines rs ++ after) :=
        mergeRuns_append near h.begins hrun
    _ = mergeRuns near before ++ (pairRun near ls [] rs ++ mergeRuns near after) := by
        rw [mergeRuns_run near h.removed_ne h.ends fun hrs => absurd hrs h.added_ne]
    _ = mergeRuns near before ++ pairRun near ls [] rs ++ mergeRuns near after :=
        (List.append_assoc _ _ _).symm

/-- A whole run of near lines is paired by position. -/
theorem mergeRuns_of_near (h : RunAt es before ls rs after) {near : Int → Int → Bool}
    (hnear : ∀ l ∈ ls, ∀ r ∈ rs, near l r = true) :
    mergeRuns near es =
      mergeRuns near before ++ pairedByPosition ls rs ++ mergeRuns near after := by
  rw [h.mergeRuns_eq, pairRun_of_near hnear]

end RunAt

end Merge

namespace Diff

variable {d : Diff}

/-- Lines of a run whose distances are at most a threshold are near. -/
theorem nearLines_of_sameRun {distance : Distance} {threshold : Number.Binary64} {l r : Int}
    (hrun : SameRun d.entries l r)
    (hnear : ∀ x y, d.left.line? l = some x → d.right.line? r = some y →
      distance.near threshold x y = true) :
    d.nearLines distance threshold l r = true := by
  obtain ⟨x, y, hx, hy⟩ := exists_line?_of_sameRun hrun
  rw [nearLines, hx, hy]
  exact hnear x y hx hy

/-- **Near lines are paired by position.** Whatever the distance and the tolerance, a whole run of
any diff whose removed and added lines are all near becomes as many changed entries as its shorter
side has lines, the first removed line with the first added one and so on, and then the last lines
of the longer side. By a tolerance of zero the metrics with a name do so with every whole run. -/
theorem merge_by_position (d : Diff) :
    (∀ distance t, checkTolerance t = .ok () → distance.isComparable = true →
      ∃ d', d.merge distance t = .ok d' ∧
        ∀ before ls rs after, RunAt d.entries before ls rs after →
          (∀ l ∈ ls, ∀ r ∈ rs, ∀ x y, d.left.line? l = some x → d.right.line? r = some y →
            distance.near (thresholdOf t) x y = true) →
          d'.entries =
            mergeRuns (d.nearLines distance (thresholdOf t)) before ++ pairedByPosition ls rs ++
              mergeRuns (d.nearLines distance (thresholdOf t)) after) ∧
    ∀ (m : Metric) t, t.value? = some 0 →
      ∃ d', d.merge (.metric m) t = .ok d' ∧
        ∀ before ls rs after, RunAt d.entries before ls rs after →
          d'.entries =
            mergeRuns (d.nearLines (.metric m) (thresholdOf t)) before ++ pairedByPosition ls rs ++
              mergeRuns (d.nearLines (.metric m) (thresholdOf t)) after := by
  constructor
  · intro distance t ht hdistance
    refine ⟨_, merge_eq_ok_iff.2 ⟨ht, fun _ => hdistance, rfl⟩, ?_⟩
    intro before ls rs after hrun hnear
    exact hrun.mergeRuns_of_near fun l hl r hr =>
      nearLines_of_sameRun (hrun.sameRun hl hr) (hnear l hl r hr)
  · intro m t ht
    have htolerance : checkTolerance t = .ok () :=
      checkTolerance_eq_ok_iff.2 ⟨0, ht, le_refl 0, zero_le_one⟩
    refine ⟨_, merge_eq_ok_iff.2 ⟨htolerance, fun _ => rfl, rfl⟩, ?_⟩
    intro before ls rs after hrun
    exact hrun.mergeRuns_of_near fun l hl r hr => nearLines_of_tolerance_zero ht (hrun.sameRun hl hr)

/-- Two runs with a kept line between them. In the one a removed line is left over, in the other an
added one. By a distance that is small to one of the right lines only, its run is merged. -/
theorem merge_by_position_two_runs :
    let d : Diff := ⟨.plain [['a'], ['b'], ['k'], ['c']] (by decide),
      .plain [['x'], ['k'], ['y'], ['z']] (by decide),
      [.removed 0, .removed 1, .added 0, .unchanged 2 1, .removed 3, .added 2, .added 3],
      by decide, by decide⟩
    let distance : Distance := .measure fun _ b => .whole (if b = ['x'] then 0 else 1)
    RunAt d.entries [] [0, 1] [0] [.unchanged 2 1, .removed 3, .added 2, .added 3] ∧
    (∃ d', d.merge distance .half = .ok d' ∧
      d'.entries = [.changed 0 0, .removed 1, .unchanged 2 1, .removed 3, .added 2, .added 3]) ∧
    ∃ d', d.merge (.metric .levenshtein) (.int 0) = .ok d' ∧
      d'.entries = [.changed 0 0, .removed 1, .unchanged 2 1, .changed 3 2, .added 3] := by
  intro d distance
  obtain ⟨hany, hzero⟩ := d.merge_by_position
  have hrun : RunAt d.entries [] [0, 1] [0] [.unchanged 2 1, .removed 3, .added 2, .added 3] :=
    ⟨rfl, by decide, by decide, nofun, nofun⟩
  refine ⟨hrun, ?_, ?_⟩
  · obtain ⟨d', hd', hruns⟩ := hany distance .half checkTolerance_half rfl
    refine ⟨d', hd', ?_⟩
    rw [hruns _ _ _ _ hrun ?_]
    · decide +kernel
    · intro l _ r hr x y _ hy
      obtain rfl := List.mem_singleton.1 hr
      cases hy
      change (Setting.Amount.whole 0).atMost (thresholdOf .half) = true
      decide +kernel
  · obtain ⟨d', hd', hruns⟩ := hzero .levenshtein (.int 0) rfl
    refine ⟨d', hd', ?_⟩
    rw [hruns _ _ _ _ hrun]
    decide +kernel

end Diff

end Collate
