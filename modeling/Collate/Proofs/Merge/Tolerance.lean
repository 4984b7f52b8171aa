import Collate.Proofs.Merge.Repeat

/-!
# Merging with two tolerances

By a lower tolerance more lines are near, but merging need not merge more of them. The walk through
a run is greedy: an added line that now finds a partner far down the removed lines uses up all that
stand above its partner, and added lines below it may be left without one
(`Diff.align_merge_fewer`).

What holds is an order in which the added lines are merged. With both tolerances walk along the
added lines of a run. As long as both merge the same lines, the removed lines that the higher
tolerance has left are the last ones of those that the lower tolerance has left. So the first line
that only one of them merges is merged by the lower one: every line that only the higher tolerance
merges stands in its run below a line that only the lower one merges (`merged_or_of_pairRun`,
`merged_or_of_runsMerged`).

The number of changed entries can therefore be smaller with the lower tolerance only where both
happen in one run. With a tolerance of zero it never is, since all lines are near and each run is
merged as far as its shorter side reaches (`pairRun_of_near`).
-/

namespace Collate

open Collate.Merge

namespace Merge

/-! ## Merged lines -/

/-- Whether a right line is merged with a left one. -/
def Merged (es : List Entry) (r : Int) : Prop := ∃ l, .changed l r ∈ es

theorem merged_append {es fs : List Entry} {r : Int} :
    Merged (es ++ fs) r ↔ Merged es r ∨ Merged fs r := by
  simp only [Merged, List.mem_append, exists_or]

theorem merged_cons {e : Entry} {es : List Entry} {r : Int} :
    Merged (e :: es) r ↔ (∃ l, .changed l r = e) ∨ Merged es r := by
  simp only [Merged, List.mem_cons, exists_or]

/-- A merged line is one of the right lines. -/
theorem Merged.mem_filterMap {es : List Entry} {r : Int} (h : Merged es r) :
    r ∈ es.filterMap Entry.right? := by
  obtain ⟨l, hmem⟩ := h
  exact List.mem_filterMap.2 ⟨_, hmem, rfl⟩

/-- A merged line of a run is one of its added lines. -/
theorem Merged.mem_of_pairRun {near : Int → Int → Bool} {ls ws rs : List Int} {r : Int}
    (h : Merged (pairRun near ls ws rs) r) : r ∈ rs := by
  obtain ⟨l, hmem⟩ := h
  exact (of_changed_mem_pairRun near ls ws rs hmem).2.1

/-- An added line that finds a partner is merged, and those after it as the walk goes on. -/
theorem merged_pairRun_of_eq_some {near : Int → Int → Bool} {ls ws rs skipped rest : List Int}
    {l r r' : Int} (h : findSplit? (near · r) ls = some (skipped, l, rest)) :
    Merged (pairRun near ls ws (r :: rs)) r' ↔ r' = r ∨ Merged (pairRun near rest [] rs) r' := by
  rw [pairRun, h]
  dsimp only
  rw [merged_append, merged_cons]
  constructor
  · rintro (⟨l', hmem⟩ | ⟨l', heq⟩ | hrest)
    · simp at hmem
    · cases heq
      exact .inl rfl
    · exact .inr hrest
  · rintro (rfl | hrest)
    · exact .inr (.inl ⟨l, rfl⟩)
    · exact .inr (.inr hrest)

/-- An added line that finds none waits. -/
theorem pairRun_of_eq_none {near : Int → Int → Bool} {ls : List Int} (ws rs : List Int) {r : Int}
    (h : findSplit? (near · r) ls = none) :
    pairRun near ls ws (r :: rs) = pairRun near ls (ws ++ [r]) rs := by
  rw [pairRun, h]

/-- The first item that satisfies a condition leaves all that stand behind another one that does. -/
theorem exists_findSplit?_of_mem {α : Type} {p : α → Bool} (before : List α) {a : α}
    {after : List α} (ha : p a = true) :
    ∃ skipped found rest,
      findSplit? p (before ++ a :: after) = some (skipped, found, rest) ∧ after <:+ rest := by
  induction before with
  | nil => exact ⟨[], a, after, by rw [List.nil_append, findSplit?, if_pos ha], List.suffix_refl _⟩
  | cons b before ih =>
    rw [List.cons_append, findSplit?]
    split_ifs
    · exact ⟨[], b, _, rfl, before ++ [a], by simp⟩
    · obtain ⟨skipped, found, rest, hfound, hrest⟩ := ih
      rw [hfound]
      exact ⟨b :: skipped, found, rest, rfl, hrest⟩

/-! ## The first difference -/

section twoWalks

variable {near₁ near₂ : Int → Int → Bool} (hnear : ∀ l r, near₂ l r = true → near₁ l r = true)

include hnear

/-- A line that is merged where fewer lines are near is merged where more are, or stands below one
that is merged there only. What the one walk has left are the last of the lines that the other has
left. -/
theorem merged_or_of_pairRun {ls₁ ls₂ rs : List Int} (ws₁ ws₂ : List Int) (hls : ls₂ <:+ ls₁)
    (hrs : rs.Pairwise (· < ·)) {r : Int} (h : Merged (pairRun near₂ ls₂ ws₂ rs) r) :
    Merged (pairRun near₁ ls₁ ws₁ rs) r ∨
      ∃ r' < r, Merged (pairRun near₁ ls₁ ws₁ rs) r' ∧
        ¬ Merged (pairRun near₂ ls₂ ws₂ rs) r' := by
  induction rs generalizing ls₁ ls₂ ws₁ ws₂ with
  | nil => exact absurd h.mem_of_pairRun List.not_mem_nil
  | cons r₀ rs ih =>
    obtain ⟨hfirst, hrs⟩ := List.pairwise_cons.1 hrs
    cases h₂ : findSplit? (near₂ · r₀) ls₂ with
    | some found =>
      -- the line is merged by both walks
      obtain ⟨skipped, l, rest₂⟩ := found
      obtain ⟨rfl, hl, -⟩ := findSplit?_eq_some h₂
      obtain ⟨before, rfl⟩ := hls
      obtain ⟨skipped', l', rest₁, h₁, hrest⟩ : ∃ skipped' l' rest₁,
          findSplit? (near₁ · r₀) (before ++ (skipped ++ l :: rest₂)) = some (skipped', l', rest₁) ∧
            rest₂ <:+ rest₁ := by
        rw [← List.append_assoc]
        exact exists_findSplit?_of_mem _ (hnear l r₀ hl)
      rw [merged_pairRun_of_eq_some h₂] at h
      simp only [merged_pairRun_of_eq_some h₁, merged_pairRun_of_eq_some h₂]
      rcases h with rfl | h
      · exact .inl (.inl rfl)
      · rcases ih [] [] hrest hrs h with h | ⟨r', hlt, hmerged, hnot⟩
        · exact .inl (.inr h)
        · have hne : r' ≠ r₀ := (hfirst r' hmerged.mem_of_pairRun).ne'
          exact .inr ⟨r', hlt, .inr hmerged, fun h => hnot (h.resolve_left hne)⟩
    | none =>
      rw [pairRun_of_eq_none ws₂ rs h₂] at h ⊢
      cases h₁ : findSplit? (near₁ · r₀) ls₁ with
      | some found =>
        -- the line is the first difference
        refine .inr ⟨r₀, hfirst r h.mem_of_pairRun, (merged_pairRun_of_eq_some h₁).2 (.inl rfl), ?_⟩
        intro hmerged
        exact lt_irrefl r₀ (hfirst r₀ hmerged.mem_of_pairRun)
      | none =>
        rw [pairRun_of_eq_none ws₁ rs h₁]
        exact ih _ _ hls hrs h

/-- A right line that is merged where fewer lines are near is merged where more are, or stands in
its run below one that is merged there only. -/
theorem merged_or_of_runsMerged {es fs : List Entry} (h₂ : RunsMerged near₂ es fs)
    (hes : (es.filterMap Entry.right?).Pairwise (· < ·)) {l r : Int} (hmem : .changed l r ∈ fs) :
    Merged (mergeRuns near₁ es) r ∨
      ∃ r' < r, SameRun es l r' ∧ Merged (mergeRuns near₁ es) r' ∧ ¬ Merged fs r' := by
  induction h₂ with
  | nil => cases hmem
  | @keep e es fs he hrest ih =>
    rw [← List.singleton_append, List.filterMap_append] at hes
    obtain ⟨-, htail, hcross⟩ := List.pairwise_append.1 hes
    rw [mergeRuns_cons near₁ he]
    simp only [merged_cons]
    rcases List.mem_cons.1 hmem with heq | hmem
    · exact .inl (.inl ⟨l, heq⟩)
    · rcases ih htail hmem with h | ⟨r', hlt, hrun, hmerged, hnot⟩
      · exact .inl (.inr h)
      · refine .inr ⟨r', hlt, hrun.append_left [e], .inr hmerged, ?_⟩
        rintro (⟨l', rfl⟩ | h)
        · have hright := hmerged.mem_filterMap
          rw [(runsMerged_mergeRuns near₁ es).filterMap_right?] at hright
          exact lt_irrefl r' (hcross r' List.mem_cons_self r' hright)
        · exact hnot h
  | @run ls rs es fs hls hadded hremoved hrest ih =>
    simp only [List.filterMap_append, filterMap_right?_removedLines, filterMap_right?_addedLines,
      List.nil_append] at hes
    obtain ⟨hrs, htail, hcross⟩ := List.pairwise_append.1 hes
    have hnot_both : ∀ r, r ∈ rs → r ∉ es.filterMap Entry.right? :=
      fun r hr hr' => lt_irrefl r (hcross r hr r hr')
    rw [mergeRuns_run near₁ hls hadded hremoved]
    simp only [merged_append]
    rcases List.mem_append.1 hmem with hmem | hmem
    · obtain ⟨hl, -, -⟩ := of_changed_mem_pairRun near₂ ls [] rs hmem
      rcases merged_or_of_pairRun hnear [] [] (List.suffix_refl ls) hrs ⟨l, hmem⟩ with
        h | ⟨r', hlt, hmerged, hnot⟩
      · exact .inl (.inl h)
      · have hr' := hmerged.mem_of_pairRun
        refine .inr ⟨r', hlt, ⟨[], ls, rs, es, rfl, hl, hr'⟩, .inl hmerged, ?_⟩
        rintro (h | h)
        · exact hnot h
        · have hright := h.mem_filterMap
          rw [hrest.filterMap_right?] at hright
          exact hnot_both r' hr' hright
    · rcases ih htail hmem with h | ⟨r', hlt, hrun, hmerged, hnot⟩
      · exact .inl (.inr h)
      · refine .inr ⟨r', hlt, hrun.append_left _, .inr hmerged, ?_⟩
        rintro (h | h)
        · have hright := hmerged.mem_filterMap
          rw [(runsMerged_mergeRuns near₁ es).filterMap_right?] at hright
          exact hnot_both r' h.mem_of_pairRun hright
        · exact hnot h

end twoWalks

/-! ## Counting -/

/-- The right lines that are merged, in their order. -/
def mergedLines (es : List Entry) : List Int :=
  (es.filter (·.tag = .changed)).filterMap Entry.right?

theorem mem_mergedLines {es : List Entry} {r : Int} : r ∈ mergedLines es ↔ Merged es r := by
  simp only [mergedLines, List.mem_filterMap, List.mem_filter, decide_eq_true_eq]
  constructor
  · rintro ⟨e, ⟨hmem, htag⟩, hright⟩
    cases e with
    | changed l r' =>
      cases hright
      exact ⟨l, hmem⟩
    | unchanged l r' | removed l | added r' => cases htag
  · rintro ⟨l, hmem⟩
    exact ⟨_, ⟨hmem, rfl⟩, rfl⟩

/-- There are as many merged lines as changed entries. -/
theorem length_mergedLines (es : List Entry) :
    (mergedLines es).length = es.countP (·.tag = .changed) := by
  induction es with
  | nil => rfl
  | cons e es ih =>
    rw [List.countP_cons, ← ih]
    cases e <;> rfl

/-- Where all merged lines are merged elsewhere too, there are no more of them. -/
theorem countP_changed_le_of_merged {es fs : List Entry}
    (hes : (es.filterMap Entry.right?).Pairwise (· < ·)) (h : ∀ r, Merged es r → Merged fs r) :
    es.countP (·.tag = .changed) ≤ fs.countP (·.tag = .changed) := by
  have hnodup : (mergedLines es).Nodup :=
    (hes.imp fun hlt => hlt.ne).sublist (List.filter_sublist.filterMap _)
  have hsubset : mergedLines es ⊆ mergedLines fs :=
    fun r hr => mem_mergedLines.2 (h r (mem_mergedLines.1 hr))
  rw [← length_mergedLines, ← length_mergedLines]
  exact (List.subperm_of_subset hnodup hsubset).length_le

/-- A run has no more pairs than it has lines on either side. -/
theorem countP_changed_pairRun_le (near : Int → Int → Bool) (ls ws rs : List Int) :
    (pairRun near ls ws rs).countP (·.tag = .changed) ≤ min ls.length rs.length := by
  fun_induction pairRun near ls ws rs with
  | case1 ls ws =>
    have hnone := countP_changed_run ls ws []
    rw [List.append_nil] at hnone
    rw [hnone]
    exact Nat.zero_le _
  | case2 ls ws r rs skipped l rest h ih =>
    obtain ⟨rfl, -, -⟩ := findSplit?_eq_some h
    rw [countP_changed_run, List.countP_cons_of_pos rfl, List.length_append, List.length_cons,
      List.length_cons]
    omega
  | case3 ls ws r rs h ih =>
    rw [List.length_cons]
    omega

/-- Nothing merges more lines than merging does where all lines of each run are near. -/
theorem RunsMerged.countP_changed_le_of_near {near₁ near₂ : Int → Int → Bool} {es fs : List Entry}
    (h₂ : RunsMerged near₂ es fs) (hnear : ∀ l r, SameRun es l r → near₁ l r = true) :
    fs.countP (·.tag = .changed) ≤ (mergeRuns near₁ es).countP (·.tag = .changed) := by
  induction h₂ with
  | nil => exact Nat.zero_le _
  | @keep e es fs he _ ih =>
    rw [mergeRuns_cons near₁ he, List.countP_cons, List.countP_cons]
    exact Nat.add_le_add_right (ih fun l r hrun => hnear l r (hrun.append_left [e])) _
  | @run ls rs es fs hls hadded hremoved _ ih =>
    have hrun : ∀ l ∈ ls, ∀ r ∈ rs, near₁ l r = true :=
      fun l hl r hr => hnear l r ⟨[], ls, rs, es, rfl, hl, hr⟩
    rw [mergeRuns_run near₁ hls hadded hremoved, List.countP_append, List.countP_append,
      pairRun_of_near hrun, countP_changed_pairedByPosition]
    exact Nat.add_le_add (countP_changed_pairRun_le near₂ ls [] rs)
      (ih fun l r hrun => hnear l r (hrun.append_left _))

end Merge

namespace Diff

/-- The lines of a run are lines of the listings. -/
theorem exists_line?_of_sameRun {d : Diff} {l r : Int} (hrun : SameRun d.entries l r) :
    ∃ x y, d.left.line? l = some x ∧ d.right.line? r = some y := by
  obtain ⟨x, hx⟩ := d.exists_left_line? hrun.mem.1 rfl
  obtain ⟨y, hy⟩ := d.exists_right_line? hrun.mem.2 rfl
  exact ⟨x, y, hx, hy⟩

variable {d d₁ d₂ : Diff} {distance : Distance} {m : Metric} {t₁ t₂ : Setting} {r₁ r₂ : ℚ}

/-- A right line that the higher tolerance merges is merged by the lower one too, or stands in its
run below a line that only the lower one merges. -/
theorem merged_or_of_merge (hd₁ : d.merge distance t₁ = .ok d₁) (hd₂ : d.merge distance t₂ = .ok d₂)
    (h₁ : t₁.value? = some r₁) (h₂ : t₂.value? = some r₂) (h0 : 0 ≤ r₁) (h : r₁ ≤ r₂) (h1 : r₂ ≤ 1)
    {l r : Int} (hmem : .changed l r ∈ d₂.entries) :
    Merged d₁.entries r ∨
      ∃ r' < r, SameRun d.entries l r' ∧ Merged d₁.entries r' ∧ ¬ Merged d₂.entries r' := by
  obtain ⟨-, -, rfl⟩ := merge_eq_ok_iff.1 hd₁
  obtain ⟨-, -, rfl⟩ := merge_eq_ok_iff.1 hd₂
  exact merged_or_of_runsMerged (fun l r => nearLines_mono h₁ h₂ h0 h h1)
    (d.runsMerged_mergedBy _) d.pairwise_right? hmem

/-- By a tolerance of zero all lines of a run are near. -/
theorem nearLines_of_tolerance_zero (h₁ : t₁.value? = some 0) {l r : Int}
    (hrun : SameRun d.entries l r) : d.nearLines (.metric m) (thresholdOf t₁) l r = true := by
  obtain ⟨x, y, hx, hy⟩ := exists_line?_of_sameRun hrun
  rw [nearLines, hx, hy]
  exact m.near_of_tolerance_zero h₁ x y

/-- No tolerance merges more lines than zero. -/
theorem count_changed_le_of_tolerance_zero (hd₁ : d.merge (.metric m) t₁ = .ok d₁)
    (hd₂ : d.merge distance t₂ = .ok d₂) (h₁ : t₁.value? = some 0) :
    d₂.count .changed ≤ d₁.count .changed := by
  obtain ⟨-, -, rfl⟩ := merge_eq_ok_iff.1 hd₁
  obtain ⟨-, -, rfl⟩ := merge_eq_ok_iff.1 hd₂
  exact (d.runsMerged_mergedBy _).countP_changed_le_of_near
    fun l r => nearLines_of_tolerance_zero h₁

/-! ## Two tolerances -/

/-- **Merging with a lower tolerance.** A right line that the higher tolerance merges is merged by
the lower one too, or stands in its run below a line that only the lower one merges. The lower
tolerance merges fewer lines only where that happens, and never if it is zero. -/
theorem align_merge_lower (left right : Listing) (t₁ t₂ : Setting) (r₁ r₂ : ℚ)
    (h₁ : t₁.value? = some r₁) (h₂ : t₂.value? = some r₂) (h0 : 0 ≤ r₁) (h : r₁ ≤ r₂)
    (h1 : r₂ ≤ 1) :
    ∃ a d₁ d₂, align left right = .ok a ∧
      a.merge (.metric .levenshtein) t₁ = .ok d₁ ∧
      a.merge (.metric .levenshtein) t₂ = .ok d₂ ∧
      (∀ l r, .changed l r ∈ d₂.entries → Merged d₁.entries r ∨
        ∃ r' < r, SameRun a.entries l r' ∧ Merged d₁.entries r' ∧ ¬ Merged d₂.entries r') ∧
      (d₁.count .changed < d₂.count .changed → r₁ ≠ 0 ∧
        ∃ l r, .changed l r ∈ d₂.entries ∧ ¬ Merged d₁.entries r ∧
          ∃ r' < r, SameRun a.entries l r' ∧ Merged d₁.entries r' ∧ ¬ Merged d₂.entries r') := by
  obtain ⟨a, ha⟩ := exists_align left right
  have hok : ∀ t r, t.value? = some r → 0 ≤ r → r ≤ 1 →
      ∃ d, a.merge (.metric .levenshtein) t = .ok d := by
    intro t r hr h0 h1
    exact ⟨_, merge_eq_ok_iff.2 ⟨checkTolerance_eq_ok_iff.2 ⟨r, hr, h0, h1⟩, fun _ => rfl, rfl⟩⟩
  obtain ⟨d₁, hd₁⟩ := hok t₁ r₁ h₁ h0 (h.trans h1)
  obtain ⟨d₂, hd₂⟩ := hok t₂ r₂ h₂ (h0.trans h) h1
  have hfirst := fun l r => merged_or_of_merge (l := l) (r := r) hd₁ hd₂ h₁ h₂ h0 h h1
  refine ⟨a, d₁, d₂, ha, hd₁, hd₂, hfirst, ?_⟩
  intro hfewer
  constructor
  · rintro rfl
    exact absurd hfewer (Nat.not_lt.2 (count_changed_le_of_tolerance_zero hd₁ hd₂ h₁))
  · by_contra hnone
    have hmerged : ∀ r, Merged d₂.entries r → Merged d₁.entries r := by
      rintro r ⟨l, hmem⟩
      by_contra hlost
      exact hnone ⟨l, r, hmem, hlost, (hfirst l r hmem).resolve_left hlost⟩
    exact absurd hfewer (Nat.not_lt.2 (countP_changed_le_of_merged d₂.pairwise_right? hmerged))

/-- An alignment without kept lines. Each left line is a quarter away from one of the last two right
ones, and the second left line is half way to the first right one. -/
def blocking : Diff where
  left := .plain ["aaaa".toList, "bbbb".toList] (by decide)
  right := .plain ["bbcc".toList, "aaab".toList, "bbba".toList] (by decide)
  entries := [.removed 0, .removed 1, .added 0, .added 1, .added 2]
  left_rebuilt := by decide
  right_rebuilt := by decide

theorem align_blocking : align blocking.left blocking.right = .ok blocking :=
  ofEntries_eq_ok_iff.2 ⟨rfl, rfl, by decide +kernel⟩

/-- A lower tolerance that merges fewer lines: by one half the first right line uses up both left
lines, by three quarters it waits and the others are merged. -/
theorem align_merge_fewer :
    Setting.half.value? = some (1 / 2) ∧ Setting.threeQuarters.value? = some (3 / 4) ∧
    ∃ d₁ d₂, align blocking.left blocking.right = .ok blocking ∧
      blocking.merge (.metric .levenshtein) .half = .ok d₁ ∧
      blocking.merge (.metric .levenshtein) .threeQuarters = .ok d₂ ∧
      d₁.entries = [.removed 0, .changed 1 0, .added 1, .added 2] ∧
      d₂.entries = [.added 0, .changed 0 1, .changed 1 2] ∧
      d₁.count .changed < d₂.count .changed := by
  refine ⟨Setting.value?_half, Setting.value?_threeQuarters, _, _, align_blocking,
    merge_eq_ok_iff.2 ⟨checkTolerance_half, fun _ => rfl, rfl⟩,
    merge_eq_ok_iff.2 ⟨checkTolerance_threeQuarters, fun _ => rfl, rfl⟩,
    ?_, ?_, ?_⟩
  all_goals decide +kernel

/-- The second right line, which only three quarters merges, stands below the first one, which only
one half merges. -/
theorem align_merge_lower_blocking :
    Setting.half.value? = some (1 / 2) ∧ Setting.threeQuarters.value? = some (3 / 4) ∧
    ∃ d₁ d₂, blocking.merge (.metric .levenshtein) .half = .ok d₁ ∧
      blocking.merge (.metric .levenshtein) .threeQuarters = .ok d₂ ∧
      .changed 0 1 ∈ d₂.entries ∧ ¬ Merged d₁.entries 1 ∧
      ∃ r' < 1, SameRun blocking.entries 0 r' ∧ Merged d₁.entries r' ∧ ¬ Merged d₂.entries r' := by
  obtain ⟨a, d₁, d₂, ha, hd₁, hd₂, hfirst, -⟩ :=
    align_merge_lower blocking.left blocking.right .half .threeQuarters (1 / 2) (3 / 4)
      Setting.value?_half Setting.value?_threeQuarters (by norm_num) (by norm_num) (by norm_num)
  obtain rfl : blocking = a := Except.ok.inj (align_blocking.symm.trans ha)
  have hmem : .changed 0 1 ∈ d₂.entries := by
    obtain ⟨-, -, rfl⟩ := merge_eq_ok_iff.1 hd₂
    decide +kernel
  have hlost : ¬ Merged d₁.entries 1 := by
    obtain ⟨-, -, rfl⟩ := merge_eq_ok_iff.1 hd₁
    rw [← mem_mergedLines]
    decide +kernel
  exact ⟨Setting.value?_half, Setting.value?_threeQuarters, d₁, d₂, hd₁, hd₂, hmem, hlost,
    (hfirst 0 1 hmem).resolve_left hlost⟩

end Diff

end Collate
