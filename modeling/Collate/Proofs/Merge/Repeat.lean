import Collate.Proofs.Alignment.Gaps
import Collate.Proofs.Merge.Preservation
import Collate.Proofs.Similarity.Threshold

/-!
# Merging again

A second pass over a merged diff takes its runs as it finds them. Each entry that the first pass has
merged divides a run, and what is left over on both sides of it may come to stand next to lines of
another run: additions that were left over at the end of a run stand in front of the removals of the
next one. So a second pass can find near lines that the first one never compared.

* A pass changes nothing exactly if no two lines of one run are near (`mergedBy_eq_iff`), and
  otherwise it merges something (`count_changed_lt_mergedBy`). Repeated often enough merging comes
  to an end (`exists_mergeTimes`).
* In a diff in canonical order every gap is one run. There a second pass finds nothing, not even
  with a greater tolerance (`merge_merge_of_canonical`).
-/

namespace Collate

open Collate.Merge

namespace Merge

/-! ## Near lines of a run -/

/-- A run does not begin before an entry that is no removal. -/
theorem SameRun.of_cons {e : Entry} {es : List Entry} {l r : Int} (he : e.tag ≠ .removed)
    (h : SameRun (e :: es) l r) : SameRun es l r := by
  obtain ⟨before, ls, rs, after, hes, hl, hr⟩ := h
  cases before with
  | nil =>
    cases ls with
    | nil => cases hl
    | cons l' ls =>
      cases hes
      exact absurd rfl he
  | cons b before =>
    cases hes
    exact ⟨before, ls, rs, after, rfl, hl, hr⟩

/-- Additions at the front are taken, whatever follows them. -/
theorem mem_takeAdded_append {rs : List Int} {r : Int} (hr : r ∈ rs) (es : List Entry) :
    r ∈ (takeAdded (addedLines rs ++ es)).1 := by
  induction rs with
  | nil => cases hr
  | cons r' rs ih =>
    rw [addedLines_cons, List.cons_append, takeAdded]
    rcases List.mem_cons.1 hr with rfl | hr
    · exact List.mem_cons_self
    · exact List.mem_cons_of_mem _ (ih hr)

/-- Lines of one run are lines of the run in front, or of a run behind it. -/
theorem SameRun.of_run {ls rs : List Int} {es : List Entry} {l r : Int}
    (hadded : ¬ StartsWith .added es) (hremoved : rs = [] → ¬ StartsWith .removed es)
    (h : SameRun (removedLines ls ++ addedLines rs ++ es) l r) :
    (l ∈ ls ∧ r ∈ rs) ∨ SameRun es l r := by
  rw [List.append_assoc] at h
  induction ls with
  | nil =>
    refine .inr ?_
    clear hremoved
    induction rs with
    | nil => exact h
    | cons r' rs ih => exact ih (h.of_cons Tag.noConfusion)
  | cons l' ls ih =>
    obtain ⟨before, ls', rs', after, hes, hl, hr⟩ := h
    cases before with
    | cons b before =>
      -- the two lines stand behind the first removal
      obtain ⟨-, hrest⟩ := List.cons_eq_cons.1 hes
      rcases ih ⟨before, ls', rs', after, hrest, hl, hr⟩ with ⟨hl, hr⟩ | hrun
      · exact .inl ⟨List.mem_cons_of_mem _ hl, hr⟩
      · exact .inr hrun
    | nil =>
      -- the two lines stand in the run that begins with the first removal, which is this one
      cases ls' with
      | nil => cases hl
      | cons l'' ls' =>
        simp only [removedLines_cons, List.nil_append, List.cons_append, List.append_assoc,
          List.cons.injEq, Entry.removed.injEq] at hes
        obtain ⟨rfl, hrest⟩ := hes
        have hfront : ¬ StartsWith .removed (addedLines rs ++ es) := by
          cases rs with
          | nil => exact hremoved rfl
          | cons r' rs => exact nofun
        have hfront' : ¬ StartsWith .removed (addedLines rs' ++ after) := by
          cases rs' with
          | nil => cases hr
          | cons r' rs' => exact nofun
        have htake := congrArg takeRemoved hrest
        rw [takeRemoved_append ls hfront, takeRemoved_append ls' hfront'] at htake
        obtain ⟨rfl, hadditions⟩ := Prod.mk.inj htake
        have hmem := mem_takeAdded_append hr after
        rw [← hadditions, takeAdded_append rs hadded] at hmem
        exact .inl ⟨hl, hmem⟩

/-- Near lines of a run leave a changed entry, if not of themselves. -/
theorem exists_changed_mem_pairRun {near : Int → Int → Bool} {ls rs : List Int} (ws : List Int)
    {l r : Int} (hl : l ∈ ls) (hr : r ∈ rs) (hnear : near l r = true) :
    ∃ l' r', .changed l' r' ∈ pairRun near ls ws rs := by
  fun_induction pairRun near ls ws rs with
  | case1 ls ws => cases hr
  | case2 ls ws r' rs skipped l' rest h ih =>
    exact ⟨l', r', List.mem_append_right _ List.mem_cons_self⟩
  | case3 ls ws r' rs h ih =>
    rcases List.mem_cons.1 hr with rfl | hr
    · exact absurd (findSplit?_eq_none_iff.1 h l hl) (by simp [hnear])
    · exact ih hl hr

/-- Where two lines of one run are near merging adds a changed entry. -/
theorem RunsMerged.countP_changed_lt {near : Int → Int → Bool} {es fs : List Entry}
    (h : RunsMerged near es fs) {l r : Int} (hrun : SameRun es l r) (hnear : near l r = true) :
    es.countP (·.tag = .changed) < fs.countP (·.tag = .changed) := by
  induction h with
  | nil => cases hrun.mem.1
  | @keep e es fs he _ ih =>
    rw [List.countP_cons, List.countP_cons]
    exact Nat.add_lt_add_right (ih (hrun.of_cons he)) _
  | @run ls rs es fs hls hadded hremoved hrest ih =>
    rw [countP_changed_run, List.countP_append]
    rcases hrun.of_run hadded hremoved with ⟨hl, hr⟩ | hrun
    · obtain ⟨l', r', hmem⟩ := exists_changed_mem_pairRun [] hl hr hnear
      have hpos : 0 < (pairRun near ls [] rs).countP (·.tag = .changed) :=
        List.countP_pos_iff.2 ⟨_, hmem, rfl⟩
      have hle := hrest.countP_changed_le
      omega
    · have hlt := ih hrun
      omega

end Merge

namespace Diff

variable {d d' : Diff} {near : Int → Int → Bool} {distance : Distance} {t t₁ t₂ : Setting}

/-! ## A second pass -/

/-- Where two lines of one run are near merging adds a changed entry. -/
theorem count_changed_lt_mergedBy {l r : Int} (hrun : SameRun d.entries l r)
    (hnear : near l r = true) : d.count .changed < (d.mergedBy near).count .changed :=
  (d.runsMerged_mergedBy near).countP_changed_lt hrun hnear

/-- Merging changes nothing exactly where the lines of each run are far apart. -/
theorem mergedBy_eq_iff :
    d.mergedBy near = d ↔ ∀ l r, SameRun d.entries l r → near l r = false := by
  refine ⟨?_, mergedBy_of_far⟩
  intro h l r hrun
  rw [← Bool.not_eq_true]
  intro hnear
  have hlt := count_changed_lt_mergedBy hrun hnear
  rw [h] at hlt
  exact Nat.lt_irrefl _ hlt

/-- A distance that is no number calls no lines near. -/
theorem nearLines_of_not_comparable (hdistance : distance.isComparable = false)
    (threshold : Number.Binary64) (l r : Int) : d.nearLines distance threshold l r = false := by
  unfold nearLines
  split
  · cases distance with
    | metric m | measure f => cases hdistance
    | constant value =>
      rw [Distance.isComparable, Option.isSome_eq_false_iff, Option.isNone_iff_eq_none] at hdistance
      rw [Distance.near, hdistance]
      rfl
    | absent => rfl
  · rfl

/-- Lines that are near by a tolerance are near by a lower one. -/
theorem nearLines_mono {r₁ r₂ : ℚ} (h₁ : t₁.value? = some r₁) (h₂ : t₂.value? = some r₂)
    (h0 : 0 ≤ r₁) (h : r₁ ≤ r₂) (h1 : r₂ ≤ 1) {l r : Int}
    (hnear : d.nearLines distance (thresholdOf t₂) l r = true) :
    d.nearLines distance (thresholdOf t₁) l r = true := by
  unfold nearLines at hnear ⊢
  split at hnear
  · exact Distance.near_thresholdOf_mono h₁ h₂ h0 h h1 hnear
  · cases hnear

/-- What has been merged can be merged again. -/
theorem merge_eq_of_merge (h : d.merge distance t₁ = .ok d') (h₂ : checkTolerance t₂ = .ok ()) :
    d'.merge distance t₂ = .ok (d'.mergedBy (d'.nearLines distance (thresholdOf t₂))) := by
  obtain ⟨-, hcomparable, rfl⟩ := merge_eq_ok_iff.1 h
  refine merge_eq_ok_iff.2 ⟨h₂, ?_, rfl⟩
  intro hrun
  by_contra hdistance
  -- a distance that is no number has merged nothing, so the run was there before
  rw [mergedBy_of_never d (nearLines_of_not_comparable (Bool.eq_false_iff.2 hdistance) _)] at hrun
  exact hdistance (hcomparable hrun)

/-- A pass that changes a diff leaves fewer removals. -/
theorem count_removed_lt_of_ne (h : d.mergedBy near ≠ d) :
    (d.mergedBy near).count .removed < d.count .removed := by
  have hnear : ∃ l r, SameRun d.entries l r ∧ near l r = true := by
    by_contra hfar
    exact h (mergedBy_of_far fun l r hrun =>
      Bool.eq_false_iff.2 fun hnear => hfar ⟨l, r, hrun, hnear⟩)
  obtain ⟨l, r, hrun, hnear⟩ := hnear
  have hlt := count_changed_lt_mergedBy hrun hnear
  obtain ⟨k, hchanged, hremoved, -⟩ := d.exists_count_mergedBy near
  omega

/-! ## Pass after pass -/

/-- Merges a number of times. -/
def mergeTimes (distance : Distance) (t : Setting) : Nat → Diff → Except Failure Diff
  | 0, d => .ok d
  | n + 1, d => d.merge distance t >>= mergeTimes distance t n

/-- Where a pass changes nothing, no number of passes does. -/
theorem mergeTimes_of_merge_eq (h : d.merge distance t = .ok d) (n : Nat) :
    mergeTimes distance t n d = .ok d := by
  induction n with
  | zero => rfl
  | succ n ih =>
    rw [mergeTimes, h]
    exact ih

/-- After as many passes as there are removals nothing is left to merge: each pass but the last
takes away a removal. -/
theorem exists_mergeTimes (h : d.merge distance t = .ok d') {n : Nat}
    (hn : d.count .removed ≤ n) :
    ∃ e, mergeTimes distance t n d = .ok e ∧ e.merge distance t = .ok e := by
  obtain ⟨htolerance, -, hd'⟩ := merge_eq_ok_iff.1 h
  induction n generalizing d d' with
  | zero =>
    refine ⟨d, rfl, ?_⟩
    by_cases hfixed : d' = d
    · rwa [hfixed] at h
    · have hlt := count_removed_lt_of_ne (hd' ▸ hfixed)
      omega
  | succ n ih =>
    by_cases hfixed : d' = d
    · rw [hfixed] at h
      exact ⟨d, mergeTimes_of_merge_eq h _, h⟩
    · have hlt := count_removed_lt_of_ne (hd' ▸ hfixed)
      rw [← hd'] at hlt
      obtain ⟨e, htimes, he⟩ := ih (merge_eq_of_merge h htolerance) (by omega) rfl
      refine ⟨e, ?_, he⟩
      rw [mergeTimes, h]
      exact htimes

/-! ## Canonical order -/

/-- A canonical diff that has been merged is settled. -/
theorem settled_mergedBy (h : d.IsCanonical) (near : Int → Int → Bool) :
    Settled near (d.mergedBy near).entries :=
  (canonical_iff_settled.1 h).mergeRuns

/-- A second pass over a canonical diff finds nothing, also where fewer lines are near. -/
theorem mergedBy_mergedBy (h : d.IsCanonical) {near' : Int → Int → Bool}
    (hnear : ∀ l r, near' l r = true → near l r = true) :
    (d.mergedBy near).mergedBy near' = d.mergedBy near :=
  mergedBy_of_far fun _ _ hrun => ((settled_mergedBy h near).mono hnear).far_of_sameRun hrun

/-! ## Main results -/

/-- **A second pass and the passes after it.** A second pass always succeeds. It gives the same diff
exactly if no two lines of one run that the first pass has left are near, and otherwise one with
more changed entries. For a diff in canonical order it gives the same diff. From any diff as many
passes as there are removals lead to one that a further pass leaves as it is. -/
theorem merge_merge_eq_iff (d : Diff) (distance : Distance) (t : Setting) (d' : Diff)
    (h : d.merge distance t = .ok d') :
    (∃ d'', d'.merge distance t = .ok d'' ∧
      (d'' = d' ↔ ∀ l r, SameRun d'.entries l r →
        d'.nearLines distance (thresholdOf t) l r = false) ∧
      (d'' ≠ d' → d'.count .changed < d''.count .changed) ∧
      (d.IsCanonical → d'' = d')) ∧
    ∀ n, d.count .removed ≤ n →
      ∃ e, mergeTimes distance t n d = .ok e ∧ e.merge distance t = .ok e := by
  refine ⟨?_, fun n => exists_mergeTimes h⟩
  obtain ⟨htolerance, -, hd'⟩ := merge_eq_ok_iff.1 h
  refine ⟨_, merge_eq_of_merge h htolerance, mergedBy_eq_iff, ?_, ?_⟩
  · intro hne
    obtain ⟨k, hchanged, hremoved, -⟩ :=
      d'.exists_count_mergedBy (d'.nearLines distance (thresholdOf t))
    have hlt := count_removed_lt_of_ne hne
    omega
  · intro hd
    subst hd'
    exact mergedBy_mergedBy hd fun l r hnear => hnear

/-- Two runs. The first addition of the second run is near to no removal of its own run, but to the
one of the first run. -/
def twoRuns : Diff where
  left := .plain ["x = 1".toList, "y = 1".toList] (by decide)
  right := .plain ["call f".toList, "x = 2".toList, "y = 2".toList] (by decide)
  entries := [.removed 0, .added 0, .removed 1, .added 1, .added 2]
  left_rebuilt := by decide
  right_rebuilt := by decide

/-- Two passes that both merge something: the first pass pairs the last lines, and only then does
the first removal stand in one run with the addition that it is near to. -/
theorem merge_merge_ne_twoRuns :
    ∃ d' d'', twoRuns.merge (.metric .levenshtein) defaultTolerance = .ok d' ∧
      d'.merge (.metric .levenshtein) defaultTolerance = .ok d'' ∧ d'' ≠ d' ∧
      d'.entries = [.removed 0, .added 0, .added 1, .changed 1 2] ∧
      d''.entries = [.added 0, .changed 0 1, .changed 1 2] := by
  obtain ⟨d', hd'⟩ : ∃ d', twoRuns.merge (.metric .levenshtein) defaultTolerance = .ok d' :=
    ⟨_, merge_eq_ok_iff.2 ⟨checkTolerance_sevenTenths, fun _ => rfl, rfl⟩⟩
  have hd'' := merge_eq_of_merge hd' checkTolerance_sevenTenths
  obtain ⟨-, -, rfl⟩ := merge_eq_ok_iff.1 hd'
  refine ⟨_, _, hd', hd'', ?_, by decide +kernel, by decide +kernel⟩
  intro heq
  have hentries := congrArg entries heq
  revert hentries
  decide +kernel

/-- The two runs take two passes: the second one merges more, and a third one nothing. -/
theorem merge_merge_eq_iff_twoRuns :
    ∃ d' d'', twoRuns.merge (.metric .levenshtein) defaultTolerance = .ok d' ∧
      d'.merge (.metric .levenshtein) defaultTolerance = .ok d'' ∧
      d'.count .changed < d''.count .changed ∧
      ∃ e, mergeTimes (.metric .levenshtein) defaultTolerance 2 twoRuns = .ok e ∧
        e.merge (.metric .levenshtein) defaultTolerance = .ok e := by
  obtain ⟨d', hd'⟩ : ∃ d', twoRuns.merge (.metric .levenshtein) defaultTolerance = .ok d' :=
    ⟨_, merge_eq_ok_iff.2 ⟨checkTolerance_sevenTenths, fun _ => rfl, rfl⟩⟩
  obtain ⟨⟨d'', hd'', hiff, hmore, -⟩, hpasses⟩ :=
    merge_merge_eq_iff twoRuns (.metric .levenshtein) defaultTolerance d' hd'
  refine ⟨d', d'', hd', hd'', hmore fun heq => ?_, hpasses 2 (by decide)⟩
  obtain ⟨-, -, rfl⟩ := merge_eq_ok_iff.1 hd'
  have hfar := hiff.1 heq 0 1 ⟨[], [0], [0, 1], [.changed 1 2], by decide +kernel, by decide,
    by decide⟩
  revert hfar
  decide +kernel

/-- **A stricter pass after a looser one finds nothing.** Alignments are in canonical order. Merging
a diff in canonical order gives one, and merging that with the same or a greater tolerance leaves it
as it is. -/
theorem merge_merge_of_canonical :
    (∀ left right : Listing, ∃ a, align left right = .ok a ∧ a.IsCanonical) ∧
    ∀ d : Diff, d.IsCanonical → ∀ (distance : Distance) (t₁ t₂ : Setting) (r₁ r₂ : ℚ),
      t₁.value? = some r₁ → t₂.value? = some r₂ → 0 ≤ r₁ → r₁ ≤ r₂ → r₂ ≤ 1 →
      (distance.isComparable = true → ∃ d', d.merge distance t₁ = .ok d') ∧
      ∀ d', d.merge distance t₁ = .ok d' →
        d'.IsCanonical ∧ d'.merge distance t₂ = .ok d' := by
  refine ⟨?_, ?_⟩
  · intro left right
    obtain ⟨a, ha⟩ := exists_align left right
    exact ⟨a, ha, isCanonical_align ha⟩
  · intro d hd distance t₁ t₂ r₁ r₂ h₁ h₂ h0 h h1
    have htolerance₁ := checkTolerance_eq_ok_iff.2 ⟨r₁, h₁, h0, h.trans h1⟩
    have htolerance₂ := checkTolerance_eq_ok_iff.2 ⟨r₂, h₂, h0.trans h, h1⟩
    refine ⟨fun hcomparable => ⟨_, merge_eq_ok_iff.2 ⟨htolerance₁, fun _ => hcomparable, rfl⟩⟩, ?_⟩
    intro d' hd'
    have hagain := merge_eq_of_merge hd' htolerance₂
    obtain ⟨-, -, rfl⟩ := merge_eq_ok_iff.1 hd'
    refine ⟨(settled_mergedBy hd _).canonical, hagain.trans (congrArg _ ?_)⟩
    exact mergedBy_mergedBy hd fun l r => nearLines_mono h₁ h₂ h0 h h1

/-- A pass with a tolerance of one half and one with a tolerance of one. -/
theorem merge_merge_of_canonical_half_one :
    let d : Diff := ⟨.plain [['a', 'b'], ['x', 'y', 'z']] (by decide),
      .plain [['q'], ['a', 'c']] (by decide),
      [.removed 0, .removed 1, .added 0, .added 1], by decide, by decide⟩
    d.IsCanonical ∧ Setting.half.value? = some (1 / 2) ∧ (Setting.int 1).value? = some 1 ∧
    ∃ d', d.merge (.metric .levenshtein) .half = .ok d' ∧
      d'.entries = [.added 0, .changed 0 1, .removed 1] ∧ d'.IsCanonical ∧
      d'.merge (.metric .levenshtein) (.int 1) = .ok d' := by
  intro d
  obtain ⟨-, hmerge⟩ := merge_merge_of_canonical
  have hd : d.IsCanonical := by
    unfold IsCanonical Canonical
    decide
  obtain ⟨hok, hagain⟩ := hmerge d hd (.metric .levenshtein) .half (.int 1) (1 / 2) 1
    Setting.value?_half rfl (by norm_num) (by norm_num) (le_refl 1)
  obtain ⟨d', hd'⟩ := hok rfl
  obtain ⟨hcanonical, hsame⟩ := hagain d' hd'
  refine ⟨hd, Setting.value?_half, rfl, d', hd', ?_, hcanonical, hsame⟩
  obtain ⟨-, -, rfl⟩ := merge_eq_ok_iff.1 hd'
  decide +kernel

end Diff

end Collate
