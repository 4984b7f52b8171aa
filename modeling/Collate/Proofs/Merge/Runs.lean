import Collate.Diff.Merge

/-!
# What merging does to runs

Merging takes the entries of a diff apart into runs, a stretch of removals with the additions right
after it, and pairs the lines of each run by itself. This module says so once
(`runsMerged_mergeRuns`), as a relation with a case for each thing that merging can do:

* an entry that is no removal stays as it is;
* a whole run, up to the first entry that does not belong to it, becomes what `pairRun` makes of its
  lines.

Every fact about merging is then a fact about `pairRun`, by the cases of its walk along the added
lines, carried over the relation by induction. What is shown here holds for any way of telling near
lines apart, since it only concerns where lines go: merging gives each side the same references in
the same order (`RunsMerged.filterMap_left?`, `RunsMerged.filterMap_right?`), keeps the entries with
two lines (`RunsMerged.sublist`), and makes a changed entry only of near lines of one run
(`RunsMerged.of_changed_mem`).
-/

namespace Collate

/-- Whether an entry has a line on both sides. -/
def Entry.isPaired (e : Entry) : Bool := e.left?.isSome && e.right?.isSome

namespace Merge

/-! ## The first near line -/

/-- The first item that satisfies a condition divides the list. -/
theorem findSplit?_eq_some {α : Type} {p : α → Bool} {as before after : List α} {a : α}
    (h : findSplit? p as = some (before, a, after)) :
    as = before ++ a :: after ∧ p a = true ∧ ∀ x ∈ before, p x = false := by
  induction as generalizing before with
  | nil => cases h
  | cons x as ih =>
    rw [findSplit?] at h
    split at h
    · rename_i hx
      cases h
      exact ⟨rfl, hx, fun y hy => absurd hy List.not_mem_nil⟩
    · rename_i hx
      obtain ⟨⟨before', a', after'⟩, hrest, heq⟩ := Option.map_eq_some_iff.1 h
      cases heq
      obtain ⟨rfl, ha, hbefore⟩ := ih hrest
      refine ⟨rfl, ha, ?_⟩
      intro y hy
      rcases List.mem_cons.1 hy with rfl | hy
      · exact Bool.eq_false_iff.2 hx
      · exact hbefore y hy

/-- No item is found exactly where none satisfies the condition. -/
theorem findSplit?_eq_none_iff {α : Type} {p : α → Bool} {as : List α} :
    findSplit? p as = none ↔ ∀ x ∈ as, p x = false := by
  induction as with
  | nil => simp [findSplit?]
  | cons a as ih =>
    rw [findSplit?]
    cases ha : p a with
    | true => simp [ha]
    | false => simpa [ha] using ih

/-! ## Stretches of removals and additions -/

section stretches

variable (ls rs : List Int)

@[simp] theorem removedLines_cons (l : Int) :
    removedLines (l :: ls) = .removed l :: removedLines ls := rfl

@[simp] theorem addedLines_cons (r : Int) :
    addedLines (r :: rs) = .added r :: addedLines rs := rfl

@[simp] theorem mem_removedLines {e : Entry} : e ∈ removedLines ls ↔ ∃ l ∈ ls, .removed l = e :=
  List.mem_map

@[simp] theorem mem_addedLines {e : Entry} : e ∈ addedLines rs ↔ ∃ r ∈ rs, .added r = e :=
  List.mem_map

@[simp] theorem filterMap_left?_removedLines : (removedLines ls).filterMap Entry.left? = ls := by
  rw [removedLines, List.filterMap_map]
  exact List.filterMap_some

@[simp] theorem filterMap_right?_removedLines : (removedLines ls).filterMap Entry.right? = [] := by
  simp [List.filterMap_eq_nil_iff, Entry.right?]

@[simp] theorem filterMap_left?_addedLines : (addedLines rs).filterMap Entry.left? = [] := by
  simp [List.filterMap_eq_nil_iff, Entry.left?]

@[simp] theorem filterMap_right?_addedLines : (addedLines rs).filterMap Entry.right? = rs := by
  rw [addedLines, List.filterMap_map]
  exact List.filterMap_some

/-- No removal passes a test that removals fail. -/
theorem filter_removedLines {p : Entry → Bool} (hp : ∀ l, p (.removed l) = false) :
    (removedLines ls).filter p = [] := by
  rw [List.filter_eq_nil_iff]
  simp [hp]

/-- No addition passes a test that additions fail. -/
theorem filter_addedLines {p : Entry → Bool} (hp : ∀ r, p (.added r) = false) :
    (addedLines rs).filter p = [] := by
  rw [List.filter_eq_nil_iff]
  simp [hp]

/-- A run holds no changed entry. -/
theorem countP_changed_run (es : List Entry) :
    (removedLines ls ++ addedLines rs ++ es).countP (·.tag = .changed) =
      es.countP (·.tag = .changed) := by
  simp only [List.countP_eq_length_filter, List.filter_append]
  rw [filter_removedLines ls fun _ => rfl, filter_addedLines rs fun _ => rfl, List.nil_append,
    List.nil_append]

end stretches

/-- Whether the first of some entries has a tag. -/
def StartsWith (t : Tag) (es : List Entry) : Prop := es.head?.map Entry.tag = some t

@[simp] theorem not_startsWith_nil (t : Tag) : ¬ StartsWith t [] := nofun

@[simp] theorem startsWith_cons {t : Tag} {e : Entry} {es : List Entry} :
    StartsWith t (e :: es) ↔ e.tag = t := Option.some_inj

/-- Whether the last of some entries has a tag. -/
def EndsWith (t : Tag) (es : List Entry) : Prop := es.getLast?.map Entry.tag = some t

/-- What entries end with is what the last part of them ends with. -/
theorem endsWith_append {t : Tag} {es : List Entry} (hes : es ≠ []) (before : List Entry) :
    EndsWith t (before ++ es) ↔ EndsWith t es := by
  rw [EndsWith, EndsWith, List.getLast?_append, List.getLast?_eq_some_getLast hes, Option.some_or]

/-- Removals end with a removal. -/
theorem endsWith_removedLines {ls : List Int} (hls : ls ≠ []) :
    EndsWith .removed (removedLines ls) := by
  rw [EndsWith, removedLines, List.getLast?_map, List.getLast?_eq_some_getLast hls]
  rfl

/-- The removals taken from the front and the rest make up the entries, and no removal is left
behind. -/
theorem takeRemoved_spec (es : List Entry) :
    es = removedLines (takeRemoved es).1 ++ (takeRemoved es).2 ∧
      ¬ StartsWith .removed (takeRemoved es).2 := by
  fun_induction takeRemoved es with
  | case1 l rest ls rest' h ih =>
    rw [h] at ih
    exact ⟨congrArg _ ih.1, ih.2⟩
  | case2 rest h =>
    refine ⟨rfl, ?_⟩
    intro hs
    rcases rest with _ | ⟨e, es⟩
    · cases hs
    · cases e with
      | removed l => exact h l es rfl
      | unchanged l r | changed l r | added r => cases hs

/-- The additions taken from the front and the rest make up the entries, and no addition is left
behind. -/
theorem takeAdded_spec (es : List Entry) :
    es = addedLines (takeAdded es).1 ++ (takeAdded es).2 ∧
      ¬ StartsWith .added (takeAdded es).2 := by
  fun_induction takeAdded es with
  | case1 r rest rs rest' h ih =>
    rw [h] at ih
    exact ⟨congrArg _ ih.1, ih.2⟩
  | case2 rest h =>
    refine ⟨rfl, ?_⟩
    intro hs
    rcases rest with _ | ⟨e, es⟩
    · cases hs
    · cases e with
      | added r => exact h r es rfl
      | unchanged l r | changed l r | removed l => cases hs

/-- All removals are taken up to an entry that is none. -/
theorem takeRemoved_append (ls : List Int) {es : List Entry} (h : ¬ StartsWith .removed es) :
    takeRemoved (removedLines ls ++ es) = (ls, es) := by
  induction ls with
  | nil =>
    rcases es with _ | ⟨e, es⟩
    · rfl
    · cases e with
      | removed l => exact absurd rfl h
      | unchanged l r | changed l r | added r => rfl
  | cons l ls ih => rw [removedLines_cons, List.cons_append, takeRemoved, ih]

/-- All additions are taken up to an entry that is none. -/
theorem takeAdded_append (rs : List Int) {es : List Entry} (h : ¬ StartsWith .added es) :
    takeAdded (addedLines rs ++ es) = (rs, es) := by
  induction rs with
  | nil =>
    rcases es with _ | ⟨e, es⟩
    · rfl
    · cases e with
      | added r => exact absurd rfl h
      | unchanged l r | changed l r | removed l => rfl
  | cons r rs ih => rw [addedLines_cons, List.cons_append, takeAdded, ih]

/-! ## Runs -/

/-- What merging makes of entries: the case `run` is a whole run with what `pairRun` makes of it. -/
inductive RunsMerged (near : Int → Int → Bool) : List Entry → List Entry → Prop
  /-- Nothing becomes nothing. -/
  | nil : RunsMerged near [] []
  /-- An entry that is no removal stays. -/
  | keep {e : Entry} {es fs : List Entry} (he : e.tag ≠ .removed) (h : RunsMerged near es fs) :
    RunsMerged near (e :: es) (e :: fs)
  /-- A run ends where no addition follows, and without additions where no removal follows. -/
  | run {ls rs : List Int} {es fs : List Entry} (hls : ls ≠ []) (hadded : ¬ StartsWith .added es)
    (hremoved : rs = [] → ¬ StartsWith .removed es) (h : RunsMerged near es fs) :
    RunsMerged near (removedLines ls ++ addedLines rs ++ es) (pairRun near ls [] rs ++ fs)

/-- Merging does what the relation says. -/
theorem runsMerged_mergeRuns (near : Int → Int → Bool) (es : List Entry) :
    RunsMerged near es (mergeRuns near es) := by
  fun_induction mergeRuns near es with
  | case1 => exact .nil
  | case2 l rest _ ih =>
    obtain ⟨hrest, hremoved⟩ := takeRemoved_spec rest
    obtain ⟨hrest', hadded⟩ := takeAdded_spec (takeRemoved rest).2
    have hsplit : .removed l :: rest = removedLines (l :: (takeRemoved rest).1) ++
        addedLines (takeAdded (takeRemoved rest).2).1 ++ (takeAdded (takeRemoved rest).2).2 := by
      rw [List.append_assoc, ← hrest', removedLines_cons, List.cons_append, ← hrest]
    rw [hsplit]
    refine .run (List.cons_ne_nil _ _) hadded ?_ ih
    intro hnone
    rw [hnone] at hrest'
    rwa [hrest'] at hremoved
  | case3 e rest he ih =>
    refine .keep ?_ ih
    intro htag
    cases e with
    | removed l => exact he l rfl
    | unchanged l r | changed l r | added r => cases htag

@[simp] theorem mergeRuns_nil (near : Int → Int → Bool) : mergeRuns near [] = [] := by
  rw [mergeRuns]

/-- Merging leaves an entry that is no removal. -/
theorem mergeRuns_cons (near : Int → Int → Bool) {e : Entry} (he : e.tag ≠ .removed)
    (es : List Entry) : mergeRuns near (e :: es) = e :: mergeRuns near es := by
  cases e with
  | removed l => exact absurd rfl he
  | unchanged l r | changed l r | added r =>
    rw [mergeRuns]
    rintro l ⟨⟩

/-- Merging pairs the lines of a whole run. -/
theorem mergeRuns_run (near : Int → Int → Bool) {ls rs : List Int} {es : List Entry}
    (hls : ls ≠ []) (hadded : ¬ StartsWith .added es)
    (hremoved : rs = [] → ¬ StartsWith .removed es) :
    mergeRuns near (removedLines ls ++ addedLines rs ++ es) =
      pairRun near ls [] rs ++ mergeRuns near es := by
  obtain ⟨l, ls, rfl⟩ := List.exists_cons_of_ne_nil hls
  have hrest : ¬ StartsWith .removed (addedLines rs ++ es) := by
    cases rs with
    | nil => exact hremoved rfl
    | cons r rs => exact nofun
  have hls := takeRemoved_append ls hrest
  have hrs := takeAdded_append rs hadded
  rw [removedLines_cons, List.append_assoc, List.cons_append, mergeRuns, hls, hrs]

/-- Where no run goes on, what stands before and what stands behind are merged by themselves. -/
theorem mergeRuns_append (near : Int → Int → Bool) {before es : List Entry}
    (hbefore : ¬ EndsWith .removed before) (hes : ¬ StartsWith .added es) :
    mergeRuns near (before ++ es) = mergeRuns near before ++ mergeRuns near es := by
  have h := runsMerged_mergeRuns near before
  generalize mergeRuns near before = fs at h ⊢
  induction h with
  | nil => rfl
  | @keep e before fs he _ ih =>
    have hrest : ¬ EndsWith .removed before := by
      rcases before with _ | ⟨e', before⟩
      · exact nofun
      · rwa [← endsWith_append (List.cons_ne_nil e' before) [e]]
    rw [List.cons_append, mergeRuns_cons near he, ih hrest, List.cons_append]
  | @run ls rs before fs hls hadded hremoved _ ih =>
    rcases before with _ | ⟨e, before⟩
    · -- the run is the last thing before the cut, so it ends with an addition
      have hrs : rs ≠ [] := by
        rintro rfl
        rw [List.append_nil, addedLines, List.map_nil, List.append_nil] at hbefore
        exact hbefore (endsWith_removedLines hls)
      rw [List.append_nil, mergeRuns_run near hls hes fun h => absurd h hrs, List.append_assoc,
        ← ih nofun, List.nil_append]
    · rw [endsWith_append (List.cons_ne_nil e before)] at hbefore
      have hrun : mergeRuns near (removedLines ls ++ addedLines rs ++ (e :: before ++ es)) =
          pairRun near ls [] rs ++ mergeRuns near (e :: before ++ es) :=
        mergeRuns_run near hls hadded hremoved
      rw [List.append_assoc, hrun, ih hbefore, List.append_assoc]

/-! ## The lines of a run

`pairRun` walks along the added lines: each is paired with the first near line among the removed
ones that are left, or waits. The three cases of every proof are the end of the walk, a pair, and a
line that waits. -/

section pairRun

variable (near : Int → Int → Bool) (ls ws rs : List Int)

/-- Pairing leaves the removed lines in their order. -/
theorem filterMap_left?_pairRun : (pairRun near ls ws rs).filterMap Entry.left? = ls := by
  fun_induction pairRun near ls ws rs with
  | case1 ls ws => simp
  | case2 ls ws r rs skipped l rest h ih =>
    obtain ⟨rfl, -, -⟩ := findSplit?_eq_some h
    simp [Entry.left?, ih]
  | case3 ls ws r rs h ih => exact ih

/-- Pairing leaves the added lines in their order, those that wait first. -/
theorem filterMap_right?_pairRun : (pairRun near ls ws rs).filterMap Entry.right? = ws ++ rs := by
  fun_induction pairRun near ls ws rs with
  | case1 ls ws => simp
  | case2 ls ws r rs skipped l rest h ih => simp [Entry.right?, ih]
  | case3 ls ws r rs h ih => rw [ih, List.append_assoc, List.singleton_append]

/-- A run holds no kept line. -/
theorem tag_ne_unchanged_of_mem_pairRun {e : Entry} (he : e ∈ pairRun near ls ws rs) :
    e.tag ≠ .unchanged := by
  fun_induction pairRun near ls ws rs with
  | case1 ls ws =>
    simp only [List.mem_append, mem_removedLines, mem_addedLines] at he
    rcases he with ⟨l, -, rfl⟩ | ⟨r, -, rfl⟩ <;> exact Tag.noConfusion
  | case2 ls ws r rs skipped l rest h ih =>
    simp only [List.mem_append, mem_removedLines, mem_addedLines, List.mem_cons] at he
    rcases he with (⟨l, -, rfl⟩ | ⟨r, -, rfl⟩) | rfl | he
    · exact Tag.noConfusion
    · exact Tag.noConfusion
    · exact Tag.noConfusion
    · exact ih he
  | case3 ls ws r rs h ih => exact ih he

/-- A changed entry of a run joins near lines of the run. -/
theorem of_changed_mem_pairRun {l r : Int} (h : .changed l r ∈ pairRun near ls ws rs) :
    l ∈ ls ∧ r ∈ rs ∧ near l r = true := by
  fun_induction pairRun near ls ws rs with
  | case1 ls ws => simp at h
  | case2 ls ws r' rs skipped l' rest hfound ih =>
    obtain ⟨rfl, hnear, -⟩ := findSplit?_eq_some hfound
    simp only [List.mem_append, mem_removedLines, mem_addedLines, reduceCtorEq, and_false,
      exists_false, false_or, List.mem_cons, Entry.changed.injEq] at h
    rcases h with ⟨rfl, rfl⟩ | h
    · exact ⟨by simp, List.mem_cons_self, hnear⟩
    · obtain ⟨hl, hr, hn⟩ := ih h
      exact ⟨by simp [hl], List.mem_cons_of_mem _ hr, hn⟩
  | case3 ls ws r' rs hnone ih =>
    obtain ⟨hl, hr, hn⟩ := ih h
    exact ⟨hl, List.mem_cons_of_mem _ hr, hn⟩

/-- Without near lines a run stays as it is, the additions that wait first. -/
theorem pairRun_of_far (hfar : ∀ l ∈ ls, ∀ r ∈ rs, near l r = false) :
    pairRun near ls ws rs = removedLines ls ++ addedLines (ws ++ rs) := by
  fun_induction pairRun near ls ws rs with
  | case1 ls ws => rw [List.append_nil]
  | case2 ls ws r rs skipped l rest h ih =>
    obtain ⟨rfl, hl, -⟩ := findSplit?_eq_some h
    rw [hfar l (by simp) r List.mem_cons_self] at hl
    cases hl
  | case3 ls ws r rs h ih =>
    rw [ih fun l hl r' hr' => hfar l hl r' (List.mem_cons_of_mem _ hr'), List.append_assoc,
      List.singleton_append]

end pairRun

/-- The lines of a run paired in their order, as far as both sides reach, with what the longer side
has left. -/
def pairedByPosition (ls rs : List Int) : List Entry :=
  List.zipWith .changed ls rs ++ removedLines (ls.drop rs.length) ++ addedLines (rs.drop ls.length)

/-- Where all lines of a run are near each added line takes the next removed one. -/
theorem pairRun_of_near {near : Int → Int → Bool} {ls rs : List Int}
    (hnear : ∀ l ∈ ls, ∀ r ∈ rs, near l r = true) :
    pairRun near ls [] rs = pairedByPosition ls rs := by
  induction rs generalizing ls with
  | nil => simp [pairRun, pairedByPosition]
  | cons r rs ih =>
    cases ls with
    | nil => simp [pairRun_of_far, pairedByPosition]
    | cons l ls =>
      have hfirst : findSplit? (near · r) (l :: ls) = some ([], l, ls) := by
        rw [findSplit?, if_pos (hnear l List.mem_cons_self r List.mem_cons_self)]
      have hrest := ih fun l' hl' r' hr' =>
        hnear l' (List.mem_cons_of_mem l hl') r' (List.mem_cons_of_mem r hr')
      rw [pairRun, hfirst]
      dsimp only
      rw [hrest]
      rfl

/-- Lines paired in their order make up as many pairs as the shorter side has lines. -/
theorem countP_changed_pairedByPosition (ls rs : List Int) :
    (pairedByPosition ls rs).countP (·.tag = .changed) = min ls.length rs.length := by
  have hpairs : (List.zipWith Entry.changed ls rs).countP (·.tag = .changed) =
      (List.zipWith Entry.changed ls rs).length := by
    rw [← List.map_uncurry_zip_eq_zipWith, List.countP_eq_length]
    intro e he
    obtain ⟨⟨l, r⟩, -, rfl⟩ := List.mem_map.1 he
    rfl
  have hrest := countP_changed_run (ls.drop rs.length) (rs.drop ls.length) []
  rw [List.append_nil] at hrest
  rw [pairedByPosition, List.append_assoc, List.countP_append, hpairs, hrest, List.countP_nil,
    List.length_zipWith, Nat.add_zero]

/-! ## What merging keeps -/

/-- Two lines of one run: a removed line and an added one with nothing but removals and then
additions from the one to the other. -/
def SameRun (es : List Entry) (l r : Int) : Prop :=
  ∃ before ls rs after,
    es = before ++ removedLines ls ++ addedLines rs ++ after ∧ l ∈ ls ∧ r ∈ rs

/-- Lines of a run are removed and added. -/
theorem SameRun.mem {es : List Entry} {l r : Int} (h : SameRun es l r) :
    .removed l ∈ es ∧ .added r ∈ es := by
  obtain ⟨before, ls, rs, after, rfl, hl, hr⟩ := h
  simp [hl, hr]

/-- Lines of one run stay so behind other entries. -/
theorem SameRun.append_left {es : List Entry} {l r : Int} (h : SameRun es l r)
    (before : List Entry) : SameRun (before ++ es) l r := by
  obtain ⟨b, ls, rs, after, rfl, hl, hr⟩ := h
  exact ⟨before ++ b, ls, rs, after, by simp only [List.append_assoc], hl, hr⟩

namespace RunsMerged

variable {near : Int → Int → Bool} {es fs : List Entry}

/-- Merging leaves the left references as they are. -/
theorem filterMap_left? (h : RunsMerged near es fs) :
    fs.filterMap Entry.left? = es.filterMap Entry.left? := by
  induction h with
  | nil => rfl
  | keep _ _ ih => rw [List.filterMap_cons, List.filterMap_cons, ih]
  | run _ _ _ _ ih => simp [filterMap_left?_pairRun, ih]

/-- Merging leaves the right references as they are. -/
theorem filterMap_right? (h : RunsMerged near es fs) :
    fs.filterMap Entry.right? = es.filterMap Entry.right? := by
  induction h with
  | nil => rfl
  | keep _ _ ih => rw [List.filterMap_cons, List.filterMap_cons, ih]
  | run _ _ _ _ ih => simp [filterMap_right?_pairRun, ih]

/-- Merging leaves the kept lines as they are. -/
theorem filter_unchanged (h : RunsMerged near es fs) :
    fs.filter (·.tag = .unchanged) = es.filter (·.tag = .unchanged) := by
  induction h with
  | nil => rfl
  | keep _ _ ih => rw [List.filter_cons, List.filter_cons, ih]
  | @run ls rs es fs _ _ _ _ ih =>
    have hrun : (pairRun near ls [] rs).filter (·.tag = .unchanged) = [] := by
      rw [List.filter_eq_nil_iff]
      intro e he
      simpa using tag_ne_unchanged_of_mem_pairRun near ls [] rs he
    rw [List.filter_append, hrun, ih, List.filter_append, List.filter_append,
      filter_removedLines ls (fun _ => rfl), filter_addedLines rs (fun _ => rfl)]
    rfl

/-- Merging leaves every entry with two lines in its place among the others. -/
theorem sublist (h : RunsMerged near es fs) : (es.filter Entry.isPaired).Sublist fs := by
  induction h with
  | nil => exact List.Sublist.refl _
  | @keep e es fs _ _ ih =>
    rw [List.filter_cons]
    split
    · exact ih.cons_cons e
    · exact ih.cons e
  | @run ls rs es fs _ _ _ _ ih =>
    rw [List.filter_append, List.filter_append, filter_removedLines ls (fun _ => rfl),
      filter_addedLines rs (fun _ => rfl)]
    exact ih.trans (List.sublist_append_right _ _)

/-- Where the lines of each run are far apart merging changes nothing. -/
theorem eq_of_far (h : RunsMerged near es fs) (hfar : ∀ l r, SameRun es l r → near l r = false) :
    fs = es := by
  induction h with
  | nil => rfl
  | @keep e es fs _ _ ih => rw [ih fun l r hrun => hfar l r (hrun.append_left [e])]
  | @run ls rs es fs _ _ _ _ ih =>
    have hrun : ∀ l ∈ ls, ∀ r ∈ rs, near l r = false :=
      fun l hl r hr => hfar l r ⟨[], ls, rs, es, rfl, hl, hr⟩
    rw [pairRun_of_far near _ _ _ hrun, List.nil_append,
      ih fun l r hrun => hfar l r (hrun.append_left _)]

/-- Merging loses no changed entry. -/
theorem countP_changed_le (h : RunsMerged near es fs) :
    es.countP (·.tag = .changed) ≤ fs.countP (·.tag = .changed) := by
  have hpaired : ∀ e : Entry, (decide (e.tag = .changed) && e.isPaired) =
      decide (e.tag = .changed) := by
    intro e
    cases e <;> rfl
  calc es.countP (·.tag = .changed)
      = (es.filter Entry.isPaired).countP (·.tag = .changed) := by
        rw [List.countP_filter]
        exact List.countP_congr fun e _ => by rw [hpaired]
    _ ≤ fs.countP (·.tag = .changed) := h.sublist.countP_le

/-- A changed entry was there before, or joins near lines of one run. -/
theorem of_changed_mem (h : RunsMerged near es fs) {l r : Int} (hmem : .changed l r ∈ fs) :
    .changed l r ∈ es ∨ (SameRun es l r ∧ near l r = true) := by
  induction h with
  | nil => exact absurd hmem List.not_mem_nil
  | @keep e es fs _ _ ih =>
    rcases List.mem_cons.1 hmem with rfl | hmem
    · exact .inl List.mem_cons_self
    · rcases ih hmem with hold | ⟨hrun, hnear⟩
      · exact .inl (List.mem_cons_of_mem _ hold)
      · exact .inr ⟨hrun.append_left [e], hnear⟩
  | @run ls rs es fs _ _ _ _ ih =>
    rcases List.mem_append.1 hmem with hmem | hmem
    · obtain ⟨hl, hr, hnear⟩ := of_changed_mem_pairRun near ls [] rs hmem
      exact .inr ⟨⟨[], ls, rs, es, rfl, hl, hr⟩, hnear⟩
    · rcases ih hmem with hold | ⟨hrun, hnear⟩
      · exact .inl (List.mem_append_right _ hold)
      · exact .inr ⟨hrun.append_left _, hnear⟩

end RunsMerged

end Merge

end Collate
