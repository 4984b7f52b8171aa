import Collate.Diff.Projection
import Collate.Proofs.Merge.Preservation

/-!
# Coloured lines of a merged diff

Colours take no part in merging. The coloured lines are looked up afterwards, by the references of
the entries, so it has to be seen that this is as good as looking them up before.

* A listing has as many coloured lines as plain ones and a diff refers to each line once, so every
  reference finds its coloured line and all coloured lines are found, in order
  (`Diff.isProjection_project`).
* Merging puts the references of a diff into other entries and leaves them as they are. So the
  records of a merged diff are those of the diff with their coloured lines put into the merged
  entries (`Diff.project_eq_regroup`). This needs nothing of the entries but that they make a diff of
  the same listings.
-/

namespace Collate

open Collate.Merge

/-! ## Coloured lines of a listing -/

section side

variable {reference : Entry → Option Int} {form : ProjectedEntry → Option Text} {es : List Entry}
  {l : Listing}

/-- Where the references on a side are the indices of a listing in order, each of them finds a
coloured line. -/
theorem isSome_bind_highlightedLine? (hes : es.filterMap reference = indices l.size) {e : Entry}
    (he : e ∈ es) : ((reference e).bind l.highlightedLine?).isSome = (reference e).isSome := by
  cases href : reference e with
  | none => rfl
  | some x =>
    have hmem : x ∈ indices l.size := by
      rw [← hes]
      exact List.mem_filterMap.2 ⟨e, he, href⟩
    obtain ⟨h0, h1⟩ := inRange_of_mem_indices hmem
    obtain ⟨i, rfl⟩ := Int.eq_ofNat_of_zero_le h0
    have hi : i < l.highlighted.length := by
      rw [l.length_eq]
      exact Int.ofNat_lt.1 h1
    have hfound : l.highlightedLine? i = some l.highlighted[i] := itemAt?_of_lt hi
    rw [Option.bind_some, hfound]
    rfl

/-- They find all coloured lines, in order. -/
theorem filterMap_bind_highlightedLine? (hes : es.filterMap reference = indices l.size) :
    es.filterMap (fun e => (reference e).bind l.highlightedLine?) = l.highlighted := by
  have hsize : l.size = l.highlighted.length := l.length_eq.symm
  rw [← List.filterMap_filterMap, hes, hsize]
  exact filterMap_itemAt?_indices l.highlighted

/-- The coloured line in the record that refers to a line on a side. -/
def formAt? (reference : Entry → Option Int) (form : ProjectedEntry → Option Text)
    (records : List ProjectedEntry) (x : Int) : Option Text :=
  (records.find? fun p => reference p.entry = some x).bind form

/-- In records of the entries the coloured line that is found for a reference is that of the listing,
and none is found for anything else. -/
theorem formAt?_map {record : Entry → ProjectedEntry} (hentry : ∀ e, (record e).entry = e)
    (hform : ∀ e, form (record e) = (reference e).bind l.highlightedLine?)
    (hes : es.filterMap reference = indices l.size) :
    formAt? reference form (es.map record) = l.highlightedLine? := by
  funext x
  have hfind : (es.map record).find? (fun p => reference p.entry = some x) =
      (es.find? fun e => reference e = some x).map record := by
    simp only [List.find?_map, Function.comp_def, hentry]
  rw [formAt?, hfind]
  cases hfound : es.find? fun e => reference e = some x with
  | some e =>
    have he : reference e = some x := by simpa using List.find?_some hfound
    rw [Option.map_some, Option.bind_some, hform, he, Option.bind_some]
  | none =>
    rw [Option.map_none, Option.bind_none]
    refine (Option.eq_none_iff_forall_ne_some.2 fun a ha => ?_).symm
    obtain ⟨i, rfl, hi⟩ := exists_of_itemAt?_eq_some ha
    obtain ⟨hlt, -⟩ := List.getElem?_eq_some_iff.1 hi
    rw [l.length_eq] at hlt
    have hmem : (i : Int) ∈ es.filterMap reference := by
      rw [hes]
      exact List.mem_map_of_mem (List.mem_range.2 hlt)
    obtain ⟨e, he, href⟩ := List.mem_filterMap.1 hmem
    exact absurd href (by simpa using List.find?_eq_none.1 hfound e he)

end side

/-! ## Records of a diff -/

/-- The records of other entries with the coloured lines of given records: every line keeps the
coloured form that it has there. -/
def regroup (records : List ProjectedEntry) (es : List Entry) : List ProjectedEntry :=
  es.map fun e =>
    ⟨e, e.left?.bind (formAt? Entry.left? ProjectedEntry.left records),
      e.right?.bind (formAt? Entry.right? ProjectedEntry.right records)⟩

namespace Diff

/-- What the records of a diff have to be: one for each entry, with a coloured line wherever the
entry refers to a line, and with all coloured lines of both listings in order. -/
structure IsProjection (d : Diff) (records : List ProjectedEntry) : Prop where
  /-- The records are those of the entries, in order. -/
  entries_eq : records.map ProjectedEntry.entry = d.entries
  /-- A record has a left line exactly if its entry refers to one. -/
  left_isSome : ∀ p ∈ records, p.left.isSome = p.entry.left?.isSome
  /-- A record has a right line exactly if its entry refers to one. -/
  right_isSome : ∀ p ∈ records, p.right.isSome = p.entry.right?.isSome
  /-- The left lines are the coloured lines of the left listing. -/
  left_eq : records.filterMap ProjectedEntry.left = d.left.highlighted
  /-- The right lines are the coloured lines of the right listing. -/
  right_eq : records.filterMap ProjectedEntry.right = d.right.highlighted

/-- The records of a diff are what they have to be. -/
theorem isProjection_project (d : Diff) : d.IsProjection d.project where
  entries_eq := by
    rw [project, List.map_map]
    exact List.map_id d.entries
  left_isSome := by
    intro p hp
    obtain ⟨e, he, rfl⟩ := List.mem_map.1 hp
    exact isSome_bind_highlightedLine? d.left_rebuilt he
  right_isSome := by
    intro p hp
    obtain ⟨e, he, rfl⟩ := List.mem_map.1 hp
    exact isSome_bind_highlightedLine? d.right_rebuilt he
  left_eq := by
    rw [project, List.filterMap_map]
    exact filterMap_bind_highlightedLine? d.left_rebuilt
  right_eq := by
    rw [project, List.filterMap_map]
    exact filterMap_bind_highlightedLine? d.right_rebuilt

/-- **Projecting commutes with regrouping.** The records of another diff of the same listings are the
records of the diff, put into the other entries line by line. -/
theorem project_eq_regroup {d d' : Diff} (hleft : d'.left = d.left) (hright : d'.right = d.right) :
    d'.project = regroup d.project d'.entries := by
  have hl : formAt? Entry.left? ProjectedEntry.left d.project = d.left.highlightedLine? :=
    formAt?_map (fun e => rfl) (fun e => rfl) d.left_rebuilt
  have hr : formAt? Entry.right? ProjectedEntry.right d.project = d.right.highlightedLine? :=
    formAt?_map (fun e => rfl) (fun e => rfl) d.right_rebuilt
  rw [project, regroup, hl, hr, hleft, hright]

/-- What merging makes of the records of a diff: those of the merged diff show the coloured lines of
the same listings, each line in the form that it had. -/
structure CarriesColours (d d' : Diff) : Prop where
  /-- The left listing is the same. -/
  left_eq : d'.left = d.left
  /-- The right listing is the same. -/
  right_eq : d'.right = d.right
  /-- The records show the colours of both listings. -/
  isProjection : d'.IsProjection d'.project
  /-- They are the records from before, regrouped. -/
  project_eq : d'.project = regroup d.project d'.entries

/-- A diff of the same listings carries the colours, whatever its entries are. -/
theorem carriesColours_of_eq {d d' : Diff} (hleft : d'.left = d.left)
    (hright : d'.right = d.right) : d.CarriesColours d' :=
  ⟨hleft, hright, d'.isProjection_project, project_eq_regroup hleft hright⟩

/-- **Projecting commutes with merging.** The records of a diff show the coloured lines of both
listings. So do those of the merged diff, and they are the records of the diff regrouped, even where
what is near is decided for each pair of lines by itself. With a tolerance in range and a distance
that is a number a merge succeeds, and every merge that succeeds carries the colours. -/
theorem project_merge (d : Diff) :
    d.IsProjection d.project ∧
    (∀ near : Int → Int → Bool, ∃ d', d.withEntries (mergeRuns near d.entries) = .ok d' ∧
      d.CarriesColours d') ∧
    ∀ (distance : Distance) (tolerance : Setting),
      (checkTolerance tolerance = .ok () → distance.isComparable = true →
        ∃ d', d.merge distance tolerance = .ok d') ∧
      ∀ d', d.merge distance tolerance = .ok d' → d.CarriesColours d' := by
  refine ⟨d.isProjection_project, ?_, ?_⟩
  · intro near
    exact ⟨d.mergedBy near, d.withEntries_mergeRuns near, carriesColours_of_eq rfl rfl⟩
  · intro distance tolerance
    refine ⟨?_, ?_⟩
    · intro htolerance hcomparable
      exact ⟨_, merge_eq_ok_iff.2 ⟨htolerance, fun _ => hcomparable, rfl⟩⟩
    · intro d' h
      obtain ⟨-, -, rfl⟩ := merge_eq_ok_iff.1 h
      exact carriesColours_of_eq rfl rfl

/-- A removed and an added line become a changed one, and the coloured form of the left line comes
along. -/
theorem project_merge_coloured :
    let k := "\x1b[36mk\x1b[39m".toList
    let x := "\x1b[4mx\x1b[24m".toList
    let left : Listing := ⟨[['k'], ['x']], [k, x], rfl, by decide +kernel, by decide⟩
    let right : Listing := .plain [['p'], ['x']] (by decide)
    let d : Diff := ⟨left, right, [.added 0, .removed 0, .removed 1, .added 1], by decide, by decide⟩
    let distance : Distance := .measure fun a b => .whole (if a = b then 0 else 1)
    checkTolerance (.int 1) = .ok () ∧ distance.isComparable = true ∧
    ∃ d', d.merge distance (.int 1) = .ok d' ∧ d'.entries = [.added 0, .removed 0, .changed 1 1] ∧
      d'.project.map (fun p => (p.left, p.right)) =
        [(none, some ['p']), (some k, none), (some x, some ['x'])] ∧
      d.CarriesColours d' := by
  intro k x left right d distance
  obtain ⟨-, -, hmerge⟩ := project_merge d
  obtain ⟨hok, hcarries⟩ := hmerge distance (.int 1)
  have htolerance : checkTolerance (.int 1) = .ok () := by rfl
  obtain ⟨d', hd'⟩ := hok htolerance rfl
  refine ⟨htolerance, rfl, d', hd', ?_, ?_, hcarries d' hd'⟩
  · obtain ⟨-, -, rfl⟩ := merge_eq_ok_iff.1 hd'
    decide +kernel
  · obtain ⟨-, -, rfl⟩ := merge_eq_ok_iff.1 hd'
    decide +kernel

end Diff

end Collate
