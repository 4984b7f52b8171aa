import Mathlib.Data.List.Chain
import Collate.Proofs.Merge.Runs

/-!
# Settled entries

Entries in canonical order never have a removal right behind an addition. Between two entries with
two lines there is then a single gap, removals followed by additions, and so a single run to merge.
This module follows such entries through merging.

* `Settled near` says that the entries are gaps with paired entries between them, and that no gap
  holds two near lines. Where no lines are near at all this is canonical order
  (`canonical_iff_settled`), so one predicate serves for both.
* Merging turns canonical entries into settled ones (`Settled.mergeRuns`): an added line that is
  left over was compared with every removed line that still stands in its gap. This is the invariant
  of the walk through a run (`settled_pairRun`).
* So no two lines of one run of a merged diff are near (`Settled.far_of_sameRun`), also when fewer
  lines are near than before (`Settled.mono`).
-/

namespace Collate.Merge

/-- No removal stands right behind an addition. -/
def Canonical (es : List Entry) : Prop :=
  es.IsChain fun e f => ¬ (e.tag = .added ∧ f.tag = .removed)

/-- Entries with two lines, and between them gaps of removals and then additions that are not near
to each other. -/
inductive Settled (near : Int → Int → Bool) : List Entry → Prop
  /-- The last gap. -/
  | last (ls rs : List Int) (hfar : ∀ l ∈ ls, ∀ r ∈ rs, near l r = false) :
    Settled near (removedLines ls ++ addedLines rs)
  /-- A gap, an entry with two lines, and what follows. -/
  | next (ls rs : List Int) {e : Entry} {es : List Entry}
    (hfar : ∀ l ∈ ls, ∀ r ∈ rs, near l r = false) (he : e.isPaired = true)
    (h : Settled near es) : Settled near (removedLines ls ++ addedLines rs ++ e :: es)

/-- An entry with two lines begins neither removals nor additions. -/
theorem not_startsWith_of_isPaired {e : Entry} (he : e.isPaired = true) (es : List Entry) :
    ¬ StartsWith .removed (e :: es) ∧ ¬ StartsWith .added (e :: es) := by
  cases e with
  | unchanged l r | changed l r => exact ⟨nofun, nofun⟩
  | removed l | added r => cases he

/-- A stretch that leaves out an item stands before it or behind it. -/
theorem infix_or_infix_of_not_mem {α : Type} {as bs s : List α} {a : α}
    (h : s <:+: as ++ a :: bs) (ha : a ∉ s) : s <:+: as ∨ s <:+: bs := by
  obtain ⟨before, after, h⟩ := h
  rw [List.append_assoc] at h
  rcases List.append_eq_append_iff.1 h with ⟨more, rfl, hs⟩ | ⟨more, rfl, hs⟩
  · -- it begins before the item, so it has to end there
    rcases List.append_eq_append_iff.1 hs with ⟨rest, rfl, -⟩ | ⟨rest, rfl, hrest⟩
    · exact .inl ⟨before, rest, List.append_assoc _ _ _⟩
    · rcases List.cons_eq_append_iff.1 hrest with ⟨rfl, -⟩ | ⟨rest, rfl, -⟩
      · exact .inl ⟨before, [], by simp⟩
      · exact absurd (List.mem_append_right _ List.mem_cons_self) ha
  · rcases List.cons_eq_append_iff.1 hs with ⟨rfl, hstart⟩ | ⟨rest, rfl, hrest⟩
    · rcases List.append_eq_cons_iff.1 hstart with ⟨rfl, -⟩ | ⟨rest, rfl, -⟩
      · exact .inl List.nil_infix
      · exact absurd List.mem_cons_self ha
    · exact .inr ⟨rest, after, by rw [hrest, List.append_assoc]⟩

section settled

variable {near near' : Int → Int → Bool} {es fs : List Entry}

/-- Where fewer lines are near, more entries are settled. -/
theorem Settled.mono (h : Settled near es)
    (hnear : ∀ l r, near' l r = true → near l r = true) : Settled near' es := by
  have hfar : ∀ l r, near l r = false → near' l r = false := by
    intro l r hlr
    rw [← Bool.not_eq_true]
    intro h'
    rw [hnear l r h'] at hlr
    cases hlr
  induction h with
  | last ls rs hgap => exact .last ls rs fun l hl r hr => hfar l r (hgap l hl r hr)
  | next ls rs hgap he _ ih =>
    exact .next ls rs (fun l hl r hr => hfar l r (hgap l hl r hr)) he ih

/-- Settled entries, an entry with two lines and settled entries are settled. -/
theorem Settled.append (h : Settled near es) {e : Entry} (he : e.isPaired = true)
    (h' : Settled near fs) : Settled near (es ++ e :: fs) := by
  induction h with
  | last ls rs hgap => exact .next ls rs hgap he h'
  | next ls rs hgap he' _ ih =>
    rw [List.append_assoc]
    exact .next ls rs hgap he' ih

/-- No removed line is near to an added one of settled entries where no entry with two lines stands
between them. -/
theorem Settled.far (h : Settled near es) {stretch : List Entry} (hes : stretch <:+: es)
    (hstretch : ∀ e ∈ stretch, e.isPaired = false) {l r : Int} (hl : .removed l ∈ stretch)
    (hr : .added r ∈ stretch) : near l r = false := by
  have hgap : ∀ ls rs : List Int, stretch <:+: removedLines ls ++ addedLines rs →
      (∀ l ∈ ls, ∀ r ∈ rs, near l r = false) → near l r = false := by
    intro ls rs hsub hfar
    have hl' := hsub.subset hl
    have hr' := hsub.subset hr
    simp only [List.mem_append, mem_removedLines, mem_addedLines, Entry.removed.injEq,
      Entry.added.injEq, exists_eq_right, reduceCtorEq, and_false, exists_false, or_false,
      false_or] at hl' hr'
    exact hfar l hl' r hr'
  induction h with
  | last ls rs hfar => exact hgap ls rs hes hfar
  | @next ls rs e es hfar he _ ih =>
    have hmem : e ∉ stretch := fun hmem => Bool.noConfusion (he.symm.trans (hstretch e hmem))
    rcases infix_or_infix_of_not_mem hes hmem with hes | hes
    · exact hgap ls rs hes hfar
    · exact ih hes

/-- Lines of one run of settled entries are not near. -/
theorem Settled.far_of_sameRun (h : Settled near es) {l r : Int} (hrun : SameRun es l r) :
    near l r = false := by
  obtain ⟨before, ls, rs, after, hes, hl, hr⟩ := hrun
  have hinfix : removedLines ls ++ addedLines rs <:+: es :=
    ⟨before, after, by rw [hes, ← List.append_assoc]⟩
  refine h.far hinfix ?_ (List.mem_append_left _ ((mem_removedLines ls).2 ⟨l, hl, rfl⟩))
    (List.mem_append_right _ ((mem_addedLines rs).2 ⟨r, hr, rfl⟩))
  intro e he
  rcases List.mem_append.1 he with he | he
  · obtain ⟨x, -, rfl⟩ := (mem_removedLines ls).1 he
    rfl
  · obtain ⟨x, -, rfl⟩ := (mem_addedLines rs).1 he
    rfl

/-! ## Canonical order -/

/-- Additions one after the other are in order, with whatever entry of two lines behind them. -/
theorem canonical_addedLines (rs : List Int) {es : List Entry} (hremoved : ¬ StartsWith .removed es)
    (hes : Canonical es) : Canonical (addedLines rs ++ es) := by
  induction rs with
  | nil => exact hes
  | cons r rs ih =>
    refine List.isChain_cons.2 ⟨?_, ih⟩
    rintro f hf ⟨-, htag⟩
    cases rs with
    | nil => exact hremoved (Option.map_eq_some_iff.2 ⟨f, hf, htag⟩)
    | cons r' rs =>
      cases hf
      cases htag

/-- Removals come before anything. -/
theorem canonical_removedLines (ls : List Int) {es : List Entry} (hes : Canonical es) :
    Canonical (removedLines ls ++ es) := by
  induction ls with
  | nil => exact hes
  | cons l ls ih => exact List.isChain_cons.2 ⟨fun f _ h => Tag.noConfusion h.1, ih⟩

/-- Settled entries are in canonical order. -/
theorem Settled.canonical (h : Settled near es) : Canonical es := by
  induction h with
  | last ls rs _ =>
    have hrs := canonical_addedLines rs (not_startsWith_nil _) .nil
    rw [List.append_nil] at hrs
    exact canonical_removedLines ls hrs
  | @next ls rs e es _ he _ ih =>
    rw [List.append_assoc]
    refine canonical_removedLines ls (canonical_addedLines rs
      (not_startsWith_of_isPaired he es).1 (List.isChain_cons.2 ⟨?_, ih⟩))
    rintro f - ⟨htag, -⟩
    cases e with
    | added r => cases he
    | unchanged l r | changed l r | removed l => cases htag

/-- Where no lines are near, a removal in front of settled entries belongs to their first gap. -/
theorem Settled.cons_removed (h : Settled (fun _ _ => false) es) (l : Int) :
    Settled (fun _ _ => false) (.removed l :: es) := by
  cases h with
  | last ls rs _ => exact .last (l :: ls) rs fun _ _ _ _ => rfl
  | next ls rs _ he h => exact .next (l :: ls) rs (fun _ _ _ _ => rfl) he h

/-- So does an addition, unless the gap begins with a removal. -/
theorem Settled.cons_added (h : Settled (fun _ _ => false) es) (r : Int)
    (hes : ¬ StartsWith .removed es) : Settled (fun _ _ => false) (.added r :: es) := by
  cases h with
  | last ls rs _ =>
    cases ls with
    | nil => exact .last [] (r :: rs) fun _ _ _ _ => rfl
    | cons l ls => exact absurd rfl hes
  | next ls rs _ he h =>
    cases ls with
    | nil => exact .next [] (r :: rs) (fun _ _ _ _ => rfl) he h
    | cons l ls => exact absurd rfl hes

/-- Canonical order is being settled where no lines are near. -/
theorem canonical_iff_settled : Canonical es ↔ Settled (fun _ _ => false) es := by
  refine ⟨fun h => ?_, Settled.canonical⟩
  induction es with
  | nil => exact .last [] [] fun _ _ _ _ => rfl
  | cons e es ih =>
    obtain ⟨hnext, hes⟩ := List.isChain_cons.1 h
    have hrest := ih hes
    cases e with
    | removed l => exact hrest.cons_removed l
    | added r =>
      refine hrest.cons_added r ?_
      intro hremoved
      obtain ⟨f, hf, htag⟩ := Option.map_eq_some_iff.1 hremoved
      exact hnext f hf ⟨rfl, htag⟩
    | unchanged l r | changed l r =>
      exact .next [] [] (fun _ _ _ _ => rfl) rfl hrest

/-! ## Merging -/

/-- Merging pairs the lines of a gap, also where one side of it is empty. -/
theorem mergeRuns_gap (near : Int → Int → Bool) (ls rs : List Int)
    (hremoved : ¬ StartsWith .removed es) (hadded : ¬ StartsWith .added es) :
    mergeRuns near (removedLines ls ++ addedLines rs ++ es) =
      pairRun near ls [] rs ++ mergeRuns near es := by
  by_cases hls : ls = []
  · subst hls
    rw [pairRun_of_far near [] [] rs nofun]
    induction rs with
    | nil => rfl
    | cons r rs ih =>
      have htag : (Entry.added r).tag ≠ .removed := Tag.noConfusion
      exact (mergeRuns_cons near htag _).trans (congrArg _ ih)
  · exact mergeRuns_run near hls hadded fun _ => hremoved

/-- Merging pairs the lines of the last gap. -/
theorem mergeRuns_lastGap (near : Int → Int → Bool) (ls rs : List Int) :
    mergeRuns near (removedLines ls ++ addedLines rs) = pairRun near ls [] rs := by
  have hgap := mergeRuns_gap near ls rs (not_startsWith_nil _) (not_startsWith_nil _)
  rwa [List.append_nil, mergeRuns_nil, List.append_nil] at hgap

/-- Merging pairs the lines of a gap, leaves the entry with two lines behind it, and goes on. -/
theorem mergeRuns_nextGap (near : Int → Int → Bool) (ls rs : List Int) {e : Entry}
    (he : e.isPaired = true) (es : List Entry) :
    mergeRuns near (removedLines ls ++ addedLines rs ++ e :: es) =
      pairRun near ls [] rs ++ e :: mergeRuns near es := by
  obtain ⟨hremoved, hadded⟩ := not_startsWith_of_isPaired he es
  have htag : e.tag ≠ .removed := fun htag => hremoved (startsWith_cons.2 htag)
  rw [mergeRuns_gap near ls rs hremoved hadded, mergeRuns_cons near htag]

/-- A gap of which the lines that wait are not near to a removed one comes out settled: a line that
starts to wait was compared with every removed line that is left. -/
theorem settled_pairRun (ls ws rs : List Int)
    (hwaiting : ∀ l ∈ ls, ∀ r ∈ ws, near l r = false) : Settled near (pairRun near ls ws rs) := by
  fun_induction pairRun near ls ws rs with
  | case1 ls ws => exact .last ls ws hwaiting
  | case2 ls ws r rs skipped l rest h ih =>
    obtain ⟨rfl, -, -⟩ := findSplit?_eq_some h
    refine .next skipped ws ?_ rfl (ih fun _ _ _ h => absurd h List.not_mem_nil)
    intro l' hl'
    exact hwaiting l' (List.mem_append_left _ hl')
  | case3 ls ws r rs h ih =>
    apply ih
    intro l hl r' hr'
    rcases List.mem_append.1 hr' with hr' | hr'
    · exact hwaiting l hl r' hr'
    · rw [List.mem_singleton.1 hr']
      exact findSplit?_eq_none_iff.1 h l hl

/-- Merging settles what is in canonical order. -/
theorem Settled.mergeRuns (h : Settled near' es) : Settled near (mergeRuns near es) := by
  induction h with
  | last ls rs _ =>
    rw [mergeRuns_lastGap]
    exact settled_pairRun ls [] rs nofun
  | @next ls rs e es _ he _ ih =>
    rw [mergeRuns_nextGap near ls rs he]
    exact (settled_pairRun ls [] rs nofun).append he ih

end settled

end Collate.Merge
