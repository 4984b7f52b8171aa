import Collate.Proofs.Merge.Repeat

/-!
# What merging leaves over

Merging is greedy: the walk along the added lines of a run never takes back a pair, and passes over
removed lines that might have served a later line. What it leaves over can still not be merged as it
stands. In canonical order the removals and additions between two entries with two lines make up a
single gap, and no gap of a merged diff holds two near lines (`Settled.far`). So two near lines that
are both left over have an entry with two lines between them (`Settled.exists_between`), and
joining them would cross that entry: the references on both sides climb (`crosses_of_sublist`).

A distance is compared with the threshold, and lines are not near if it is not at most that. For a
distance that is a number this is to be greater than the threshold (`Distance.beyond_of_not_near`).
-/

namespace Collate

open Collate.Merge Collate.Number

/-! ## Distances above a threshold -/

/-- Whether a number is greater than a double. -/
def Setting.Amount.exceeds (bound : Binary64) : Amount → Bool
  | .whole n => bound.value?.any fun r => r < (n : Rat)
  | .real x => bound.le x && !x.le bound

/-- A number that is not at most a finite double is greater. -/
theorem Setting.Amount.exceeds_of_not_atMost {amount : Amount} {bound : Binary64} {r : ℚ}
    (hbound : bound.value? = some r) (hnumber : amount ≠ .real .nan)
    (h : amount.atMost bound = false) : amount.exceeds bound = true := by
  cases amount with
  | whole n =>
    simp only [atMost, exceeds, hbound, Option.any_some, decide_eq_false_iff_not,
      decide_eq_true_eq, not_le] at h ⊢
    exact h
  | real x =>
    have hx : x ≠ .nan := fun hx => hnumber (congrArg _ hx)
    have hle := (Binary64.le_or_le hx (Binary64.ne_of_value? hbound).1).resolve_left
      (Bool.eq_false_iff.1 h)
    rw [exceeds, hle, show x.le bound = false from h]
    rfl

/-- The distance of two lines as the number that is compared. -/
def Distance.amount? : Distance → Text → Text → Option Setting.Amount
  | .metric m, a, b => some (.real (m.distance a b))
  | .measure f, a, b => some (f a b)
  | .constant value, _, _ => value.amount?
  | .absent, _, _ => none

/-- Two lines are more than a threshold apart: their distance is not at most the threshold, and if
it is a number it is greater. -/
structure Distance.Beyond (distance : Distance) (threshold : Binary64) (a b : Text) : Prop where
  /-- The distance is not at most the threshold. -/
  not_near : distance.near threshold a b = false
  /-- What is compared is greater than the threshold, unless it is not a number. -/
  exceeds : ∀ amount ∈ distance.amount? a b, amount ≠ .real .nan →
    amount.exceeds threshold = true

/-- Lines are near if their distance is at most the threshold. -/
theorem Distance.near_eq (distance : Distance) (threshold : Binary64) (a b : Text) :
    distance.near threshold a b = (distance.amount? a b).any (·.atMost threshold) := by
  cases distance <;> rfl

/-- Lines that are not near by a tolerance are more than its threshold apart. -/
theorem Distance.beyond_of_not_near {distance : Distance} {t : Setting}
    (ht : checkTolerance t = .ok ()) {a b : Text}
    (h : distance.near (thresholdOf t) a b = false) : distance.Beyond (thresholdOf t) a b := by
  refine ⟨h, ?_⟩
  intro amount hamount hnumber
  obtain ⟨r, hr, h0, h1⟩ := checkTolerance_eq_ok_iff.1 ht
  obtain ⟨bound, hbound, -⟩ :=
    Binary64.exists_value?_ofRat (sub_nonneg.2 h1) (sub_le_self 1 h0)
  rw [← thresholdOf_eq hr] at hbound
  rw [near_eq, hamount, Option.any_some] at h
  exact Setting.Amount.exceeds_of_not_atMost hbound hnumber h

/-! ## Entries between leftovers -/

/-- Of two different items of a list one stands in front of the other. -/
theorem exists_between_of_mem {α : Type} {as : List α} {a b : α} (ha : a ∈ as) (hb : b ∈ as)
    (hne : a ≠ b) : ∃ before between after,
      as = before ++ a :: (between ++ b :: after) ∨ as = before ++ b :: (between ++ a :: after) := by
  obtain ⟨before, after, rfl⟩ := List.append_of_mem ha
  rcases List.mem_append.1 hb with hb | hb
  · obtain ⟨start, between, rfl⟩ := List.append_of_mem hb
    exact ⟨start, between, after, .inr (by rw [List.append_assoc, List.cons_append])⟩
  · rcases List.mem_cons.1 hb with rfl | hb
    · exact absurd rfl hne
    · obtain ⟨between, rest, rfl⟩ := List.append_of_mem hb
      exact ⟨before, between, rest, .inl rfl⟩

namespace Merge

variable {near : Int → Int → Bool} {es : List Entry} {l r : Int}

/-- A removal or an addition has a line on one side only. -/
theorem isPaired_eq_false_iff {e : Entry} :
    e.isPaired = false ↔ e.tag = .removed ∨ e.tag = .added := by
  cases e <;> simp [Entry.isPaired, Entry.left?, Entry.right?]

/-- Where two near lines are left over in settled entries, an entry with two lines stands between
them. -/
theorem Settled.exists_sublist (h : Settled near es) {first last : Entry}
    {before between after : List Entry} (hes : es = before ++ first :: (between ++ last :: after))
    (hfirst : first.isPaired = false) (hlast : last.isPaired = false)
    (hl : .removed l ∈ [first, last]) (hr : .added r ∈ [first, last]) (hnear : near l r = true) :
    ∃ e, e.isPaired = true ∧ [first, e, last].Sublist es := by
  have hinfix : first :: (between ++ [last]) <:+: es := ⟨before, after, by simp [hes]⟩
  have hends : [first, last].Sublist (first :: (between ++ [last])) :=
    (List.sublist_append_right between [last]).cons_cons first
  obtain ⟨e, he, hpaired⟩ : ∃ e ∈ first :: (between ++ [last]), e.isPaired = true := by
    by_contra hnone
    have hfar := h.far hinfix (fun e he => Bool.eq_false_iff.2 fun hp => hnone ⟨e, he, hp⟩)
      (hends.subset hl) (hends.subset hr)
    rw [hnear] at hfar
    cases hfar
  refine ⟨e, hpaired, ?_⟩
  simp only [List.mem_cons, List.mem_append, List.not_mem_nil, or_false] at he
  rcases he with rfl | he | rfl
  · rw [hfirst] at hpaired
    cases hpaired
  · have hmiddle : [first, e, last].Sublist (first :: (between ++ [last])) :=
      ((List.singleton_sublist.2 he).append (List.Sublist.refl [last])).cons_cons first
    exact hmiddle.trans hinfix.sublist
  · rw [hlast] at hpaired
    cases hpaired

/-- Two near lines that are left over in settled entries have an entry with two lines between
them, whichever of them comes first. -/
theorem Settled.exists_between (h : Settled near es) (hl : .removed l ∈ es) (hr : .added r ∈ es)
    (hnear : near l r = true) : ∃ e, e.isPaired = true ∧
      ([.removed l, e, .added r].Sublist es ∨ [.added r, e, .removed l].Sublist es) := by
  obtain ⟨before, between, after, hes | hes⟩ := exists_between_of_mem hl hr Entry.noConfusion
  · obtain ⟨e, hpaired, he⟩ := h.exists_sublist hes rfl rfl (by simp) (by simp) hnear
    exact ⟨e, hpaired, .inl he⟩
  · obtain ⟨e, hpaired, he⟩ := h.exists_sublist hes rfl rfl (by simp) (by simp) hnear
    exact ⟨e, hpaired, .inr he⟩

end Merge

namespace Diff

variable {d : Diff} {l r l' r' : Int}

/-- Two pairs of lines cross: of the one the left line comes first, of the other the right one. -/
def Crosses (l r l' r' : Int) : Prop := (l < l' ∧ r' < r) ∨ (l' < l ∧ r < r')

/-- Two lines of a diff with an entry of two lines between them cross the pair of that entry. -/
theorem crosses_of_sublist {e : Entry} (hl : e.left? = some l') (hr : e.right? = some r')
    (h : [.removed l, e, .added r].Sublist d.entries ∨
      [.added r, e, .removed l].Sublist d.entries) : Crosses l r l' r' := by
  have hclimb : ∀ es : List Entry, es.Sublist d.entries →
      (es.filterMap Entry.left?).Pairwise (· < ·) ∧ (es.filterMap Entry.right?).Pairwise (· < ·) :=
    fun es hes => ⟨d.pairwise_left?.sublist (hes.filterMap _),
      d.pairwise_right?.sublist (hes.filterMap _)⟩
  rcases h with h | h
  · obtain ⟨hleft, hright⟩ := hclimb _ h
    rw [List.filterMap_cons_some (by rfl), List.filterMap_cons_some hl,
      List.filterMap_cons_none (by rfl), List.filterMap_nil, List.pairwise_pair] at hleft
    rw [List.filterMap_cons_none (by rfl), List.filterMap_cons_some hr,
      List.filterMap_cons_some (by rfl), List.filterMap_nil, List.pairwise_pair] at hright
    exact .inl ⟨hleft, hright⟩
  · obtain ⟨hleft, hright⟩ := hclimb _ h
    rw [List.filterMap_cons_none (by rfl), List.filterMap_cons_some hl,
      List.filterMap_cons_some (by rfl), List.filterMap_nil, List.pairwise_pair] at hleft
    rw [List.filterMap_cons_some (by rfl), List.filterMap_cons_some hr,
      List.filterMap_cons_none (by rfl), List.filterMap_nil, List.pairwise_pair] at hright
    exact .inr ⟨hleft, hright⟩

/-- Lines of a diff that are not near by a tolerance are more than its threshold apart. -/
theorem beyond_of_nearLines {distance : Distance} {t : Setting} (ht : checkTolerance t = .ok ())
    (hl : .removed l ∈ d.entries) (hr : .added r ∈ d.entries)
    (h : d.nearLines distance (thresholdOf t) l r = false) :
    ∃ x y, d.left.line? l = some x ∧ d.right.line? r = some y ∧
      distance.Beyond (thresholdOf t) x y := by
  obtain ⟨x, hx⟩ := d.exists_left_line? hl rfl
  obtain ⟨y, hy⟩ := d.exists_right_line? hr rfl
  rw [nearLines, hx, hy] at h
  exact ⟨x, y, hx, hy, Distance.beyond_of_not_near ht h⟩

/-- **Merging is sound and leaves nothing that could be merged.** Let a diff in canonical order be
merged with a tolerance, which succeeds for every distance that is a number. A changed entry that is
new joins two lines that are near. A removed and an added line that are left over, with only
removals and additions between them, are more than the threshold apart. And two near lines that are
left over cross the pair of an entry with two lines, so that no pair can be added. -/
theorem merge_locally_maximal (d : Diff) (hd : d.IsCanonical) (distance : Distance) (t : Setting)
    (ht : checkTolerance t = .ok ()) :
    (distance.isComparable = true → ∃ d', d.merge distance t = .ok d') ∧
    ∀ d', d.merge distance t = .ok d' →
      (∀ l r, .changed l r ∈ d'.entries → .changed l r ∉ d.entries →
        ∃ x y, d'.left.line? l = some x ∧ d'.right.line? r = some y ∧
          distance.near (thresholdOf t) x y = true) ∧
      (∀ stretch, stretch <:+: d'.entries →
        (∀ e ∈ stretch, e.tag = .removed ∨ e.tag = .added) →
        ∀ l r, .removed l ∈ stretch → .added r ∈ stretch →
          ∃ x y, d'.left.line? l = some x ∧ d'.right.line? r = some y ∧
            distance.Beyond (thresholdOf t) x y) ∧
      ∀ l r x y, .removed l ∈ d'.entries → .added r ∈ d'.entries →
        d'.left.line? l = some x → d'.right.line? r = some y →
        distance.near (thresholdOf t) x y = true →
        ∃ e ∈ d'.entries, ∃ l' r', e.left? = some l' ∧ e.right? = some r' ∧
          Crosses l r l' r' := by
  refine ⟨fun hdistance => ⟨_, merge_eq_ok_iff.2 ⟨ht, fun _ => hdistance, rfl⟩⟩, ?_⟩
  intro d' hd'
  obtain ⟨-, -, rfl⟩ := merge_eq_ok_iff.1 hd'
  have hsettled := settled_mergedBy hd (d.nearLines distance (thresholdOf t))
  refine ⟨?_, ?_, ?_⟩
  · intro l r hmem hnew
    obtain ⟨-, hnear⟩ := ((d.runsMerged_mergedBy _).of_changed_mem hmem).resolve_left hnew
    exact of_nearLines hnear
  · intro stretch hstretch htags l r hl hr
    have hunpaired : ∀ e ∈ stretch, e.isPaired = false :=
      fun e he => isPaired_eq_false_iff.2 (htags e he)
    exact beyond_of_nearLines ht (hstretch.subset hl) (hstretch.subset hr)
      (hsettled.far hstretch hunpaired hl hr)
  · intro l r x y hl hr hx hy hnear
    have hlines : d.nearLines distance (thresholdOf t) l r = true := by
      rw [nearLines, show d.left.line? l = some x from hx, show d.right.line? r = some y from hy]
      exact hnear
    obtain ⟨e, hpaired, he⟩ := hsettled.exists_between hl hr hlines
    rw [Entry.isPaired, Bool.and_eq_true] at hpaired
    obtain ⟨l', hl'⟩ := Option.isSome_iff_exists.1 hpaired.1
    obtain ⟨r', hr'⟩ := Option.isSome_iff_exists.1 hpaired.2
    have hmem : e ∈ (d.mergedBy (d.nearLines distance (thresholdOf t))).entries := by
      rcases he with he | he <;> exact he.subset (by simp)
    exact ⟨e, hmem, l', r', hl', hr', crosses_of_sublist hl' hr' he⟩

/-- Two lines that have changed places, and two that are nowhere near. The second left line is
merged; the lines left over around it are near and cross it, and behind it nothing is near. -/
theorem merge_locally_maximal_swapped :
    let d : Diff := ⟨.plain [['x'], ['y'], ['k']] (by decide),
      .plain [['y'], ['x'], ['p']] (by decide),
      [.removed 0, .removed 1, .removed 2, .added 0, .added 1, .added 2], by decide, by decide⟩
    let distance : Distance := .measure fun a b => .whole (if a = b then 0 else 1)
    d.IsCanonical ∧ checkTolerance .half = .ok () ∧
    ∃ d', d.merge distance .half = .ok d' ∧
      d'.entries = [.removed 0, .changed 1 0, .removed 2, .added 1, .added 2] ∧
      distance.near (thresholdOf .half) ['y'] ['y'] = true ∧
      distance.Beyond (thresholdOf .half) ['k'] ['x'] ∧
      ∃ e ∈ d'.entries, ∃ l' r', e.left? = some l' ∧ e.right? = some r' ∧
        Crosses 0 1 l' r' := by
  intro d distance
  have hd : d.IsCanonical := by
    unfold IsCanonical Canonical
    decide
  obtain ⟨hok, hmerge⟩ := merge_locally_maximal d hd distance .half checkTolerance_half
  obtain ⟨d', hd'⟩ := hok rfl
  obtain ⟨hsound, hfar, hcross⟩ := hmerge d' hd'
  obtain ⟨-, -, rfl⟩ := merge_eq_ok_iff.1 hd'
  have hentries : (d.mergedBy (d.nearLines distance (thresholdOf .half))).entries =
      [.removed 0, .changed 1 0, .removed 2, .added 1, .added 2] := by decide +kernel
  rw [hentries] at hsound hfar hcross
  refine ⟨hd, checkTolerance_half, _, hd', hentries, ?_, ?_, ?_⟩
  · obtain ⟨x, y, hx, hy, hnear⟩ := hsound 1 0 (by decide) (by decide)
    cases hx
    cases hy
    exact hnear
  · obtain ⟨x, y, hx, hy, hbeyond⟩ := hfar [.removed 2, .added 1, .added 2]
      ⟨[.removed 0, .changed 1 0], [], rfl⟩ (by decide) 2 1 (by decide) (by decide)
    cases hx
    cases hy
    exact hbeyond
  · rw [hentries]
    exact hcross 0 1 ['x'] ['x'] (by decide) (by decide) rfl rfl (by decide +kernel)

end Diff

end Collate
