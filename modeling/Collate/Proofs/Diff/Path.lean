import Mathlib.Data.Nat.Init
import Collate.Diff.Basic

/-!
# Diffs as monotone paths

A diff is checked side by side: the left references of its entries have to be the left indices in
order, and the right references the right ones. This module shows that the two checks together
accept exactly the monotone paths through the grid of places `(i, j)`, where `i` left lines and `j`
right lines lie behind (`Entry.Path`): an entry with both references takes the place's own pair and
moves on both sides, a removal moves on the left side and an addition on the right one.

* `Entry.path_of_filterMap` carries the induction: it states the two checks for any start and any
  end, so that each entry can be taken off the front of both index lists at once.
* `Diff.path` reads the path off a diff; what a diff rebuilds, which lines it refers to and how many
  entries of each kind it has all follow from it (`Diff.leftLines_eq`, `Diff.left?_inRange`,
  `Diff.count_left` and their right-hand counterparts).
* `Diff.ofEntries_iff_path` is the statement as a whole.
-/

namespace Collate

/-! ## Stretches of indices -/

/-- The indices from `i` up to but not including `n`. -/
def indicesFrom (i n : Nat) : List Int := (List.range' i (n - i)).map Int.ofNat

/-- The indices of a listing are those from zero on. -/
theorem indices_eq_indicesFrom (n : Nat) : indices n = indicesFrom 0 n := by
  rw [indices, indicesFrom, Nat.sub_zero, List.range_eq_range']

/-- An index of a listing counts from zero and stays below the number of lines. -/
theorem inRange_of_mem_indices {n : Nat} {x : Int} (h : x ∈ indices n) : 0 ≤ x ∧ x < n := by
  obtain ⟨k, hk, rfl⟩ := List.mem_map.1 h
  rw [List.mem_range] at hk
  exact ⟨Int.natCast_nonneg k, Int.ofNat_lt.2 hk⟩

/-- The indices of a listing climb. -/
theorem pairwise_indices (n : Nat) : (indices n).Pairwise (· < ·) := by
  rw [indices, List.pairwise_map]
  exact List.pairwise_lt_range.imp fun h => Int.ofNat_lt.2 h

/-- Nothing is left at the end. -/
@[simp] theorem indicesFrom_self (n : Nat) : indicesFrom n n = [] := by
  simp [indicesFrom]

/-- Before the end the next index comes first. -/
theorem indicesFrom_of_lt {i n : Nat} (h : i < n) :
    indicesFrom i n = (i : Int) :: indicesFrom (i + 1) n := by
  have hn : n - i = (n - (i + 1)) + 1 := by omega
  rw [indicesFrom, hn, List.range'_succ, List.map_cons]
  rfl

/-- Only at the end is nothing left. -/
theorem eq_of_indicesFrom_eq_nil {i n : Nat} (hi : i ≤ n) (h : indicesFrom i n = []) : i = n := by
  rcases Nat.lt_or_eq_of_le hi with hlt | heq
  · rw [indicesFrom_of_lt hlt] at h
    cases h
  · exact heq

/-- A reference that comes first is the next index, and there is one. -/
theorem of_cons_eq_indicesFrom {i n : Nat} {x : Int} {xs : List Int} (hi : i ≤ n)
    (h : x :: xs = indicesFrom i n) : x = i ∧ i < n ∧ xs = indicesFrom (i + 1) n := by
  rcases Nat.lt_or_eq_of_le hi with hlt | rfl
  · rw [indicesFrom_of_lt hlt] at h
    cases h
    exact ⟨rfl, hlt, rfl⟩
  · rw [indicesFrom_self] at h
    cases h

/-! ## Paths -/

namespace Entry

/-- Entries that lead from place `(i, j)` to place `(n, m)`. -/
inductive Path : (i j : Nat) → List Entry → (n m : Nat) → Prop
  /-- Without entries the place stays. -/
  | nil (i j : Nat) : Path i j [] i j
  /-- A kept line takes the pair of the place and moves on both sides. -/
  | unchanged {i j n m : Nat} {es : List Entry} (h : Path (i + 1) (j + 1) es n m) :
    Path i j (.unchanged i j :: es) n m
  /-- A changed line takes the pair of the place and moves on both sides. -/
  | changed {i j n m : Nat} {es : List Entry} (h : Path (i + 1) (j + 1) es n m) :
    Path i j (.changed i j :: es) n m
  /-- A removal takes the left index of the place and moves on the left side. -/
  | removed {i j n m : Nat} {es : List Entry} (h : Path (i + 1) j es n m) :
    Path i j (.removed i :: es) n m
  /-- An addition takes the right index of the place and moves on the right side. -/
  | added {i j n m : Nat} {es : List Entry} (h : Path i (j + 1) es n m) :
    Path i j (.added j :: es) n m

namespace Path

variable {i j k l n m : Nat} {es fs : List Entry}

/-- A path never moves back. -/
theorem le (h : Path i j es n m) : i ≤ n ∧ j ≤ m := by
  induction h with
  | nil => exact ⟨Nat.le_refl _, Nat.le_refl _⟩
  | unchanged _ ih | changed _ ih | removed _ ih | added _ ih => omega

/-- One path after another is a path. -/
theorem append (h : Path i j es k l) (h' : Path k l fs n m) : Path i j (es ++ fs) n m := by
  induction h with
  | nil => exact h'
  | unchanged _ ih => exact .unchanged (ih h')
  | changed _ ih => exact .changed (ih h')
  | removed _ ih => exact .removed (ih h')
  | added _ ih => exact .added (ih h')

/-- The left references along a path are the left indices that it passes. -/
theorem filterMap_left? (h : Path i j es n m) : es.filterMap left? = indicesFrom i n := by
  induction h with
  | nil => rw [indicesFrom_self, List.filterMap_nil]
  | unchanged h ih | changed h ih | removed h ih =>
    rw [List.filterMap_cons_some (by rfl), ih, ← indicesFrom_of_lt h.le.1]
  | added _ ih => rw [List.filterMap_cons_none (by rfl), ih]

/-- The right references along a path are the right indices that it passes. -/
theorem filterMap_right? (h : Path i j es n m) : es.filterMap right? = indicesFrom j m := by
  induction h with
  | nil => rw [indicesFrom_self, List.filterMap_nil]
  | unchanged h ih | changed h ih | added h ih =>
    rw [List.filterMap_cons_some (by rfl), ih, ← indicesFrom_of_lt h.le.2]
  | removed _ ih => rw [List.filterMap_cons_none (by rfl), ih]

/-- Every left step is an entry with a left line, so their counts add up to the way made. -/
theorem count_left (h : Path i j es n m) :
    i + es.countP (·.tag = .unchanged) + es.countP (·.tag = .changed) +
      es.countP (·.tag = .removed) = n := by
  induction h with
  | nil => rfl
  | unchanged _ ih | changed _ ih | removed _ ih | added _ ih =>
    simp only [List.countP_cons, tag_unchanged, tag_changed, tag_removed, tag_added, decide_true,
      reduceCtorEq, decide_false, if_true, Bool.false_eq_true, if_false]
    omega

/-- Every right step is an entry with a right line. -/
theorem count_right (h : Path i j es n m) :
    j + es.countP (·.tag = .unchanged) + es.countP (·.tag = .changed) +
      es.countP (·.tag = .added) = m := by
  induction h with
  | nil => rfl
  | unchanged _ ih | changed _ ih | removed _ ih | added _ ih =>
    simp only [List.countP_cons, tag_unchanged, tag_changed, tag_removed, tag_added, decide_true,
      reduceCtorEq, decide_false, if_true, Bool.false_eq_true, if_false]
    omega

end Path

/-- Entries whose references are the indices still to come on both sides make a path: the first
entry has to take its references off the front of the index lists. -/
theorem path_of_filterMap {es : List Entry} {i j n m : Nat} (hi : i ≤ n) (hj : j ≤ m)
    (hl : es.filterMap left? = indicesFrom i n) (hr : es.filterMap right? = indicesFrom j m) :
    Path i j es n m := by
  induction es generalizing i j with
  | nil =>
    obtain rfl := eq_of_indicesFrom_eq_nil hi hl.symm
    obtain rfl := eq_of_indicesFrom_eq_nil hj hr.symm
    exact .nil i j
  | cons e es ih =>
    cases e with
    | unchanged l r =>
      obtain ⟨rfl, hi', hl'⟩ := of_cons_eq_indicesFrom hi hl
      obtain ⟨rfl, hj', hr'⟩ := of_cons_eq_indicesFrom hj hr
      exact .unchanged (ih hi' hj' hl' hr')
    | changed l r =>
      obtain ⟨rfl, hi', hl'⟩ := of_cons_eq_indicesFrom hi hl
      obtain ⟨rfl, hj', hr'⟩ := of_cons_eq_indicesFrom hj hr
      exact .changed (ih hi' hj' hl' hr')
    | removed l =>
      obtain ⟨rfl, hi', hl'⟩ := of_cons_eq_indicesFrom hi hl
      exact .removed (ih hi' hj hl' hr)
    | added r =>
      obtain ⟨rfl, hj', hr'⟩ := of_cons_eq_indicesFrom hj hr
      exact .added (ih hi hj' hl hr')

end Entry

/-! ## What a diff rebuilds -/

/-- The item of a list that a reference means; none, if there is none. -/
def itemAt? {α : Type} (xs : List α) (x : Int) : Option α := if x < 0 then none else xs[x.toNat]?

section items

variable {α : Type} {xs : List α}

/-- An index in range has an item. -/
theorem itemAt?_of_lt {i : Nat} (h : i < xs.length) : itemAt? xs i = some xs[i] := by
  rw [itemAt?, if_neg (by omega), Int.toNat_natCast, List.getElem?_eq_getElem h]

/-- Only an index in range has an item. -/
theorem exists_of_itemAt?_eq_some {x : Int} {a : α} (h : itemAt? xs x = some a) :
    ∃ i : Nat, x = i ∧ xs[i]? = some a := by
  unfold itemAt? at h
  split at h
  · cases h
  · exact ⟨x.toNat, by omega, h⟩

/-- The items of a list are what its indices refer to, in order. -/
theorem filterMap_itemAt?_indicesFrom {i : Nat} (hi : i ≤ xs.length) :
    (indicesFrom i xs.length).filterMap (itemAt? xs) = xs.drop i := by
  induction hi using Nat.decreasingInduction with
  | self => rw [indicesFrom_self, List.filterMap_nil, List.drop_length]
  | of_succ i hi ih =>
    rw [indicesFrom_of_lt hi, List.filterMap_cons_some (itemAt?_of_lt hi), ih]
    exact List.getElem_cons_drop hi

/-- All indices of a list together refer to the whole list. -/
theorem filterMap_itemAt?_indices (xs : List α) :
    (indices xs.length).filterMap (itemAt? xs) = xs := by
  rw [indices_eq_indicesFrom, filterMap_itemAt?_indicesFrom (Nat.zero_le _), List.drop_zero]

end items

namespace Listing

/-- The line at an index in range. -/
theorem line?_of_lt {l : Listing} {i : Nat} (h : i < l.lines.length) :
    l.line? i = some l.lines[i] :=
  itemAt?_of_lt h

/-- Only an index in range has a line. -/
theorem exists_of_line?_eq_some {l : Listing} {x : Int} {line : Text}
    (h : l.line? x = some line) : ∃ i : Nat, x = i ∧ l.lines[i]? = some line :=
  exists_of_itemAt?_eq_some h

end Listing

namespace Diff

/-- The entries of a diff are a path through both listings. -/
theorem path (d : Diff) : Entry.Path 0 0 d.entries d.left.size d.right.size := by
  apply Entry.path_of_filterMap (Nat.zero_le _) (Nat.zero_le _)
  · rw [d.left_rebuilt, indices_eq_indicesFrom]
  · rw [d.right_rebuilt, indices_eq_indicesFrom]

/-- A diff of two listings with some entries is what the check of these entries accepts. -/
theorem ofEntries_eq_ok_iff {left right : Listing} {es : List Entry} {d : Diff} :
    ofEntries left right es = .ok d ↔ d.left = left ∧ d.right = right ∧ d.entries = es := by
  unfold ofEntries
  constructor
  · intro h
    split at h
    · split at h
      · cases h
        exact ⟨rfl, rfl, rfl⟩
      · cases h
    · cases h
  · rintro ⟨rfl, rfl, rfl⟩
    rw [dif_pos d.left_rebuilt, dif_pos d.right_rebuilt]

/-- The check accepts the monotone paths. -/
theorem exists_ofEntries_eq_ok_iff {left right : Listing} {es : List Entry} :
    (∃ d, ofEntries left right es = .ok d) ↔ Entry.Path 0 0 es left.size right.size := by
  constructor
  · rintro ⟨d, h⟩
    obtain ⟨rfl, rfl, rfl⟩ := ofEntries_eq_ok_iff.1 h
    exact d.path
  · intro h
    refine ⟨⟨left, right, es, ?_, ?_⟩, ofEntries_eq_ok_iff.2 ⟨rfl, rfl, rfl⟩⟩
    · rw [h.filterMap_left?, indices_eq_indicesFrom]
    · rw [h.filterMap_right?, indices_eq_indicesFrom]

/-- What the check refuses it refuses as a broken diff. -/
theorem category?_of_ofEntries_eq_error {left right : Listing} {es : List Entry} {f : Failure}
    (h : ofEntries left right es = .error f) : f.category? = some .brokenDiff := by
  unfold ofEntries at h
  split at h
  · split at h <;> cases h
    rfl
  · cases h
    rfl

/-- A diff rebuilds its left listing. -/
theorem leftLines_eq (d : Diff) : d.leftLines = d.left.lines := by
  rw [leftLines, ← List.filterMap_filterMap, d.left_rebuilt]
  exact filterMap_itemAt?_indices d.left.lines

/-- A diff rebuilds its right listing. -/
theorem rightLines_eq (d : Diff) : d.rightLines = d.right.lines := by
  rw [rightLines, ← List.filterMap_filterMap, d.right_rebuilt]
  exact filterMap_itemAt?_indices d.right.lines

/-- The left references of a diff climb. -/
theorem pairwise_left? (d : Diff) : (d.entries.filterMap Entry.left?).Pairwise (· < ·) := by
  rw [d.left_rebuilt]
  exact pairwise_indices _

/-- The right references of a diff climb. -/
theorem pairwise_right? (d : Diff) : (d.entries.filterMap Entry.right?).Pairwise (· < ·) := by
  rw [d.right_rebuilt]
  exact pairwise_indices _

/-- The left references of a diff are indices of left lines. -/
theorem left?_inRange (d : Diff) {e : Entry} {l : Int} (he : e ∈ d.entries)
    (hl : e.left? = some l) : 0 ≤ l ∧ l < d.left.size := by
  apply inRange_of_mem_indices
  rw [← d.left_rebuilt]
  exact List.mem_filterMap.2 ⟨e, he, hl⟩

/-- The right references of a diff are indices of right lines. -/
theorem right?_inRange (d : Diff) {e : Entry} {r : Int} (he : e ∈ d.entries)
    (hr : e.right? = some r) : 0 ≤ r ∧ r < d.right.size := by
  apply inRange_of_mem_indices
  rw [← d.right_rebuilt]
  exact List.mem_filterMap.2 ⟨e, he, hr⟩

/-- The left references of a diff refer to lines. -/
theorem exists_left_line? (d : Diff) {e : Entry} {l : Int} (he : e ∈ d.entries)
    (hl : e.left? = some l) : ∃ x, d.left.line? l = some x := by
  obtain ⟨h0, h1⟩ := d.left?_inRange he hl
  obtain ⟨i, rfl⟩ := Int.eq_ofNat_of_zero_le h0
  exact ⟨_, Listing.line?_of_lt (Int.ofNat_lt.1 h1)⟩

/-- The right references of a diff refer to lines. -/
theorem exists_right_line? (d : Diff) {e : Entry} {r : Int} (he : e ∈ d.entries)
    (hr : e.right? = some r) : ∃ y, d.right.line? r = some y := by
  obtain ⟨h0, h1⟩ := d.right?_inRange he hr
  obtain ⟨j, rfl⟩ := Int.eq_ofNat_of_zero_le h0
  exact ⟨_, Listing.line?_of_lt (Int.ofNat_lt.1 h1)⟩

/-- Every left line is kept, changed or removed. -/
theorem count_left (d : Diff) :
    d.count .unchanged + d.count .changed + d.count .removed = d.left.size := by
  have h := d.path.count_left
  rwa [Nat.zero_add] at h

/-- Every right line is kept, changed or added. -/
theorem count_right (d : Diff) :
    d.count .unchanged + d.count .changed + d.count .added = d.right.size := by
  have h := d.path.count_right
  rwa [Nat.zero_add] at h

/-- A diff has no changes exactly when it keeps every line of both listings. -/
theorem hasChanges_eq_false_iff (d : Diff) :
    d.hasChanges = false ↔
      d.count .unchanged = d.left.size ∧ d.count .unchanged = d.right.size := by
  have hleft := d.count_left
  have hright := d.count_right
  have hkept : d.hasChanges = false ↔ ∀ e ∈ d.entries, e.tag = .unchanged := by
    simp [hasChanges]
  have hnone : ∀ t : Tag, d.count t = 0 ↔ ∀ e ∈ d.entries, e.tag ≠ t := by
    intro t
    simp [count, List.countP_eq_zero]
  rw [hkept]
  constructor
  · intro h
    have hzero : ∀ t : Tag, t ≠ .unchanged → d.count t = 0 := by
      intro t ht
      rw [hnone]
      intro e he heq
      exact ht (heq ▸ h e he)
    have hchanged := hzero .changed Tag.noConfusion
    have hremoved := hzero .removed Tag.noConfusion
    have hadded := hzero .added Tag.noConfusion
    omega
  · rintro ⟨hl, hr⟩ e he
    cases htag : e.tag with
    | unchanged => rfl
    | removed => exact absurd htag ((hnone .removed).1 (by omega) e he)
    | added => exact absurd htag ((hnone .added).1 (by omega) e he)
    | changed => exact absurd htag ((hnone .changed).1 (by omega) e he)

/-- **Diffs are the monotone paths.** Entries are accepted exactly when they lead from the origin to
the ends of both listings, and are refused as a broken diff otherwise. Every accepted diff, one with
replaced entries included, rebuilds both listings, refers to existing lines only, and counts each
line of either side once. -/
theorem ofEntries_iff_path (left right : Listing) (es : List Entry) :
    ((∃ d, ofEntries left right es = .ok d) ↔ Entry.Path 0 0 es left.size right.size) ∧
    (∀ f, ofEntries left right es = .error f → f.category? = some .brokenDiff) ∧
    ∀ d : Diff,
      (ofEntries left right es = .ok d ∨
        ∃ d₀ : Diff, d₀.left = left ∧ d₀.right = right ∧ d₀.withEntries es = .ok d) →
      d.entries = es ∧ d.leftLines = left.lines ∧ d.rightLines = right.lines ∧
      (∀ e ∈ es, ∀ l, e.left? = some l → 0 ≤ l ∧ l < left.size) ∧
      (∀ e ∈ es, ∀ r, e.right? = some r → 0 ≤ r ∧ r < right.size) ∧
      ∃ unchanged removed added changed,
        d.stats = [(.unchanged, unchanged), (.removed, removed), (.added, added),
          (.changed, changed)] ∧
        unchanged + changed + removed = left.size ∧ unchanged + changed + added = right.size := by
  refine ⟨exists_ofEntries_eq_ok_iff, fun f => category?_of_ofEntries_eq_error, ?_⟩
  intro d hd
  have hd : ofEntries left right es = .ok d := by
    rcases hd with hd | ⟨d₀, rfl, rfl, hd⟩
    · exact hd
    · exact hd
  obtain ⟨rfl, rfl, rfl⟩ := ofEntries_eq_ok_iff.1 hd
  refine ⟨rfl, d.leftLines_eq, d.rightLines_eq, fun e he l => d.left?_inRange he,
    fun e he r => d.right?_inRange he, d.count .unchanged, d.count .removed, d.count .added,
    d.count .changed, rfl, d.count_left, d.count_right⟩

/-- A diff whose addition stands before its removal. -/
theorem ofEntries_iff_path_added_first :
    ∃ d : Diff,
      ofEntries (.plain [['a'], ['b']] (by decide)) (.plain [['b'], ['c'], ['d']] (by decide))
        [.added 0, .removed 0, .changed 1 1, .added 2] = .ok d ∧
      d.leftLines = [['a'], ['b']] ∧ d.rightLines = [['b'], ['c'], ['d']] := by
  obtain ⟨hpath, -, haccepted⟩ := ofEntries_iff_path (.plain [['a'], ['b']] (by decide))
    (.plain [['b'], ['c'], ['d']] (by decide)) [.added 0, .removed 0, .changed 1 1, .added 2]
  obtain ⟨d, hd⟩ := hpath.2 (.added (.removed (.changed (.added (.nil 2 3)))))
  obtain ⟨-, hleft, hright, -⟩ := haccepted d (.inl hd)
  exact ⟨d, hd, hleft, hright⟩

end Diff

end Collate
