import Mathlib.Data.List.Infix
import Collate.Proofs.Alignment.Longest

/-!
# The alignment finds a longest common subsequence

The alignment works in three stages: what both lists start with, a walk through a table for the
middle, and what both lists end with. `exists_trim` puts these together once: it cuts both lists
into the shared start, the two middles and the shared end, and gives the matches of each stage at
their places.

* The table holds `longest` of every pair of suffixes (`suffixTable_eq`), so a walk that compares
  two of its numbers takes the side that loses nothing (`length_walk`).
* The matches of each stage climb on both sides and join equal items (`IsMatching`); a shared start
  and a shared end keep it that way (`IsMatching.append_left`, `IsMatching.append_right`).

Main statements: the matches are a matching (`isMatching_commonSubsequence`) with as many pairs as a
longest common subsequence has items (`length_commonSubsequence`). Together they say that no
matching is longer and that trimming costs no match (`commonSubsequence_isLongest`).
-/

namespace Collate.Alignment

variable {α : Type}

/-! ## Matchings -/

/-- Pairs of indices that climb on both sides and refer to equal items. -/
structure IsMatching (as bs : List α) (ps : List (Nat × Nat)) : Prop where
  /-- Both indices of a pair lie after those of every pair before it. -/
  climbs : ps.Pairwise fun p q => p.1 < q.1 ∧ p.2 < q.2
  /-- The indices of a pair refer to the same item. -/
  equal : ∀ p ∈ ps, ∃ x, as[p.1]? = some x ∧ bs[p.2]? = some x

/-- The indices of a pair are in range. -/
theorem IsMatching.inRange {as bs : List α} {ps : List (Nat × Nat)} (h : IsMatching as bs ps)
    {p : Nat × Nat} (hp : p ∈ ps) : p.1 < as.length ∧ p.2 < bs.length := by
  obtain ⟨x, ha, hb⟩ := h.equal p hp
  exact ⟨(List.getElem?_eq_some_iff.1 ha).1, (List.getElem?_eq_some_iff.1 hb).1⟩

@[simp] theorem length_stretch (i j n : Nat) : (stretch i j n).length = n := by
  rw [stretch, List.length_map, List.length_range]

theorem mem_stretch {i j n : Nat} {p : Nat × Nat} :
    p ∈ stretch i j n ↔ ∃ k < n, (i + k, j + k) = p := by
  simp [stretch]

/-- A stretch climbs. -/
theorem pairwise_stretch (i j n : Nat) :
    (stretch i j n).Pairwise fun p q => p.1 < q.1 ∧ p.2 < q.2 := by
  rw [stretch, List.pairwise_map]
  exact List.pairwise_lt_range.imp fun h => ⟨Nat.add_lt_add_left h i, Nat.add_lt_add_left h j⟩

@[simp] theorem length_shift (k : Nat) (ps : List (Nat × Nat)) :
    (shift k ps).length = ps.length := List.length_map _

theorem mem_shift {k : Nat} {ps : List (Nat × Nat)} {p : Nat × Nat} :
    p ∈ shift k ps ↔ ∃ q ∈ ps, (k + q.1, k + q.2) = p := by
  simp [shift]

/-- Moving matches keeps them climbing. -/
theorem pairwise_shift {k : Nat} {ps : List (Nat × Nat)}
    (h : ps.Pairwise fun p q => p.1 < q.1 ∧ p.2 < q.2) :
    (shift k ps).Pairwise fun p q => p.1 < q.1 ∧ p.2 < q.2 := by
  rw [shift, List.pairwise_map]
  exact h.imp fun h => ⟨Nat.add_lt_add_left h.1 k, Nat.add_lt_add_left h.2 k⟩

namespace IsMatching

variable {as bs : List α} {ps : List (Nat × Nat)}

/-- A shared start is matched item by item, and what is matched after it moves on by its length. -/
theorem append_left (h : IsMatching as bs ps) (p : List α) :
    IsMatching (p ++ as) (p ++ bs) (stretch 0 0 p.length ++ shift p.length ps) where
  climbs := by
    refine List.pairwise_append.2 ⟨pairwise_stretch _ _ _, pairwise_shift h.climbs, ?_⟩
    rintro x hx y hy
    obtain ⟨k, hk, rfl⟩ := mem_stretch.1 hx
    obtain ⟨q, -, rfl⟩ := mem_shift.1 hy
    constructor <;> simp only <;> omega
  equal := by
    intro x hx
    rcases List.mem_append.1 hx with hx | hx
    · obtain ⟨k, hk, rfl⟩ := mem_stretch.1 hx
      refine ⟨p[k], ?_, ?_⟩ <;> simp [List.getElem?_append_left hk]
    · obtain ⟨q, hq, rfl⟩ := mem_shift.1 hx
      obtain ⟨y, ha, hb⟩ := h.equal q hq
      refine ⟨y, ?_, ?_⟩
      · rwa [List.getElem?_append_right (Nat.le_add_right _ _), Nat.add_sub_cancel_left]
      · rwa [List.getElem?_append_right (Nat.le_add_right _ _), Nat.add_sub_cancel_left]

/-- A shared end is matched item by item, after everything else. -/
theorem append_right (h : IsMatching as bs ps) (s : List α) :
    IsMatching (as ++ s) (bs ++ s) (ps ++ stretch as.length bs.length s.length) where
  climbs := by
    refine List.pairwise_append.2 ⟨h.climbs, pairwise_stretch _ _ _, ?_⟩
    rintro x hx y hy
    obtain ⟨k, hk, rfl⟩ := mem_stretch.1 hy
    have hrange := h.inRange hx
    constructor <;> simp only <;> omega
  equal := by
    intro x hx
    rcases List.mem_append.1 hx with hx | hx
    · obtain ⟨y, ha, hb⟩ := h.equal x hx
      have hrange := h.inRange hx
      refine ⟨y, ?_, ?_⟩
      · rwa [List.getElem?_append_left hrange.1]
      · rwa [List.getElem?_append_left hrange.2]
    · obtain ⟨k, hk, rfl⟩ := mem_stretch.1 hx
      refine ⟨s[k], ?_, ?_⟩ <;> simp [List.getElem?_append_right]

end IsMatching

/-- One item further on in a suffix. -/
theorem drop_succ_eq_of_drop_eq_cons {bs₀ bs : List α} {b : α} {j : Nat}
    (h : bs₀.drop j = b :: bs) : bs₀.drop (j + 1) = bs := by
  rw [← List.drop_drop, h, List.drop_one, List.tail_cons]

variable [DecidableEq α]

/-- Matches from a place on are no more than a longest common subsequence of the lists from there on
has items: the first match uses up an item of both. -/
theorem length_le_longest_drop {as bs : List α} {ps : List (Nat × Nat)} {i j : Nat}
    (h : IsMatching as bs ps) (hfrom : ∀ p ∈ ps, i ≤ p.1 ∧ j ≤ p.2) :
    ps.length ≤ longest (as.drop i) (bs.drop j) := by
  induction ps generalizing i j with
  | nil => exact Nat.zero_le _
  | cons p ps ih =>
    obtain ⟨hnext, hclimbs⟩ := List.pairwise_cons.1 h.climbs
    obtain ⟨hi, hj⟩ := hfrom p List.mem_cons_self
    have hrest := ih ⟨hclimbs, fun q hq => h.equal q (List.mem_cons_of_mem _ hq)⟩ hnext
    obtain ⟨x, ha, hb⟩ := h.equal p List.mem_cons_self
    obtain ⟨ha', hax⟩ := List.getElem?_eq_some_iff.1 ha
    obtain ⟨hb', hbx⟩ := List.getElem?_eq_some_iff.1 hb
    calc ps.length + 1
        ≤ longest (as.drop (p.1 + 1)) (bs.drop (p.2 + 1)) + 1 := Nat.succ_le_succ hrest
      _ = longest (as.drop p.1) (bs.drop p.2) := by
        rw [List.drop_eq_getElem_cons ha', List.drop_eq_getElem_cons hb', hax, hbx,
          longest_cons_self]
      _ ≤ longest (as.drop i) (bs.drop j) :=
        longest_mono (List.drop_sublist_drop_left as hi) (List.drop_sublist_drop_left bs hj)

/-- No matching is longer than a longest common subsequence. -/
theorem IsMatching.length_le_longest {as bs : List α} {ps : List (Nat × Nat)}
    (h : IsMatching as bs ps) : ps.length ≤ longest as bs :=
  length_le_longest_drop h fun _ _ => ⟨Nat.zero_le _, Nat.zero_le _⟩

/-! ## The table -/

/-- The row of a list: what `longest` gives for it and each suffix of the second list. -/
def lengths (as bs : List α) : List Nat := bs.tails.map (longest as)

theorem lengths_nil (as : List α) : lengths as [] = [0] := by
  rw [lengths, List.tails, List.map_singleton, longest_nil_right]

theorem lengths_cons (as : List α) (b : α) (bs : List α) :
    lengths as (b :: bs) = longest as (b :: bs) :: lengths as bs := by
  rw [lengths, List.tails, List.map_cons, lengths]

/-- A row starts with the number for the whole second list. -/
theorem headD_lengths (as bs : List α) : (lengths as bs).headD 0 = longest as bs := by
  cases bs with
  | nil => rw [lengths_nil, longest_nil_right, List.headD_cons]
  | cons b bs => rw [lengths_cons, List.headD_cons]

/-- Place `j` of a row belongs to the suffix after `j` items. -/
theorem getD_lengths (as bs : List α) (j : Nat) :
    (lengths as bs).getD j 0 = longest as (bs.drop j) := by
  induction bs generalizing j with
  | nil => cases j <;> simp [lengths_nil]
  | cons b bs ih =>
    cases j with
    | zero => rw [lengths_cons, List.getD_cons_zero, List.drop_zero]
    | succ j => rw [lengths_cons, List.getD_cons_succ, ih, List.drop_succ_cons]

/-- The row of a list is filled from the row of the list after its first item. -/
theorem suffixRow_lengths (a : α) (as bs : List α) :
    suffixRow a bs (lengths as bs) = lengths (a :: as) bs := by
  induction bs with
  | nil => rw [lengths_nil, lengths_nil, suffixRow]; simp
  | cons b bs ih =>
    rw [lengths_cons, lengths_cons, suffixRow, ih, headD_lengths, headD_lengths]
    by_cases h : a = b
    · subst h
      rw [if_pos rfl, longest_cons_self]
    · rw [if_neg h, longest_cons_of_ne h]

/-- The first row of the table is that of the whole list. -/
theorem headD_suffixTable (bs as : List α) : (suffixTable bs as).headD [] = lengths as bs := by
  induction as with
  | nil =>
    rw [suffixTable, List.headD_cons, eq_comm, List.eq_replicate_iff]
    refine ⟨by rw [lengths, List.length_map, List.length_tails], ?_⟩
    intro n hn
    obtain ⟨s, -, rfl⟩ := List.mem_map.1 hn
    exact longest_nil_left s
  | cons a as ih => rw [suffixTable, List.headD_cons, ih, suffixRow_lengths]

/-- Place `j` of the first row belongs to the whole list and the suffix after `j` items. -/
theorem getD_headD_suffixTable (bs as : List α) (j : Nat) :
    ((suffixTable bs as).headD []).getD j 0 = longest as (bs.drop j) := by
  rw [headD_suffixTable, getD_lengths]

/-! ## The walk -/

/-- The walk makes as many matches as a longest common subsequence has items. Where two items
differ, the table tells on which side an item can be left out. -/
theorem length_walk {bs₀ : List α} {i j : Nat} {as bs : List α} {rows : List (List Nat)}
    (hbs : bs₀.drop j = bs) (hrows : suffixTable bs₀ as = rows) :
    (walk i j as bs rows).length = longest as bs := by
  fun_induction walk i j as bs rows with
  | case1 i j as b bs rows ih =>
    have htail : suffixTable bs₀ as = rows.tail := by rw [← hrows]; rfl
    rw [List.length_cons, longest_cons_self, ih (drop_succ_eq_of_drop_eq_cons hbs) htail]
  | case2 i j a as b bs rows hne hle ih =>
    have htail : suffixTable bs₀ as = rows.tail := by rw [← hrows]; rfl
    rw [← htail, ← hrows, getD_headD_suffixTable, getD_headD_suffixTable, hbs,
      drop_succ_eq_of_drop_eq_cons hbs] at hle
    rw [ih hbs htail, longest_cons_of_ne hne, Nat.max_eq_left hle]
  | case3 i j a as b bs rows hne hlt ih =>
    have htail : suffixTable bs₀ as = rows.tail := by rw [← hrows]; rfl
    rw [← htail, ← hrows, getD_headD_suffixTable, getD_headD_suffixTable, hbs,
      drop_succ_eq_of_drop_eq_cons hbs] at hlt
    rw [ih (drop_succ_eq_of_drop_eq_cons hbs) hrows, longest_cons_of_ne hne,
      Nat.max_eq_right (Nat.le_of_not_le hlt)]
  | case4 i j as bs rows hempty =>
    rw [longest, List.length_nil]
    exact hempty

/-- The walk goes on from its place. -/
theorem le_of_mem_walk {i j : Nat} {as bs : List α} {rows : List (List Nat)} {p : Nat × Nat}
    (hp : p ∈ walk i j as bs rows) : i ≤ p.1 ∧ j ≤ p.2 := by
  fun_induction walk i j as bs rows with
  | case1 i j as b bs rows ih =>
    rcases List.mem_cons.1 hp with rfl | hp
    · exact ⟨Nat.le_refl _, Nat.le_refl _⟩
    · have h := ih hp
      omega
  | case2 i j a as b bs rows hne hle ih =>
    have h := ih hp
    omega
  | case3 i j a as b bs rows hne hlt ih =>
    have h := ih hp
    omega
  | case4 i j as bs rows hempty => exact absurd hp List.not_mem_nil

/-- The walk makes a matching, whatever the table says. -/
theorem isMatching_walk {as₀ bs₀ : List α} {i j : Nat} {as bs : List α} {rows : List (List Nat)}
    (has : as₀.drop i = as) (hbs : bs₀.drop j = bs) :
    IsMatching as₀ bs₀ (walk i j as bs rows) := by
  fun_induction walk i j as bs rows with
  | case1 i j as b bs rows ih =>
    have hrest := ih (drop_succ_eq_of_drop_eq_cons has) (drop_succ_eq_of_drop_eq_cons hbs)
    constructor
    · refine List.pairwise_cons.2 ⟨fun q hq => ?_, hrest.climbs⟩
      exact le_of_mem_walk hq
    · intro p hp
      rcases List.mem_cons.1 hp with rfl | hp
      · refine ⟨b, ?_, ?_⟩
        · rw [← List.head?_drop, has, List.head?_cons]
        · rw [← List.head?_drop, hbs, List.head?_cons]
      · exact hrest.equal p hp
  | case2 i j a as b bs rows hne hle ih => exact ih (drop_succ_eq_of_drop_eq_cons has) hbs
  | case3 i j a as b bs rows hne hlt ih => exact ih has (drop_succ_eq_of_drop_eq_cons hbs)
  | case4 i j as bs rows hempty => exact ⟨List.Pairwise.nil, fun p hp => absurd hp List.not_mem_nil⟩

/-! ## The three stages together -/

/-- The common lead of two lists cuts both at its length. -/
theorem exists_commonLead (as bs : List α) :
    ∃ p x y, as = p ++ x ∧ bs = p ++ y ∧ commonLead as bs = p.length := by
  fun_induction commonLead as bs with
  | case1 as b bs ih =>
    obtain ⟨p, x, y, rfl, rfl, h⟩ := ih
    exact ⟨b :: p, x, y, rfl, rfl, by rw [h, List.length_cons]⟩
  | case2 a as b bs hne => exact ⟨[], a :: as, b :: bs, rfl, rfl, rfl⟩
  | case3 as bs hempty => exact ⟨[], as, bs, rfl, rfl, rfl⟩

/-- Both lists are a shared start, a middle and a shared end; the matches are those of the start, of
the walk through the middles, and of the end, each at its place. -/
theorem exists_trim (as bs : List α) :
    ∃ p x y s, as = p ++ x ++ s ∧ bs = p ++ y ++ s ∧
      commonSubsequence as bs = stretch 0 0 p.length ++
        shift p.length (walk 0 0 x y (suffixTable y x)) ++
        stretch (p ++ x).length (p ++ y).length s.length := by
  obtain ⟨p, x', y', rfl, rfl, hlead⟩ := exists_commonLead as bs
  obtain ⟨q, u, v, hx, hy, htrail⟩ := exists_commonLead x'.reverse y'.reverse
  obtain rfl : x' = u.reverse ++ q.reverse := by
    rw [← List.reverse_append, ← hx, List.reverse_reverse]
  obtain rfl : y' = v.reverse ++ q.reverse := by
    rw [← List.reverse_append, ← hy, List.reverse_reverse]
  refine ⟨p, u.reverse, v.reverse, q.reverse, by rw [List.append_assoc],
    by rw [List.append_assoc], ?_⟩
  have hmiddle : ∀ t : List α, (t ++ q.reverse).take ((t ++ q.reverse).length - q.length) = t := by
    intro t
    rw [List.length_append, List.length_reverse, Nat.add_sub_cancel, List.take_left]
  have hend : ∀ t : List α, (p ++ (t ++ q.reverse)).length - q.length = (p ++ t).length := by
    intro t
    simp only [List.length_append, List.length_reverse]
    omega
  simp only [commonSubsequence, hlead, List.drop_left, htrail, hmiddle, hend, List.length_reverse]

/-- The matches make a matching of the whole lists. -/
theorem isMatching_commonSubsequence (as bs : List α) :
    IsMatching as bs (commonSubsequence as bs) := by
  obtain ⟨p, x, y, s, rfl, rfl, h⟩ := exists_trim as bs
  have hwalk : IsMatching x y (walk 0 0 x y (suffixTable y x)) := isMatching_walk rfl rfl
  rw [h]
  exact (hwalk.append_left p).append_right s

/-- There are as many matches as a longest common subsequence has items: trimming costs none. -/
theorem length_commonSubsequence (as bs : List α) :
    (commonSubsequence as bs).length = longest as bs := by
  obtain ⟨p, x, y, s, rfl, rfl, h⟩ := exists_trim as bs
  have hwalk : (walk 0 0 x y (suffixTable y x)).length = longest x y := length_walk rfl rfl
  rw [h, longest_append_right, longest_append_left, List.length_append, List.length_append,
    length_stretch, length_stretch, length_shift, hwalk]

/-- A walk through the table of the whole lists makes no more matches. -/
theorem length_walk_suffixTable (as bs : List α) :
    (walk 0 0 as bs (suffixTable bs as)).length = (commonSubsequence as bs).length := by
  rw [length_walk List.drop_zero rfl, length_commonSubsequence]

/-- What two lists start and end with in common is matched in full, also where items of it come back
in the middle. -/
theorem length_commonSubsequence_append (p as bs s : List α) :
    (commonSubsequence (p ++ as ++ s) (p ++ bs ++ s)).length =
      p.length + (commonSubsequence as bs).length + s.length := by
  rw [length_commonSubsequence, length_commonSubsequence, longest_append_right, longest_append_left]

/-- **The matches are a longest common subsequence.** They are in range, climb on both sides and
join equal items, and no other such pairs are more. Their number is the greatest length of a common
subsequence of the whole lists, the one that an untrimmed table leads to as well: what both lists
start or end with can be left out of the table, as much of it as one likes. -/
theorem commonSubsequence_isLongest (as bs : List α) :
    IsMatching as bs (commonSubsequence as bs) ∧
    (∀ p ∈ commonSubsequence as bs, p.1 < as.length ∧ p.2 < bs.length) ∧
    (∀ ps, IsMatching as bs ps → ps.length ≤ (commonSubsequence as bs).length) ∧
    IsGreatest (commonLengths as bs) (commonSubsequence as bs).length ∧
    (walk 0 0 as bs (suffixTable bs as)).length = (commonSubsequence as bs).length ∧
    ∀ p x y s, as = p ++ x ++ s → bs = p ++ y ++ s →
      (commonSubsequence as bs).length = p.length + (commonSubsequence x y).length + s.length := by
  have hmatching := isMatching_commonSubsequence as bs
  refine ⟨hmatching, fun _ => hmatching.inRange, ?_, ?_, length_walk_suffixTable as bs, ?_⟩
  · intro ps hps
    rw [length_commonSubsequence]
    exact hps.length_le_longest
  · rw [length_commonSubsequence]
    exact isGreatest_longest as bs
  · rintro p x y s rfl rfl
    exact length_commonSubsequence_append p x y s

/-- Four matches are the most that these lists have, however their repeated items are paired. -/
theorem commonSubsequence_isLongest_repeated :
    let as := "abcabba".toList
    let bs := "cbabac".toList
    (commonSubsequence as bs).length = 4 ∧ ∀ ps, IsMatching as bs ps → ps.length ≤ 4 := by
  intro as bs
  have hlength : (commonSubsequence as bs).length = 4 := by decide +kernel
  obtain ⟨-, -, hlongest, -⟩ := commonSubsequence_isLongest as bs
  exact ⟨hlength, fun ps hps => hlength ▸ hlongest ps hps⟩

end Collate.Alignment
