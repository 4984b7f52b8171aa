import Mathlib.Order.Bounds.Defs
import Collate.Diff.Alignment

/-!
# The length of a longest common subsequence

What the alignment has to reach, stated without its table. `longest` is the textbook recursion on
the first items of both lists; `isGreatest_longest` says that it is the greatest length that a
subsequence of both lists can have. What trimming needs is read off that statement: the length does
not depend on the direction in which the lists are read (`longest_reverse`), and what both lists
start or end with counts in full (`longest_append_left`, `longest_append_right`).
-/

namespace Collate.Alignment

variable {α : Type}

/-- The lengths that a subsequence of both lists can have. -/
def commonLengths (as bs : List α) : Set Nat :=
  { n | ∃ s : List α, s.Sublist as ∧ s.Sublist bs ∧ s.length = n }

/-- A subsequence of both lists, read backwards, is one of both lists read backwards. -/
theorem commonLengths_reverse (as bs : List α) :
    commonLengths as.reverse bs.reverse = commonLengths as bs := by
  apply Set.ext
  intro n
  constructor
  · rintro ⟨s, ha, hb, hn⟩
    refine ⟨s.reverse, ?_, ?_, by rw [List.length_reverse, hn]⟩
    · simpa using ha.reverse
    · simpa using hb.reverse
  · rintro ⟨s, ha, hb, hn⟩
    exact ⟨s.reverse, ha.reverse, hb.reverse, by rw [List.length_reverse, hn]⟩

variable [DecidableEq α]

/-- The length of a longest common subsequence: equal first items belong to one, and of different
ones at least one is left out. -/
def longest : List α → List α → Nat
  | a :: as, b :: bs =>
    if a = b then longest as bs + 1 else max (longest as (b :: bs)) (longest (a :: as) bs)
  | _, _ => 0
  termination_by as bs => as.length + bs.length

@[simp] theorem longest_nil_left (bs : List α) : longest [] bs = 0 := by
  rw [longest]
  rintro a as b bs ⟨⟩

@[simp] theorem longest_nil_right (as : List α) : longest as [] = 0 := by
  rw [longest]
  rintro a as' b bs _ ⟨⟩

theorem longest_cons_self (a : α) (as bs : List α) :
    longest (a :: as) (a :: bs) = longest as bs + 1 := by
  rw [longest, if_pos rfl]

theorem longest_cons_of_ne {a b : α} (h : a ≠ b) (as bs : List α) :
    longest (a :: as) (b :: bs) = max (longest as (b :: bs)) (longest (a :: as) bs) := by
  rw [longest, if_neg h]

/-- The length is reached. -/
theorem longest_mem_commonLengths (as bs : List α) : longest as bs ∈ commonLengths as bs := by
  fun_induction longest as bs with
  | case1 as b bs ih =>
    obtain ⟨s, ha, hb, hn⟩ := ih
    exact ⟨b :: s, ha.cons_cons b, hb.cons_cons b, by rw [List.length_cons, hn]⟩
  | case2 a as b bs hne ihl ihr =>
    rcases Nat.le_total (longest (a :: as) bs) (longest as (b :: bs)) with hle | hle
    · obtain ⟨s, ha, hb, hn⟩ := ihl
      exact ⟨s, ha.cons a, hb, by rw [hn, Nat.max_eq_left hle]⟩
    · obtain ⟨s, ha, hb, hn⟩ := ihr
      exact ⟨s, ha, hb.cons b, by rw [hn, Nat.max_eq_right hle]⟩
  | case3 as bs _ => exact ⟨[], List.nil_sublist _, List.nil_sublist _, rfl⟩

/-- No common subsequence is longer. -/
theorem length_le_longest {as bs s : List α} (ha : s.Sublist as) (hb : s.Sublist bs) :
    s.length ≤ longest as bs := by
  fun_induction longest as bs generalizing s with
  | case1 as b bs ih =>
    cases s with
    | nil => exact Nat.zero_le _
    | cons x s => exact Nat.succ_le_succ (ih ha.of_cons_cons hb.of_cons_cons)
  | case2 a as b bs hne ihl ihr =>
    rcases List.sublist_cons_iff.1 ha with ha' | ⟨s', rfl, -⟩
    · exact Nat.le_trans (ihl ha' hb) (Nat.le_max_left _ _)
    · -- the subsequence starts with `a`, so it leaves out `b`
      rcases List.sublist_cons_iff.1 hb with hb' | ⟨s'', heq, -⟩
      · exact Nat.le_trans (ihr ha hb') (Nat.le_max_right _ _)
      · cases heq
        exact absurd rfl hne
  | case3 as bs hempty =>
    cases as with
    | nil => exact ha.length_le
    | cons a as =>
      cases bs with
      | nil => exact hb.length_le
      | cons b bs => exact absurd rfl (hempty a as b bs rfl)

/-- `longest` is the greatest length of a common subsequence. -/
theorem isGreatest_longest (as bs : List α) : IsGreatest (commonLengths as bs) (longest as bs) := by
  refine ⟨longest_mem_commonLengths as bs, ?_⟩
  rintro n ⟨s, ha, hb, rfl⟩
  exact length_le_longest ha hb

/-- Longer lists have no shorter longest common subsequence. -/
theorem longest_mono {as as' bs bs' : List α} (ha : as.Sublist as') (hb : bs.Sublist bs') :
    longest as bs ≤ longest as' bs' := by
  obtain ⟨s, hsa, hsb, hs⟩ := longest_mem_commonLengths as bs
  rw [← hs]
  exact length_le_longest (hsa.trans ha) (hsb.trans hb)

/-- Only equal lists have a common subsequence as long as both. -/
theorem longest_eq_length_iff (as bs : List α) :
    longest as bs = as.length ∧ longest as bs = bs.length ↔ as = bs := by
  constructor
  · rintro ⟨hleft, hright⟩
    obtain ⟨s, ha, hb, hs⟩ := longest_mem_commonLengths as bs
    rw [← ha.eq_of_length (hs.trans hleft), ← hb.eq_of_length (hs.trans hright)]
  · rintro rfl
    have hle := length_le_longest (List.Sublist.refl as) (List.Sublist.refl as)
    obtain ⟨s, ha, -, hs⟩ := longest_mem_commonLengths as as
    have hge := ha.length_le
    omega

/-- Reading both lists backwards changes nothing. -/
theorem longest_reverse (as bs : List α) : longest as.reverse bs.reverse = longest as bs := by
  have h := isGreatest_longest as.reverse bs.reverse
  rw [commonLengths_reverse] at h
  exact Nat.le_antisymm ((isGreatest_longest as bs).2 h.1) (h.2 (isGreatest_longest as bs).1)

/-- What both lists start with counts in full. -/
theorem longest_append_left (p as bs : List α) :
    longest (p ++ as) (p ++ bs) = p.length + longest as bs := by
  induction p with
  | nil => rw [List.nil_append, List.nil_append, List.length_nil, Nat.zero_add]
  | cons x p ih =>
    rw [List.cons_append, List.cons_append, longest_cons_self, ih, List.length_cons]
    omega

/-- What both lists end with counts in full. -/
theorem longest_append_right (as bs s : List α) :
    longest (as ++ s) (bs ++ s) = longest as bs + s.length := by
  rw [← longest_reverse, List.reverse_append, List.reverse_append, longest_append_left,
    longest_reverse, List.length_reverse, Nat.add_comm]

end Collate.Alignment
