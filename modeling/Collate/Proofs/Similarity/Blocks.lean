import Mathlib.Algebra.Order.Field.Basic
import Mathlib.Data.Rat.Cast.Order
import Mathlib.Tactic.Linarith
import Mathlib.Tactic.Positivity
import Collate.Proofs.Alignment.CommonSubsequence
import Collate.Similarity.Blocks

/-!
# Matching blocks are a common subsequence

The search for the longest block keeps, for each place in the second list, how far it agrees with
what is left of the first one. These numbers are `Alignment.commonLead` of two suffixes (`Agrees`),
so the block that is found does stand in both lists (`exists_of_longestBlock`), and blocks taken one
between the other make up a common subsequence (`matched_mem_commonLengths`).

So the matched size is at most the length of either list, and reaches both lengths for equal lists
only: the block ratio is a share (`blockRatio_mem_unit`), which for different lists misses one by at
least one part of both (`blockRatio_le`).
-/

namespace Collate.Similarity

open Collate.Alignment

variable {α : Type} [DecidableEq α]

/-! ## The search for a block -/

/-- A row holds, for each place in the second list, how far it agrees with the first list. -/
def Agrees (as bs : List α) (row : List Nat) : Prop :=
  ∀ j, row.getD j 0 = commonLead as (bs.drop j)

theorem commonLead_nil_left (bs : List α) : commonLead [] bs = 0 := by
  rw [commonLead]
  rintro a as b bs ⟨⟩

theorem commonLead_nil_right (as : List α) : commonLead as [] = 0 := by
  rw [commonLead]
  rintro a as' b bs _ ⟨⟩

/-- The row of one more item agrees if the row below it does. -/
theorem Agrees.runRow {as bs : List α} {below : List Nat} (h : Agrees as bs below) (a : α) :
    Agrees (a :: as) bs (runRow a bs below) := by
  intro j
  induction bs generalizing below j with
  | nil => rw [Similarity.runRow, List.drop_nil, commonLead_nil_right, List.getD_nil]
  | cons b bs ih =>
    have htail : Agrees as bs below.tail := by
      intro k
      have hk := h (k + 1)
      cases below with
      | nil => exact hk
      | cons n below => exact hk
    cases j with
    | zero =>
      have hhead := htail 0
      rw [List.drop_zero, ← List.headD_eq_getD] at hhead
      rw [Similarity.runRow, List.getD_cons_zero, List.drop_zero, commonLead, hhead]
    | succ j =>
      rw [Similarity.runRow, List.getD_cons_succ, List.drop_succ_cons]
      exact ih htail j

/-- The greatest number of a row stands at the place that is named with it. -/
theorem exists_of_longestInRow {place : Nat} {row : List Nat}
    (h : 0 < (longestInRow place row).2) :
    ∃ j, (longestInRow place row).1 = place + j ∧ row.getD j 0 = (longestInRow place row).2 := by
  induction row generalizing place with
  | nil => cases h
  | cons n ns ih =>
    rw [longestInRow] at h ⊢
    split_ifs at h ⊢ with hn
    · exact ⟨0, rfl, rfl⟩
    · obtain ⟨j, hplace, hj⟩ := ih h
      exact ⟨j + 1, by omega, hj⟩

/-- The scan gives the row of its list, and a block of the size to which both lists agree from its
places on. -/
theorem scanBlocks_spec (bs : List α) (place : Nat) (as : List α) :
    Agrees as bs (scanBlocks bs place as).1 ∧
      (0 < (scanBlocks bs place as).2.size →
        ∃ i, (scanBlocks bs place as).2.left = place + i ∧
          commonLead (as.drop i) (bs.drop (scanBlocks bs place as).2.right) =
            (scanBlocks bs place as).2.size) := by
  induction as generalizing place with
  | nil =>
    refine ⟨?_, nofun⟩
    intro j
    rw [commonLead_nil_left]
    rfl
  | cons a as ih =>
    obtain ⟨hbelow, hlater⟩ := ih (place + 1)
    have hrow := hbelow.runRow a
    refine ⟨hrow, ?_⟩
    rw [scanBlocks]
    dsimp only
    split_ifs with hhere
    · intro hsize
      obtain ⟨j, hright, hj⟩ := exists_of_longestInRow hsize
      refine ⟨0, rfl, ?_⟩
      rw [hright, Nat.zero_add, List.drop_zero, ← hrow j, hj]
    · intro hsize
      obtain ⟨i, hleft, hi⟩ := hlater hsize
      exact ⟨i + 1, by omega, hi⟩

/-- The longest block stands in both lists. -/
theorem exists_of_longestBlock {as bs : List α} (h : (longestBlock as bs).size ≠ 0) :
    ∃ s : List α, s.length = (longestBlock as bs).size ∧
      as = as.take (longestBlock as bs).left ++ s ++
        as.drop ((longestBlock as bs).left + (longestBlock as bs).size) ∧
      bs = bs.take (longestBlock as bs).right ++ s ++
        bs.drop ((longestBlock as bs).right + (longestBlock as bs).size) := by
  obtain ⟨i, hleft, hi⟩ := (scanBlocks_spec bs 0 as).2 (Nat.pos_of_ne_zero h)
  change (longestBlock as bs).left = 0 + i at hleft
  change commonLead _ (bs.drop (longestBlock as bs).right) = (longestBlock as bs).size at hi
  rw [Nat.zero_add] at hleft
  rw [← hleft] at hi
  obtain ⟨s, x, y, has, hbs, hs⟩ :=
    exists_commonLead (as.drop (longestBlock as bs).left) (bs.drop (longestBlock as bs).right)
  rw [hi] at hs
  -- cutting a list at a place and again behind the block gives it back
  have hcut : ∀ {l rest : List α} {place : Nat}, l.drop place = s ++ rest →
      l = l.take place ++ s ++ l.drop (place + (longestBlock as bs).size) := by
    intro l rest place hl
    rw [← List.drop_drop, hl, hs, List.drop_left, List.append_assoc, ← hl, List.take_append_drop]
  exact ⟨s, hs.symm, hcut has, hcut hbs⟩

/-! ## What is matched -/

/-- Blocks, each between two others, make up a common subsequence. -/
theorem matchedWithin_mem_commonLengths (n : Nat) (as bs : List α) :
    matchedWithin n as bs ∈ commonLengths as bs := by
  induction n generalizing as bs with
  | zero => exact ⟨[], List.nil_sublist _, List.nil_sublist _, rfl⟩
  | succ n ih =>
    rw [matchedWithin]
    split_ifs with hsize
    · exact ⟨[], List.nil_sublist _, List.nil_sublist _, rfl⟩
    · obtain ⟨s, hs, has, hbs⟩ := exists_of_longestBlock hsize
      obtain ⟨before, ha, hb, hbefore⟩ :=
        ih (as.take (longestBlock as bs).left) (bs.take (longestBlock as bs).right)
      obtain ⟨after, ha', hb', hafter⟩ :=
        ih (as.drop ((longestBlock as bs).left + (longestBlock as bs).size))
          (bs.drop ((longestBlock as bs).right + (longestBlock as bs).size))
      refine ⟨before ++ s ++ after, ?_, ?_, ?_⟩
      · have hsub := (ha.append (List.Sublist.refl s)).append ha'
        rwa [← has] at hsub
      · have hsub := (hb.append (List.Sublist.refl s)).append hb'
        rwa [← hbs] at hsub
      · rw [List.length_append, List.length_append, hbefore, hs, hafter]

/-- The matched size is the length of a common subsequence. -/
theorem matched_mem_commonLengths (as bs : List α) : matched as bs ∈ commonLengths as bs :=
  matchedWithin_mem_commonLengths as.length as bs

/-- What is matched counts at most once on either side. -/
theorem two_mul_matched_le (as bs : List α) : 2 * matched as bs ≤ as.length + bs.length := by
  obtain ⟨s, ha, hb, hs⟩ := matched_mem_commonLengths as bs
  have hleft := ha.length_le
  have hright := hb.length_le
  omega

/-- In different lists something is left over. -/
theorem two_mul_matched_lt {as bs : List α} (h : as ≠ bs) :
    2 * matched as bs < as.length + bs.length := by
  obtain ⟨s, ha, hb, hs⟩ := matched_mem_commonLengths as bs
  have hleft := ha.length_le
  have hright := hb.length_le
  rcases Nat.lt_or_ge (2 * matched as bs) (as.length + bs.length) with hlt | hge
  · exact hlt
  · have has := ha.eq_of_length (by omega)
    have hbs := hb.eq_of_length (by omega)
    exact absurd (has.symm.trans hbs) h

/-! ## The ratio -/

/-- The ratio is a number between zero and one. -/
theorem blockRatio_mem_unit (as bs : List α) : 0 ≤ blockRatio as bs ∧ blockRatio as bs ≤ 1 := by
  unfold blockRatio
  split_ifs
  · exact ⟨zero_le_one, le_refl 1⟩
  · have hle := two_mul_matched_le as bs
    exact ⟨by positivity, div_le_one_of_le₀ (by exact_mod_cast hle) (by positivity)⟩

/-- The ratio of different lists misses one by at least one part of both. -/
theorem blockRatio_le {as bs : List α} (h : as ≠ bs) :
    blockRatio as bs ≤ 1 - 1 / (as.length + bs.length : Nat) := by
  have hlt := two_mul_matched_lt h
  have hpos : (0 : ℚ) < (as.length + bs.length : Nat) := by
    exact_mod_cast (by omega : 0 < as.length + bs.length)
  have hle : ((2 * matched as bs : Nat) : ℚ) ≤ (as.length + bs.length : Nat) - 1 := by
    rw [le_sub_iff_add_le]
    exact_mod_cast hlt
  rw [blockRatio, if_neg (by omega)]
  calc ((2 * matched as bs : Nat) : ℚ) / (as.length + bs.length : Nat)
      ≤ ((as.length + bs.length : Nat) - 1) / (as.length + bs.length : Nat) :=
        div_le_div_of_nonneg_right hle hpos.le
    _ = 1 - 1 / (as.length + bs.length : Nat) := by rw [sub_div, div_self hpos.ne']

end Collate.Similarity
