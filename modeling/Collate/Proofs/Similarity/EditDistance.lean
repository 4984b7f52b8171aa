import Mathlib.Algebra.Order.Field.Basic
import Mathlib.Data.Rat.Cast.Order
import Mathlib.Tactic.Positivity
import Collate.Similarity.EditDistance

/-!
# What the edit table computes

The edit distance of two texts is computed with one row of the table at a time, each filled along
the second text from the row above it. `leastEdits` is the textbook recursion on the first items of
two lists. The table grows at the ends of the texts and not at their fronts, so its cells hold
`leastEdits` of prefixes read backwards (`foldl_nextRow`), and its last cell that of both texts read
backwards (`editDistance_eq`).

What merging needs of the distance is read off the recursion: it is zero for equal texts only
(`eq_of_editDistance_eq_zero`), never more than the length of the longer text
(`editDistance_le_max`), and the same in both directions (`editDistance_comm`). What is settled
without the table is what the table would give, so the share of any two texts is their distance over
the length of the longer one (`editShare_eq`). It therefore lies between zero and one, and for
different texts it is at least one part of the longer text (`editShare_mem_unit`,
`one_div_le_editShare`).
-/

namespace Collate.Similarity

variable {α : Type} [DecidableEq α]

/-! ## The recursion -/

/-- The least number of edits: a first item is deleted, inserted, or one is put for the other. -/
def leastEdits : List α → List α → Nat
  | [], bs => bs.length
  | a :: as, [] => (a :: as).length
  | a :: as, b :: bs =>
    min (leastEdits as (b :: bs) + 1)
      (min (leastEdits (a :: as) bs + 1) (leastEdits as bs + if a = b then 0 else 1))
  termination_by as bs => as.length + bs.length

@[simp] theorem leastEdits_nil_left (bs : List α) : leastEdits [] bs = bs.length := by
  rw [leastEdits]

@[simp] theorem leastEdits_nil_right (as : List α) : leastEdits as [] = as.length := by
  cases as <;> rw [leastEdits]

theorem leastEdits_cons_cons (a b : α) (as bs : List α) :
    leastEdits (a :: as) (b :: bs) = min (leastEdits as (b :: bs) + 1)
      (min (leastEdits (a :: as) bs + 1) (leastEdits as bs + if a = b then 0 else 1)) := by
  rw [leastEdits]

/-- Only equal lists take no edits. -/
theorem eq_of_leastEdits_eq_zero {as bs : List α} (h : leastEdits as bs = 0) : as = bs := by
  fun_induction leastEdits as bs with
  | case1 bs => exact (List.eq_nil_of_length_eq_zero h).symm
  | case2 a as => cases h
  | case3 a as b bs ihd ihi ihs =>
    -- of the three ways only an item that stays takes no edit
    have hstay : leastEdits as bs + (if a = b then 0 else 1) = 0 := by omega
    split_ifs at hstay with hab
    rw [hab, ihs hstay]

/-- A list is turned into itself without an edit. -/
theorem leastEdits_self (as : List α) : leastEdits as as = 0 := by
  induction as with
  | nil => exact leastEdits_nil_left []
  | cons a as ih => rw [leastEdits_cons_cons, ih, if_pos rfl, Nat.min_zero, Nat.min_zero]

/-- Read from the other side, a deletion is an insertion. -/
theorem leastEdits_comm (as bs : List α) : leastEdits as bs = leastEdits bs as := by
  fun_induction leastEdits as bs with
  | case1 bs => rw [leastEdits_nil_right]
  | case2 a as => rw [leastEdits_nil_left]
  | case3 a as b bs ihd ihi ihs =>
    have hput : (if a = b then 0 else 1) = if b = a then 0 else 1 := if_congr eq_comm rfl rfl
    rw [leastEdits_cons_cons, ihd, ihi, ihs, hput, Nat.min_left_comm]

/-- The items of the longer list can be put one by one. -/
theorem leastEdits_le_max (as bs : List α) : leastEdits as bs ≤ max as.length bs.length := by
  fun_induction leastEdits as bs with
  | case1 bs => exact Nat.le_max_right _ _
  | case2 a as => exact Nat.le_max_left _ _
  | case3 a as b bs ihd ihi ihs =>
    have hput : (if a = b then 0 else 1) ≤ 1 := by split_ifs <;> omega
    simp only [List.length_cons]
    omega

/-! ## The table -/

/-- The cells of a row: the first list, read backwards, is `p`; the second one is `q`, read
backwards, and the items of the third argument one after the other. -/
def distances (p : List α) : (q bs : List α) → List Nat
  | q, [] => [leastEdits p q]
  | q, b :: bs => leastEdits p q :: distances p (b :: q) bs

/-- The first row counts up. -/
theorem distances_nil (q bs : List α) :
    distances [] q bs = List.range' q.length (bs.length + 1) := by
  induction bs generalizing q with
  | nil => simp [distances]
  | cons b bs ih => rw [distances, ih, leastEdits_nil_left, List.length_cons, List.length_cons,
      ← List.range'_succ]

/-- A row starts with the cell of its place. -/
theorem distances_eq_cons (p q bs : List α) :
    distances p q bs = leastEdits p q :: (distances p q bs).tail := by
  cases bs <;> rfl

/-- The rest of a row is filled from the row above. -/
theorem fillRow_distances (a : α) (p q bs : List α) :
    fillRow a bs (leastEdits (a :: p) q) (leastEdits p q) (distances p q bs).tail =
      (distances (a :: p) q bs).tail := by
  induction bs generalizing q with
  | nil => rfl
  | cons b bs ih =>
    simp only [distances, List.tail_cons]
    rw [distances_eq_cons p, distances_eq_cons (a :: p), fillRow, ← leastEdits_cons_cons, ih]

/-- The next row belongs to one more item of the first text. -/
theorem nextRow_distances (a : α) (p bs : List α) :
    nextRow bs (distances p [] bs) a = distances (a :: p) [] bs := by
  have hfirst : leastEdits p [] + 1 = leastEdits (a :: p) [] := by
    rw [leastEdits_nil_right, leastEdits_nil_right, List.length_cons]
  rw [distances_eq_cons p, distances_eq_cons (a :: p), nextRow, hfirst, fillRow_distances]

/-- Row by row the first text is taken up. -/
theorem foldl_nextRow (as p bs : List α) :
    as.foldl (nextRow bs) (distances p [] bs) = distances (as.reverse ++ p) [] bs := by
  induction as generalizing p with
  | nil => rfl
  | cons a as ih =>
    rw [List.foldl_cons, nextRow_distances, ih, List.reverse_cons, List.append_assoc,
      List.singleton_append]

/-- The last cell of a row belongs to the whole second text. -/
theorem getLastD_distances (p q bs : List α) (n : Nat) :
    (distances p q bs).getLastD n = leastEdits p (bs.reverse ++ q) := by
  induction bs generalizing q n with
  | nil => rfl
  | cons b bs ih =>
    rw [distances, List.getLastD_cons, ih, List.reverse_cons, List.append_assoc,
      List.singleton_append]

/-- The table computes the least number of edits of both texts read backwards. -/
theorem editDistance_eq (as bs : List α) :
    editDistance as bs = leastEdits as.reverse bs.reverse := by
  have hfirst : List.range (bs.length + 1) = distances [] [] bs := by
    rw [distances_nil, List.range_eq_range']
    rfl
  rw [editDistance, lastRow, hfirst, foldl_nextRow, getLastD_distances, List.append_nil,
    List.append_nil]

/-- No edit leads from a text to itself. -/
theorem editDistance_self (as : List α) : editDistance as as = 0 := by
  rw [editDistance_eq, leastEdits_self]

/-- An empty text is filled one item at a time. -/
theorem editDistance_nil_left (bs : List α) : editDistance [] bs = bs.length := by
  rw [editDistance_eq, List.reverse_nil, leastEdits_nil_left, List.length_reverse]

/-- The distance is the same in both directions, though the table is filled along one text. -/
theorem editDistance_comm (as bs : List α) : editDistance as bs = editDistance bs as := by
  rw [editDistance_eq, editDistance_eq, leastEdits_comm]

/-- A text is emptied one item at a time. -/
theorem editDistance_nil_right (as : List α) : editDistance as [] = as.length := by
  rw [editDistance_comm, editDistance_nil_left]

/-- Only equal texts have distance zero. -/
theorem eq_of_editDistance_eq_zero {as bs : List α} (h : editDistance as bs = 0) : as = bs := by
  rw [editDistance_eq] at h
  exact List.reverse_injective (eq_of_leastEdits_eq_zero h)

/-- The distance is at most the length of the longer text. -/
theorem editDistance_le_max (as bs : List α) :
    editDistance as bs ≤ max as.length bs.length := by
  have h := leastEdits_le_max as.reverse bs.reverse
  rwa [← editDistance_eq, List.length_reverse, List.length_reverse] at h

/-! ## Shares -/

/-- The share is the distance over the length of the longer text: equal texts are at distance zero,
an empty text is as far from another as that is long, and the direction does not matter. -/
theorem editShare_eq (as bs : List α) :
    editShare as bs = (editDistance as bs : ℚ) / (max as.length bs.length : Nat) := by
  unfold editShare
  split_ifs with heq hempty hshorter
  · rw [heq, editDistance_self, Nat.cast_zero, zero_div]
  · have hall : editDistance as bs = max as.length bs.length := by
      rcases hempty with rfl | rfl
      · rw [editDistance_nil_left, List.length_nil, Nat.zero_max]
      · rw [editDistance_nil_right, List.length_nil, Nat.max_zero]
    have hne : editDistance as bs ≠ 0 := fun hzero => heq (eq_of_editDistance_eq_zero hzero)
    rw [← hall, div_self (Nat.cast_ne_zero.2 hne)]
  · rw [editDistance_comm, Nat.max_eq_right hshorter.le]
  · rw [Nat.max_eq_left (Nat.le_of_not_lt hshorter)]

/-- The share of different texts is a number of edits over the length of the longer text. -/
theorem exists_editShare {as bs : List α} (h : as ≠ bs) :
    ∃ n : Nat, 0 < n ∧ n ≤ max as.length bs.length ∧
      editShare as bs = (n : ℚ) / (max as.length bs.length : Nat) := by
  refine ⟨editDistance as bs, ?_, editDistance_le_max as bs, editShare_eq as bs⟩
  exact Nat.pos_of_ne_zero fun hzero => h (eq_of_editDistance_eq_zero hzero)

/-- The share is a number between zero and one. -/
theorem editShare_mem_unit (as bs : List α) : 0 ≤ editShare as bs ∧ editShare as bs ≤ 1 := by
  have hle := editDistance_le_max as bs
  rw [editShare_eq]
  exact ⟨by positivity, div_le_one_of_le₀ (by exact_mod_cast hle) (by positivity)⟩

/-- The share of different texts is at least one part of the longer one. -/
theorem one_div_le_editShare {as bs : List α} (h : as ≠ bs) :
    1 / (max as.length bs.length : Nat) ≤ editShare as bs := by
  obtain ⟨n, hpos, -, heq⟩ := exists_editShare h
  rw [heq]
  exact div_le_div_of_nonneg_right (by exact_mod_cast hpos) (by positivity)

end Collate.Similarity
