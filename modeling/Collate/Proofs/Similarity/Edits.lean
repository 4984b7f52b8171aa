import Mathlib.Order.Bounds.Basic
import Mathlib.Order.MinMax
import Collate.Proofs.Similarity.EditDistance
import Collate.Similarity.Metric

/-!
# The distance is the least number of edits

What the edit distance has to be, stated without a table or a recursion. An edit inserts one item at
some place of a list, deletes one, or puts one for another (`Edit`); edits follow each other in any
order and at any places (`EditedIn`). `isLeast_editDistance` says that the distance of two texts is
the least number of edits that turn one into the other.

That so many edits are enough is read off the recursion, which names an edit in each case
(`editedIn_leastEdits`). That fewer are not enough needs an argument about all scripts, also those
that edit one place twice or undo what they did: one edit, wherever it is, brings a list nearer to a
third one by at most one (`leastEdits_le_of_edit`), so a script is at least as long as the distance
it covers (`EditedIn.leastEdits_le`).
-/

namespace Collate.Similarity

variable {α : Type}

/-! ## Scripts -/

/-- One edit of a list, between what stands before its place and what stands behind it. -/
inductive Edit : List α → List α → Prop
  /-- An item is inserted. -/
  | insert (u : List α) (a : α) (v : List α) : Edit (u ++ v) (u ++ a :: v)
  /-- An item is deleted. -/
  | delete (u : List α) (a : α) (v : List α) : Edit (u ++ a :: v) (u ++ v)
  /-- An item is put for another. -/
  | substitute (u : List α) (a b : α) (v : List α) : Edit (u ++ a :: v) (u ++ b :: v)

/-- A list is turned into another by a number of edits, one after the other. -/
inductive EditedIn : Nat → List α → List α → Prop
  /-- Nothing is left to be done. -/
  | done (as : List α) : EditedIn 0 as as
  /-- One edit, and those after it. -/
  | edit {n : Nat} {as bs cs : List α} (first : Edit as bs) (later : EditedIn n bs cs) :
    EditedIn (n + 1) as cs

/-- An edit behind a first item is an edit of the whole list. -/
theorem Edit.cons (x : α) {as bs : List α} (h : Edit as bs) : Edit (x :: as) (x :: bs) := by
  cases h with
  | insert u a v => exact .insert (x :: u) a v
  | delete u a v => exact .delete (x :: u) a v
  | substitute u a b v => exact .substitute (x :: u) a b v

/-- An edit of a list read backwards is one of the list. -/
theorem Edit.reverse {as bs : List α} (h : Edit as bs) : Edit as.reverse bs.reverse := by
  have hplace : ∀ (u v : List α) (a : α),
      (u ++ a :: v).reverse = v.reverse ++ a :: u.reverse := by
    intro u v a
    rw [List.reverse_append, List.reverse_cons, List.append_assoc, List.singleton_append]
  cases h with
  | insert u a v =>
    rw [hplace, List.reverse_append]
    exact .insert v.reverse a u.reverse
  | delete u a v =>
    rw [hplace, List.reverse_append]
    exact .delete v.reverse a u.reverse
  | substitute u a b v =>
    rw [hplace, hplace]
    exact .substitute v.reverse a b u.reverse

/-- What keeps single edits keeps scripts, with their lengths. -/
theorem EditedIn.map {f : List α → List α} (hf : ∀ {as bs}, Edit as bs → Edit (f as) (f bs))
    {n : Nat} {as bs : List α} (h : EditedIn n as bs) : EditedIn n (f as) (f bs) := by
  induction h with
  | done as => exact .done (f as)
  | edit first _ ih => exact .edit (hf first) ih

/-! ## Enough edits -/

/-- An empty list is filled one item at a time. -/
theorem editedIn_nil_left (bs : List α) : EditedIn bs.length [] bs := by
  induction bs with
  | nil => exact .done []
  | cons b bs ih => exact .edit (.insert [] b []) (ih.map (Edit.cons b))

/-- A list is emptied one item at a time. -/
theorem editedIn_nil_right (as : List α) : EditedIn as.length as [] := by
  induction as with
  | nil => exact .done []
  | cons a as ih => exact .edit (.delete [] a as) ih

variable [DecidableEq α]

/-- As many edits as the recursion counts are enough. -/
theorem editedIn_leastEdits (as bs : List α) : EditedIn (leastEdits as bs) as bs := by
  fun_induction leastEdits as bs with
  | case1 bs => exact editedIn_nil_left bs
  | case2 a as => exact editedIn_nil_right (a :: as)
  | case3 a as b bs ihd ihi ihs =>
    have hdelete : EditedIn (leastEdits as (b :: bs) + 1) (a :: as) (b :: bs) :=
      .edit (.delete [] a as) ihd
    have hinsert : EditedIn (leastEdits (a :: as) bs + 1) (a :: as) (b :: bs) :=
      .edit (.insert [] b (a :: as)) (ihi.map (Edit.cons b))
    have hput : EditedIn (leastEdits as bs + if a = b then 0 else 1) (a :: as) (b :: bs) := by
      split_ifs with hab
      · rw [hab]
        exact ihs.map (Edit.cons b)
      · exact .edit (.substitute [] a b as) (ihs.map (Edit.cons b))
    -- the least of the three numbers is one of them
    exact min_rec' (EditedIn · _ _) hdelete (min_rec' (EditedIn · _ _) hinsert hput)

/-! ## No fewer edits -/

/-- One more item takes at most one more edit. -/
theorem leastEdits_cons_le (a : α) (as cs : List α) :
    leastEdits (a :: as) cs ≤ leastEdits as cs + 1 := by
  cases cs with
  | nil => rw [leastEdits_nil_right, leastEdits_nil_right, List.length_cons]
  | cons c cs =>
    rw [leastEdits_cons_cons]
    exact Nat.min_le_left _ _

/-- One more item takes at most one edit off. -/
theorem le_leastEdits_cons (a : α) (as cs : List α) :
    leastEdits as cs ≤ leastEdits (a :: as) cs + 1 := by
  induction cs with
  | nil =>
    rw [leastEdits_nil_right, leastEdits_nil_right, List.length_cons]
    omega
  | cons c cs ih =>
    have hmore := leastEdits_cons_le c cs as
    rw [leastEdits_comm (c :: cs), leastEdits_comm cs] at hmore
    rw [leastEdits_cons_cons]
    omega

/-- Another first item takes at most one edit off. -/
theorem leastEdits_cons_le_cons (a b : α) (as cs : List α) :
    leastEdits (a :: as) cs ≤ leastEdits (b :: as) cs + 1 := by
  induction cs with
  | nil =>
    rw [leastEdits_nil_right, leastEdits_nil_right, List.length_cons, List.length_cons]
    omega
  | cons c cs ih =>
    have hput : (if a = c then 0 else 1) ≤ 1 := by split_ifs <;> omega
    rw [leastEdits_cons_cons, leastEdits_cons_cons]
    omega

/-- What changes the distance to every list by at most one does so behind a shared start too. -/
theorem leastEdits_append_le {as bs : List α}
    (h : ∀ cs, leastEdits as cs ≤ leastEdits bs cs + 1) (u cs : List α) :
    leastEdits (u ++ as) cs ≤ leastEdits (u ++ bs) cs + 1 := by
  induction u generalizing cs with
  | nil => exact h cs
  | cons x u ihu =>
    rw [List.cons_append, List.cons_append]
    induction cs with
    | nil =>
      have hempty := ihu []
      rw [leastEdits_nil_right, leastEdits_nil_right] at hempty ⊢
      rw [List.length_cons, List.length_cons]
      omega
    | cons c cs ihc =>
      have hdelete := ihu (c :: cs)
      have hput := ihu cs
      rw [leastEdits_cons_cons, leastEdits_cons_cons]
      omega

/-- One edit, wherever it is, brings a list nearer to another one by at most one. -/
theorem leastEdits_le_of_edit {as bs : List α} (h : Edit as bs) (cs : List α) :
    leastEdits as cs ≤ leastEdits bs cs + 1 := by
  cases h with
  | insert u a v => exact leastEdits_append_le (le_leastEdits_cons a v) u cs
  | delete u a v => exact leastEdits_append_le (leastEdits_cons_le a v) u cs
  | substitute u a b v => exact leastEdits_append_le (leastEdits_cons_le_cons a b v) u cs

/-- A script has at least as many edits as the recursion counts. -/
theorem EditedIn.leastEdits_le {n : Nat} {as bs : List α} (h : EditedIn n as bs) :
    leastEdits as bs ≤ n := by
  induction h with
  | done as => exact (leastEdits_self as).le
  | edit first _ ih => exact (leastEdits_le_of_edit first _).trans (Nat.succ_le_succ ih)

/-! ## The distance -/

/-- The table computes the least number of edits that turn one text into the other. -/
theorem isLeast_editDistance (as bs : List α) :
    IsLeast { n | EditedIn n as bs } (editDistance as bs) := by
  constructor
  · -- the table belongs to the texts read backwards, so their script is turned around
    have h := (editedIn_leastEdits as.reverse bs.reverse).map Edit.reverse
    rwa [List.reverse_reverse, List.reverse_reverse, ← editDistance_eq] at h
  · intro n h
    rw [editDistance_eq]
    exact (h.map Edit.reverse).leastEdits_le

end Collate.Similarity

namespace Collate.Metric

open Collate.Number Collate.Similarity

/-- **The Levenshtein metric is the least number of edits over the length of the longer line.** The
number that the table gives is the least number of insertions, deletions and substitutions of single
characters that turn the first line into the second; its share of the longer line, nothing for two
empty lines, is the exact distance, and the distance is that share, rounded once. For equal lines
and where one line is empty the table gives what is settled without it: no edit at all, and as many
as the other line is long. All this is the same with the two lines exchanged. -/
theorem levenshtein_isLeast (a b : Text) :
    IsLeast { n | EditedIn n a b } (editDistance a b) ∧
    levenshtein.share a b = (editDistance a b : ℚ) / (max a.length b.length : Nat) ∧
    levenshtein.share [] [] = 0 ∧
    levenshtein.distance a b = Binary64.ofRat (levenshtein.share a b) ∧
    (editDistance a a = 0 ∧ editDistance a [] = a.length ∧ editDistance [] a = a.length) ∧
    editDistance b a = editDistance a b ∧
    levenshtein.share b a = levenshtein.share a b ∧
    levenshtein.distance b a = levenshtein.distance a b := by
  have hcomm : editShare b a = editShare a b := by
    rw [editShare_eq, editShare_eq, editDistance_comm, Nat.max_comm]
  refine ⟨isLeast_editDistance a b, editShare_eq a b, ?_, rfl, ?_, editDistance_comm b a, hcomm, ?_⟩
  · rw [share, editShare, if_pos rfl]
  · exact ⟨editDistance_self a, editDistance_nil_right a, editDistance_nil_left a⟩
  · rw [distance, distance, hcomm]

/-- Three edits turn one word into the other, and no two. -/
theorem levenshtein_isLeast_sitting :
    IsLeast { n | EditedIn n "kitten".toList "sitting".toList } 3 ∧
      levenshtein.share "kitten".toList "sitting".toList = 3 / 7 := by
  have hthree : editDistance "kitten".toList "sitting".toList = 3 := by decide +kernel
  obtain ⟨hleast, hshare, -⟩ := levenshtein_isLeast "kitten".toList "sitting".toList
  rw [hthree] at hleast hshare
  exact ⟨hleast, hshare⟩

end Collate.Metric
