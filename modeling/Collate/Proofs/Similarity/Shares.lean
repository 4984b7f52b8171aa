import Collate.Proofs.Similarity.LongestBlock
import Collate.Proofs.Similarity.Threshold

/-!
# What merging may rely on

Merging asks a metric for numbers from zero to one that are zero for equal lines only. Both metrics
with a name give such numbers, read as exact shares (`share_contract`): the edit share because a
table never holds more than the length of the longer line, the block share because blocks lie one
after the other in both lines and so make up a common subsequence.

Equal lines are settled before anything is computed, and with edits an empty line is, too.
`computedShare` is the share with these cases left to the computation, which gives the same
(`share_eq_computedShare`). What merging compares is a double; it is the exact share, rounded as its
metric does it (`distance_eq_rounded`), and still lies between zero and one.
-/

namespace Collate.Metric

open Collate.Number Collate.Similarity

/-- The exact share of two lines, with no lines settled beforehand: what the table along the longer
line comes to, and what the blocks leave over. -/
def computedShare : Metric → Text → Text → ℚ
  | levenshtein, a, b =>
    if a.length < b.length then (editDistance b a : ℚ) / (b.length : ℚ)
    else (editDistance a b : ℚ) / (a.length : ℚ)
  | blocks, a, b => 1 - blockRatio a b

/-- The double for an exact share. The block metric rounds the ratio, and then one minus that. -/
def rounded : Metric → ℚ → Binary64
  | levenshtein, share => Binary64.ofRat share
  | blocks, share => complement (Binary64.ofRat (1 - share))

/-- A share is a number between zero and one. -/
theorem share_mem_unit (m : Metric) (a b : Text) : 0 ≤ m.share a b ∧ m.share a b ≤ 1 := by
  cases m with
  | levenshtein => exact editShare_mem_unit a b
  | blocks =>
    obtain ⟨h0, h1⟩ := blockRatio_mem_unit a b
    rw [share]
    split_ifs
    · exact ⟨le_refl 0, zero_le_one⟩
    · exact ⟨sub_nonneg.2 h1, sub_le_self 1 h0⟩

/-- What is settled beforehand is what would be computed. -/
theorem share_eq_computedShare (m : Metric) (a b : Text) : m.share a b = m.computedShare a b := by
  cases m with
  | levenshtein =>
    rw [share, editShare_eq, computedShare]
    split_ifs with hshorter
    · rw [editDistance_comm, Nat.max_eq_right hshorter.le]
    · rw [Nat.max_eq_left (Nat.le_of_not_lt hshorter)]
  | blocks =>
    rw [share, computedShare]
    split_ifs with heq
    · rw [heq, blockRatio_self, sub_self]
    · rfl

/-- The distance is the share, rounded. -/
theorem distance_eq_rounded (m : Metric) (a b : Text) :
    m.distance a b = m.rounded (m.share a b) := by
  cases m with
  | levenshtein => rfl
  | blocks =>
    have hzero : complement (Binary64.ofRat (1 - 0)) = Binary64.zero := by decide +kernel
    rw [distance, rounded, share]
    split_ifs
    · exact hzero.symm
    · rw [sub_sub_cancel]

/-- Rounding does not lead out of the range from zero to one. -/
theorem exists_value?_rounded (m : Metric) {p : ℚ} (h0 : 0 ≤ p) (h1 : p ≤ 1) :
    ∃ r, (m.rounded p).value? = some r ∧ 0 ≤ r ∧ r ≤ 1 := by
  cases m with
  | levenshtein => exact Binary64.exists_value?_ofRat h0 h1
  | blocks =>
    obtain ⟨ratio, hratio, hr0, hr1⟩ :=
      Binary64.exists_value?_ofRat (sub_nonneg.2 h1) (sub_le_self 1 h0)
    rw [rounded, complement, hratio]
    exact Binary64.exists_value?_ofRat (sub_nonneg.2 hr1) (sub_le_self 1 hr0)

/-- **Both metrics keep what merging relies on.** The share of two lines lies between zero and one,
and is zero exactly if they are equal; equal lines, which are settled beforehand, have the share that
would be computed for them (two empty lines as well, if nothing over nothing counts as nothing). The
ratio is twice the matched size over both lengths, and the matched size is what is left of the
longest blocks taken one after the other. The distance is the share, rounded, and lies between zero
and one as well. -/
theorem share_contract (m : Metric) (a b : Text) :
    (0 ≤ m.share a b ∧ m.share a b ≤ 1) ∧
    (m.share a b = 0 ↔ a = b) ∧
    m.share a b = m.computedShare a b ∧
    (∀ n, BlockTotal a b n ↔ n = matched a b) ∧
    blockRatio a b * (a.length + b.length : Nat) = (2 * matched a b : Nat) ∧
    m.distance a b = m.rounded (m.share a b) ∧
    ∃ r, (m.distance a b).value? = some r ∧ 0 ≤ r ∧ r ≤ 1 := by
  obtain ⟨h0, h1⟩ := m.share_mem_unit a b
  refine ⟨⟨h0, h1⟩, m.share_eq_zero_iff a b, m.share_eq_computedShare a b,
    fun _ => blockTotal_iff, blockRatio_mul_length a b, m.distance_eq_rounded a b, ?_⟩
  rw [distance_eq_rounded]
  exact m.exists_value?_rounded h0 h1

end Collate.Metric
