import Collate.Proofs.Alignment.CommonSubsequence
import Collate.Proofs.Diff.Path

/-!
# The diff of an alignment

The alignment turns its matches into entries: before each match, and after the last one, the
removals and then the additions that lead to it. Since matches climb, these entries are a path
through both listings, so the diff of two listings always exists (`Diff.exists_align`). The entries
have a kept line for each match and no changed one, so the kept lines of the diff are equal on both
sides (`Diff.line?_eq_of_unchanged_mem_align`) and as many as a longest common subsequence has items
(`Diff.count_unchanged_align`).
-/

namespace Collate

namespace Alignment

/-! ## Gaps -/

theorem removals_self (n : Nat) : removals n n = [] := by
  rw [removals, Nat.sub_self, List.range'_zero, List.map_nil]

theorem additions_self (m : Nat) : additions m m = [] := by
  rw [additions, Nat.sub_self, List.range'_zero, List.map_nil]

theorem removals_of_lt {i n : Nat} (h : i < n) :
    removals i n = .removed i :: removals (i + 1) n := by
  have hn : n - i = (n - (i + 1)) + 1 := by omega
  rw [removals, hn, List.range'_succ, List.map_cons, removals]

theorem additions_of_lt {j m : Nat} (h : j < m) :
    additions j m = .added j :: additions (j + 1) m := by
  have hm : m - j = (m - (j + 1)) + 1 := by omega
  rw [additions, hm, List.range'_succ, List.map_cons, additions]

/-- The removals up to a place lead there on the left side. -/
theorem path_removals {i n : Nat} (j : Nat) (h : i ≤ n) : Entry.Path i j (removals i n) n j := by
  induction h using Nat.decreasingInduction with
  | self =>
    rw [removals_self]
    exact .nil n j
  | of_succ i hi ih =>
    rw [removals_of_lt hi]
    exact .removed ih

/-- The additions up to a place lead there on the right side. -/
theorem path_additions {j m : Nat} (i : Nat) (h : j ≤ m) : Entry.Path i j (additions j m) i m := by
  induction h using Nat.decreasingInduction with
  | self =>
    rw [additions_self]
    exact .nil i m
  | of_succ j hj ih =>
    rw [additions_of_lt hj]
    exact .added ih

/-- The entries of a gap are removals and additions. -/
theorem tag_of_mem_gap {i a j b : Nat} {e : Entry} (he : e ∈ removals i a ++ additions j b) :
    e.tag = .removed ∨ e.tag = .added := by
  rcases List.mem_append.1 he with he | he
  · obtain ⟨k, -, rfl⟩ := List.mem_map.1 he
    exact .inl rfl
  · obtain ⟨k, -, rfl⟩ := List.mem_map.1 he
    exact .inr rfl

/-! ## Entries -/

/-- Matches that climb from a place on and stay in range give a path from there to the ends. -/
theorem path_fillGaps {n m i j : Nat} {ps : List (Nat × Nat)} (hi : i ≤ n) (hj : j ≤ m)
    (hclimbs : ps.Pairwise fun p q => p.1 < q.1 ∧ p.2 < q.2)
    (hfrom : ∀ p ∈ ps, i ≤ p.1 ∧ j ≤ p.2) (hto : ∀ p ∈ ps, p.1 < n ∧ p.2 < m) :
    Entry.Path i j (fillGaps n m i j ps) n m := by
  induction ps generalizing i j with
  | nil => exact (path_removals j hi).append (path_additions n hj)
  | cons p ps ih =>
    obtain ⟨a, b⟩ := p
    obtain ⟨hnext, hclimbs⟩ := List.pairwise_cons.1 hclimbs
    obtain ⟨hia, hjb⟩ := hfrom (a, b) List.mem_cons_self
    obtain ⟨han, hbm⟩ := hto (a, b) List.mem_cons_self
    have hgap := (path_removals j hia).append (path_additions a hjb)
    have hrest := ih han hbm hclimbs hnext fun q hq => hto q (List.mem_cons_of_mem _ hq)
    exact hgap.append (.unchanged hrest)

/-- The entries have a kept line for each match. -/
theorem countP_unchanged_fillGaps (n m i j : Nat) (ps : List (Nat × Nat)) :
    (fillGaps n m i j ps).countP (·.tag = .unchanged) = ps.length := by
  have hgap : ∀ i a j b,
      (removals i a ++ additions j b).countP (·.tag = .unchanged) = 0 := by
    intro i a j b
    rw [List.countP_eq_zero]
    intro e he
    rcases tag_of_mem_gap he with h | h <;> simp [h]
  induction ps generalizing i j with
  | nil => exact hgap i n j m
  | cons p ps ih =>
    rw [fillGaps, List.countP_append, hgap, List.countP_cons_of_pos (by rfl), ih, Nat.zero_add,
      List.length_cons]

/-- The entries hold the matches as kept lines, and removals and additions besides. -/
theorem of_mem_fillGaps {n m i j : Nat} {ps : List (Nat × Nat)} {e : Entry}
    (he : e ∈ fillGaps n m i j ps) :
    (∃ p ∈ ps, e = .unchanged p.1 p.2) ∨ e.tag = .removed ∨ e.tag = .added := by
  induction ps generalizing i j with
  | nil => exact .inr (tag_of_mem_gap he)
  | cons p ps ih =>
    rcases List.mem_append.1 he with he | he
    · exact .inr (tag_of_mem_gap he)
    · rcases List.mem_cons.1 he with rfl | he
      · exact .inl ⟨p, List.mem_cons_self, rfl⟩
      · rcases ih he with ⟨q, hq, rfl⟩ | h
        · exact .inl ⟨q, List.mem_cons_of_mem _ hq, rfl⟩
        · exact .inr h

section alignLines

variable {α : Type} [DecidableEq α]

/-- The entries of two lists of lines are a path to their ends. -/
theorem path_alignLines (as bs : List α) :
    Entry.Path 0 0 (alignLines as bs) as.length bs.length := by
  have h := isMatching_commonSubsequence as bs
  exact path_fillGaps (Nat.zero_le _) (Nat.zero_le _) h.climbs
    (fun _ _ => ⟨Nat.zero_le _, Nat.zero_le _⟩) fun _ hp => h.inRange hp

/-- The entries keep as many lines as a longest common subsequence has. -/
theorem countP_unchanged_alignLines (as bs : List α) :
    (alignLines as bs).countP (·.tag = .unchanged) = longest as bs := by
  rw [alignLines, countP_unchanged_fillGaps, length_commonSubsequence]

/-- No entry shows a line as changed. -/
theorem changed_not_mem_alignLines (as bs : List α) (l r : Int) :
    .changed l r ∉ alignLines as bs := by
  intro hmem
  rcases of_mem_fillGaps hmem with ⟨p, -, hp⟩ | hp | hp <;> cases hp

/-- A kept line is the same in both lists. -/
theorem of_unchanged_mem_alignLines {as bs : List α} {l r : Int}
    (hmem : .unchanged l r ∈ alignLines as bs) :
    ∃ (i j : Nat) (x : α), l = i ∧ r = j ∧ as[i]? = some x ∧ bs[j]? = some x := by
  rcases of_mem_fillGaps hmem with ⟨p, hp, heq⟩ | hp | hp
  · cases heq
    obtain ⟨x, ha, hb⟩ := (isMatching_commonSubsequence as bs).equal p hp
    exact ⟨p.1, p.2, x, rfl, rfl, ha, hb⟩
  · cases hp
  · cases hp

end alignLines

end Alignment

open Collate.Alignment

namespace Diff

variable {left right : Listing} {d : Diff}

/-- Two listings always align. -/
theorem exists_align (left right : Listing) : ∃ d, align left right = .ok d :=
  exists_ofEntries_eq_ok_iff.2 (path_alignLines left.lines right.lines)

/-- The diff of an alignment has the entries of the alignment. -/
theorem of_align_eq_ok (h : align left right = .ok d) :
    d.left = left ∧ d.right = right ∧ d.entries = alignLines left.lines right.lines :=
  ofEntries_eq_ok_iff.1 h

/-- An alignment keeps as many lines as a longest common subsequence has. -/
theorem count_unchanged_align (h : align left right = .ok d) :
    d.count .unchanged = longest left.lines right.lines := by
  obtain ⟨-, -, hentries⟩ := of_align_eq_ok h
  rw [count, hentries, countP_unchanged_alignLines]

/-- An alignment has no changed entry. -/
theorem changed_not_mem_align (h : align left right = .ok d) (l r : Int) :
    .changed l r ∉ d.entries := by
  obtain ⟨-, -, hentries⟩ := of_align_eq_ok h
  rw [hentries]
  exact changed_not_mem_alignLines left.lines right.lines l r

/-- A kept line of an alignment is the same on both sides. -/
theorem line?_eq_of_unchanged_mem_align (h : align left right = .ok d) {l r : Int}
    (hmem : .unchanged l r ∈ d.entries) :
    ∃ line, left.line? l = some line ∧ right.line? r = some line := by
  obtain ⟨-, -, hentries⟩ := of_align_eq_ok h
  rw [hentries] at hmem
  obtain ⟨i, j, line, rfl, rfl, hleft, hright⟩ := of_unchanged_mem_alignLines hmem
  exact ⟨line, hleft, hright⟩

end Diff

end Collate
