import Collate.Proofs.Similarity.Blocks

/-!
# The longest block

The search for a block goes through rows of numbers; this module says what it finds without them. A
block stands in two lists if both go on with the same items from its places on (`Block.StandsIn`).
The block that is found is a longest one, and of several longest ones the first: the one that starts
earliest in the first list, and of those the one that starts earliest in the second
(`isLongest_longestBlock`).

What is matched is stated as a relation that knows no bound on the number of blocks
(`BlockTotal`): the longest block, with what is matched before it and what is matched after it. The
matched size is the only number in that relation (`blockTotal_iff`). The longest block of a list and
itself is the whole list, so all of it is matched (`matched_self`).
-/

namespace Collate.Similarity

open Collate.Alignment

variable {α : Type}

/-! ## Blocks -/

/-- A block stands in two lists: from its places on, both go on with the same items, as many as its
size. -/
def Block.StandsIn (block : Block) (as bs : List α) : Prop :=
  ∃ s : List α, s.length = block.size ∧ s <+: as.drop block.left ∧ s <+: bs.drop block.right

/-- A block is the longest one that stands in two lists, and the first of several: it starts earlier
than any other in the first list, or at the same place there and not later in the second. -/
structure IsLongest (as bs : List α) (block : Block) : Prop where
  /-- The block stands in both lists. -/
  standsIn : block.StandsIn as bs
  /-- No block is longer. -/
  size_le : ∀ other : Block, other.StandsIn as bs → other.size ≤ block.size
  /-- No block of its size starts earlier. -/
  earliest : ∀ other : Block, other.StandsIn as bs → other.size = block.size →
    block.left < other.left ∨ block.left = other.left ∧ block.right ≤ other.right

/-- There is one longest block. -/
theorem IsLongest.unique {as bs : List α} {block other : Block} (h : IsLongest as bs block)
    (h' : IsLongest as bs other) : block = other := by
  have hsize : block.size = other.size :=
    Nat.le_antisymm (h'.size_le block h.standsIn) (h.size_le other h'.standsIn)
  have hfirst := h.earliest other h'.standsIn hsize.symm
  have hsecond := h'.earliest block h.standsIn hsize
  have hleft : block.left = other.left := by omega
  have hright : block.right = other.right := by omega
  obtain ⟨left, right, size⟩ := block
  rw [Block.mk.injEq]
  exact ⟨hleft, hright, hsize⟩

/-- A block ends inside the first list. -/
theorem Block.StandsIn.left_add_size_le {as bs : List α} {block : Block}
    (h : block.StandsIn as bs) (hsize : 0 < block.size) : block.left + block.size ≤ as.length := by
  obtain ⟨s, hs, hleft, -⟩ := h
  have hle := hleft.length_le
  rw [hs, List.length_drop] at hle
  omega

/-- Every list is a block of itself. -/
theorem standsIn_self (as : List α) : Block.StandsIn ⟨0, 0, as.length⟩ as as :=
  ⟨as, rfl, List.prefix_refl as, List.prefix_refl as⟩

/-! ## What blocks add up to -/

/-- What the blocks of two lists add up to: nothing where no item is shared, else the longest block
with what is matched before it on both sides and after it on both sides. -/
inductive BlockTotal : List α → List α → Nat → Prop
  /-- The lists share nothing. -/
  | none {as bs : List α} {block : Block} (h : IsLongest as bs block) (hsize : block.size = 0) :
    BlockTotal as bs 0
  /-- The longest block is taken, and the parts are matched by themselves. -/
  | some {as bs : List α} {block : Block} {m n : Nat} (h : IsLongest as bs block)
    (hsize : 0 < block.size)
    (before : BlockTotal (as.take block.left) (bs.take block.right) m)
    (after : BlockTotal (as.drop (block.left + block.size)) (bs.drop (block.right + block.size)) n) :
    BlockTotal as bs (m + block.size + n)

/-- Two lists have one total. -/
theorem BlockTotal.unique {as bs : List α} {m n : Nat} (hm : BlockTotal as bs m)
    (hn : BlockTotal as bs n) : m = n := by
  induction hm generalizing n with
  | none h hsize =>
    cases hn with
    | none => rfl
    | some h' hsize' => exact absurd (h.unique h' ▸ hsize) hsize'.ne'
  | some h hsize _ _ ihbefore ihafter =>
    cases hn with
    | none h' hsize' => exact absurd (h'.unique h ▸ hsize') hsize.ne'
    | some h' hsize' before' after' =>
      obtain rfl := h.unique h'
      rw [ihbefore before', ihafter after']

/-- At least the longest block is matched. -/
theorem BlockTotal.size_le {as bs : List α} {n : Nat} (h : BlockTotal as bs n) {block : Block}
    (hblock : block.StandsIn as bs) : block.size ≤ n := by
  cases h with
  | none hlongest hsize => exact hsize ▸ hlongest.size_le block hblock
  | some hlongest hsize before after =>
    have hle := hlongest.size_le block hblock
    omega

variable [DecidableEq α]

/-! ## The search finds the longest block -/

/-- Two lists agree at least as far as any list that both start with. -/
theorem le_commonLead_iff {n : Nat} {as bs : List α} :
    n ≤ commonLead as bs ↔ ∃ s : List α, s.length = n ∧ s <+: as ∧ s <+: bs := by
  constructor
  · intro h
    obtain ⟨p, x, y, rfl, rfl, hp⟩ := exists_commonLead as bs
    refine ⟨p.take n, ?_, ?_, ?_⟩
    · rw [List.length_take]
      omega
    · exact (List.take_prefix n p).trans (List.prefix_append p x)
    · exact (List.take_prefix n p).trans (List.prefix_append p y)
  · rintro ⟨s, rfl, ⟨x, rfl⟩, ⟨y, rfl⟩⟩
    induction s with
    | nil => exact Nat.zero_le _
    | cons a s ih =>
      rw [List.cons_append, List.cons_append, commonLead, if_pos rfl]
      exact Nat.succ_le_succ ih

theorem Block.standsIn_iff {block : Block} {as bs : List α} :
    block.StandsIn as bs ↔
      block.size ≤ commonLead (as.drop block.left) (bs.drop block.right) :=
  le_commonLead_iff.symm

/-- No number of a row is greater than the one found, and the same number stands nowhere before it. -/
theorem longestInRow_first (place : Nat) (row : List Nat) (j : Nat) :
    row.getD j 0 ≤ (longestInRow place row).2 ∧
      (0 < (longestInRow place row).2 → row.getD j 0 = (longestInRow place row).2 →
        (longestInRow place row).1 ≤ place + j) := by
  induction row generalizing place j with
  | nil => exact ⟨Nat.le_refl 0, nofun⟩
  | cons n ns ih =>
    rw [longestInRow]
    cases j with
    | zero =>
      rw [List.getD_cons_zero]
      split_ifs with hn
      · exact ⟨Nat.le_refl n, fun _ _ => Nat.le_refl place⟩
      · exact ⟨by omega, by omega⟩
    | succ j =>
      obtain ⟨hle, hplace⟩ := ih (place + 1) j
      rw [List.getD_cons_succ]
      split_ifs with hn
      · exact ⟨hle.trans hn.2, fun _ _ => Nat.le_add_right place _⟩
      · refine ⟨hle, ?_⟩
        intro hpos heq
        have hlater := hplace hpos heq
        omega

/-- Nowhere do the lists agree farther than in the block that the scan finds, and as far as there
they agree nowhere before it. -/
theorem scanBlocks_first (bs : List α) (place : Nat) (as : List α) (i j : Nat) :
    commonLead (as.drop i) (bs.drop j) ≤ (scanBlocks bs place as).2.size ∧
      (0 < (scanBlocks bs place as).2.size →
        commonLead (as.drop i) (bs.drop j) = (scanBlocks bs place as).2.size →
        (scanBlocks bs place as).2.left < place + i ∨
          (scanBlocks bs place as).2.left = place + i ∧ (scanBlocks bs place as).2.right ≤ j) := by
  induction as generalizing place i with
  | nil =>
    rw [List.drop_nil, commonLead_nil_left]
    exact ⟨Nat.zero_le _, nofun⟩
  | cons a as ih =>
    have hrow := (scanBlocks_spec bs (place + 1) as).1.runRow a
    rw [scanBlocks]
    dsimp only
    cases i with
    | zero =>
      obtain ⟨hle, hplace⟩ :=
        longestInRow_first 0 (runRow a bs (scanBlocks bs (place + 1) as).1) j
      rw [hrow j] at hle hplace
      rw [List.drop_zero]
      split_ifs with hhere
      · exact ⟨hle, fun hpos heq => .inr ⟨rfl, Nat.zero_add j ▸ hplace hpos heq⟩⟩
      · -- the block found later is longer than any that starts here
        exact ⟨by omega, by omega⟩
    | succ i =>
      obtain ⟨hle, hplace⟩ := ih (place + 1) i
      rw [List.drop_succ_cons]
      split_ifs with hhere
      · exact ⟨hle.trans hhere.2, fun _ _ => .inl (Nat.lt_add_of_pos_right (Nat.succ_pos i))⟩
      · refine ⟨hle, ?_⟩
        intro hpos heq
        have hlater := hplace hpos heq
        omega

/-- Where nothing is found, the block is the empty one at the start. -/
theorem scanBlocks_of_size_eq_zero {bs : List α} {place : Nat} {as : List α}
    (h : (scanBlocks bs place as).2.size = 0) : (scanBlocks bs place as).2 = ⟨0, 0, 0⟩ := by
  induction as generalizing place with
  | nil => rfl
  | cons a as ih =>
    rw [scanBlocks] at h ⊢
    dsimp only at h ⊢
    split_ifs at h ⊢ with hhere
    · exact absurd h hhere.1.ne'
    · exact ih h

/-- The block that is found is the longest one, and the first of several. -/
theorem isLongest_longestBlock (as bs : List α) : IsLongest as bs (longestBlock as bs) where
  standsIn := by
    rw [Block.standsIn_iff]
    rcases Nat.eq_zero_or_pos (longestBlock as bs).size with hzero | hpos
    · rw [hzero]
      exact Nat.zero_le _
    · obtain ⟨i, hleft, hi⟩ := (scanBlocks_spec bs 0 as).2 hpos
      rw [Nat.zero_add] at hleft
      rw [longestBlock, hleft, hi]
  size_le other hother :=
    (Block.standsIn_iff.1 hother).trans (scanBlocks_first bs 0 as other.left other.right).1
  earliest other hother heq := by
    obtain ⟨hle, hfirst⟩ := scanBlocks_first bs 0 as other.left other.right
    rcases Nat.eq_zero_or_pos (longestBlock as bs).size with hzero | hpos
    · rw [longestBlock, scanBlocks_of_size_eq_zero hzero]
      dsimp only
      omega
    · have hsize : commonLead (as.drop other.left) (bs.drop other.right) =
          (longestBlock as bs).size :=
        Nat.le_antisymm hle (heq ▸ Block.standsIn_iff.1 hother)
      have hplaces := hfirst hpos hsize
      rwa [Nat.zero_add] at hplaces

/-! ## What is matched -/

/-- A bound that is not below the length of the first list cuts nothing off: each block uses up an
item of that list. -/
theorem blockTotal_matchedWithin {n : Nat} {as bs : List α} (h : as.length ≤ n) :
    BlockTotal as bs (matchedWithin n as bs) := by
  induction n generalizing as bs with
  | zero =>
    obtain rfl := List.eq_nil_of_length_eq_zero (Nat.le_zero.1 h)
    exact .none (isLongest_longestBlock [] bs) rfl
  | succ n ih =>
    have hlongest := isLongest_longestBlock as bs
    rw [matchedWithin]
    split_ifs with hsize
    · exact .none hlongest hsize
    · have hpos := Nat.pos_of_ne_zero hsize
      have hend := hlongest.standsIn.left_add_size_le hpos
      refine .some hlongest hpos (ih ?_) (ih ?_)
      · rw [List.length_take]
        omega
      · rw [List.length_drop]
        omega

/-- The matched size is what the blocks add up to. -/
theorem blockTotal_iff {as bs : List α} {n : Nat} : BlockTotal as bs n ↔ n = matched as bs := by
  have hmatched : BlockTotal as bs (matched as bs) := blockTotal_matchedWithin (Nat.le_refl _)
  constructor
  · intro h
    exact h.unique hmatched
  · rintro rfl
    exact hmatched

/-- All of a list is matched with itself. -/
theorem matched_self (as : List α) : matched as as = as.length := by
  obtain ⟨s, hs, -, hlength⟩ := matched_mem_commonLengths as as
  have hle := hs.length_le
  have hge := (blockTotal_iff.2 rfl : BlockTotal as as (matched as as)).size_le (standsIn_self as)
  dsimp only at hge
  omega

/-- The ratio times both lengths is twice what is matched, also of two empty lists. -/
theorem blockRatio_mul_length (as bs : List α) :
    blockRatio as bs * (as.length + bs.length : Nat) = (2 * matched as bs : Nat) := by
  rw [blockRatio]
  split_ifs with hempty
  · have hle := two_mul_matched_le as bs
    have hzero : 2 * matched as bs = 0 := by omega
    rw [hempty, hzero, Nat.cast_zero, mul_zero]
  · exact div_mul_cancel₀ _ (Nat.cast_ne_zero.2 hempty)

/-- The ratio of a list and itself is one. -/
theorem blockRatio_self (as : List α) : blockRatio as as = 1 := by
  rw [blockRatio, matched_self]
  split_ifs with hempty
  · rfl
  · rw [two_mul, div_self (Nat.cast_ne_zero.2 hempty)]

end Collate.Similarity
