import Collate.Proofs.Alignment.Script
import Collate.Proofs.Merge.Settled

/-!
# The gaps of an alignment

Between two kept lines an alignment has a gap, removals and then additions, so its entries are in
canonical order. No removed line of a gap is the same as an added one: such a pair would fit between
the matches around the gap and make a matching that is longer than a longest common subsequence
(`not_fits_commonSubsequence`). Both facts are one: the entries of an alignment are settled for any
way of telling near lines apart that takes only the same lines for near (`settled_alignLines`).
-/

namespace Collate

open Collate.Merge

namespace Alignment

/-- The removals of a gap are those of its left indices. -/
theorem removals_eq (i n : Nat) : removals i n = removedLines (indicesFrom i n) := by
  rw [removals, removedLines, indicesFrom, List.map_map]
  rfl

/-- The additions of a gap are those of its right indices. -/
theorem additions_eq (j m : Nat) : additions j m = addedLines (indicesFrom j m) := by
  rw [additions, addedLines, indicesFrom, List.map_map]
  rfl

/-- The indices of a gap lie in it. -/
theorem mem_indicesFrom {i n : Nat} {x : Int} :
    x ∈ indicesFrom i n ↔ ∃ k : Nat, i ≤ k ∧ k < n ∧ x = k := by
  unfold indicesFrom
  simp only [List.mem_map, List.mem_range'_1]
  constructor
  · rintro ⟨k, hk, rfl⟩
    exact ⟨k, hk.1, by omega, rfl⟩
  · rintro ⟨k, hi, hn, rfl⟩
    exact ⟨k, by omega, rfl⟩

/-! ## What fits between matches -/

/-- Whether a pair of indices can be put between some matches and the matches after them. -/
def Fits (before after : List (Nat × Nat)) (p : Nat × Nat) : Prop :=
  (before ++ p :: after).Pairwise fun p q => p.1 < q.1 ∧ p.2 < q.2

/-- What lies behind some matches and before the others fits between them. -/
theorem fits_of_lt {qs ps : List (Nat × Nat)} {x y : Nat}
    (hclimbs : (qs ++ ps).Pairwise fun p q => p.1 < q.1 ∧ p.2 < q.2)
    (hbefore : ∀ q ∈ qs, q.1 < x ∧ q.2 < y) (hafter : ∀ p ∈ ps, x < p.1 ∧ y < p.2) :
    Fits qs ps (x, y) := by
  obtain ⟨hqs, hps, hcross⟩ := List.pairwise_append.1 hclimbs
  refine List.pairwise_append.2 ⟨hqs, List.pairwise_cons.2 ⟨hafter, hps⟩, ?_⟩
  intro q hq p hp
  rcases List.mem_cons.1 hp with rfl | hp
  · exact hbefore q hq
  · exact hcross q hq p hp

/-- A gap behind some matches and before the others holds no near lines if no near pair fits in. -/
theorem far_of_gap {near : Int → Int → Bool} {i j a b : Nat} {qs ps : List (Nat × Nat)}
    (hclimbs : (qs ++ ps).Pairwise fun p q => p.1 < q.1 ∧ p.2 < q.2)
    (hbefore : ∀ q ∈ qs, q.1 < i ∧ q.2 < j) (hafter : ∀ p ∈ ps, a ≤ p.1 ∧ b ≤ p.2)
    (hfar : ∀ x y : Nat, Fits qs ps (x, y) → near x y = false) :
    ∀ l ∈ indicesFrom i a, ∀ r ∈ indicesFrom j b, near l r = false := by
  intro l hl r hr
  obtain ⟨x, hix, hxa, rfl⟩ := mem_indicesFrom.1 hl
  obtain ⟨y, hjy, hyb, rfl⟩ := mem_indicesFrom.1 hr
  refine hfar x y (fits_of_lt hclimbs ?_ ?_)
  · intro q hq
    have h := hbefore q hq
    omega
  · intro p hp
    have h := hafter p hp
    omega

/-- Entries that keep some matches are settled where no near pair fits between two of them. The
matches `qs` are those before the place `(i, j)`. -/
theorem settled_fillGaps {near : Int → Int → Bool} {n m i j : Nat} {qs ps : List (Nat × Nat)}
    (hclimbs : (qs ++ ps).Pairwise fun p q => p.1 < q.1 ∧ p.2 < q.2)
    (hbefore : ∀ q ∈ qs, q.1 < i ∧ q.2 < j)
    (hfar : ∀ before after (x y : Nat), before ++ after = qs ++ ps → Fits before after (x, y) →
      near x y = false) :
    Settled near (fillGaps n m i j ps) := by
  induction ps generalizing qs i j with
  | nil =>
    rw [fillGaps, removals_eq, additions_eq]
    exact .last _ _ (far_of_gap hclimbs hbefore (fun _ h => absurd h List.not_mem_nil)
      fun x y => hfar qs [] x y rfl)
  | cons p ps ih =>
    obtain ⟨a, b⟩ := p
    obtain ⟨-, hps, hcross⟩ := List.pairwise_append.1 hclimbs
    obtain ⟨hnext, -⟩ := List.pairwise_cons.1 hps
    -- behind its gap the match counts among those before the place
    have happend : qs ++ (a, b) :: ps = qs ++ [(a, b)] ++ ps := by
      rw [List.append_assoc, List.singleton_append]
    rw [fillGaps, removals_eq, additions_eq]
    refine .next _ _ (far_of_gap hclimbs hbefore ?_ fun x y => hfar qs _ x y rfl) rfl ?_
    · intro p hp
      rcases List.mem_cons.1 hp with rfl | hp
      · exact ⟨Nat.le_refl _, Nat.le_refl _⟩
      · have h := hnext p hp
        omega
    · rw [happend] at hclimbs hfar
      refine ih hclimbs ?_ hfar
      intro q hq
      rcases List.mem_append.1 hq with hq | hq
      · have h := hcross q hq (a, b) List.mem_cons_self
        omega
      · rw [List.mem_singleton.1 hq]
        exact ⟨Nat.lt_succ_self a, Nat.lt_succ_self b⟩

variable {α : Type} [DecidableEq α]

/-- No two equal items fit between the matches of a longest common subsequence. -/
theorem not_fits_commonSubsequence {as bs : List α} {before after : List (Nat × Nat)} {x y : Nat}
    {c : α} (hmatches : before ++ after = commonSubsequence as bs) (ha : as[x]? = some c)
    (hb : bs[y]? = some c) : ¬ Fits before after (x, y) := by
  intro hfits
  have hmatching : IsMatching as bs (before ++ (x, y) :: after) := by
    refine ⟨hfits, ?_⟩
    intro p hp
    rw [List.mem_append, List.mem_cons] at hp
    rcases hp with hp | rfl | hp
    · exact (isMatching_commonSubsequence as bs).equal p
        (hmatches ▸ List.mem_append_left _ hp)
    · exact ⟨c, ha, hb⟩
    · exact (isMatching_commonSubsequence as bs).equal p
        (hmatches ▸ List.mem_append_right _ hp)
  have hlonger := hmatching.length_le_longest
  have hlength := congrArg List.length hmatches
  rw [length_commonSubsequence] at hlength
  simp only [List.length_append, List.length_cons] at hlonger hlength
  omega

/-- The entries of an alignment are settled where only equal items are near. -/
theorem settled_alignLines {near : Int → Int → Bool} {as bs : List α}
    (hnear : ∀ x y : Nat, near x y = true → ∃ c, as[x]? = some c ∧ bs[y]? = some c) :
    Settled near (alignLines as bs) := by
  have hbefore : ∀ q ∈ ([] : List (Nat × Nat)), q.1 < 0 ∧ q.2 < 0 :=
    fun q hq => absurd hq List.not_mem_nil
  have hclimbs := (isMatching_commonSubsequence as bs).climbs
  rw [← List.nil_append (commonSubsequence as bs)] at hclimbs
  refine settled_fillGaps hclimbs hbefore ?_
  intro before after x y hmatches hfits
  rw [← Bool.not_eq_true]
  intro hxy
  obtain ⟨c, ha, hb⟩ := hnear x y hxy
  exact not_fits_commonSubsequence hmatches ha hb hfits

/-- The entries of an alignment are in canonical order. -/
theorem canonical_alignLines (as bs : List α) : Canonical (alignLines as bs) := by
  have h : Settled (fun _ _ => false) (alignLines as bs) :=
    settled_alignLines fun x y hnear => absurd hnear Bool.false_ne_true
  exact h.canonical

end Alignment

open Collate.Alignment

namespace Diff

variable {left right : Listing} {d : Diff}

/-- The entries of a diff are in canonical order: no removal stands right behind an addition. -/
def IsCanonical (d : Diff) : Prop := Canonical d.entries

/-- Whether a left and a right line of a diff are the same. -/
def sameLines (d : Diff) (l r : Int) : Bool :=
  (d.left.line? l).any fun a => d.right.line? r = some a

/-- No two lines of one gap of an alignment are the same. -/
theorem settled_align (h : align left right = .ok d) : Settled d.sameLines d.entries := by
  obtain ⟨rfl, rfl, hentries⟩ := of_align_eq_ok h
  rw [hentries]
  apply settled_alignLines
  intro x y hxy
  obtain ⟨c, hx, hy⟩ := (Option.any_eq_true _ _).1 hxy
  exact ⟨c, hx, of_decide_eq_true hy⟩

/-- An alignment is in canonical order. -/
theorem isCanonical_align (h : align left right = .ok d) : d.IsCanonical := by
  obtain ⟨-, -, hentries⟩ := of_align_eq_ok h
  rw [IsCanonical, hentries]
  exact canonical_alignLines left.lines right.lines

end Diff

end Collate
