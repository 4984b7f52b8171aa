import Collate.Proofs.Number.Rounding
import Collate.Proofs.Similarity.Blocks
import Collate.Proofs.Similarity.EditDistance
import Collate.Similarity.Metric

/-!
# Tolerances and thresholds

A tolerance is given as a setting and compared as a double, after one is subtracted from it and the
difference rounded. This module goes back to exact numbers: `Setting.value?` is the value of a
setting that is a finite number, and the threshold of a tolerance is one minus its value, rounded
(`thresholdOf_eq`).

Since rounding is monotone, a greater tolerance has a smaller threshold, and what is near by it is
near by the lower tolerance too, whatever the distance (`Distance.near_thresholdOf_mono`). At the
ends of the range the metrics with a name take all lines for near (`Metric.near_of_tolerance_zero`)
or equal lines only (`Metric.eq_of_near_of_tolerance_one`). The second holds of the exact shares for
all lines (`Metric.share_eq_zero_iff`), and of doubles for lines whose lengths a double can tell
apart (`Metric.Distinguishes`).
-/

namespace Collate

open Collate.Number Collate.Similarity

/-! ## Tolerances -/

namespace Setting

/-- The value of a number that is finite. -/
def Amount.value? : Amount → Option ℚ
  | .whole n => some n
  | .real x => x.value?

/-- The value of a setting that is a finite number. -/
def value? (s : Setting) : Option ℚ := s.amount?.bind Amount.value?

/-- One half. -/
def half : Setting := .float (Binary64.ofRat (1 / 2))

/-- Three quarters. -/
def threeQuarters : Setting := .float (Binary64.ofRat (3 / 4))

theorem value?_half : half.value? = some (1 / 2) := by decide +kernel

theorem value?_threeQuarters : threeQuarters.value? = some (3 / 4) := by decide +kernel

/-- A number lies between zero and one if it has a value that does. -/
theorem Amount.inUnit_iff {amount : Amount} :
    amount.inUnit = true ↔ ∃ r, amount.value? = some r ∧ 0 ≤ r ∧ r ≤ 1 := by
  cases amount with
  | whole n =>
    rw [inUnit, value?, Bool.and_eq_true, decide_eq_true_eq, decide_eq_true_eq]
    constructor
    · rintro ⟨h0, h1⟩
      exact ⟨n, rfl, by exact_mod_cast h0, by exact_mod_cast h1⟩
    · rintro ⟨_, ⟨⟩, h0, h1⟩
      exact ⟨by exact_mod_cast h0, by exact_mod_cast h1⟩
  | real x =>
    rw [inUnit, value?]
    cases x.value? with
    | none => simp
    | some r => simp

/-- What is at most a number is at most a greater one. -/
theorem Amount.atMost_mono {amount : Amount} {x y : Binary64} {a b : ℚ} (hx : x.value? = some a)
    (hy : y.value? = some b) (hab : a ≤ b) (h : amount.atMost x = true) :
    amount.atMost y = true := by
  cases amount with
  | whole n =>
    simp only [atMost, hx, hy, Option.any_some, decide_eq_true_eq] at h ⊢
    exact h.trans hab
  | real z => exact Binary64.le_trans h ((Binary64.le_iff hx hy).2 hab)

end Setting

/-- A setting is a tolerance if its value lies between zero and one. -/
theorem checkTolerance_eq_ok_iff {t : Setting} :
    checkTolerance t = .ok () ↔ ∃ r, t.value? = some r ∧ 0 ≤ r ∧ r ≤ 1 := by
  unfold checkTolerance Setting.value?
  cases t.amount? with
  | none => simp
  | some amount => simp [← Setting.Amount.inUnit_iff]

theorem checkTolerance_half : checkTolerance .half = .ok () :=
  checkTolerance_eq_ok_iff.2 ⟨_, Setting.value?_half, by norm_num, by norm_num⟩

theorem checkTolerance_threeQuarters : checkTolerance .threeQuarters = .ok () :=
  checkTolerance_eq_ok_iff.2 ⟨_, Setting.value?_threeQuarters, by norm_num, by norm_num⟩

/-- The threshold of a tolerance is one minus its value, rounded. -/
theorem thresholdOf_eq {t : Setting} {r : ℚ} (h : t.value? = some r) :
    thresholdOf t = Binary64.ofRat (1 - r) := by
  obtain ⟨amount, hamount, hr⟩ := Option.bind_eq_some_iff.1 h
  rw [thresholdOf, hamount]
  cases amount with
  | whole n =>
    cases hr
    rfl
  | real x =>
    change Metric.complement x = _
    rw [Metric.complement, show x.value? = some r from hr]

/-! ## Distances -/

/-- What is near by a tolerance is near by a lower one. -/
theorem Distance.near_thresholdOf_mono {t₁ t₂ : Setting} {r₁ r₂ : ℚ} (h₁ : t₁.value? = some r₁)
    (h₂ : t₂.value? = some r₂) (h0 : 0 ≤ r₁) (h : r₁ ≤ r₂) (h1 : r₂ ≤ 1) {distance : Distance}
    {a b : Text} (hnear : distance.near (thresholdOf t₂) a b = true) :
    distance.near (thresholdOf t₁) a b = true := by
  rw [thresholdOf_eq h₁]
  rw [thresholdOf_eq h₂] at hnear
  obtain ⟨low, hlow, -⟩ := Binary64.exists_value?_ofRat (p := 1 - r₂) (by linarith) (by linarith)
  obtain ⟨high, hhigh, -⟩ := Binary64.exists_value?_ofRat (p := 1 - r₁) (by linarith) (by linarith)
  have hle : (Binary64.ofRat (1 - r₂)).le (Binary64.ofRat (1 - r₁)) = true :=
    Binary64.ofRat_le_ofRat (by linarith) (by linarith)
  have hvalues := (Binary64.le_iff hlow hhigh).1 hle
  cases distance with
  | metric m => exact Binary64.le_trans hnear hle
  | measure f => exact Setting.Amount.atMost_mono hlow hhigh hvalues hnear
  | constant value =>
    obtain ⟨amount, hamount, hmost⟩ := (Option.any_eq_true _ _).1 hnear
    exact (Option.any_eq_true _ _).2
      ⟨amount, hamount, Setting.Amount.atMost_mono hlow hhigh hvalues hmost⟩
  | absent => cases hnear

namespace Metric

/-- The share of two lines is zero exactly if they are equal. -/
theorem share_eq_zero_iff (m : Metric) (a b : Text) : m.share a b = 0 ↔ a = b := by
  constructor
  · intro h
    by_contra hne
    cases m with
    | levenshtein =>
      obtain ⟨n, hpos, hle, heq⟩ := exists_editShare hne
      rw [share, heq] at h
      have hmax : 0 < max a.length b.length := hpos.trans_le hle
      exact absurd h (by positivity)
    | blocks =>
      have hlt := two_mul_matched_lt hne
      have hratio := blockRatio_le hne
      rw [share, if_neg hne] at h
      have hpart : (0 : ℚ) < 1 / (a.length + b.length : Nat) := by
        have hpos : 0 < a.length + b.length := by omega
        positivity
      linarith
  · rintro rfl
    cases m with
    | levenshtein => rw [share, editShare, if_pos rfl]
    | blocks => rw [share, if_pos rfl]

/-- The complement of a greater share is not greater. -/
theorem complement_le_complement {p q : ℚ} (h0 : 0 ≤ p) (h : p ≤ q) (h1 : q ≤ 1) :
    (complement (Binary64.ofRat q)).le (complement (Binary64.ofRat p)) = true := by
  obtain ⟨a, ha, -, -⟩ := Binary64.exists_value?_ofRat h0 (h.trans h1)
  obtain ⟨b, hb, -, hb1⟩ := Binary64.exists_value?_ofRat (h0.trans h) h1
  have hab := (Binary64.le_iff ha hb).1 (Binary64.ofRat_le_ofRat h0 h)
  rw [complement, complement, ha, hb]
  exact Binary64.ofRat_le_ofRat (by linarith) (by linarith)

/-- The complement of a share is at most one. -/
theorem complement_le_one {p : ℚ} (h0 : 0 ≤ p) (h1 : p ≤ 1) :
    (complement (Binary64.ofRat p)).le (Binary64.ofRat 1) = true := by
  obtain ⟨a, ha, ha0, ha1⟩ := Binary64.exists_value?_ofRat h0 h1
  rw [complement, ha]
  exact Binary64.ofRat_le_ofRat (by linarith) (by linarith)

/-- Nothing is farther apart than one. -/
theorem distance_le_one (m : Metric) (a b : Text) :
    (m.distance a b).le (Binary64.ofRat 1) = true := by
  cases m with
  | levenshtein =>
    obtain ⟨h0, h1⟩ := editShare_mem_unit a b
    exact Binary64.ofRat_le_ofRat h0 h1
  | blocks =>
    rw [distance]
    split_ifs
    · exact Binary64.ofRat_le_ofRat (le_refl 0) zero_le_one
    · obtain ⟨h0, h1⟩ := blockRatio_mem_unit a b
      exact complement_le_one h0 h1

/-- By a tolerance of zero all lines are near. -/
theorem near_of_tolerance_zero (m : Metric) {t : Setting} (ht : t.value? = some 0) (a b : Text) :
    (Distance.metric m).near (thresholdOf t) a b = true := by
  rw [thresholdOf_eq ht, sub_zero]
  exact m.distance_le_one a b

/-- The length, as a power of two, that two lines together have to stay below for a double to tell
them apart. Different lines that are longer can have an edit share below half the least positive
double, and a block ratio closer to one than half its last digit. -/
def reach : Metric → Nat
  | levenshtein => 1075
  | blocks => 54

/-- Two lines are short enough for a double to tell them apart. -/
def Distinguishes (m : Metric) (a b : Text) : Prop := a.length + b.length < 2 ^ m.reach

/-- A part of a whole is not smaller than a part of a greater one. -/
theorem one_div_le_one_div_of_lt {m n : Nat} (hm : 0 < m) (h : m < n) :
    1 / ((n - 1 : Nat) : ℚ) ≤ 1 / (m : ℚ) :=
  one_div_le_one_div_of_le (by exact_mod_cast hm) (by exact_mod_cast Nat.le_sub_one_of_lt h)

/-- Different lines are not at distance zero. -/
theorem eq_of_distance_le_zero {m : Metric} {a b : Text} (hshort : m.Distinguishes a b)
    (h : (m.distance a b).le (Binary64.ofRat 0) = true) : a = b := by
  by_contra hne
  cases m with
  | levenshtein =>
    have hleast : (Binary64.ofRat (1 / ((2 ^ levenshtein.reach - 1 : Nat) : ℚ))).le
        (Binary64.ofRat 0) = false := by decide +kernel
    obtain ⟨n, hpos, hle, -⟩ := exists_editShare hne
    have hmax : max a.length b.length < 2 ^ levenshtein.reach :=
      (max_le (Nat.le_add_right _ _) (Nat.le_add_left _ _)).trans_lt hshort
    have hpart := (one_div_le_one_div_of_lt (hpos.trans_le hle) hmax).trans
      (one_div_le_editShare hne)
    have hshare := Binary64.ofRat_le_ofRat (one_div_nonneg.2 (Nat.cast_nonneg _)) hpart
    exact Bool.false_ne_true (hleast.symm.trans (Binary64.le_trans hshare h))
  | blocks =>
    have hleast : (complement (Binary64.ofRat (1 - 1 / ((2 ^ blocks.reach - 1 : Nat) : ℚ)))).le
        (Binary64.ofRat 0) = false := by decide +kernel
    have hpos : 0 < a.length + b.length := by
      have hlt := two_mul_matched_lt hne
      omega
    have hratio := (blockRatio_le hne).trans
      (sub_le_sub_left (one_div_le_one_div_of_lt hpos hshort) 1)
    have hcomplement := complement_le_complement (blockRatio_mem_unit a b).1 hratio
      (sub_le_self 1 (one_div_nonneg.2 (Nat.cast_nonneg _)))
    rw [distance, if_neg hne] at h
    exact Bool.false_ne_true (hleast.symm.trans (Binary64.le_trans hcomplement h))

/-- By a tolerance of one only equal lines are near. -/
theorem eq_of_near_of_tolerance_one {m : Metric} {t : Setting} (ht : t.value? = some 1)
    {a b : Text} (hshort : m.Distinguishes a b)
    (h : (Distance.metric m).near (thresholdOf t) a b = true) : a = b := by
  rw [thresholdOf_eq ht, sub_self] at h
  exact eq_of_distance_le_zero hshort h

end Metric

end Collate
