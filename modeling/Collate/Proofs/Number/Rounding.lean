import Mathlib.Algebra.Order.Field.Power
import Mathlib.Algebra.Order.Floor.Semiring
import Mathlib.Data.Int.Log
import Mathlib.Data.Rat.Floor
import Mathlib.Tactic.FieldSimp
import Mathlib.Tactic.Linarith
import Mathlib.Tactic.Positivity
import Mathlib.Tactic.Ring
import Collate.Number.Binary64

/-!
# Rounding is monotone

The double-precision number nearest to a rational one does not get smaller when the rational number
grows (`Binary64.ofRat_le_ofRat`).

A positive value is rounded in two steps. Its exponent is the one at which it has 53 binary digits,
or the least one (`exponentOf_eq`), and its significand is the whole number nearest to what is then
left (`isNearest_scaled`). Two values with one exponent compare by their significands, and nearest
whole numbers are monotone (`IsNearest.le_of_le`). With different exponents the power of two between
the values keeps their significands apart.
-/

namespace Collate.Number

/-! ## Nearest whole numbers -/

/-- A whole number is nearest to a value, and even if another one is as near. -/
structure IsNearest (x : ℚ) (n : ℕ) : Prop where
  /-- The value lies at most half above. -/
  le_add : x ≤ n + 1 / 2
  /-- The value lies at most half below. -/
  sub_le : (n : ℚ) - 1 / 2 ≤ x
  /-- Of two numbers as near the lower one is taken if it is even. -/
  even_of_eq_add : x = n + 1 / 2 → n % 2 = 0
  /-- Of two numbers as near the upper one is taken if it is even. -/
  even_of_eq_sub : x = n - 1 / 2 → n % 2 = 0

/-- Nearest whole numbers are monotone: where two values round towards each other, both lie half way
between two neighbours, and only one of these is even. -/
theorem IsNearest.le_of_le {x y : ℚ} {m n : ℕ} (hm : IsNearest x m) (hn : IsNearest y n)
    (h : x ≤ y) : m ≤ n := by
  by_contra hlt
  have hsucc : n + 1 ≤ m := Nat.lt_of_not_le hlt
  have hcast : (n : ℚ) + 1 ≤ m := by exact_mod_cast hsucc
  have hx := hm.sub_le
  have hy := hn.le_add
  have heq : (m : ℚ) = n + 1 := by linarith
  have hodd : m = n + 1 := by exact_mod_cast heq
  have hm' := hm.even_of_eq_sub (by linarith)
  have hn' := hn.even_of_eq_add (by linarith)
  omega

/-- A whole number less than half away is the nearest one. -/
theorem isNearest_of_lt {x : ℚ} {n : ℕ} (hlt : x < n + 1 / 2) (hgt : (n : ℚ) - 1 / 2 < x) :
    IsNearest x n where
  le_add := hlt.le
  sub_le := hgt.le
  even_of_eq_add h := absurd h hlt.ne
  even_of_eq_sub h := absurd h hgt.ne'

/-- A whole number is nearest to itself. -/
theorem isNearest_natCast (n : ℕ) : IsNearest n n :=
  isNearest_of_lt (by linarith) (by linarith)

/-- Division with rounding finds the nearest whole number. -/
theorem isNearest_divideRounding (num : ℕ) {den : ℕ} (hden : 0 < den) :
    IsNearest ((num : ℚ) / den) (divideRounding num den) := by
  have hden' : (0 : ℚ) < den := by exact_mod_cast hden
  have hrest : num % den < den := Nat.mod_lt num hden
  have hsplit : (num : ℚ) / den = (num / den : ℕ) + (num % den : ℕ) / den := by
    have hnum : (num : ℚ) = den * (num / den : ℕ) + (num % den : ℕ) := by
      exact_mod_cast (Nat.div_add_mod num den).symm
    rw [hnum]
    field_simp
  rw [hsplit]
  unfold divideRounding
  generalize num / den = q
  generalize num % den = r at hrest
  dsimp only
  -- the rest as a share of the divisor, on which side of one half it lies, decides
  have hnonneg : (0 : ℚ) ≤ (r : ℚ) / den := by positivity
  have hlt_one : (r : ℚ) / den < 1 := by
    rw [div_lt_one hden']
    exact_mod_cast hrest
  have hsucc : ((q + 1 : ℕ) : ℚ) = q + 1 := Nat.cast_succ q
  split_ifs with hlow hhalf
  · have hshare : (r : ℚ) / den < 1 / 2 := by
      rw [div_lt_div_iff₀ hden' two_pos]
      exact_mod_cast (by omega : r * 2 < 1 * den)
    exact isNearest_of_lt (by linarith) (by linarith)
  · have hshare : (r : ℚ) / den = 1 / 2 := by
      rw [div_eq_div_iff hden'.ne' two_ne_zero]
      exact_mod_cast (by omega : r * 2 = 1 * den)
    rw [hshare]
    rcases Nat.mod_two_eq_zero_or_one q with hq | hq
    · rw [hq, Nat.add_zero]
      exact ⟨le_refl _, by linarith, fun _ => hq, fun _ => hq⟩
    · have heven : (q + 1) % 2 = 0 := by omega
      rw [hq]
      exact ⟨by linarith, by linarith, fun _ => heven, fun _ => heven⟩
  · have hshare : 1 / 2 < (r : ℚ) / den := by
      rw [div_lt_div_iff₀ two_pos hden']
      exact_mod_cast (by omega : 1 * den < r * 2)
    exact isNearest_of_lt (by linarith) (by linarith)

/-! ## Exponent and significand -/

namespace Binary64

theorem two_zpow_pos (e : ℤ) : (0 : ℚ) < 2 ^ e := zpow_pos two_pos e

/-- The significand is nearest to the value at its exponent. -/
theorem isNearest_scaled (num : ℕ) {den : ℕ} (hden : 0 < den) (e : ℤ) :
    IsNearest ((num : ℚ) / den / 2 ^ e) (scaled num den e) := by
  unfold scaled
  split_ifs with he
  · obtain ⟨n, rfl⟩ := Int.eq_ofNat_of_zero_le he
    have h := isNearest_divideRounding num (Nat.mul_pos hden (Nat.two_pow_pos n))
    rwa [Nat.cast_mul, Nat.cast_pow, Nat.cast_ofNat, ← div_div] at h
  · obtain ⟨n, rfl⟩ : ∃ n : ℕ, e = -(n : ℤ) := ⟨(-e).toNat, by omega⟩
    have h := isNearest_divideRounding (num * 2 ^ n) hden
    rw [Nat.cast_mul, Nat.cast_pow, Nat.cast_ofNat, mul_div_right_comm] at h
    rw [zpow_neg, div_inv_eq_mul, neg_neg, Int.toNat_natCast, zpow_natCast]
    exact h

theorem zpow_le_iff {x : ℚ} (hx : 0 < x) (k : ℤ) : 2 ^ k ≤ x ↔ k ≤ Int.log 2 x := by
  have h : ((2 : ℕ) : ℚ) ^ k ≤ x ↔ k ≤ Int.log 2 x := Int.zpow_le_iff_le_log one_lt_two hx
  rwa [Nat.cast_ofNat] at h

theorem lt_zpow_iff {x : ℚ} (hx : 0 < x) (k : ℤ) : x < 2 ^ k ↔ Int.log 2 x < k := by
  have h : x < ((2 : ℕ) : ℚ) ^ k ↔ Int.log 2 x < k := Int.lt_zpow_iff_log_lt one_lt_two hx
  rwa [Nat.cast_ofNat] at h

/-- A quotient lies between the powers of two that the lengths of its two parts give. -/
theorem zpow_log2_sub_lt {num den : ℕ} (hnum : 0 < num) (hden : 0 < den) :
    (2 : ℚ) ^ ((num.log2 : ℤ) - den.log2 - 1) < (num : ℚ) / den ∧
      (num : ℚ) / den < 2 ^ ((num.log2 : ℤ) - den.log2 + 1) := by
  have hden' : (0 : ℚ) < den := by exact_mod_cast hden
  have hnum_le : (2 : ℚ) ^ (num.log2 : ℤ) ≤ num := by
    rw [zpow_natCast]
    exact_mod_cast Nat.log2_self_le hnum.ne'
  have hnum_lt : (num : ℚ) < 2 ^ ((num.log2 : ℤ) + 1) := by
    rw [← Nat.cast_succ, zpow_natCast]
    exact_mod_cast Nat.lt_log2_self
  have hden_le : (2 : ℚ) ^ (den.log2 : ℤ) ≤ den := by
    rw [zpow_natCast]
    exact_mod_cast Nat.log2_self_le hden.ne'
  have hden_lt : (den : ℚ) < 2 ^ ((den.log2 : ℤ) + 1) := by
    rw [← Nat.cast_succ, zpow_natCast]
    exact_mod_cast Nat.lt_log2_self
  constructor
  · rw [lt_div_iff₀ hden']
    calc (2 : ℚ) ^ ((num.log2 : ℤ) - den.log2 - 1) * den
        < 2 ^ ((num.log2 : ℤ) - den.log2 - 1) * 2 ^ ((den.log2 : ℤ) + 1) :=
          mul_lt_mul_of_pos_left hden_lt (two_zpow_pos _)
      _ = 2 ^ (num.log2 : ℤ) := by
          rw [← zpow_add₀ two_ne_zero]
          congr 1
          ring
      _ ≤ num := hnum_le
  · rw [div_lt_iff₀ hden']
    calc (num : ℚ) < 2 ^ ((num.log2 : ℤ) + 1) := hnum_lt
      _ = 2 ^ ((num.log2 : ℤ) - den.log2 + 1) * 2 ^ (den.log2 : ℤ) := by
          rw [← zpow_add₀ two_ne_zero]
          congr 1
          ring
      _ ≤ 2 ^ ((num.log2 : ℤ) - den.log2 + 1) * den :=
          mul_le_mul_of_nonneg_left hden_le (two_zpow_pos _).le

/-- Comparing a quotient with a power of two takes whole numbers only. -/
theorem zpow_le_div_iff {num den : ℕ} (hden : 0 < den) (guess : ℤ) :
    (if 0 ≤ guess then decide (den * Nat.pow 2 (guess.toNat + 52) ≤ num)
      else decide (den * Nat.pow 2 52 ≤ num * Nat.pow 2 (-guess).toNat)) = true ↔
      (2 : ℚ) ^ (guess + 52) ≤ (num : ℚ) / den := by
  have hden' : (0 : ℚ) < den := by exact_mod_cast hden
  rw [le_div_iff₀ hden']
  split_ifs with hguess
  · obtain ⟨n, rfl⟩ := Int.eq_ofNat_of_zero_le hguess
    have hpow : (2 : ℚ) ^ ((n : ℤ) + 52) = (Nat.pow 2 (n + 52) : ℕ) := by
      exact_mod_cast zpow_natCast (2 : ℚ) (n + 52)
    rw [decide_eq_true_iff, Int.toNat_natCast, hpow, mul_comm]
    exact_mod_cast Iff.rfl
  · obtain ⟨n, rfl⟩ : ∃ n : ℕ, guess = -(n : ℤ) := ⟨(-guess).toNat, by omega⟩
    have hpow : (2 : ℚ) ^ (-(n : ℤ) + 52) * den = den * (Nat.pow 2 52 : ℕ) / (Nat.pow 2 n : ℕ) := by
      rw [zpow_add₀ two_ne_zero, zpow_neg, zpow_natCast, Nat.pow_eq, Nat.pow_eq, Nat.cast_pow,
        Nat.cast_pow, Nat.cast_ofNat]
      field_simp
    have hpos : (0 : ℚ) < (Nat.pow 2 n : ℕ) := by exact_mod_cast Nat.two_pow_pos n
    rw [decide_eq_true_iff, neg_neg, Int.toNat_natCast, hpow, div_le_iff₀ hpos]
    exact_mod_cast Iff.rfl

/-- The exponent of a positive value gives it 53 binary digits, or is the least one. -/
theorem exponentOf_eq {num den : ℕ} (hnum : 0 < num) (hden : 0 < den) :
    exponentOf num den = max leastExponent (Int.log 2 ((num : ℚ) / den) - 52) := by
  have hpos : (0 : ℚ) < (num : ℚ) / den := div_pos (Nat.cast_pos.2 hnum) (Nat.cast_pos.2 hden)
  obtain ⟨hlow, hhigh⟩ := zpow_log2_sub_lt hnum hden
  have hlow := (zpow_le_iff hpos _).1 hlow.le
  have hhigh := (lt_zpow_iff hpos _).1 hhigh
  have hguess := @zpow_le_div_iff num den hden ((num.log2 : ℤ) - den.log2 - 52)
  rw [Int.sub_add_cancel, zpow_le_iff hpos] at hguess
  unfold exponentOf
  dsimp only
  congr 1
  by_cases hdigits : (num.log2 : ℤ) - den.log2 ≤ Int.log 2 ((num : ℚ) / den)
  · rw [if_pos (hguess.2 hdigits)]
    omega
  · rw [if_neg (mt hguess.1 hdigits)]
    omega

/-- The significand of a positive value at its exponent has at most 53 binary digits, a last carry
aside, and has that many unless the exponent is the least one. -/
theorem scaled_bounds {num den : ℕ} (hnum : 0 < num) (hden : 0 < den) :
    scaled num den (exponentOf num den) ≤ 2 ^ 53 ∧
      (exponentOf num den = leastExponent ∨ 2 ^ 52 ≤ scaled num den (exponentOf num den)) := by
  have hpos : (0 : ℚ) < (num : ℚ) / den := div_pos (Nat.cast_pos.2 hnum) (Nat.cast_pos.2 hden)
  have hnearest := isNearest_scaled num hden (exponentOf num den)
  have hexponent := exponentOf_eq hnum hden
  generalize exponentOf num den = e at hnearest hexponent
  constructor
  · refine hnearest.le_of_le (isNearest_natCast (2 ^ 53)) ?_
    rw [div_le_iff₀ (two_zpow_pos e), Nat.cast_pow, Nat.cast_ofNat, ← zpow_natCast,
      ← zpow_add₀ two_ne_zero]
    refine ((lt_zpow_iff hpos _).2 ?_).le
    omega
  · by_cases hleast : e = leastExponent
    · exact .inl hleast
    · right
      refine (isNearest_natCast (2 ^ 52)).le_of_le hnearest ?_
      rw [le_div_iff₀ (two_zpow_pos e), Nat.cast_pow, Nat.cast_ofNat, ← zpow_natCast,
        ← zpow_add₀ two_ne_zero]
      refine (zpow_le_iff hpos _).2 ?_
      omega

/-- Of two values the greater one has the greater exponent, with a significand of 53 binary digits,
or the same exponent and no smaller significand. -/
theorem scaled_le_scaled {num den num' den' : ℕ} (hnum : 0 < num) (hden : 0 < den)
    (hnum' : 0 < num') (hden' : 0 < den') (h : (num : ℚ) / den ≤ (num' : ℚ) / den') :
    exponentOf num den = exponentOf num' den' ∧
        scaled num den (exponentOf num den) ≤ scaled num' den' (exponentOf num' den') ∨
      exponentOf num den < exponentOf num' den' ∧
        2 ^ 52 ≤ scaled num' den' (exponentOf num' den') := by
  have hpos : (0 : ℚ) < (num : ℚ) / den := div_pos (Nat.cast_pos.2 hnum) (Nat.cast_pos.2 hden)
  have hlog : Int.log 2 ((num : ℚ) / den) ≤ Int.log 2 ((num' : ℚ) / den') :=
    Int.log_mono_right hpos h
  have hle : exponentOf num den ≤ exponentOf num' den' := by
    rw [exponentOf_eq hnum hden, exponentOf_eq hnum' hden']
    omega
  rcases hle.lt_or_eq with hlt | heq
  · right
    refine ⟨hlt, (scaled_bounds hnum' hden').2.resolve_left ?_⟩
    have hleast : leastExponent ≤ exponentOf num den := by
      rw [exponentOf_eq hnum hden]
      exact le_max_left _ _
    omega
  · left
    refine ⟨heq, ?_⟩
    rw [heq]
    refine (isNearest_scaled num hden _).le_of_le (isNearest_scaled num' hden' _) ?_
    exact div_le_div_of_nonneg_right h (two_zpow_pos _).le

/-! ## Numbers -/

/-- The number with a significand and an exponent: a significand of `2 ^ 53` carries. -/
def carried (negative : Bool) (significand : ℕ) (exponent : ℤ) : Binary64 :=
  let (significand, exponent) :=
    if significand = Nat.pow 2 53 then (Nat.pow 2 52, exponent + 1) else (significand, exponent)
  if greatestExponent < exponent then .infinite negative
  else .finite negative significand exponent

/-- Rounding takes the significand and the exponent of a value. -/
theorem ofQuotient_eq (negative : Bool) {num : ℕ} (hnum : 0 < num) (den : ℕ) :
    ofQuotient negative num den =
      carried negative (scaled num den (exponentOf num den)) (exponentOf num den) := by
  unfold ofQuotient
  rw [if_neg hnum.ne']
  rfl

/-- A carry changes neither the value nor that the exponents tell values apart. -/
theorem exists_carried (negative : Bool) (s : ℕ) (e : ℤ) :
    ∃ s' e', carried negative s e =
        (if greatestExponent < e' then .infinite negative else .finite negative s' e') ∧
      (s' : ℚ) * 2 ^ e' = s * 2 ^ e ∧ (e' = e ∧ s ≠ 2 ^ 53 ∨ e' = e + 1 ∧ s = 2 ^ 53) := by
  unfold carried
  split_ifs with hcarry
  · refine ⟨2 ^ 52, e + 1, rfl, ?_, .inr ⟨rfl, hcarry⟩⟩
    rw [hcarry, zpow_add_one₀ two_ne_zero, Nat.pow_eq]
    push_cast
    ring
  · exact ⟨s, e, rfl, rfl, .inl ⟨rfl, hcarry⟩⟩

/-- The value of a number without a sign. -/
theorem finiteValue_false (s : ℕ) (e : ℤ) : finiteValue false s e = s * 2 ^ e := by
  unfold finiteValue
  rw [if_neg Bool.false_ne_true]
  split_ifs with he
  · obtain ⟨n, rfl⟩ := Int.eq_ofNat_of_zero_le he
    rw [Int.toNat_natCast, zpow_natCast, Nat.pow_eq]
    push_cast
    rfl
  · obtain ⟨n, rfl⟩ : ∃ n : ℕ, e = -(n : ℤ) := ⟨(-e).toNat, by omega⟩
    rw [neg_neg, Int.toNat_natCast, zpow_neg, zpow_natCast, Nat.pow_eq, ← div_eq_mul_inv]
    push_cast
    rfl

/-- Numbers compare by their exponents and then by their significands. -/
theorem carried_le_carried {s t : ℕ} {e f : ℤ} (hs : s ≤ 2 ^ 53) (ht : t ≤ 2 ^ 53)
    (h : e = f ∧ s ≤ t ∨ e < f ∧ 2 ^ 52 ≤ t) :
    (carried false s e).le (carried false t f) = true := by
  obtain ⟨s', e', hse, hsval, hscarry⟩ := exists_carried false s e
  obtain ⟨t', f', htf, htval, htcarry⟩ := exists_carried false t f
  have hvalue : (s : ℚ) * 2 ^ e ≤ t * 2 ^ f := by
    rcases h with ⟨rfl, hst⟩ | ⟨hef, ht'⟩
    · exact mul_le_mul_of_nonneg_right (by exact_mod_cast hst) (two_zpow_pos e).le
    · have hs' : (s : ℚ) ≤ 2 ^ (53 : ℤ) := by exact_mod_cast hs
      have ht' : (2 : ℚ) ^ (52 : ℤ) ≤ t := by exact_mod_cast ht'
      calc (s : ℚ) * 2 ^ e
          ≤ 2 ^ (53 : ℤ) * 2 ^ e := mul_le_mul_of_nonneg_right hs' (two_zpow_pos e).le
        _ = 2 ^ (53 + e) := (zpow_add₀ two_ne_zero _ _).symm
        _ ≤ 2 ^ (52 + f) := zpow_le_zpow_right₀ one_le_two (by omega)
        _ = 2 ^ (52 : ℤ) * 2 ^ f := zpow_add₀ two_ne_zero _ _
        _ ≤ t * 2 ^ f := mul_le_mul_of_nonneg_right ht' (two_zpow_pos f).le
  have hexponent : e' ≤ f' := by omega
  rw [hse, htf]
  by_cases hf : greatestExponent < f'
  · rw [if_pos hf]
    split_ifs <;> rfl
  · rw [if_neg hf, if_neg (by omega)]
    refine decide_eq_true ?_
    rwa [finiteValue_false, finiteValue_false, hsval, htval]

/-- Rounding a positive rational number. -/
theorem ofRat_of_pos {r : ℚ} (hr : 0 < r) :
    0 < r.num.natAbs ∧ ((r.num.natAbs : ℚ) / r.den = r) ∧
      ofRat r = ofQuotient false r.num.natAbs r.den := by
  have hnum : 0 < r.num := Rat.num_pos.2 hr
  have hcast : ((r.num.natAbs : ℤ) : ℚ) = r.num := by rw [Int.natAbs_of_nonneg hnum.le]
  refine ⟨Int.natAbs_pos.2 hnum.ne', ?_, ?_⟩
  · rw [← Int.cast_natCast, hcast, Rat.num_div_den]
  · rw [ofRat, decide_eq_false (not_lt.2 hnum.le)]

/-- **Rounding is monotone.** -/
theorem ofRat_le_ofRat {p q : ℚ} (hp : 0 ≤ p) (h : p ≤ q) : (ofRat p).le (ofRat q) = true := by
  rcases hp.lt_or_eq with hp | rfl
  · obtain ⟨hpnum, hpval, hpround⟩ := ofRat_of_pos hp
    obtain ⟨hqnum, hqval, hqround⟩ := ofRat_of_pos (hp.trans_le h)
    rw [hpround, hqround, ofQuotient_eq false hpnum, ofQuotient_eq false hqnum]
    refine carried_le_carried (scaled_bounds hpnum p.den_pos).1 (scaled_bounds hqnum q.den_pos).1
      (scaled_le_scaled hpnum p.den_pos hqnum q.den_pos ?_)
    rwa [hpval, hqval]
  · have hzero : ofRat 0 = carried false 0 leastExponent := rfl
    rcases h.lt_or_eq with hq | rfl
    · obtain ⟨hqnum, -, hqround⟩ := ofRat_of_pos hq
      obtain ⟨hle, hnormal⟩ := scaled_bounds hqnum q.den_pos
      have hleast : leastExponent ≤ exponentOf q.num.natAbs q.den := by
        rw [exponentOf_eq hqnum q.den_pos]
        exact le_max_left _ _
      rw [hzero, hqround, ofQuotient_eq false hqnum]
      refine carried_le_carried (Nat.zero_le _) hle ?_
      rcases hleast.lt_or_eq with hlt | heq
      · exact .inr ⟨hlt, hnormal.resolve_left hlt.ne'⟩
      · exact .inl ⟨heq, Nat.zero_le _⟩
    · rw [hzero]
      exact carried_le_carried (Nat.zero_le _) (Nat.zero_le _) (.inl ⟨rfl, le_refl _⟩)

/-! ## The order of numbers -/

/-- A number is at most another one if it is the lower infinity, the other one is the upper one, or
both are finite and compare by their values. -/
theorem le_eq_true_iff {x y : Binary64} :
    x.le y = true ↔ (x = .infinite true ∧ y ≠ .nan) ∨ (x ≠ .nan ∧ y = .infinite false) ∨
      ∃ a b, x.value? = some a ∧ y.value? = some b ∧ a ≤ b := by
  cases x with
  | nan => simp [le, value?]
  | infinite n =>
    cases y with
    | nan => cases n <;> simp [le, value?]
    | infinite m => cases n <;> cases m <;> simp [le, value?]
    | finite m s e => cases n <;> simp [le, value?]
  | finite n s e =>
    cases y with
    | nan => simp [le, value?]
    | infinite m => cases m <;> simp [le, value?]
    | finite m t f => simp [le, value?]

/-- What has a value is a number and no infinity. -/
theorem ne_of_value? {x : Binary64} {a : ℚ} (hx : x.value? = some a) :
    x ≠ .nan ∧ ∀ n, x ≠ .infinite n := by
  cases x with
  | nan | infinite _ => cases hx
  | finite n s e => exact ⟨Binary64.noConfusion, fun _ => Binary64.noConfusion⟩

theorem le_trans {x y z : Binary64} (hxy : x.le y = true) (hyz : y.le z = true) :
    x.le z = true := by
  rw [le_eq_true_iff] at hxy hyz ⊢
  rcases hxy with ⟨rfl, -⟩ | ⟨hx, rfl⟩ | ⟨a, b, hxa, hyb, hab⟩
  · rcases hyz with ⟨-, hz⟩ | ⟨-, rfl⟩ | ⟨-, c, -, hzc, -⟩
    · exact .inl ⟨rfl, hz⟩
    · exact .inl ⟨rfl, Binary64.noConfusion⟩
    · exact .inl ⟨rfl, (ne_of_value? hzc).1⟩
  · rcases hyz with ⟨hy, -⟩ | ⟨-, rfl⟩ | ⟨b, c, hyb, -, -⟩
    · cases hy
    · exact .inr (.inl ⟨hx, rfl⟩)
    · cases hyb
  · rcases hyz with ⟨rfl, -⟩ | ⟨-, rfl⟩ | ⟨b', c, hyb', hzc, hbc⟩
    · cases hyb
    · exact .inr (.inl ⟨(ne_of_value? hxa).1, rfl⟩)
    · cases hyb.symm.trans hyb'
      exact .inr (.inr ⟨a, c, hxa, hzc, hab.trans hbc⟩)

/-- Of two numbers one is at most the other. -/
theorem le_or_le {x y : Binary64} (hx : x ≠ .nan) (hy : y ≠ .nan) :
    x.le y = true ∨ y.le x = true := by
  cases x with
  | nan => exact absurd rfl hx
  | infinite n =>
    cases y with
    | nan => exact absurd rfl hy
    | infinite m => cases n <;> cases m <;> simp [le]
    | finite m t f => cases n <;> simp [le]
  | finite n s e =>
    cases y with
    | nan => exact absurd rfl hy
    | infinite m => cases m <;> simp [le]
    | finite m t f => simpa [le] using le_total _ _

/-- Finite numbers compare by their values. -/
theorem le_iff {x y : Binary64} {a b : ℚ} (hx : x.value? = some a) (hy : y.value? = some b) :
    x.le y = true ↔ a ≤ b := by
  rw [le_eq_true_iff]
  constructor
  · rintro (⟨rfl, -⟩ | ⟨-, rfl⟩ | ⟨a', b', hx', hy', h⟩)
    · cases hx
    · cases hy
    · cases hx.symm.trans hx'
      cases hy.symm.trans hy'
      exact h
  · intro h
    exact .inr (.inr ⟨a, b, hx, hy, h⟩)

/-- A number between finite ones is finite. -/
theorem exists_value?_of_le {x y z : Binary64} {a b : ℚ} (hx : x.value? = some a)
    (hz : z.value? = some b) (hxy : x.le y = true) (hyz : y.le z = true) :
    ∃ r, y.value? = some r ∧ a ≤ r ∧ r ≤ b := by
  rcases le_eq_true_iff.1 hxy with ⟨rfl, -⟩ | ⟨-, rfl⟩ | ⟨_, r, -, hy, -⟩
  · cases hx
  · rcases le_eq_true_iff.1 hyz with ⟨hy, -⟩ | ⟨-, rfl⟩ | ⟨_, _, hy, -, -⟩
    · cases hy
    · cases hz
    · cases hy
  · exact ⟨r, hy, (le_iff hx hy).1 hxy, (le_iff hy hz).1 hyz⟩

/-- Rounding a share gives a finite number that is a share. -/
theorem exists_value?_ofRat {p : ℚ} (h0 : 0 ≤ p) (h1 : p ≤ 1) :
    ∃ r, (ofRat p).value? = some r ∧ 0 ≤ r ∧ r ≤ 1 := by
  have hzero : (ofRat 0).value? = some 0 := by decide +kernel
  have hone : (ofRat 1).value? = some 1 := by decide +kernel
  exact exists_value?_of_le hzero hone (ofRat_le_ofRat (le_refl 0) h0) (ofRat_le_ofRat h0 h1)

end Binary64

end Collate.Number
