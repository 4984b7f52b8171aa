import Collate.Proofs.Names.Passes

/-!
# The passes come to an end

Shortening a name can bring forth another one, since what a name is shortened to may end with a
counter of its own. So a text is passed over again until a pass finds nothing, and there is no saying
beforehand how often. It is not often: whatever the leads are, each name loses an underscore, a
second one and a digit at least, so a pass that finds a name leaves three characters fewer
(`Loop.length_le`).

The last pass has looked for a name everywhere and changed nothing. What it leaves therefore holds
no generated name at all, whichever lead and whichever counter it might have
(`Pattern.count_eq_zero_iff`), and to shorten it again makes no difference.
-/

namespace Collate.Names

open Collate.Text

namespace Pattern

variable {p : Pattern} {t u : Text} {n : Nat}

/-- Whether there is a generated name in a text: a lead where a name may start, with an underscore
and a tail behind it, of the function if the pattern has one. -/
def Matches (p : Pattern) (t : Text) : Prop :=
  ∃ before lead v tail, t = before ++ (lead ++ '_' :: v) ∧ mayFollow before.getLast? = true ∧
    lead ∈ p.leads ∧ IsTail v tail ∧ ∀ name ∈ p.function, tail.name = name

/-- A pass finds no name exactly where there is none. -/
theorem count_eq_zero_iff (hp : p.NamesFunction) : (p.pass t).2 = 0 ↔ ¬ p.Matches t := by
  constructor
  · rintro h ⟨before, lead, v, tail, ht, hmay, hlead, htail⟩
    have hnone := nameAt?_of_count_eq_zero h ht
    have hsome := (isSome_nameAt?_iff hp).2 ⟨hmay, lead, hlead, v, tail, rfl, htail⟩
    rw [Option.or_none] at hnone
    rw [hnone] at hsome
    cases hsome
  · intro h
    have hpass : p.passFrom none t = (t, 0) := by
      apply passFrom_eq_self
      intro before v ht
      rw [Option.or_none, ← Option.not_isSome_iff_eq_none, isSome_nameAt?_iff hp]
      rintro ⟨hmay, lead, hlead, w, tail, rfl, htail⟩
      exact h ⟨before, lead, w, tail, ht, hmay, hlead, htail⟩
    exact congrArg Prod.snd hpass

/-- A run of passes over a text, with their number and the text they leave. A pass that finds a name
is followed by another, the one that finds none is the last. -/
inductive Loop (p : Pattern) : Text → Nat → Text → Prop
  /-- The pass finds no name. -/
  | stop {t : Text} (h : (p.pass t).2 = 0) : Loop p t 1 (p.pass t).1
  /-- The pass finds names. -/
  | again {t u : Text} {n : Nat} (h : (p.pass t).2 ≠ 0) (hrest : Loop p (p.pass t).1 n u) :
    Loop p t (n + 1) u

/-- Every pass but the last takes three characters away. -/
theorem Loop.length_le (h : p.Loop t n u) : 3 * n + u.length ≤ t.length + 3 := by
  induction h with
  | @stop t _ =>
    have hpass : (p.pass t).1.length + 3 * (p.pass t).2 ≤ t.length := length_passFrom p none t
    omega
  | @again t u n h _ ih =>
    have hpass : (p.pass t).1.length + 3 * (p.pass t).2 ≤ t.length := length_passFrom p none t
    omega

/-- A run of passes leaves the short form. -/
theorem Loop.eq_shorten (h : p.Loop t n u) : u = p.shorten t := by
  induction h with
  | stop h =>
    rw [shorten_of_count_eq_zero h]
    exact passFrom_of_count_eq_zero h
  | again _ _ ih => rw [ih, shorten_pass]

/-- The passes over a text come to an end. -/
theorem exists_loop (p : Pattern) (t : Text) : ∃ n, p.Loop t n (p.shorten t) := by
  have hstop : ∀ t, (p.pass t).2 = 0 → p.Loop t 1 (p.shorten t) := by
    intro t h
    have hloop := Loop.stop h
    rwa [hloop.eq_shorten] at hloop
  induction t using p.shorten_induction with
  | short t h => exact ⟨1, hstop t h⟩
  | pass t ih =>
    by_cases h : (p.pass t).2 = 0
    · exact ⟨1, hstop t h⟩
    · obtain ⟨n, hrest⟩ := ih
      rw [shorten_pass] at hrest
      exact ⟨n + 1, .again h hrest⟩

/-- A pass finds nothing in a short form. -/
theorem count_pass_shorten (p : Pattern) (t : Text) : (p.pass (p.shorten t)).2 = 0 := by
  induction t using p.shorten_induction with
  | short t h => rwa [shorten_of_count_eq_zero h]
  | pass t ih => rwa [shorten_pass] at ih

end Pattern

/-- **Shortening comes to an end, and the end is a fixed point.** Let there be leads, whatever
characters they hold, and all functions or a single one. Then the passes over a text end after a
third as many as it has characters and one more at most, always with the same result. It holds no
generated name, it is what is left of the text after characters were taken away, and it is its own
short form. -/
theorem shorten_fixed_point (leads : List Text) (hleads : leads ≠ []) (function : Setting)
    (hfunction : IsFunctionSetting function) :
    ∃ p, Pattern.make leads function = .ok p ∧ ∀ code,
      (∃ n ≤ code.length / 3 + 1, p.Loop code n (p.shorten code)) ∧
      (∀ n u, p.Loop code n u → n ≤ code.length / 3 + 1 ∧ u = p.shorten code) ∧
      ¬ p.Matches (p.shorten code) ∧ (p.shorten code).Sublist code ∧
      p.shorten (p.shorten code) = p.shorten code := by
  obtain ⟨p, hmake, -, hp⟩ := exists_make_of_leads hleads hfunction
  refine ⟨p, hmake, ?_⟩
  intro code
  have hbound : ∀ n u, p.Loop code n u → n ≤ code.length / 3 + 1 := by
    intro n u h
    have hlength := h.length_le
    omega
  obtain ⟨n, hloop⟩ := p.exists_loop code
  have hcount := p.count_pass_shorten code
  exact ⟨⟨n, hbound n _ hloop, hloop⟩, fun n u h => ⟨hbound n u h, h.eq_shorten⟩,
    (Pattern.count_eq_zero_iff hp).1 hcount, p.shorten_sublist code,
    Pattern.shorten_of_count_eq_zero hcount⟩

/-- Names in one another, and leads that are empty or hold a point: two passes find names, and the
third one ends the run. -/
theorem shorten_fixed_point_nested :
    let leads := ["", "a.b", "julia"].map String.toList
    let code := "julia_julia_g_1_2 a.b_x_3 _h_4".toList
    ∃ p, Pattern.make leads .null = .ok p ∧ p.shorten code = "g x h".toList ∧
      p.Loop code 3 "g x h".toList ∧ ¬ p.Matches "g x h".toList ∧
      p.shorten "g x h".toList = "g x h".toList := by
  intro leads code
  obtain ⟨p, hmake, hcode⟩ := shorten_fixed_point leads (by decide) .null (.inl rfl)
  obtain rfl : ⟨leads, none⟩ = p := Except.ok.inj hmake
  obtain ⟨-, hresult, hnone, -, hagain⟩ := hcode code
  let p : Pattern := ⟨leads, none⟩
  have hfirst : p.pass code = ("julia_g_1 x h".toList, 3) := by decide +kernel
  have hsecond : p.pass "julia_g_1 x h".toList = ("g x h".toList, 1) := by decide +kernel
  have hthird : p.pass "g x h".toList = ("g x h".toList, 0) := by decide +kernel
  have hloop : p.Loop code 3 "g x h".toList := by
    apply Pattern.Loop.again <;> rw [hfirst]
    · decide
    apply Pattern.Loop.again <;> rw [hsecond]
    · decide
    have hstop := Pattern.Loop.stop (congrArg Prod.snd hthird)
    rwa [hthird] at hstop
  obtain ⟨-, hshort⟩ := hresult 3 _ hloop
  rw [← hshort] at hnone hagain
  exact ⟨p, hmake, hshort.symm, hloop, hnone, hagain⟩

end Collate.Names
