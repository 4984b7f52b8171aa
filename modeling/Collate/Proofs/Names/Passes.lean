import Mathlib.Data.List.Infix
import Collate.Proofs.Names.Reading

/-!
# Passes over a text

What a pass does where it finds a name and where it finds none, and what the passes together do. A
pass only ever takes characters away, it changes nothing exactly if it finds no name, and shortening
is the same from a text as from what a pass over it leaves (`shorten_pass`). Everything about
shortening follows from these, one pass at a time.
-/

namespace Collate.Names

open Collate.Text

namespace Pattern

variable {p : Pattern} {before before' : Option Char} {c : Char} {t : Text} {tail : Tail}

/-! ## One pass -/

/-- Only whether a name may start matters of the character in front. -/
theorem nameAt?_congr (h : mayFollow before = mayFollow before') (t : Text) :
    p.nameAt? before t = p.nameAt? before' t := by
  unfold nameAt?
  rw [h]

/-- A text without characters holds no name. -/
theorem nameAt?_nil : p.nameAt? before [] = none := by
  rw [Option.eq_none_iff_forall_ne_some]
  intro tail h
  have := length_of_nameAt? h
  simp only [List.length_nil] at this
  omega

@[simp] theorem passFrom_nil : p.passFrom before [] = ([], 0) := by
  rw [passFrom]

/-- A name is shortened, and the pass goes on behind its counter. -/
theorem passFrom_of_eq_some (h : p.nameAt? before t = some tail) :
    p.passFrom before t =
      (tail.name ++ (p.passFrom tail.counter.getLast? tail.rest).1,
        (p.passFrom tail.counter.getLast? tail.rest).2 + 1) := by
  cases t with
  | nil =>
    rw [nameAt?_nil] at h
    cases h
  | cons c t =>
    rw [passFrom]
    split
    · rename_i tail' h'
      rw [h] at h'
      cases h'
      rfl
    · rename_i h'
      rw [h] at h'
      cases h'

/-- Where no name starts, a character stays. -/
theorem passFrom_of_eq_none (h : p.nameAt? before (c :: t) = none) :
    p.passFrom before (c :: t) =
      (c :: (p.passFrom (some c) t).1, (p.passFrom (some c) t).2) := by
  rw [passFrom]
  split
  · rename_i tail' h'
    rw [h] at h'
    cases h'
  · rfl

/-- A pass depends on the character in front only in whether a name may start there. -/
theorem passFrom_congr (h : mayFollow before = mayFollow before') (t : Text) :
    p.passFrom before t = p.passFrom before' t := by
  cases t with
  | nil => rw [passFrom_nil, passFrom_nil]
  | cons c t =>
    cases hname : p.nameAt? before (c :: t) with
    | some tail =>
      rw [passFrom_of_eq_some hname, passFrom_of_eq_some ((nameAt?_congr h _).symm.trans hname)]
    | none =>
      rw [passFrom_of_eq_none hname, passFrom_of_eq_none ((nameAt?_congr h _).symm.trans hname)]

/-- A pass that finds no name changes nothing. -/
theorem passFrom_of_count_eq_zero (h : (p.passFrom before t).2 = 0) :
    (p.passFrom before t).1 = t := by
  induction t generalizing before with
  | nil => rw [passFrom_nil]
  | cons c t ih =>
    cases hname : p.nameAt? before (c :: t) with
    | some tail =>
      rw [passFrom_of_eq_some hname] at h
      cases h
    | none =>
      rw [passFrom_of_eq_none hname] at h ⊢
      rw [ih h]

/-- A pass that finds a name nowhere changes nothing. -/
theorem passFrom_eq_self (h : ∀ u v, t = u ++ v → p.nameAt? (u.getLast?.or before) v = none) :
    p.passFrom before t = (t, 0) := by
  induction t generalizing before with
  | nil => exact passFrom_nil
  | cons c t ih =>
    have hnone : p.nameAt? before (c :: t) = none := h [] (c :: t) rfl
    rw [passFrom_of_eq_none hnone, ih]
    intro u v ht
    have := h (c :: u) v (by rw [ht, List.cons_append])
    rwa [getLast?_cons_or] at this

/-- A pass that finds no name has looked for one everywhere. -/
theorem nameAt?_of_count_eq_zero (h : (p.passFrom before t).2 = 0) {u v : Text} (ht : t = u ++ v) :
    p.nameAt? (u.getLast?.or before) v = none := by
  induction u generalizing before t with
  | nil =>
    rw [List.nil_append] at ht
    subst ht
    rw [Option.eq_none_iff_forall_ne_some]
    intro tail htail
    rw [List.getLast?_nil, Option.none_or] at htail
    rw [passFrom_of_eq_some htail] at h
    cases h
  | cons c u ih =>
    rw [List.cons_append] at ht
    subst ht
    rw [getLast?_cons_or]
    apply ih _ rfl
    cases hname : p.nameAt? before (c :: (u ++ v)) with
    | some tail =>
      rw [passFrom_of_eq_some hname] at h
      cases h
    | none =>
      rwa [passFrom_of_eq_none hname] at h

/-- The rest behind a name is shorter than the text that the name starts. -/
theorem length_rest_lt (h : p.nameAt? before t = some tail) : tail.rest.length < t.length := by
  have := length_of_nameAt? h
  omega

/-- What a name is shortened to is a part of it. -/
theorem name_append_sublist (h : p.nameAt? before t = some tail) {u : Text}
    (hu : u.Sublist tail.rest) : (tail.name ++ u).Sublist t := by
  obtain ⟨lead, -, rfl, -⟩ : ∃ lead ∈ p.leads,
      t = lead ++ '_' :: (tail.name ++ '_' :: tail.counter ++ tail.rest) ∧ tail.counter ≠ [] := by
    unfold nameAt? at h
    split at h
    · exact append_of_afterLead? h
    · cases h
  apply List.sublist_append_of_sublist_right
  apply List.Sublist.cons
  rw [List.append_assoc]
  exact (List.Sublist.refl _).append ((List.sublist_append_of_sublist_right hu).cons _)

/-- A pass takes characters away and does nothing else. -/
theorem passFrom_sublist (p : Pattern) (before : Option Char) (t : Text) :
    (p.passFrom before t).1.Sublist t := by
  induction hn : t.length using Nat.strong_induction_on generalizing before t with
  | _ n ih =>
    subst hn
    cases t with
    | nil => simp
    | cons c t =>
      cases hname : p.nameAt? before (c :: t) with
      | some tail =>
        rw [passFrom_of_eq_some hname]
        exact name_append_sublist hname (ih _ (length_rest_lt hname) _ _ rfl)
      | none =>
        rw [passFrom_of_eq_none hname]
        exact (ih _ (Nat.lt_succ_self _) _ _ rfl).cons_cons _

/-- A pass leaves something of a text. -/
theorem passFrom_ne_nil (hp : p.Plain) (before : Option Char) (h : t ≠ []) :
    (p.passFrom before t).1 ≠ [] := by
  obtain ⟨c, t, rfl⟩ := List.exists_cons_of_ne_nil h
  cases hname : p.nameAt? before (c :: t) with
  | some tail =>
    obtain ⟨-, -, -, u, -, hu⟩ := hp.nameAt?_eq_some_iff.1 hname
    rw [passFrom_of_eq_some hname]
    exact List.append_ne_nil_of_left_ne_nil (hp.tail?_eq_some_iff.1 hu).1.name_ne _
  | none =>
    rw [passFrom_of_eq_none hname]
    exact List.cons_ne_nil _ _

/-! ## All passes -/

/-- A text without generated names is short already. -/
theorem shorten_of_count_eq_zero (h : (p.pass t).2 = 0) : p.shorten t = t := by
  unfold shorten
  rw [shortenCounting]
  split
  · rename_i u hu
    have := passFrom_of_count_eq_zero h
    rwa [show p.passFrom none t = (u, 0) from hu] at this
  · rename_i u n hu
    rw [hu] at h
    cases h

/-- A pass makes no difference to what all passes lead to. -/
theorem shorten_pass (p : Pattern) (t : Text) : p.shorten (p.pass t).1 = p.shorten t := by
  by_cases h : (p.pass t).2 = 0
  · rw [show (p.pass t).1 = t from passFrom_of_count_eq_zero h]
  · unfold shorten
    rw [shortenCounting.eq_def p t]
    split
    · rename_i u hu
      rw [hu] at h
      exact absurd rfl h
    · rename_i u n hu
      change (p.shortenCounting (p.pass t).1).1 = (p.shortenCounting u).1
      rw [hu]

/-- What is kept by every pass and holds of texts without generated names holds of the short form:
the induction on passes. -/
theorem shorten_induction (p : Pattern) {motive : Text → Prop}
    (short : ∀ t, (p.pass t).2 = 0 → motive t) (pass : ∀ t, motive (p.pass t).1 → motive t) :
    ∀ t, motive t := by
  intro t
  induction hn : t.length using Nat.strong_induction_on generalizing t with
  | _ n ih =>
    subst hn
    by_cases h : (p.pass t).2 = 0
    · exact short t h
    · have hlength := length_passFrom p none t
      have hpass : p.passFrom none t = p.pass t := rfl
      rw [hpass] at hlength
      exact pass t (ih _ (by omega) _ rfl)

/-- Shortening takes characters away and does nothing else. -/
theorem shorten_sublist (p : Pattern) (t : Text) : (p.shorten t).Sublist t := by
  induction t using p.shorten_induction with
  | short t h => rw [shorten_of_count_eq_zero h]
  | pass t ih =>
    rw [shorten_pass] at ih
    exact ih.trans (p.passFrom_sublist none t)

/-- Shortening leaves something of a text. -/
theorem shorten_ne_nil (hp : p.Plain) (h : t ≠ []) : p.shorten t ≠ [] := by
  induction t using p.shorten_induction with
  | short t h' => rwa [shorten_of_count_eq_zero h']
  | pass t ih =>
    rw [← shorten_pass]
    exact ih (passFrom_ne_nil hp none h)

/-- A character at the start that belongs to no name, and behind which one may start, stays there. -/
theorem shorten_cons_of_not_isWord (hp : p.Plain) (hc : isWord c = false)
    (hfollow : mayFollow (some c) = true) (t : Text) : p.shorten (c :: t) = c :: p.shorten t := by
  have hpass : ∀ t, p.pass (c :: t) = (c :: (p.pass t).1, (p.pass t).2) := by
    intro t
    have hnone : p.nameAt? none (c :: t) = none := by
      rw [Option.eq_none_iff_forall_ne_some]
      intro tail htail
      obtain ⟨-, lead, hlead, w, hw, -⟩ := hp.nameAt?_eq_some_iff.1 htail
      have hstart : c ∈ lead ++ ['_'] := by
        cases lead with
        | nil => simp_all
        | cons d lead => simp_all
      rw [hp.isWord_lead hlead c hstart] at hc
      cases hc
    have hnext : mayFollow (some c) = mayFollow none := hfollow
    unfold pass
    rw [passFrom_of_eq_none hnone, passFrom_congr hnext]
  induction t using p.shorten_induction with
  | short t h =>
    have hshort : (p.pass (c :: t)).2 = 0 := by rw [hpass, h]
    rw [shorten_of_count_eq_zero h, shorten_of_count_eq_zero hshort]
  | pass t ih => rw [← shorten_pass, hpass, ih, shorten_pass]

@[simp] theorem shorten_nil (p : Pattern) : p.shorten [] = [] := by
  apply shorten_of_count_eq_zero
  unfold pass
  rw [passFrom_nil]

end Pattern

end Collate.Names
