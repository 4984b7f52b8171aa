import Collate.Names.Generated
import Collate.Proofs.Text.Lines

/-!
# What is read as a generated name

The reader of generated names walks through a text character by character and tries its leads one
after the other. This module says what it answers in terms of the text as a whole, so that nothing
after it has to walk again.

* `IsTail` is the shape of a generated name behind its lead. The longest name is taken, and so a
  tail is found exactly if no further counter can be reached behind it
  (`openTail?_eq_some_iff`, `isSome_openTail?_iff`).
* Whatever the leads are, a name is read exactly where there is one (`isSome_nameAt?_iff`). Which
  name it is depends on their order.
* None of the usual leads holds an underscore. So at most one fits, and their order does not matter
  (`nameAt?_eq_some_iff`). Patterns that come from settings and the usual leads are `Plain`
  (`plain_of_make`), which is all that is asked of them.
-/

namespace Collate.Names

open Collate.Text

/-! ## Separators -/

/-- A blank is no word character. -/
theorem isWord_of_isBlank {c : Char} (h : isBlank c = true) : isWord c = false := by
  have htable : ∀ r ∈ blankRanges, ∀ k ∈ List.range (r.2 - r.1 + 1),
      isWord (Char.ofNat (r.1 + k)) = false := by decide +kernel
  obtain ⟨r, hr, hfirst, hlast⟩ := Ranges.exists_of_holds h
  have hc := htable r hr (c.toNat - r.1) (List.mem_range.2 (by omega))
  rwa [Nat.add_sub_cancel' hfirst, Char.ofNat_toNat] at hc

/-- A separator is no word character. -/
theorem isWord_of_isSeparator {c : Char} (h : isSeparator c = true) : isWord c = false := by
  have hmarks : ∀ c ∈ "\"';,-()@".toList, isWord c = false := forall_mem_of_all (by decide +kernel)
  rw [isSeparator, Bool.or_eq_true] at h
  rcases h with h | h
  · apply hmarks
    simpa [isSeparatorMark, or_assoc] using h
  · exact isWord_of_isBlank h

/-- A generated name may start behind a separator. -/
theorem mayFollow_of_isSeparator {c : Char} (h : isSeparator c = true) :
    mayFollow (some c) = true := by
  have hpoint : c ≠ '.' := by
    rintro rfl
    revert h
    decide
  simp [mayFollow, isWord_of_isSeparator h, hpoint]

/-- The character in front of what follows a text with one character more in front. -/
theorem getLast?_cons_or (c : Char) (u : Text) (before : Option Char) :
    (c :: u).getLast?.or before = u.getLast?.or (some c) := by
  rw [List.getLast?_cons]
  cases u.getLast? <;> rfl

/-- A character that ends lines is a separator. -/
theorem isSeparator_of_isLineEnd {c : Char} (h : isLineEnd c = true) : isSeparator c = true := by
  have hends : ∀ c ∈ "\n\x0b\x0c\r\x1c\x1d\x1e\u0085\u2028\u2029".toList, isSeparator c = true :=
    forall_mem_of_all (by decide +kernel)
  apply hends
  simpa [isLineEnd, or_assoc] using h

/-- A word character is no separator. -/
theorem isSeparator_of_isWord {c : Char} (h : isWord c = true) : isSeparator c = false := by
  rw [← Bool.not_eq_true]
  intro hs
  rw [isWord_of_isSeparator hs] at h
  cases h

theorem isWord_underscore : isWord '_' = true := by simp [isWord]

theorem isDigit_underscore : isDigit '_' = false := by decide

/-! ## Counters -/

/-- A counter: one or more digits. -/
def IsCounter (t : Text) : Prop := t ≠ [] ∧ ∀ c ∈ t, isDigit c = true

instance : DecidablePred IsCounter := fun t =>
  have : Decidable (∀ c ∈ t, isDigit c = true) := List.decidableBAll _ t
  inferInstanceAs (Decidable (_ ∧ _))

/-- A text that does not start with a word character. -/
def StartsNoWord (t : Text) : Prop := ∀ c ∈ t.head?, isWord c = false

theorem startsNoWord_nil : StartsNoWord [] := by simp [StartsNoWord]

theorem startsNoWord_cons {c : Char} {t : Text} : StartsNoWord (c :: t) ↔ isWord c = false := by
  simp [StartsNoWord]

instance : DecidablePred StartsNoWord
  | [] => isTrue startsNoWord_nil
  | _ :: _ => decidable_of_iff _ startsNoWord_cons.symm

/-- The digits of a counter are word characters. -/
protected theorem IsCounter.isWord {counter : Text} (h : IsCounter counter) :
    ∀ c ∈ counter, isWord c = true :=
  fun c hc => isWord_of_isDigit (h.2 c hc)

/-- So are they with an underscore in front. -/
theorem IsCounter.isWord_cons {counter : Text} (h : IsCounter counter) :
    ∀ c ∈ '_' :: counter, isWord c = true :=
  List.forall_mem_cons.2 ⟨isWord_underscore, h.isWord⟩

/-- A counter holds no underscore. -/
theorem IsCounter.underscore_not_mem {counter : Text} (h : IsCounter counter) : '_' ∉ counter := by
  intro hmem
  have := h.2 _ hmem
  rw [isDigit_underscore] at this
  cases this

/-- No generated name starts behind a counter. -/
theorem IsCounter.mayFollow_getLast? {counter : Text} (h : IsCounter counter) :
    mayFollow counter.getLast? = false := by
  rw [List.getLast?_eq_some_getLast h.1]
  simp [mayFollow, h.isWord _ (List.getLast_mem h.1)]

/-- What is no word character is no digit. -/
theorem isDigit_of_not_isWord {c : Char} (h : isWord c = false) : isDigit c = false := by
  rw [← Bool.not_eq_true]
  intro hd
  rw [isWord_of_isDigit hd] at h
  cases h

/-- A counter is found at the start of a text exactly if the text starts with one and goes on
without a word character. -/
theorem counterAt?_eq_some_iff {t counter rest : Text} :
    counterAt? t = some (counter, rest) ↔
      t = counter ++ rest ∧ IsCounter counter ∧ StartsNoWord rest := by
  constructor
  · intro h
    obtain ⟨ht, hne⟩ := append_of_counterAt? h
    unfold counterAt? at h
    simp only [Option.ite_none_left_eq_some, Bool.or_eq_true, decide_eq_true_eq, not_or,
      Option.some.injEq, Prod.mk.injEq] at h
    obtain ⟨⟨-, hword⟩, hcounter, hrest⟩ := h
    refine ⟨ht, ⟨hne, fun c hc => ?_⟩, fun c hc => ?_⟩
    · rw [← hcounter] at hc
      exact List.mem_takeWhile_imp hc
    · rw [hrest, hc] at hword
      simpa using hword
  · rintro ⟨rfl, ⟨hne, hdigit⟩, hrest⟩
    obtain ⟨htake, hdrop⟩ :=
      takeWhile_append_eq hdigit fun c hc => isDigit_of_not_isWord (hrest c hc)
    have hword : rest.head?.any isWord = false := by
      cases rest with
      | nil => rfl
      | cons c rest => simpa using startsNoWord_cons.1 hrest
    unfold counterAt?
    rw [htake, hdrop]
    simp [hne, hword]

/-- The ending of a generated name is an underscore and a counter. -/
theorem endingAt?_eq_some_iff {t counter rest : Text} :
    endingAt? t = some (counter, rest) ↔
      t = '_' :: (counter ++ rest) ∧ IsCounter counter ∧ StartsNoWord rest := by
  unfold endingAt?
  split
  · simp [counterAt?_eq_some_iff]
  · rename_i hne
    simp only [reduceCtorEq, false_iff, not_and]
    intro ht
    exact absurd ht (hne _)

/-- Only an underscore starts an ending. -/
theorem endingAt?_eq_none_of_ne {c : Char} {t : Text} (h : c ≠ '_') :
    endingAt? (c :: t) = none := by
  rw [Option.eq_none_iff_forall_ne_some]
  rintro ⟨counter, rest⟩ hsome
  exact h (List.cons.inj (endingAt?_eq_some_iff.1 hsome).1).1

/-! ## Tails -/

/-- The parts of a tail: a name without separators, and a counter that no word character
follows. -/
structure IsTail (t : Text) (tail : Tail) : Prop where
  /-- The parts make up the text. -/
  text_eq : t = tail.name ++ '_' :: (tail.counter ++ tail.rest)
  /-- There is a name. -/
  name_ne : tail.name ≠ []
  /-- No separator stands in the name. -/
  name : ∀ c ∈ tail.name, isSeparator c = false
  /-- The counter has digits only. -/
  counter : IsCounter tail.counter
  /-- The counter is over where it ends. -/
  rest : StartsNoWord tail.rest

/-- No separator stands in the name and the counter of a tail. -/
theorem IsTail.isSeparator_eq_false {t : Text} {tail : Tail} (h : IsTail t tail) :
    ∀ c ∈ tail.name ++ '_' :: tail.counter, isSeparator c = false :=
  List.forall_mem_append.2
    ⟨h.name, fun c hc => isSeparator_of_isWord (h.counter.isWord_cons c hc)⟩

/-- A longer name makes a tail as well. -/
theorem IsTail.append {t : Text} {tail : Tail} (h : IsTail t tail) {u : Text}
    (hu : ∀ c ∈ u, isSeparator c = false) :
    IsTail (u ++ t) { tail with name := u ++ tail.name } where
  text_eq := by rw [h.text_eq, List.append_assoc]
  name_ne := List.append_ne_nil_of_right_ne_nil _ h.name_ne
  name c hc := (List.mem_append.1 hc).elim (hu c) (h.name c)
  counter := h.counter
  rest := h.rest

/-- Reading a tail goes on behind a character of the name. -/
theorem openTail?_cons {c : Char} {t : Text} (hc : isSeparator c = false) :
    openTail? (c :: t) =
      match openTail? t with
      | some tail => some { tail with name := c :: tail.name }
      | none => (endingAt? t).map fun (counter, rest) => ⟨[c], counter, rest⟩ := by
  rw [openTail?, hc]
  rfl

/-- Without a counter ahead there is none ahead later on either. -/
theorem openTail?_eq_none_of_append {u t : Text} (h : openTail? (u ++ t) = none)
    (hu : ∀ c ∈ u, isSeparator c = false) : openTail? t = none := by
  induction u with
  | nil => exact h
  | cons c u ih =>
    obtain ⟨hc, hu⟩ := List.forall_mem_cons.1 hu
    apply ih _ hu
    rw [List.cons_append, openTail?_cons hc] at h
    split at h
    · cases h
    · assumption

/-- Digits bring no counter nearer: what ends a name starts with an underscore. -/
theorem openTail?_append_of_isDigit {u t : Text} (hu : ∀ c ∈ u, isDigit c = true)
    (ht : StartsNoWord t) (h : openTail? t = none) : openTail? (u ++ t) = none := by
  induction u with
  | nil => exact h
  | cons c u ih =>
    obtain ⟨hc, hu⟩ := List.forall_mem_cons.1 hu
    rw [List.cons_append, openTail?_cons (isSeparator_of_isWord (isWord_of_isDigit hc)), ih hu]
    have hnone : endingAt? (u ++ t) = none := by
      rw [Option.eq_none_iff_forall_ne_some]
      rintro ⟨counter, rest⟩ hsome
      have hut := (endingAt?_eq_some_iff.1 hsome).1
      cases u with
      | nil =>
        rw [List.nil_append] at hut
        rw [hut, startsNoWord_cons, isWord_underscore] at ht
        cases ht
      | cons d u =>
        obtain ⟨rfl, -⟩ := List.cons.inj hut
        have hd := hu _ List.mem_cons_self
        rw [isDigit_underscore] at hd
        cases hd
    rw [hnone]
    rfl

/-- The tail that is read is the one with no counter ahead any more. -/
theorem openTail?_eq_some_iff {t : Text} {tail : Tail} :
    openTail? t = some tail ↔ IsTail t tail ∧ openTail? tail.rest = none := by
  constructor
  · intro h
    induction t generalizing tail with
    | nil => cases h
    | cons c t ih =>
      have hc : isSeparator c = false := by
        rw [← Bool.not_eq_true]
        intro hc
        rw [openTail?, if_pos hc] at h
        cases h
      rw [openTail?_cons hc] at h
      split at h
      · rename_i inner hinner
        cases h
        obtain ⟨htail, hlast⟩ := ih hinner
        exact ⟨htail.append (u := [c]) (by simpa using hc), hlast⟩
      · rename_i hnone
        obtain ⟨⟨counter, rest⟩, hending, rfl⟩ := Option.map_eq_some_iff.1 h
        obtain ⟨rfl, hcounter, hrest⟩ := endingAt?_eq_some_iff.1 hending
        refine ⟨⟨rfl, List.cons_ne_nil _ _, by simpa using hc, hcounter, hrest⟩, ?_⟩
        apply openTail?_eq_none_of_append (u := '_' :: counter) hnone
        exact fun c hc => isSeparator_of_isWord (hcounter.isWord_cons c hc)
  · obtain ⟨name, counter, rest⟩ := tail
    rintro ⟨⟨rfl, hne, hname, hcounter, hrest⟩, hlast⟩
    dsimp only at hne hname hcounter hrest hlast ⊢
    induction name with
    | nil => exact absurd rfl hne
    | cons c name ih =>
      obtain ⟨hc, hname⟩ := List.forall_mem_cons.1 hname
      rw [List.cons_append, openTail?_cons hc]
      by_cases hnil : name = []
      · -- behind the last character of the name only its own counter is ahead
        subst hnil
        have hnone : openTail? ('_' :: (counter ++ rest)) = none := by
          rw [openTail?_cons (isSeparator_of_isWord isWord_underscore),
            openTail?_append_of_isDigit hcounter.2 hrest hlast]
          obtain ⟨d, ds, rfl⟩ := List.exists_cons_of_ne_nil hcounter.1
          have hd : d ≠ '_' := fun h => hcounter.underscore_not_mem (by simp [h])
          rw [List.cons_append, endingAt?_eq_none_of_ne hd]
          rfl
        rw [List.nil_append, hnone, endingAt?_eq_some_iff.2 ⟨rfl, hcounter, hrest⟩]
        rfl
      · rw [ih hnil hname]

/-- A tail is read exactly where there is one. -/
theorem isSome_openTail?_iff {t : Text} : (openTail? t).isSome ↔ ∃ tail, IsTail t tail := by
  constructor
  · intro h
    obtain ⟨tail, htail⟩ := Option.isSome_iff_exists.1 h
    exact ⟨tail, (openTail?_eq_some_iff.1 htail).1⟩
  · rintro ⟨tail, htail⟩
    by_cases hlast : openTail? tail.rest = none
    · rw [openTail?_eq_some_iff.2 ⟨htail, hlast⟩]
      rfl
    · rw [← Option.ne_none_iff_isSome]
      intro hnone
      apply hlast
      apply openTail?_eq_none_of_append (u := tail.name ++ '_' :: tail.counter)
      · rw [List.append_assoc, List.cons_append, ← htail.text_eq, hnone]
      · exact htail.isSeparator_eq_false

/-! ## Patterns -/

/-- A pattern whose leads are words without underscores, and whose function, if it has one, is a
name that a generated name can hold. -/
structure Pattern.Plain (p : Pattern) : Prop where
  /-- A lead has word characters only, and no underscore. -/
  lead : ∀ lead ∈ p.leads, ∀ c ∈ lead, isWord c = true ∧ c ≠ '_'
  /-- The function has a name, and no separator stands in it. -/
  function : ∀ name ∈ p.function, name ≠ [] ∧ ∀ c ∈ name, isSeparator c = false

/-- A lead has word characters only, with its underscore as well. -/
theorem Pattern.Plain.isWord_lead {p : Pattern} (hp : p.Plain) {lead : Text}
    (hlead : lead ∈ p.leads) : ∀ c ∈ lead ++ ['_'], isWord c = true :=
  List.forall_mem_append.2
    ⟨fun c hc => (hp.lead lead hlead c hc).1, by simpa using isWord_underscore⟩

/-- The usual leads are words without underscores. -/
theorem isWord_of_mem_defaultLeads :
    ∀ lead ∈ defaultLeads, ∀ c ∈ lead, isWord c = true ∧ c ≠ '_' := by
  have h : ∀ lead ∈ defaultLeads, lead.all (fun c => isWord c && c != '_') = true := by
    decide +kernel
  simpa using h

/-- A setting of the function whose names count: none, or a name that a generated name can hold. -/
def IsFunctionSetting (function : Setting) : Prop :=
  function = .null ∨
    ∃ name : String, function = .text name ∧ name ≠ "" ∧ ∀ c ∈ name.toList, isSeparator c = false

/-- A pattern with the usual leads is plain, whatever setting it comes from. -/
theorem plain_of_make {function : Setting} {p : Pattern}
    (h : Pattern.make defaultLeads function = .ok p) : p.Plain := by
  have hleads : defaultLeads ≠ [] := by simp [defaultLeads]
  unfold Pattern.make at h
  rw [if_neg hleads] at h
  cases function with
  | null =>
    cases h
    exact ⟨isWord_of_mem_defaultLeads, nofun⟩
  | text name =>
    dsimp only at h
    split at h
    · cases h
    · rename_i hname
      cases h
      refine ⟨isWord_of_mem_defaultLeads, ?_⟩
      simpa using hname
  | bool | int | float | list | record =>
    dsimp only at h
    split at h <;> cases h

/-- A pattern whose function, if it has one, is a name that a generated name can hold. -/
def Pattern.NamesFunction (p : Pattern) : Prop :=
  ∀ name ∈ p.function, name ≠ [] ∧ ∀ c ∈ name, isSeparator c = false

/-- Such a setting gives a pattern with whatever leads there are. -/
theorem exists_make_of_leads {leads : List Text} (hleads : leads ≠ []) {function : Setting}
    (h : IsFunctionSetting function) :
    ∃ p, Pattern.make leads function = .ok p ∧ p.leads = leads ∧ p.NamesFunction := by
  unfold Pattern.make
  rw [if_neg hleads]
  rcases h with rfl | ⟨name, rfl, hne, hname⟩
  · exact ⟨_, rfl, rfl, nofun⟩
  · have hany : name.toList.any isSeparator = false := by simpa using hname
    refine ⟨⟨leads, some name.toList⟩, by simp [hne, hany], rfl, ?_⟩
    simpa [Pattern.NamesFunction] using ⟨hne, hname⟩

/-- With the usual leads the pattern is plain. -/
theorem exists_make {function : Setting} (h : IsFunctionSetting function) :
    ∃ p, Pattern.make defaultLeads function = .ok p ∧ p.leads = defaultLeads ∧ p.Plain := by
  have hne : defaultLeads ≠ [] := by simp [defaultLeads]
  obtain ⟨p, hmake, hleads, hfunction⟩ := exists_make_of_leads hne h
  exact ⟨p, hmake, hleads, hleads ▸ isWord_of_mem_defaultLeads, hfunction⟩

section reading

variable {p : Pattern} (hp : p.NamesFunction)

include hp

/-- The tail that a pattern reads: of its function, or of the longest name that there is. -/
theorem Pattern.tail?_eq_some_iff {t : Text} {tail : Tail} :
    p.tail? t = some tail ↔
      IsTail t tail ∧ (p.function = none → openTail? tail.rest = none) ∧
        ∀ name ∈ p.function, tail.name = name := by
  unfold Pattern.tail?
  split
  · rename_i hnone
    rw [openTail?_eq_some_iff, hnone]
    simp
  · rename_i name hsome
    obtain ⟨hne, hsep⟩ := hp name hsome
    rw [hsome]
    simp only [fixedTail?, Option.bind_eq_some_iff, dropLead?_eq_some_iff, Option.map_eq_some_iff,
      reduceCtorEq, IsEmpty.forall_iff, true_and, Option.mem_some_iff, forall_eq']
    constructor
    · rintro ⟨u, rfl, ⟨counter, rest⟩, hending, rfl⟩
      obtain ⟨rfl, hcounter, hrest⟩ := endingAt?_eq_some_iff.1 hending
      exact ⟨⟨rfl, hne, hsep, hcounter, hrest⟩, rfl⟩
    · rintro ⟨htail, rfl⟩
      exact ⟨_, htail.text_eq, (tail.counter, tail.rest),
        endingAt?_eq_some_iff.2 ⟨rfl, htail.counter, htail.rest⟩, rfl⟩

/-- A pattern reads a tail exactly where there is one, of its function if it has one. -/
theorem Pattern.isSome_tail?_iff {t : Text} :
    (p.tail? t).isSome ↔ ∃ tail, IsTail t tail ∧ ∀ name ∈ p.function, tail.name = name := by
  cases hfunction : p.function with
  | none =>
    unfold tail?
    rw [hfunction]
    simp only [isSome_openTail?_iff, Option.not_mem_none, IsEmpty.forall_iff, implies_true,
      and_true]
  | some name =>
    simp [Option.isSome_iff_exists, Pattern.tail?_eq_some_iff hp, hfunction]

omit hp in
/-- After a single lead, a tail is read where the lead and an underscore stand in front of it. -/
theorem Pattern.afterLead?_singleton_eq_some_iff {lead t : Text} {tail : Tail} :
    p.afterLead? t [lead] = some tail ↔ ∃ u, t = lead ++ '_' :: u ∧ p.tail? u = some tail := by
  rw [afterLead?]
  constructor
  · intro h
    split at h
    · rename_i found hfound
      cases h
      obtain ⟨w, hw, hu⟩ := Option.bind_eq_some_iff.1 hfound
      split at hu
      · exact ⟨_, dropLead?_eq_some_iff.1 hw, hu⟩
      · cases hu
    · rw [afterLead?] at h
      cases h
  · rintro ⟨u, ht, hu⟩
    simp only [dropLead?_eq_some_iff.2 ht, Option.bind_some, hu]

omit hp in
/-- The leads are tried one after the other. -/
theorem Pattern.afterLead?_cons (lead : Text) (leads : List Text) (t : Text) :
    p.afterLead? t (lead :: leads) = (p.afterLead? t [lead]).or (p.afterLead? t leads) := by
  rw [afterLead?, afterLead?.eq_def p t [lead]]
  dsimp only
  split
  · rfl
  · rfl

/-- After one of some leads a tail is read exactly where there is a lead with one. -/
theorem Pattern.isSome_afterLead?_iff {t : Text} {leads : List Text} :
    (p.afterLead? t leads).isSome ↔ ∃ lead ∈ leads, ∃ u tail, t = lead ++ '_' :: u ∧
      IsTail u tail ∧ ∀ name ∈ p.function, tail.name = name := by
  have hone : ∀ lead, (p.afterLead? t [lead]).isSome ↔ ∃ u tail, t = lead ++ '_' :: u ∧
      IsTail u tail ∧ ∀ name ∈ p.function, tail.name = name := by
    intro lead
    simp only [Option.isSome_iff_exists, afterLead?_singleton_eq_some_iff]
    rw [exists_comm]
    simp only [exists_and_left, ← Option.isSome_iff_exists, isSome_tail?_iff hp]
  induction leads with
  | nil => simp [afterLead?]
  | cons lead leads ih =>
    simp only [List.mem_cons, exists_eq_or_imp]
    rw [afterLead?_cons, Option.isSome_or, Bool.or_eq_true]
    exact or_congr (hone lead) ih

/-- A generated name is read exactly where one may start and a lead, an underscore and a tail
stand. -/
theorem Pattern.isSome_nameAt?_iff {before : Option Char} {t : Text} :
    (p.nameAt? before t).isSome ↔ mayFollow before = true ∧ ∃ lead ∈ p.leads, ∃ u tail,
      t = lead ++ '_' :: u ∧ IsTail u tail ∧ ∀ name ∈ p.function, tail.name = name := by
  unfold Pattern.nameAt?
  split
  · rename_i h
    rw [isSome_afterLead?_iff hp]
    simp [h]
  · rename_i h
    simp [h]

end reading

section plain

variable {p : Pattern} (hp : p.Plain)

include hp

/-- The tail that a plain pattern reads. -/
theorem Pattern.Plain.tail?_eq_some_iff {t : Text} {tail : Tail} :
    p.tail? t = some tail ↔
      IsTail t tail ∧ (p.function = none → openTail? tail.rest = none) ∧
        ∀ name ∈ p.function, tail.name = name :=
  Pattern.tail?_eq_some_iff hp.function

omit hp in
/-- A text that starts with two texts without underscores, each with an underscore behind it, starts
with one and the same. -/
theorem append_underscore_inj {lead lead' u u' : Text} (h : lead ++ '_' :: u = lead' ++ '_' :: u')
    (hlead : '_' ∉ lead) (hlead' : '_' ∉ lead') : lead = lead' ∧ u = u' := by
  rcases List.append_eq_append_iff.1 h with ⟨more, rfl, hmore⟩ | ⟨more, rfl, hmore⟩
  · cases more with
    | nil => exact ⟨(List.append_nil _).symm, (List.cons.inj hmore).2⟩
    | cons c more =>
      obtain ⟨rfl, -⟩ := List.cons.inj hmore
      exact absurd (by simp) hlead'
  · cases more with
    | nil => exact ⟨List.append_nil _, (List.cons.inj hmore).2.symm⟩
    | cons c more =>
      obtain ⟨rfl, -⟩ := List.cons.inj hmore
      exact absurd (by simp) hlead

/-- A lead that fits is the only one that does. -/
theorem Pattern.Plain.afterLead?_eq_some_iff {t : Text} {tail : Tail} {leads : List Text}
    (hleads : leads ⊆ p.leads) :
    p.afterLead? t leads = some tail ↔
      ∃ lead ∈ leads, ∃ u, t = lead ++ '_' :: u ∧ p.tail? u = some tail := by
  induction leads with
  | nil => simp [Pattern.afterLead?]
  | cons lead leads ih =>
    obtain ⟨hlead, hleads⟩ := List.cons_subset.1 hleads
    rw [Pattern.afterLead?_cons, Option.or_eq_some_iff, ih hleads]
    constructor
    · rintro (h | ⟨-, lead', hlead', hrest⟩)
      · exact ⟨lead, List.mem_cons_self, Pattern.afterLead?_singleton_eq_some_iff.1 h⟩
      · exact ⟨lead', List.mem_cons_of_mem _ hlead', hrest⟩
    · rintro ⟨lead', hlead', u, ht, hu⟩
      cases hfirst : p.afterLead? t [lead] with
      | none =>
        refine .inr ⟨rfl, lead', ?_, u, ht, hu⟩
        refine (List.mem_cons.1 hlead').resolve_left ?_
        rintro rfl
        cases hfirst.symm.trans (Pattern.afterLead?_singleton_eq_some_iff.2 ⟨u, ht, hu⟩)
      | some found =>
        have hmem : lead' ∈ p.leads := (List.mem_cons.1 hlead').elim (fun h => h ▸ hlead) (hleads ·)
        obtain ⟨u', ht', hu'⟩ := Pattern.afterLead?_singleton_eq_some_iff.1 hfirst
        obtain ⟨-, rfl⟩ := append_underscore_inj (ht.symm.trans ht')
          (fun h => (hp.lead _ hmem _ h).2 rfl) (fun h => (hp.lead _ hlead _ h).2 rfl)
        exact .inl (hu'.symm.trans hu)

/-- A generated name is found exactly where one may start and a lead, an underscore and a tail
stand. -/
theorem Pattern.Plain.nameAt?_eq_some_iff {before : Option Char} {t : Text} {tail : Tail} :
    p.nameAt? before t = some tail ↔
      mayFollow before = true ∧
        ∃ lead ∈ p.leads, ∃ u, t = lead ++ '_' :: u ∧ p.tail? u = some tail := by
  unfold Pattern.nameAt?
  split
  · rename_i h
    rw [hp.afterLead?_eq_some_iff (List.Subset.refl _)]
    simp [h]
  · rename_i h
    simp [h]

end plain

end Collate.Names
