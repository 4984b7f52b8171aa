import Collate.Proofs.Names.Separators

/-!
# Other counters

Two texts that differ only in the counters of the generated names that a pass finds in one of them.
`Pattern.recount` puts other counters into a text, by the places where the names are found, and
`Recounted` says the same of two texts side by side, one step of the pass after the other. A pass
finds the same names in both (`Recounted.passFrom_eq`), so both are shortened to one text
(`Recounted.shorten_eq`).

Two things could go wrong. Where no name starts in the one text, a name could start in the other and
reach into a counter that was changed; and behind a name the other text could have a further counter
ahead, which would make that name longer. Both come down to a first counter that the texts differ in
(`Changes`). What leads up to it is the same in both, and it is more than the name of the one
function that a pattern may be after (`isSome_tail?_append`).
-/

namespace Collate.Names

open Collate.Text

/-! ## Changing counters -/

/-- A text from index `index` on, with other counters in the names that were found there. -/
def withCounters (fresh : Occurrence → Text) (index : Nat) (t : Text) : List Occurrence → Text
  | [] => t
  | o :: os =>
    t.take (o.last - o.counter.length - index) ++ fresh o ++
      withCounters fresh o.last (t.drop (o.last - index)) os

/-- A text with another counter in each generated name that is found in it. -/
def Pattern.recount (p : Pattern) (fresh : Occurrence → Text) (t : Text) : Text :=
  withCounters fresh 0 t (p.occurrences t)

/-- Two texts that are the same but for the counters of the names that a pass finds in the first
one. -/
inductive Recounted (p : Pattern) : Option Char → Text → Text → Prop
  /-- Nothing is left. -/
  | nil {before : Option Char} : Recounted p before [] []
  /-- No name starts here. -/
  | skip {before : Option Char} {c : Char} {t t' : Text} (h : p.nameAt? before (c :: t) = none)
    (ht : Recounted p (some c) t t') : Recounted p before (c :: t) (c :: t')
  /-- A name, which gets another counter. -/
  | name {before : Option Char} {lead counter rest' : Text} {tail : Tail}
    (hbefore : mayFollow before = true) (hlead : lead ∈ p.leads)
    (h : p.tail? (tail.name ++ '_' :: (tail.counter ++ tail.rest)) = some tail)
    (hcounter : IsCounter counter) (hrest : Recounted p tail.counter.getLast? tail.rest rest') :
    Recounted p before (lead ++ '_' :: (tail.name ++ '_' :: (tail.counter ++ tail.rest)))
      (lead ++ '_' :: (tail.name ++ '_' :: (counter ++ rest')))

/-- Two texts that are the same up to the counter of a name, and in which that name has a counter.
The name is one that the pattern is after, and may start where it does. -/
inductive Changes (p : Pattern) (before : Option Char) : Text → Text → Prop
  /-- What stands in front of the name, the name, and what stands behind its underscore. -/
  | mk {x lead name w w' : Text} (hbefore : mayFollow (x.getLast?.or before) = true)
    (hlead : lead ∈ p.leads) (hne : name ≠ []) (hname : ∀ f ∈ p.function, name = f)
    (hw : (counterAt? w).isSome) (hw' : (counterAt? w').isSome) :
    Changes p before (x ++ (lead ++ '_' :: (name ++ '_' :: w)))
      (x ++ (lead ++ '_' :: (name ++ '_' :: w')))

variable {p : Pattern} {before before' : Option Char} {t t' : Text}

theorem Changes.symm (h : Changes p before t t') : Changes p before t' t := by
  obtain ⟨hbefore, hlead, hne, hname, hw, hw'⟩ := h
  exact .mk hbefore hlead hne hname hw' hw

/-- A character in front of both texts. -/
theorem Changes.cons {c : Char} (h : Changes p (some c) t t') :
    Changes p before (c :: t) (c :: t') := by
  obtain @⟨x, lead, name, w, w', hbefore, hlead, hne, hname, hw, hw'⟩ := h
  refine .mk (x := c :: x) ?_ hlead hne hname hw hw'
  rwa [getLast?_cons_or]

/-- A counter that no word character follows is found. -/
theorem isSome_counterAt? {counter rest : Text} (hcounter : IsCounter counter)
    (hrest : StartsNoWord rest) : (counterAt? (counter ++ rest)).isSome := by
  rw [counterAt?_eq_some_iff.2 ⟨rfl, hcounter, hrest⟩]
  rfl

/-- A counter that is found in front of an underscore does not depend on what follows it. -/
theorem isSome_counterAt?_append {b w : Text} (h : (counterAt? (b ++ '_' :: w)).isSome)
    (w' : Text) : (counterAt? (b ++ '_' :: w')).isSome := by
  obtain ⟨⟨counter, rest⟩, hfound⟩ := Option.isSome_iff_exists.1 h
  obtain ⟨htext, hcounter, hrest⟩ := counterAt?_eq_some_iff.1 hfound
  obtain ⟨rest', rfl, rfl⟩ :=
    (append_cons_eq_append_iff hcounter.underscore_not_mem).1 htext
  rw [List.append_assoc]
  apply isSome_counterAt? hcounter
  cases rest' with
  | nil =>
    rw [List.nil_append, startsNoWord_cons, isWord_underscore] at hrest
    cases hrest
  | cons c rest' =>
    rw [List.cons_append, startsNoWord_cons] at hrest ⊢
    exact hrest

/-- A text with other counters starts like the text itself. -/
theorem Recounted.head?_eq (h : Recounted p before t t') : t'.head? = t.head? := by
  cases h with
  | nil => rfl
  | skip h ht => rfl
  | @name before lead counter rest' tail hbefore hlead h hcounter hrest => cases lead <;> rfl

theorem Recounted.startsNoWord (h : Recounted p before t t') (ht : StartsNoWord t) :
    StartsNoWord t' := by
  unfold StartsNoWord at ht ⊢
  rwa [h.head?_eq]

/-- More than the function's name leads up to the first counter that texts differ in. -/
theorem length_lt_of_changes {x lead name : Text} (hname : ∀ f ∈ p.function, name = f) :
    ∀ f ∈ p.function, f.length < (x ++ (lead ++ '_' :: name)).length := by
  intro f hf
  rw [hname f hf]
  simp only [List.length_append, List.length_cons]
  omega

/-- Without a function in mind a pattern reads the longest name. -/
theorem tail?_of_function_eq_none (h : p.function = none) (t : Text) : p.tail? t = openTail? t := by
  unfold Pattern.tail?
  rw [h]

section plain

variable (hp : p.Plain)

include hp

/-- Whether a tail is read does not depend on which counter stands behind more than the function's
name. -/
theorem isSome_tail?_append {b w w' : Text} (hb : b ≠ [])
    (hname : ∀ f ∈ p.function, f.length < b.length) (hw' : (counterAt? w').isSome)
    (h : (p.tail? (b ++ '_' :: w)).isSome) :
    (p.tail? (b ++ '_' :: w')).isSome := by
  obtain ⟨⟨counter, rest⟩, hfound⟩ := Option.isSome_iff_exists.1 hw'
  obtain ⟨rfl, hcounter, hrest⟩ := counterAt?_eq_some_iff.1 hfound
  cases hfunction : p.function with
  | none =>
    obtain ⟨x, hx, hxb⟩ := exists_stretch isSeparator b
    rcases hxb with rfl | ⟨s, y, hs, rfl⟩
    · -- the counter can be reached, so there is a tail
      rw [tail?_of_function_eq_none hfunction, isSome_openTail?_iff]
      exact ⟨⟨b, counter, rest⟩, rfl, hb, hx, hcounter, hrest⟩
    · -- a separator comes first, and the tail ends in front of it
      rw [List.append_assoc, List.cons_append, hp.tail?_append_cons hs, Option.isSome_map] at h ⊢
      exact h
  | some f =>
    obtain ⟨tail, htail⟩ := Option.isSome_iff_exists.1 h
    obtain ⟨htail, -, hf⟩ := hp.tail?_eq_some_iff.1 htail
    obtain rfl := hf f hfunction
    have hlength := hname _ hfunction
    -- the function's name and its underscore lie in front of the counter
    have htext := htail.text_eq
    rcases List.append_eq_append_iff.1 htext with ⟨more, hmore, -⟩ | ⟨more, rfl, hmore⟩
    · rw [hmore, List.length_append] at hlength
      omega
    · cases more with
      | nil => simp at hlength
      | cons c more =>
        obtain ⟨rfl, hmore'⟩ := List.cons.inj hmore
        replace hmore' : tail.counter ++ tail.rest = more ++ '_' :: w := hmore'
        have hsome : (counterAt? (more ++ '_' :: (counter ++ rest))).isSome := by
          have hsome := isSome_counterAt? htail.counter htail.rest
          rw [hmore'] at hsome
          exact isSome_counterAt?_append hsome _
        obtain ⟨⟨counter', rest'⟩, hfound'⟩ := Option.isSome_iff_exists.1 hsome
        obtain ⟨htext', hcounter', hrest'⟩ := counterAt?_eq_some_iff.1 hfound'
        rw [Option.isSome_iff_exists]
        refine ⟨⟨tail.name, counter', rest'⟩, hp.tail?_eq_some_iff.2 ⟨⟨?_, htail.name_ne,
          htail.name, hcounter', hrest'⟩, by simp [hfunction], hf⟩⟩
        dsimp only
        rw [List.append_assoc, List.cons_append, htext']

/-- A lead with its underscore does not reach beyond a character in front of which a name may
start. -/
theorem exists_of_lead {c : Char} {x r lead u : Text} (hlead : lead ∈ p.leads)
    (hmay : mayFollow (x.getLast?.or (some c)) = true) (h : c :: (x ++ r) = lead ++ '_' :: u) :
    ∃ more, c :: x = lead ++ '_' :: more ∧ u = more ++ r := by
  have hword := hp.isWord_lead hlead
  have h' : (c :: x) ++ r = (lead ++ ['_']) ++ u := by
    rw [List.cons_append, h]
    simp
  rcases List.append_eq_append_iff.1 h' with ⟨more, hmore, -⟩ | ⟨more, hmore, hu⟩
  · have hlast : (c :: x).getLast (List.cons_ne_nil c x) ∈ lead ++ ['_'] := by
      rw [hmore]
      exact List.mem_append_left _ (List.getLast_mem _)
    rw [← getLast?_cons_or c x none, List.getLast?_eq_some_getLast (List.cons_ne_nil c x)] at hmay
    simp [mayFollow, hword _ hlast] at hmay
  · exact ⟨more, by simpa using hmore, hu⟩

/-- A name that starts in front of the first counter that two texts differ in starts in both. -/
theorem isSome_nameAt?_of_changes {c : Char} (h : Changes p (some c) t t')
    (hsome : (p.nameAt? before (c :: t)).isSome) : (p.nameAt? before (c :: t')).isSome := by
  obtain @⟨x, lead, name, w, w', hbefore, -, -, hname, -, hw'⟩ := h
  obtain ⟨tail, htail⟩ := Option.isSome_iff_exists.1 hsome
  obtain ⟨hmay, lead', hlead', u, hu, htail⟩ := hp.nameAt?_eq_some_iff.1 htail
  obtain ⟨more, hmore, rfl⟩ := exists_of_lead hp hlead' hbefore hu
  have hsome' : (p.tail? ((more ++ (lead ++ '_' :: name)) ++ '_' :: w')).isSome := by
    apply isSome_tail?_append hp (w := w) (by simp) (length_lt_of_changes hname) hw'
    rw [Option.isSome_iff_exists]
    exact ⟨tail, by simpa using htail⟩
  obtain ⟨tail', htail'⟩ := Option.isSome_iff_exists.1 hsome'
  rw [Option.isSome_iff_exists]
  refine ⟨tail', hp.nameAt?_eq_some_iff.2 ⟨hmay, lead', hlead', _, ?_, htail'⟩⟩
  rw [← List.cons_append, hmore]
  simp

/-- Whether a counter is ahead does not depend on the counters that two texts differ in. -/
theorem isSome_openTail?_of_changes (hfunction : p.function = none) (h : Changes p before t t')
    (hsome : (openTail? t).isSome) : (openTail? t').isSome := by
  obtain @⟨x, lead, name, w, w', -, -, -, hname, -, hw'⟩ := h
  have hsome' : (p.tail? ((x ++ (lead ++ '_' :: name)) ++ '_' :: w')).isSome := by
    apply isSome_tail?_append hp (w := w) (by simp) (length_lt_of_changes hname) hw'
    simpa [tail?_of_function_eq_none hfunction] using hsome
  simpa [tail?_of_function_eq_none hfunction] using hsome'

/-! ## The same names in both -/

namespace Recounted

/-- A text with other counters is the text itself, or has a first counter that is another one. -/
theorem eq_or_changes (h : Recounted p before t t') : t = t' ∨ Changes p before t t' := by
  induction h with
  | nil => exact .inl rfl
  | skip h ht ih =>
    rcases ih with rfl | ih
    · exact .inl rfl
    · exact .inr ih.cons
  | @name before lead counter rest' tail hbefore hlead h hcounter hrest ih =>
    obtain ⟨htail, -, hname⟩ := hp.tail?_eq_some_iff.1 h
    refine .inr (.mk (x := []) hbefore hlead htail.name_ne hname ?_ ?_)
    · exact isSome_counterAt? htail.counter htail.rest
    · exact isSome_counterAt? hcounter (hrest.startsNoWord htail.rest)

/-- A pass finds as many names in both texts and leaves the same of them. -/
theorem passFrom_eq (h : Recounted p before t t') : p.passFrom before t' = p.passFrom before t := by
  induction h with
  | nil => rfl
  | @skip before c t t' h ht ih =>
    have hnone : p.nameAt? before (c :: t') = none := by
      rcases ht.eq_or_changes hp with rfl | hchanges
      · exact h
      · rw [← Option.not_isSome_iff_eq_none] at h ⊢
        exact fun hsome => h (isSome_nameAt?_of_changes hp hchanges.symm hsome)
    rw [Pattern.passFrom_of_eq_none h, Pattern.passFrom_of_eq_none hnone, ih]
  | @name before lead counter rest' tail hbefore hlead h hcounter hrest ih =>
    obtain ⟨htail, hlast, hname⟩ := hp.tail?_eq_some_iff.1 h
    have hlast' : p.function = none → openTail? rest' = none := by
      intro hfunction
      rcases hrest.eq_or_changes hp with rfl | hchanges
      · exact hlast hfunction
      · have hnone := hlast hfunction
        rw [← Option.not_isSome_iff_eq_none] at hnone ⊢
        exact fun hsome => hnone (isSome_openTail?_of_changes hp hfunction hchanges.symm hsome)
    have htail' : p.tail? (tail.name ++ '_' :: (counter ++ rest')) =
        some ⟨tail.name, counter, rest'⟩ :=
      hp.tail?_eq_some_iff.2 ⟨⟨rfl, htail.name_ne, htail.name, hcounter,
        hrest.startsNoWord htail.rest⟩, hlast', hname⟩
    rw [Pattern.passFrom_of_eq_some (hp.nameAt?_eq_some_iff.2 ⟨hbefore, lead, hlead, _, rfl, h⟩),
      Pattern.passFrom_of_eq_some
        (hp.nameAt?_eq_some_iff.2 ⟨hbefore, lead, hlead, _, rfl, htail'⟩)]
    -- behind either counter no name may start
    have hmay : mayFollow counter.getLast? = mayFollow tail.counter.getLast? := by
      rw [hcounter.mayFollow_getLast?, htail.counter.mayFollow_getLast?]
    rw [Pattern.passFrom_congr hmay, ih]

/-- Texts that differ only in counters are shortened to the same text. -/
theorem shorten_eq (h : Recounted p none t t') : p.shorten t' = p.shorten t := by
  rw [← Pattern.shorten_pass p t', ← Pattern.shorten_pass p t, Pattern.pass, Pattern.pass,
    h.passFrom_eq hp]

end Recounted

end plain

/-- No generated name starts with a byte order mark. -/
theorem dropMark_of_lead (hp : p.Plain) {lead : Text} (hlead : lead ∈ p.leads) (u : Text) :
    dropMark (lead ++ '_' :: u) = lead ++ '_' :: u := by
  have hmark : isWord byteOrderMark = false := by decide +kernel
  have hne : ∀ c t, isWord c = true → dropMark (c :: t) = c :: t := by
    intro c t hc
    rw [dropMark, if_neg]
    rintro rfl
    rw [hmark] at hc
    cases hc
  cases lead with
  | nil => exact hne _ _ isWord_underscore
  | cons c lead => exact hne _ _ (hp.lead _ hlead c List.mem_cons_self).1

/-- Only whether a name may start matters of the character in front. -/
theorem Recounted.congr (h : Recounted p before t t')
    (hmay : mayFollow before = mayFollow before') : Recounted p before' t t' := by
  cases h with
  | nil => exact .nil
  | skip h ht => exact .skip ((Pattern.nameAt?_congr hmay _).symm.trans h) ht
  | name hbefore hlead h hcounter hrest => exact .name (hmay ▸ hbefore) hlead h hcounter hrest

/-- A byte order mark in front of texts that differ only in counters belongs to both. -/
theorem Recounted.dropMark (hp : p.Plain) (h : Recounted p none t t') :
    Recounted p none (dropMark t) (dropMark t') := by
  cases h with
  | nil => exact .nil
  | @skip before c t t' h ht =>
    rw [Text.dropMark, Text.dropMark]
    split
    · rename_i hc
      apply ht.congr
      rw [hc]
      decide +kernel
    · exact .skip h ht
  | name hbefore hlead h hcounter hrest =>
    rw [dropMark_of_lead hp hlead, dropMark_of_lead hp hlead]
    exact .name hbefore hlead h hcounter hrest

/-! ## Counters at the places where names are found -/

/-- A name is found, and the search goes on behind its counter. -/
theorem occurrencesFrom_of_eq_some {tail : Tail} (h : p.nameAt? before t = some tail)
    (index : Nat) : p.occurrencesFrom index before t =
      ⟨index, index + (t.length - tail.rest.length), tail.name, tail.counter⟩ ::
        p.occurrencesFrom (index + (t.length - tail.rest.length)) tail.counter.getLast?
          tail.rest := by
  cases t with
  | nil =>
    rw [Pattern.nameAt?_nil] at h
    cases h
  | cons c t =>
    rw [Pattern.occurrencesFrom]
    split
    · rename_i tail' h'
      rw [h] at h'
      cases h'
      rfl
    · rename_i h'
      rw [h] at h'
      cases h'

/-- Where no name starts, the search goes on behind the character. -/
theorem occurrencesFrom_of_eq_none {c : Char} (h : p.nameAt? before (c :: t) = none) (index : Nat) :
    p.occurrencesFrom index before (c :: t) = p.occurrencesFrom (index + 1) (some c) t := by
  rw [Pattern.occurrencesFrom]
  split
  · rename_i tail' h'
    rw [h] at h'
    cases h'
  · rfl

/-- A name in a text from an index on ends so far behind it that its counter lies behind it too. -/
theorem lt_of_mem_occurrencesFrom (hp : p.Plain) {index : Nat} {o : Occurrence}
    (h : o ∈ p.occurrencesFrom index before t) : index + o.counter.length < o.last := by
  induction hn : t.length using Nat.strong_induction_on generalizing index before t with
  | _ n ih =>
    subst hn
    cases t with
    | nil => simp [Pattern.occurrencesFrom] at h
    | cons c t =>
      cases hname : p.nameAt? before (c :: t) with
      | some tail =>
        have hlength := Pattern.length_rest_lt hname
        rw [occurrencesFrom_of_eq_some hname] at h
        rcases List.mem_cons.1 h with rfl | h
        · obtain ⟨-, lead, -, u, hu, htail⟩ := hp.nameAt?_eq_some_iff.1 hname
          rw [hu, (hp.tail?_eq_some_iff.1 htail).1.text_eq]
          simp only [List.length_append, List.length_cons]
          omega
        · have := ih _ hlength h rfl
          omega
      | none =>
        rw [occurrencesFrom_of_eq_none hname] at h
        have := ih _ (Nat.lt_succ_self _) h rfl
        omega

/-- A character in front of the first name stays. -/
theorem withCounters_cons {fresh : Occurrence → Text} {index : Nat} {c : Char}
    {os : List Occurrence} (h : ∀ o ∈ os, index + 1 + o.counter.length < o.last) (t : Text) :
    withCounters fresh index (c :: t) os = c :: withCounters fresh (index + 1) t os := by
  cases os with
  | nil => rfl
  | cons o os =>
    have hlast := h o List.mem_cons_self
    have htake : o.last - o.counter.length - index =
        o.last - o.counter.length - (index + 1) + 1 := by omega
    have hdrop : o.last - index = o.last - (index + 1) + 1 := by omega
    rw [withCounters, withCounters, htake, hdrop, List.take_succ_cons, List.drop_succ_cons]
    rfl

/-- The counter of the first name is changed where it stands, and the others behind it. -/
theorem withCounters_counter {fresh : Occurrence → Text} {index : Nat} {o : Occurrence}
    {front rest : Text} (hlast : o.last = index + (front.length + o.counter.length))
    (os : List Occurrence) :
    withCounters fresh index (front ++ (o.counter ++ rest)) (o :: os) =
      front ++ (fresh o ++ withCounters fresh o.last rest os) := by
  have htake : o.last - o.counter.length - index = front.length := by omega
  have hdrop : o.last - index = (front ++ o.counter).length := by
    rw [List.length_append]
    omega
  rw [withCounters, htake, hdrop, List.take_left, ← List.append_assoc, List.drop_left,
    List.append_assoc]

/-- Other counters at the places where a search finds names make two texts that differ in these
counters only. -/
theorem recounted_withCounters (hp : p.Plain) {fresh : Occurrence → Text} {index : Nat}
    (hfresh : ∀ o ∈ p.occurrencesFrom index before t, IsCounter (fresh o)) :
    Recounted p before t (withCounters fresh index t (p.occurrencesFrom index before t)) := by
  induction hn : t.length using Nat.strong_induction_on generalizing index before t with
  | _ n ih =>
    subst hn
    cases t with
    | nil =>
      rw [Pattern.occurrencesFrom]
      exact .nil
    | cons c t =>
      cases hname : p.nameAt? before (c :: t) with
      | some tail =>
        have hlength := Pattern.length_rest_lt hname
        obtain ⟨hbefore, lead, hlead, u, hu, htail⟩ := hp.nameAt?_eq_some_iff.1 hname
        have htext := (hp.tail?_eq_some_iff.1 htail).1.text_eq
        rw [occurrencesFrom_of_eq_some hname] at hfresh ⊢
        obtain ⟨hcounter, hfresh⟩ := List.forall_mem_cons.1 hfresh
        have hrest := ih _ hlength hfresh rfl
        have hsplit : c :: t =
            (lead ++ '_' :: (tail.name ++ ['_'])) ++ (tail.counter ++ tail.rest) := by
          rw [hu, htext]
          simp
        -- the name with its counter ends where the rest begins
        have hlast : index + ((c :: t).length - tail.rest.length) =
            index + ((lead ++ '_' :: (tail.name ++ ['_'])).length + tail.counter.length) := by
          rw [hsplit]
          simp only [List.length_append]
          omega
        have hchanged := @withCounters_counter fresh index ⟨index, _, tail.name, tail.counter⟩ _
          tail.rest hlast
        rw [htext] at htail
        convert Recounted.name hbefore hlead htail hcounter hrest using 1
        · rw [hu, htext]
        · rw [hsplit] at hchanged ⊢
          rw [hchanged]
          simp
      | none =>
        rw [occurrencesFrom_of_eq_none hname] at hfresh ⊢
        rw [withCounters_cons fun o ho => lt_of_mem_occurrencesFrom hp ho]
        exact .skip hname (ih _ (Nat.lt_succ_self _) hfresh rfl)

/-- Other counters in the names of a text make two texts that differ in these counters only. -/
theorem recounted_recount (hp : p.Plain) {fresh : Occurrence → Text}
    (hfresh : ∀ o ∈ p.occurrences t, IsCounter (fresh o)) :
    Recounted p none t (p.recount fresh t) :=
  recounted_withCounters hp hfresh

end Collate.Names
