import Collate.Proofs.Names.Counters
import Collate.Proofs.Names.Words

/-!
# Counters of generated words

The longest name is read, and a name may hold all signs but the separators. So in each stretch
between separators a pass takes away the last counter only, and the name that it finds may begin in
one word and end in another. A generated word then keeps its counter where a further one follows in
its stretch (`shorten_of_further_counter`), and two texts that differ in it are not shortened to one
text (`shorten_ne_of_further_counter`).

Where the counter of every generated word is the last one of its stretch, a pass takes away all of
them. The texts then are shortened as if all their generated words had the counter zero
(`shorten_resetCounters`), and it does not matter which counters they have
(`shorten_eq_of_eraseCounters_eq`).
-/

namespace Collate.Names

open Collate.Text

/-! ## The last counter of a stretch -/

/-- A text in which no further counter can be reached from a generated word without crossing a
separator. -/
def CountersLast (t : Text) : Prop :=
  ∀ u w v, t = u ++ (w ++ v) → WordAt none u w v → isGenerated w = true → ∀ tail, ¬ IsTail v tail

/-- A text in which no word is a generated one that lacks its counter. -/
def CountersWhole (t : Text) : Prop :=
  ∀ u w v, t = u ++ (w ++ v) → WordAt none u w v → isStem w = false

/-- A property of all ways to cut a text in three is one of all pairs of places. -/
theorem forall_cut_iff {t : Text} {P : Text → Text → Text → Prop} :
    (∀ u w v, t = u ++ (w ++ v) → P u w v) ↔
      ∀ i ∈ List.range (t.length + 1), ∀ j ∈ List.range (t.length + 1),
        P (t.take i) ((t.drop i).take j) ((t.drop i).drop j) := by
  constructor
  · intro h i _ j _
    exact h _ _ _ (by rw [List.take_append_drop, List.take_append_drop])
  · rintro h u w v rfl
    have hlength : (u ++ (w ++ v)).length = u.length + (w.length + v.length) := by
      rw [List.length_append, List.length_append]
    have hi : u.length ∈ List.range ((u ++ (w ++ v)).length + 1) := List.mem_range.2 (by omega)
    have hj : w.length ∈ List.range ((u ++ (w ++ v)).length + 1) := List.mem_range.2 (by omega)
    simpa using h _ hi _ hj

instance (before : Option Char) (u w v : Text) : Decidable (WordAt before u w v) :=
  -- the run comes last, since most places are ruled out by the characters around it
  decidable_of_iff (mayFollow (u.getLast?.or before) = true ∧ StartsNoWord v ∧ IsRun w)
    ⟨fun ⟨hmay, hv, hrun⟩ => ⟨hrun, hmay, hv⟩, fun h => ⟨h.mayFollow, h.startsNoWord, h.run⟩⟩

instance (v : Text) : Decidable (∀ tail, ¬ IsTail v tail) :=
  decidable_of_iff (openTail? v = none)
    (by rw [← Option.not_isSome_iff_eq_none, isSome_openTail?_iff, not_exists])

instance (t : Text) : Decidable (CountersLast t) := decidable_of_iff' _ forall_cut_iff

instance (t : Text) : Decidable (CountersWhole t) := decidable_of_iff' _ forall_cut_iff

section plain

variable {p : Pattern} (hp : p.Plain) {before : Option Char}
  {t u v w z lead counter counter' : Text}

include hp

/-- A text has the counters that it has. -/
theorem Recounted.refl (before : Option Char) (t : Text) : Recounted p before t t := by
  induction hn : t.length using Nat.strong_induction_on generalizing before t with
  | _ n ih =>
    subst hn
    cases t with
    | nil => exact .nil
    | cons c t =>
      cases hname : p.nameAt? before (c :: t) with
      | some tail =>
        have hrest := ih _ (Pattern.length_rest_lt hname) tail.counter.getLast? tail.rest rfl
        obtain ⟨hbefore, lead, hlead, u, hu, htail⟩ := hp.nameAt?_eq_some_iff.1 hname
        have hcounter := (hp.tail?_eq_some_iff.1 htail).1.counter
        rw [(hp.tail?_eq_some_iff.1 htail).1.text_eq] at hu htail
        rw [hu]
        exact .name hbefore hlead htail hcounter hrest
      | none => exact .skip hname (ih _ (Nat.lt_succ_self _) _ t rfl)

/-- The last counter of a stretch is the one of the name that is found there, wherever in the
stretch that name starts. -/
theorem recounted_last (hfunction : p.function = none) (hlead : lead ∈ p.leads)
    (hmay : mayFollow (u.getLast?.or before) = true) (hne : z ≠ [])
    (hsep : ∀ c ∈ u ++ (lead ++ '_' :: z), isSeparator c = false) (hcounter : IsCounter counter)
    (hcounter' : IsCounter counter') (hv : StartsNoWord v) (hlast : openTail? v = none) :
    Recounted p before (u ++ (lead ++ '_' :: (z ++ '_' :: (counter ++ v))))
      (u ++ (lead ++ '_' :: (z ++ '_' :: (counter' ++ v)))) := by
  have htail : ∀ name, name ≠ [] → (∀ c ∈ name, isSeparator c = false) →
      p.tail? (name ++ '_' :: (counter ++ v)) = some ⟨name, counter, v⟩ := by
    intro name hne hname
    apply hp.tail?_eq_some_iff.2
    exact ⟨⟨rfl, hne, hname, hcounter, hv⟩, fun _ => hlast, by simp [hfunction]⟩
  -- on what stands in front of the lead: a name may start there already
  induction u generalizing before with
  | nil =>
    have hz : ∀ c ∈ z, isSeparator c = false := by
      intro c hc
      apply hsep
      simp [hc]
    exact @Recounted.name p before lead counter' v ⟨z, counter, v⟩ hmay hlead (htail z hne hz)
      hcounter' (Recounted.refl hp _ v)
  | cons c u ih =>
    rw [getLast?_cons_or] at hmay
    by_cases hstart : mayFollow before = true ∧
        ∃ lead' ∈ p.leads, ∃ more, c :: u = lead' ++ '_' :: more
    · obtain ⟨hbefore, lead', hlead', more, hmore⟩ := hstart
      have hname : ∀ c ∈ more ++ (lead ++ '_' :: z), isSeparator c = false := by
        intro d hd
        apply hsep
        rw [hmore]
        simp only [List.mem_append, List.mem_cons] at hd ⊢
        tauto
      have h := @Recounted.name p before lead' counter' v ⟨more ++ (lead ++ '_' :: z), counter, v⟩
        hbefore hlead' (htail _ (by simp) hname) hcounter' (Recounted.refl hp _ v)
      rw [hmore]
      simpa using h
    · refine .skip ?_ (ih hmay (List.forall_mem_cons.1 hsep).2)
      rw [Option.eq_none_iff_forall_ne_some]
      intro tail hsome
      obtain ⟨hbefore, lead', hlead', w, hw, -⟩ := hp.nameAt?_eq_some_iff.1 hsome
      obtain ⟨more, hmore, -⟩ := exists_of_lead hp hlead' hmay hw
      exact hstart ⟨hbefore, lead', hlead', more, hmore⟩

/-! ## The same counter everywhere -/

omit hp in
/-- From in front of a generated word its counter can be reached. -/
theorem exists_isTail_of_isGenerated (hw : isGenerated w = true)
    (hsep : ∀ c ∈ u ++ w, isSeparator c = false) (hv : StartsNoWord v) :
    ∃ tail, IsTail (u ++ (w ++ v)) tail := by
  obtain ⟨lead, -, name, counter, -, hcounter, rfl⟩ := isGenerated_iff.1 hw
  refine ⟨⟨u ++ (lead ++ '_' :: name), counter, v⟩, by simp, by simp, fun c hc => ?_, hcounter, hv⟩
  apply hsep
  simp only [List.mem_append, List.mem_cons] at hc ⊢
  tauto

omit hp in
/-- In a stretch without generated words no counter is reset. -/
theorem resetCounters_eq_self (h : ∀ u w v, t = u ++ (w ++ v) → WordAt none u w v →
    isGenerated w = false) : mapWordsFrom resetWord none t = t := by
  apply mapWordsFrom_eq_self
  intro u w v ht hw
  rw [resetWord, h u w v ht hw]
  rfl

omit hp in
/-- A generated word whose counter is the last one of a stretch is the only one there. -/
theorem resetCounters_of_wordAt (hsep : ∀ c ∈ u ++ (w ++ v), isSeparator c = false)
    (hlast : CountersLast (u ++ (w ++ v))) (h : WordAt none u w v) (hw : isGenerated w = true) :
    resetCounters (u ++ (w ++ v)) = u ++ (resetWord w ++ v) := by
  have hfront : mapWordsFrom resetWord none u = u := by
    apply resetCounters_eq_self
    rintro u' w' v' rfl h'
    rw [← Bool.not_eq_true]
    intro hw'
    have hv' : StartsNoWord (v' ++ (w ++ v)) := by
      cases v' with
      | nil =>
        -- the word in front would end right where this one starts
        have hmay := h.mayFollow
        rw [List.append_nil, List.getLast?_append, List.getLast?_eq_some_getLast h'.run.1] at hmay
        have hword := h'.run.2 _ (List.getLast_mem h'.run.1)
        simp [mayFollow, hword] at hmay
      | cons c v' => exact startsNoWord_cons.2 (startsNoWord_cons.1 h'.startsNoWord)
    obtain ⟨tail, htail⟩ := exists_isTail_of_isGenerated (u := v') hw (fun c hc => hsep c (by
      simp only [List.mem_append] at hc ⊢
      tauto)) h.startsNoWord
    exact hlast u' w' (v' ++ (w ++ v)) (by simp) ⟨h'.run, h'.mayFollow, hv'⟩ hw' tail htail
  have hback : mapWordsFrom resetWord none v = v := by
    apply resetCounters_eq_self
    rintro u' w' v' rfl h'
    rw [← Bool.not_eq_true]
    intro hw'
    obtain ⟨tail, htail⟩ := exists_isTail_of_isGenerated (u := u') hw' (fun c hc => hsep c (by
      simp only [List.mem_append] at hc ⊢
      tauto)) h'.startsNoWord
    exact hlast u w _ rfl h hw tail htail
  rw [resetCounters, mapWords, mapWordsFrom_wordAt h, hfront, hback]

/-- In a stretch the counter of a generated word may as well be zero, if it is the last one. -/
theorem shorten_resetCounters_stretch (hleads : p.leads = defaultLeads)
    (hfunction : p.function = none) (hsep : ∀ c ∈ t, isSeparator c = false)
    (hlast : CountersLast t) : p.shorten (resetCounters t) = p.shorten t := by
  by_cases h : ∃ u w v, t = u ++ (w ++ v) ∧ WordAt none u w v ∧ isGenerated w = true
  · obtain ⟨u, w, v, rfl, h, hw⟩ := h
    rw [resetCounters_of_wordAt hsep hlast h hw]
    have hv : openTail? v = none := by
      rw [← Option.not_isSome_iff_eq_none, isSome_openTail?_iff, not_exists]
      exact hlast u w v rfl h hw
    have hreset : resetWord w = w.rdropWhile isDigit ++ ['0'] := if_pos hw
    obtain ⟨lead, hlead, name, counter, hne, hcounter, rfl⟩ := isGenerated_iff.1 hw
    have hstem := rdropWhile_append_counter (w := lead ++ '_' :: name) hcounter
    simp only [List.append_assoc, List.cons_append] at hstem
    have hzero : IsCounter ['0'] := by decide
    have hrecounted : Recounted p none _ _ := recounted_last hp hfunction (hleads ▸ hlead)
      h.mayFollow hne (fun c hc => hsep c (by
        simp only [List.mem_append, List.mem_cons] at hc ⊢
        tauto)) hcounter hzero h.startsNoWord hv
    rw [hreset, hstem]
    simpa using hrecounted.shorten_eq hp
  · have hnone : resetCounters t = t := by
      apply resetCounters_eq_self
      intro u w v ht hw
      rw [← Bool.not_eq_true]
      exact fun hgenerated => h ⟨u, w, v, ht, hw, hgenerated⟩
    rw [hnone]

omit hp in
/-- The words of two texts with a separator between them are those of each. -/
theorem mapWords_append_cons {s : Char} (hs : isSeparator s = true) (f : Text → Text) (x y : Text) :
    mapWords f (x ++ s :: y) = mapWords f x ++ s :: mapWords f y := by
  have hword := isWord_of_isSeparator hs
  have hmay : mayFollow (some s) = mayFollow none := mayFollow_of_isSeparator hs
  unfold mapWords
  rw [mapWordsFrom_append (.inl (startsNoWord_cons.2 hword)), mapWordsFrom_cons hword,
    mapWordsFrom_congr_before hmay]

omit hp in
/-- What holds of the counters of a text holds of them up to a separator and behind it. -/
theorem CountersLast.of_append_cons {s : Char} (hs : isSeparator s = true) {x y : Text}
    (h : CountersLast (x ++ s :: y)) : CountersLast x ∧ CountersLast y := by
  constructor
  · rintro u w v rfl hw hgenerated tail htail
    apply h u w (v ++ s :: y) (by simp) ⟨hw.run, hw.mayFollow, ?_⟩ hgenerated
      (tail.followedBy (s :: y)) ((isTail_append_cons hs).2 ⟨tail, htail, rfl⟩)
    exact (startsNoWord_append_cons hs).2 hw.startsNoWord
  · rintro u w v rfl hw hgenerated
    apply h (x ++ s :: u) w v (by simp) ⟨hw.run, ?_, hw.startsNoWord⟩ hgenerated
    have hmay := hw.mayFollow
    rw [List.getLast?_append, List.getLast?_cons]
    cases hu : u.getLast? with
    | none => exact mayFollow_of_isSeparator hs
    | some c => simpa [hu] using hmay

/-- A text is shortened as if all its generated words had the counter zero. -/
theorem shorten_resetCounters (hleads : p.leads = defaultLeads) (hfunction : p.function = none)
    (hlast : CountersLast t) : p.shorten (resetCounters t) = p.shorten t := by
  -- stretch by stretch
  induction hn : t.length using Nat.strong_induction_on generalizing t with
  | _ n ih =>
    subst hn
    obtain ⟨x, hx, rfl | ⟨s, y, hs, rfl⟩⟩ := exists_stretch isSeparator t
    · exact shorten_resetCounters_stretch hp hleads hfunction hx hlast
    · obtain ⟨hlastx, hlasty⟩ := hlast.of_append_cons hs
      have hlength : y.length < (x ++ s :: y).length := by
        simp only [List.length_append, List.length_cons]
        omega
      rw [resetCounters, mapWords_append_cons hs, hp.shorten_append_cons hs,
        hp.shorten_append_cons hs]
      rw [show p.shorten (mapWords resetWord y) = p.shorten y from ih _ hlength hlasty rfl,
        show p.shorten (mapWords resetWord x) = p.shorten x from
          shorten_resetCounters_stretch hp hleads hfunction hx hlastx]

/-! ## Further counters in a stretch -/

omit hp in
/-- Word characters do not reach beyond where a text goes on without one. -/
theorem exists_append_of_isWord {x r : Text} (hx : ∀ c ∈ x, isWord c = true) (hz : StartsNoWord z)
    (h : x ++ r = w ++ z) : ∃ w', w = x ++ w' ∧ r = w' ++ z := by
  rcases List.append_eq_append_iff.1 h with ⟨more, hw, hr⟩ | ⟨more, rfl, rfl⟩
  · exact ⟨more, hw, hr⟩
  · cases more with
    | nil => exact ⟨[], by simp, rfl⟩
    | cons c more =>
      have hword : isWord c = true := hx c (by simp)
      rw [startsNoWord_cons.1 hz] at hword
      cases hword

omit hp in
/-- A counter that can be reached from the start of a run of word characters is at the end of the
run, or it can be reached from there. -/
theorem IsTail.eq_or_isTail {tail : Tail} (hw : ∀ c ∈ w, isWord c = true) (hz : StartsNoWord z)
    (h : IsTail (w ++ z) tail) :
    w = tail.name ++ '_' :: tail.counter ∨ ∃ tail, IsTail z tail := by
  obtain ⟨name, counter, rest⟩ := tail
  obtain ⟨htext, hne, hname, hcounter, hrest⟩ := h
  dsimp only at htext hne hname hcounter hrest ⊢
  rcases List.append_eq_append_iff.1 htext.symm with ⟨more, rfl, hmore⟩ | ⟨more, rfl, hz'⟩
  · left
    obtain ⟨w', rfl, rfl⟩ := exists_append_of_isWord (x := '_' :: counter)
      hcounter.isWord_cons hz hmore
    cases w' with
    | nil => rw [List.append_nil]
    | cons c w' =>
      have hword : isWord c = true := hw c (by simp)
      rw [List.cons_append, startsNoWord_cons, hword] at hrest
      cases hrest
  · right
    refine ⟨⟨more, counter, rest⟩, hz', ?_, ?_, hcounter, hrest⟩
    · rintro rfl
      rw [hz', List.nil_append, startsNoWord_cons, isWord_underscore] at hz
      cases hz
    · exact fun c hc => hname c (List.mem_append_right _ hc)

/-- No name starts in a run of word characters that is no generated word, if no counter can be
reached from behind it. -/
theorem pass_eq_self (hleads : p.leads = defaultLeads) (hw : IsRun w) (hz : StartsNoWord z)
    (hgenerated : isGenerated w = false) (hsep : ∀ c ∈ z, isSeparator c = false)
    (hlast : ∀ tail, ¬ IsTail z tail) : p.pass (w ++ z) = (w ++ z, 0) := by
  apply Pattern.passFrom_eq_self
  intro u v huv
  rw [Option.eq_none_iff_forall_ne_some]
  intro tail hsome
  obtain ⟨hmay, lead, hlead, more, rfl, htail⟩ := hp.nameAt?_eq_some_iff.1 hsome
  have htail := (hp.tail?_eq_some_iff.1 htail).1
  rcases List.append_eq_append_iff.1 huv with ⟨x, rfl, rfl⟩ | ⟨x, rfl, hx⟩
  · -- behind the run
    have hx : ∀ c ∈ x ++ (lead ++ ['_']), isSeparator c = false := by
      intro c hc
      apply hsep
      simp only [List.mem_append, List.mem_cons, List.not_mem_nil, or_false] at hc ⊢
      tauto
    apply hlast { tail with name := x ++ (lead ++ ['_']) ++ tail.name }
    simpa using htail.append hx
  · by_cases hu : u = []
    · -- at the start of the run
      subst hu
      obtain ⟨w', rfl, rfl⟩ := exists_append_of_isWord (x := lead ++ ['_']) (r := more) (w := x)
        (hp.isWord_lead hlead) hz (by simpa using hx)
      rcases htail.eq_or_isTail (fun c hc => hw.2 c (by simp [hc])) hz with rfl | ⟨tail', htail'⟩
      · have hword : isGenerated (lead ++ '_' :: (tail.name ++ '_' :: tail.counter)) = true :=
          isGenerated_iff.2 ⟨lead, hleads ▸ hlead, _, _, htail.name_ne, htail.counter, rfl⟩
        simp [hword] at hgenerated
      · exact hlast tail' htail'
    · -- no name starts in the midst of a run
      have hword := hw.2 _ (List.mem_append_left x (List.getLast_mem hu))
      rw [List.getLast?_eq_some_getLast hu] at hmay
      simp [mayFollow, hword] at hmay

/-- A generated word keeps its counter, if a further one can be reached from behind it in its
stretch. -/
theorem shorten_of_further_counter (hleads : p.leads = defaultLeads) (hfunction : p.function = none)
    (hlead : lead ∈ defaultLeads) (hw : IsRun w) (hcounter : IsCounter counter)
    (hgenerated : isGenerated (w ++ '_' :: counter) = false) (hz : StartsNoWord z)
    (hsep : ∀ c ∈ z, isSeparator c = false) (hlast : ∀ tail, ¬ IsTail z tail)
    (hcounter' : IsCounter counter') :
    p.shorten (lead ++ '_' :: (w ++ '_' :: (counter ++ (z ++ '_' :: counter')))) =
      w ++ '_' :: (counter ++ z) := by
  have hword : ∀ c ∈ w ++ '_' :: counter, isWord c = true :=
    List.forall_mem_append.2 ⟨hw.2, hcounter.isWord_cons⟩
  have hname : p.nameAt? none
      (lead ++ '_' :: (w ++ '_' :: (counter ++ (z ++ '_' :: counter')))) =
        some ⟨w ++ '_' :: (counter ++ z), counter', []⟩ := by
    refine hp.nameAt?_eq_some_iff.2 ⟨rfl, lead, hleads ▸ hlead, _, rfl, hp.tail?_eq_some_iff.2
      ⟨⟨by simp, by simp, fun c hc => ?_, hcounter', startsNoWord_nil⟩, fun _ => rfl,
        by simp [hfunction]⟩⟩
    rw [← List.cons_append, ← List.append_assoc] at hc
    exact (List.mem_append.1 hc).elim (fun hc => isSeparator_of_isWord (hword c hc)) (hsep c)
  have hpass : p.pass (lead ++ '_' :: (w ++ '_' :: (counter ++ (z ++ '_' :: counter')))) =
      (w ++ '_' :: (counter ++ z), 1) := by
    unfold Pattern.pass
    rw [Pattern.passFrom_of_eq_some hname, Pattern.passFrom_nil]
    simp
  have hself := pass_eq_self hp hleads (w := w ++ '_' :: counter) ⟨by simp, hword⟩ hz hgenerated
    hsep hlast
  rw [← Pattern.shorten_pass, hpass]
  apply Pattern.shorten_of_count_eq_zero
  rw [List.append_assoc, List.cons_append] at hself
  rw [hself]

end plain

/-- **Counters that are the last of their stretches do not matter.** Two texts that are the same
without the counters of their generated words are shortened to one text, if the counter of each of
these words is the last one of its stretch and no word is a generated word that lacks its counter.
-/
theorem shorten_eq_of_eraseCounters_eq (t t' : Text) (herase : eraseCounters t = eraseCounters t')
    (hlast : CountersLast t) (hlast' : CountersLast t') (hwhole : CountersWhole t)
    (hwhole' : CountersWhole t') :
    ∃ p, Pattern.make defaultLeads .null = .ok p ∧ p.shorten t = p.shorten t' := by
  obtain ⟨p, hmake, -, hp⟩ := exists_make (.inl rfl)
  obtain rfl : ⟨defaultLeads, none⟩ = p := Except.ok.inj hmake
  refine ⟨_, hmake, ?_⟩
  rw [← shorten_resetCounters hp rfl rfl hlast, ← shorten_resetCounters hp rfl rfl hlast',
    ← restoreCounters_eraseCounters hwhole, ← restoreCounters_eraseCounters hwhole', herase]

/-- Counters of other lengths in two stretches. In the second one the name reaches over a sign, in
front of which there is a lead without a counter. -/
theorem shorten_eq_of_eraseCounters_eq_stretches :
    let t := "julia_f_12 jfptr_g+julia_h_3".toList
    let t' := "julia_f_7 jfptr_g+julia_h_456".toList
    eraseCounters t = eraseCounters t' ∧ CountersLast t ∧ CountersLast t' ∧ CountersWhole t ∧
      CountersWhole t' ∧ ∃ p, Pattern.make defaultLeads .null = .ok p ∧
        p.shorten t = p.shorten t' ∧ p.shorten t' = "f g+julia_h".toList := by
  intro t t'
  have herase : eraseCounters t = eraseCounters t' := by decide +kernel
  have hlast : CountersLast t := by decide +kernel
  have hlast' : CountersLast t' := by decide +kernel
  have hwhole : CountersWhole t := by decide +kernel
  have hwhole' : CountersWhole t' := by decide +kernel
  obtain ⟨p, hmake, hshorten⟩ :=
    shorten_eq_of_eraseCounters_eq t t' herase hlast hlast' hwhole hwhole'
  obtain rfl : ⟨defaultLeads, none⟩ = p := Except.ok.inj hmake
  exact ⟨herase, hlast, hlast', hwhole, hwhole', _, hmake, hshorten, by decide +kernel⟩

/-- Two texts that differ in the counters of generated words only, and are shortened to two texts:
the counter in front of the sign is not the last one of its stretch. -/
theorem shorten_ne_of_further_counter :
    ∃ p, Pattern.make defaultLeads .null = .ok p ∧
      eraseCounters "jfptr_f_12=julia_f_11".toList = eraseCounters "jfptr_f_34=julia_f_33".toList ∧
      p.shorten "jfptr_f_12=julia_f_11".toList = "f_12=julia_f".toList ∧
      p.shorten "jfptr_f_34=julia_f_33".toList = "f_34=julia_f".toList := by
  obtain ⟨p, hmake, -, hp⟩ := exists_make (.inl rfl)
  obtain rfl : ⟨defaultLeads, none⟩ = p := Except.ok.inj hmake
  have hz : ∀ c ∈ "=julia_f".toList, isSeparator c = false := forall_mem_of_all (by decide)
  have hkept : ∀ counter counter', IsCounter counter → IsCounter counter' →
      isGenerated ("f".toList ++ '_' :: counter) = false →
        (⟨defaultLeads, none⟩ : Pattern).shorten ("jfptr".toList ++ '_' ::
          ("f".toList ++ '_' :: (counter ++ ("=julia_f".toList ++ '_' :: counter')))) =
            "f".toList ++ '_' :: (counter ++ "=julia_f".toList) := by
    intro counter counter' hcounter hcounter' hgenerated
    exact shorten_of_further_counter hp rfl rfl (by decide) (by decide) hcounter hgenerated
      (by decide) hz (by decide) hcounter'
  refine ⟨_, hmake, by decide +kernel, ?_, ?_⟩
  · exact hkept "12".toList "11".toList (by decide) (by decide) (by decide +kernel)
  · exact hkept "34".toList "33".toList (by decide) (by decide) (by decide +kernel)

end Collate.Names
