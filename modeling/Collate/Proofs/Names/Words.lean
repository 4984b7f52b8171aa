import Mathlib.Data.List.DropRight
import Collate.Proofs.Names.Reading

/-!
# Words of a text

A word of a text is a run of word characters that is as long as it can be and does not stand right
behind a point. `mapWords` rewrites the words of a text and leaves everything else as it is. Texts
are taken apart word by word (`wordInduction`), and the laws of `mapWords` follow: it can be cut
where no word is cut (`mapWordsFrom_append`), two rewritings after each other are one
(`mapWordsFrom_mapWordsFrom`), and only the words that stand in the text matter
(`mapWordsFrom_congr`).

A generated word is a lead, an underscore, a name, an underscore and a counter. `eraseCounters`
takes the counters of all generated words away. The erased text shows where they stood, unless a
word of the text is a generated word without its counter; then `restoreCounters` puts one and the
same counter in their place (`restoreCounters_eraseCounters`).
-/

namespace Collate.Names

open Collate.Text

/-! ## Word by word -/

/-- A run of word characters. -/
def IsRun (w : Text) : Prop := w ≠ [] ∧ ∀ c ∈ w, isWord c = true

instance : DecidablePred IsRun := fun w =>
  have : Decidable (∀ c ∈ w, isWord c = true) := List.decidableBAll _ w
  inferInstanceAs (Decidable (_ ∧ _))

/-- Rewrites the words of the rest of a text, of which `before` is the character in front. -/
def mapWordsFrom (f : Text → Text) (before : Option Char) : Text → Text
  | [] => []
  | c :: t =>
    if isWord c then
      (if mayFollow before then f (c :: t.takeWhile isWord) else c :: t.takeWhile isWord) ++
        mapWordsFrom f (some c) (t.dropWhile isWord)
    else c :: mapWordsFrom f (some c) t
  termination_by t => t.length
  decreasing_by
    · exact Nat.lt_succ_of_le (List.dropWhile_sublist _).length_le
    · exact Nat.lt_succ_self _

/-- Rewrites the words of a text. -/
def mapWords (f : Text → Text) (t : Text) : Text := mapWordsFrom f none t

/-- A word of the rest of a text, with what stands in front of it and behind it. -/
structure WordAt (before : Option Char) (u w v : Text) : Prop where
  /-- It is a run of word characters. -/
  run : IsRun w
  /-- No word character and no point stands in front of it. -/
  mayFollow : mayFollow (u.getLast?.or before) = true
  /-- No word character stands behind it. -/
  startsNoWord : StartsNoWord v

/-- A text starts with word characters, if with any, and goes on without one. -/
theorem exists_run (t : Text) :
    ∃ w r : Text, (∀ c ∈ w, isWord c = true) ∧ StartsNoWord r ∧ t = w ++ r := by
  obtain ⟨w, hw, rfl | ⟨e, y, he, rfl⟩⟩ := exists_stretch (!isWord ·) t
  · exact ⟨t, [], by simpa using hw, startsNoWord_nil, (List.append_nil t).symm⟩
  · exact ⟨w, e :: y, by simpa using hw, startsNoWord_cons.2 (by simpa using he), rfl⟩

/-- A text is nothing, a character that is none of a word with more behind it, or a run of word
characters with more behind it that starts with none. -/
theorem wordInduction {motive : Option Char → Text → Prop} (nil : ∀ before, motive before [])
    (cons : ∀ before c t, isWord c = false → motive (some c) t → motive before (c :: t))
    (word : ∀ before w t, IsRun w → StartsNoWord t → (∀ before, motive before t) →
      motive before (w ++ t)) (before : Option Char) (t : Text) : motive before t := by
  induction hn : t.length using Nat.strong_induction_on generalizing before t with
  | _ n ih =>
    subst hn
    cases t with
    | nil => exact nil before
    | cons c t =>
      by_cases hc : isWord c = true
      · obtain ⟨w, r, hw, hr, rfl⟩ := exists_run t
        have hlength : r.length < (c :: (w ++ r)).length := by
          simp only [List.length_cons, List.length_append]
          omega
        exact word before (c :: w) r ⟨List.cons_ne_nil _ _, List.forall_mem_cons.2 ⟨hc, hw⟩⟩ hr
          fun before => ih _ hlength before r rfl
      · exact cons before c t (by simpa using hc) (ih _ (Nat.lt_succ_self _) _ t rfl)

section mapWords

variable {f g : Text → Text} {before before' : Option Char} {c : Char} {t u w v : Text}

@[simp] theorem mapWordsFrom_nil : mapWordsFrom f before [] = [] := by
  rw [mapWordsFrom]

/-- What belongs to no word stays. -/
theorem mapWordsFrom_cons (hc : isWord c = false) :
    mapWordsFrom f before (c :: t) = c :: mapWordsFrom f (some c) t := by
  rw [mapWordsFrom, hc]
  rfl

/-- What does not start with a word is rewritten in the same way behind any character. -/
theorem mapWordsFrom_of_startsNoWord (ht : StartsNoWord t) (before before' : Option Char) :
    mapWordsFrom f before t = mapWordsFrom f before' t := by
  cases t with
  | nil => rw [mapWordsFrom_nil, mapWordsFrom_nil]
  | cons c t =>
    rw [mapWordsFrom_cons (startsNoWord_cons.1 ht), mapWordsFrom_cons (startsNoWord_cons.1 ht)]

/-- A word is rewritten, unless it stands behind a point. -/
theorem mapWordsFrom_run (hw : IsRun w) (ht : StartsNoWord t) (before' : Option Char) :
    mapWordsFrom f before (w ++ t) =
      (if mayFollow before then f w else w) ++ mapWordsFrom f before' t := by
  obtain ⟨hne, hword⟩ := hw
  obtain ⟨c, w, rfl⟩ := List.exists_cons_of_ne_nil hne
  obtain ⟨hc, hword⟩ := List.forall_mem_cons.1 hword
  obtain ⟨htake, hdrop⟩ := takeWhile_append_eq hword ht
  rw [List.cons_append, mapWordsFrom, if_pos hc, htake, hdrop,
    mapWordsFrom_of_startsNoWord ht (some c) before']

/-- A text that starts with no word character starts with none when its words are rewritten. -/
theorem StartsNoWord.mapWordsFrom (ht : StartsNoWord t) (f : Text → Text) (before : Option Char) :
    StartsNoWord (mapWordsFrom f before t) := by
  cases t with
  | nil => rwa [mapWordsFrom_nil]
  | cons c t =>
    rw [mapWordsFrom_cons (startsNoWord_cons.1 ht)]
    exact startsNoWord_cons.2 (startsNoWord_cons.1 ht)

/-- Only whether a name may start matters of the character in front. -/
theorem mapWordsFrom_congr_before (h : mayFollow before = mayFollow before') :
    mapWordsFrom f before t = mapWordsFrom f before' t := by
  cases t with
  | nil => rw [mapWordsFrom_nil, mapWordsFrom_nil]
  | cons c t => rw [mapWordsFrom, mapWordsFrom, h]

/-- A text can be cut anywhere but in a word. -/
theorem mapWordsFrom_append (h : StartsNoWord v ∨ ∀ c ∈ u.getLast?, isWord c = false) :
    mapWordsFrom f before (u ++ v) =
      mapWordsFrom f before u ++ mapWordsFrom f (u.getLast?.or before) v := by
  induction before, u using wordInduction with
  | nil before => simp
  | cons before c u hc ih =>
    rw [List.cons_append, mapWordsFrom_cons hc, mapWordsFrom_cons hc, getLast?_cons_or, ih,
      List.cons_append]
    refine h.imp_right fun h d hd => ?_
    apply h
    rw [List.getLast?_cons, Option.mem_def.1 hd]
    rfl
  | word before w u hw hu ih =>
    by_cases hne : u = []
    · -- the cut is at the end of the word, so what follows starts with none
      subst hne
      have hv : StartsNoWord v := by
        refine h.resolve_right fun h => ?_
        rw [List.append_nil, List.getLast?_eq_some_getLast hw.1] at h
        have hword := hw.2 _ (List.getLast_mem hw.1)
        rw [h _ rfl] at hword
        cases hword
      rw [List.append_nil, mapWordsFrom_run hw hv]
      conv_rhs => rw [← List.append_nil w, mapWordsFrom_run hw startsNoWord_nil none]
      rw [mapWordsFrom_nil, List.append_nil]
    · have huv : StartsNoWord (u ++ v) := by
        obtain ⟨c, u, rfl⟩ := List.exists_cons_of_ne_nil hne
        exact startsNoWord_cons.2 (startsNoWord_cons.1 hu)
      have hlast : (w ++ u).getLast? = u.getLast? := by
        rw [List.getLast?_append, List.getLast?_eq_some_getLast hne]
        rfl
      have hor : u.getLast?.or before = u.getLast?.or none := by
        rw [List.getLast?_eq_some_getLast hne]
        rfl
      rw [hlast] at h
      rw [List.append_assoc, mapWordsFrom_run hw huv none, mapWordsFrom_run hw hu none, ih none h,
        hlast, hor, List.append_assoc]

/-- Rewriting a text with a word in it. -/
theorem mapWordsFrom_wordAt (h : WordAt before u w v) :
    mapWordsFrom f before (u ++ (w ++ v)) =
      mapWordsFrom f before u ++ (f w ++ mapWordsFrom f none v) := by
  have hcut : ∀ c ∈ u.getLast?, isWord c = false := by
    intro c hc
    have hmay := h.mayFollow
    rw [Option.mem_def.1 hc] at hmay
    simp only [Option.some_or, Names.mayFollow, Option.any_some, Bool.not_eq_true',
      Bool.or_eq_false_iff] at hmay
    exact hmay.1
  rw [mapWordsFrom_append (.inr hcut), mapWordsFrom_run h.run h.startsNoWord none, h.mayFollow,
    if_pos rfl]

/-- Two rewritings that agree on the words of a text give the same text. -/
theorem mapWordsFrom_congr
    (h : ∀ u w v, t = u ++ (w ++ v) → WordAt before u w v → f w = g w) :
    mapWordsFrom f before t = mapWordsFrom g before t := by
  induction before, t using wordInduction with
  | nil before => rw [mapWordsFrom_nil, mapWordsFrom_nil]
  | cons before c t hc ih =>
    rw [mapWordsFrom_cons hc, mapWordsFrom_cons hc, ih]
    intro u w v ht hw
    refine h (c :: u) w v (by rw [ht]; rfl) ⟨hw.run, ?_, hw.startsNoWord⟩
    rw [getLast?_cons_or]
    exact hw.mayFollow
  | word before w t hw ht ih =>
    rw [mapWordsFrom_run hw ht w.getLast?, mapWordsFrom_run hw ht w.getLast?]
    congr 1
    · split_ifs with hmay
      · exact h [] w t rfl ⟨hw, hmay, ht⟩
      · rfl
    · apply ih
      intro u w' v htext hw'
      refine h (w ++ u) w' v (by rw [htext, List.append_assoc]) ⟨hw'.run, ?_, hw'.startsNoWord⟩
      have hmay := hw'.mayFollow
      rw [List.getLast?_append]
      rw [List.getLast?_eq_some_getLast hw.1] at hmay ⊢
      cases hu : u.getLast? <;> simpa [hu] using hmay

/-- Rewriting words to themselves changes nothing. -/
theorem mapWordsFrom_id : mapWordsFrom id before t = t := by
  induction before, t using wordInduction with
  | nil before => rw [mapWordsFrom_nil]
  | cons before c t hc ih => rw [mapWordsFrom_cons hc, ih]
  | word before w t hw ht ih =>
    rw [mapWordsFrom_run hw ht none, ih, id, ite_self]

/-- A text stays as it is where each of its words does. -/
theorem mapWordsFrom_eq_self (h : ∀ u w v, t = u ++ (w ++ v) → WordAt before u w v → f w = w) :
    mapWordsFrom f before t = t := by
  rw [mapWordsFrom_congr (g := id) h, mapWordsFrom_id]

/-- Rewriting the words that a rewriting has left is one rewriting, if it leaves words. -/
theorem mapWordsFrom_mapWordsFrom (hf : ∀ w, IsRun w → IsRun (f w)) :
    mapWordsFrom g before (mapWordsFrom f before t) =
      mapWordsFrom (fun w => g (f w)) before t := by
  induction before, t using wordInduction with
  | nil before => simp
  | cons before c t hc ih =>
    rw [mapWordsFrom_cons hc, mapWordsFrom_cons hc, mapWordsFrom_cons hc, ih]
  | word before w t hw ht ih =>
    rw [mapWordsFrom_run hw ht none, mapWordsFrom_run hw ht none, ← ih none]
    split_ifs with hmay
    · rw [mapWordsFrom_run (hf w hw) (ht.mapWordsFrom f none) none, if_pos hmay]
    · rw [mapWordsFrom_run hw (ht.mapWordsFrom f none) none, if_neg hmay]

end mapWords

/-! ## Generated words -/

/-- Whether a word is a generated word without its counter: one of the usual leads, an underscore, a
name and an underscore. -/
def isStem (w : Text) : Bool :=
  defaultLeads.any fun lead =>
    (dropLead? (lead ++ ['_']) w).any fun rest =>
      decide (1 < rest.length) && rest.getLast? == some '_'

/-- Whether a word is a generated one: without the digits at its end it lacks nothing but a
counter. -/
def isGenerated (w : Text) : Bool :=
  isStem (w.rdropWhile isDigit) && decide (w.rdropWhile isDigit ≠ w)

/-- A word without its counter, if it is a generated one. -/
def eraseWord (w : Text) : Text := if isGenerated w then w.rdropWhile isDigit else w

/-- A text without the counters of its generated words. -/
def eraseCounters (t : Text) : Text := mapWords eraseWord t

/-- A word with a counter of zero, if it lacks one. -/
def restoreWord (w : Text) : Text := if isStem w then w ++ ['0'] else w

/-- A word with zero for its counter, if it is a generated one. -/
def resetWord (w : Text) : Text := if isGenerated w then w.rdropWhile isDigit ++ ['0'] else w

/-- A text with zero for the counters of its generated words. -/
def resetCounters (t : Text) : Text := mapWords resetWord t

theorem isStem_iff {w : Text} :
    isStem w = true ↔
      ∃ lead ∈ defaultLeads, ∃ name, name ≠ [] ∧ w = lead ++ '_' :: (name ++ ['_']) := by
  simp only [isStem, List.any_eq_true, Option.any_eq_true, dropLead?_eq_some_iff, Bool.and_eq_true,
    decide_eq_true_eq, beq_iff_eq]
  constructor
  · rintro ⟨lead, hlead, rest, rfl, hlength, hlast⟩
    obtain ⟨name, rfl⟩ := List.getLast?_eq_some_iff.1 hlast
    refine ⟨lead, hlead, name, ?_, by simp⟩
    rintro rfl
    simp at hlength
  · rintro ⟨lead, hlead, name, hne, rfl⟩
    have hlength := List.length_pos_iff.2 hne
    exact ⟨lead, hlead, name ++ ['_'], by simp, by simpa using hlength, by simp⟩

/-- The digits at the end of a word with a counter are its counter. -/
theorem rdropWhile_append_counter {w counter : Text} (hcounter : IsCounter counter) :
    (w ++ '_' :: counter).rdropWhile isDigit = w ++ ['_'] := by
  have hreverse : (w ++ '_' :: counter).reverse = counter.reverse ++ (w ++ ['_']).reverse := by
    simp
  have hdigits : ∀ c ∈ counter.reverse, isDigit c = true := by
    simpa using hcounter.2
  have hhead : ∀ c ∈ (w ++ ['_']).reverse.head?, isDigit c = false := by
    simp [isDigit_underscore]
  rw [List.rdropWhile, hreverse, (takeWhile_append_eq hdigits hhead).2, List.reverse_reverse]

theorem isGenerated_iff {w : Text} :
    isGenerated w = true ↔
      ∃ lead ∈ defaultLeads, ∃ name counter, name ≠ [] ∧ IsCounter counter ∧
        w = lead ++ '_' :: (name ++ '_' :: counter) := by
  simp only [isGenerated, Bool.and_eq_true, isStem_iff, decide_eq_true_eq]
  constructor
  · rintro ⟨⟨lead, hlead, name, hne, hstem⟩, hcounter⟩
    have hw := List.rdropWhile_append_rtakeWhile (p := isDigit) (l := w)
    have hnil : w.rtakeWhile isDigit ≠ [] := by
      intro h
      rw [h, List.append_nil] at hw
      exact hcounter hw
    refine ⟨lead, hlead, name, w.rtakeWhile isDigit, hne,
      ⟨hnil, fun c hc => List.mem_rtakeWhile_imp hc⟩, ?_⟩
    conv_lhs => rw [← hw, hstem]
    simp
  · rintro ⟨lead, hlead, name, counter, hne, hcounter, rfl⟩
    have hstem := rdropWhile_append_counter (w := lead ++ '_' :: name) hcounter
    simp only [List.append_assoc, List.cons_append] at hstem
    rw [hstem]
    refine ⟨⟨lead, hlead, name, hne, rfl⟩, fun h => hcounter.1 ?_⟩
    simpa using h

/-- Erasing the counter of a word leaves a run of word characters. -/
theorem isRun_eraseWord {w : Text} (h : IsRun w) : IsRun (eraseWord w) := by
  unfold eraseWord
  split_ifs with hw
  · refine ⟨?_, fun c hc => h.2 c ((List.rdropWhile_prefix isDigit w).subset hc)⟩
    rw [isGenerated, Bool.and_eq_true, isStem_iff] at hw
    obtain ⟨⟨lead, -, name, -, hstem⟩, -⟩ := hw
    rw [hstem]
    simp
  · exact h

/-- A word whose counter was erased gets zero for it, if every word that lacks a counter had one. -/
theorem restoreWord_eraseWord {w : Text} (h : isStem w = false) :
    restoreWord (eraseWord w) = resetWord w := by
  unfold restoreWord eraseWord resetWord
  split_ifs with hw hstem hstem
  · rfl
  · rw [isGenerated, Bool.and_eq_true] at hw
    exact absurd hw.1 hstem
  · rw [h] at hstem
    cases hstem
  · rfl

/-- An erased text shows where counters stood, if no word of the text lacks one. -/
theorem restoreCounters_eraseCounters {t : Text}
    (h : ∀ u w v, t = u ++ (w ++ v) → WordAt none u w v → isStem w = false) :
    mapWords restoreWord (eraseCounters t) = resetCounters t := by
  unfold eraseCounters resetCounters mapWords
  rw [mapWordsFrom_mapWordsFrom fun w hw => isRun_eraseWord hw]
  exact mapWordsFrom_congr fun u w v ht hw => restoreWord_eraseWord (h u w v ht hw)

end Collate.Names
