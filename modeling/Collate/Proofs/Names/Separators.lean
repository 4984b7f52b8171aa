import Collate.Proofs.Names.Passes

/-!
# Shortening is local to separators

No generated name holds a separator, and whether a name starts or ends at a separator does not
depend on what stands on its other side. So a pass over a text is a pass over each of the stretches
between its separators (`pass_append_cons`). The stretches may take different numbers of passes; a
pass too many changes nothing, so all passes together are local as well (`shorten_append_cons`).

Whatever ends a line is a separator, and a stretch never disappears. So a text keeps its lines, each
shortened by itself (`splitLines_shorten`). The main statement is `shorten_local`.
-/

namespace Collate.Names

open Collate.Text

/-! ## Names and separators -/

/-- What a text starts with lies before a character that it does not hold. -/
theorem append_cons_eq_append_iff {u v core w : Text} {s : Char} (hs : s ∉ core) :
    u ++ s :: v = core ++ w ↔ ∃ w', u = core ++ w' ∧ w = w' ++ s :: v := by
  rw [List.append_eq_append_iff]
  constructor
  · rintro (⟨more, rfl, hmore⟩ | ⟨more, hu, hw⟩)
    · cases more with
      | nil => exact ⟨[], by simp, by simpa using hmore.symm⟩
      | cons c more =>
        obtain ⟨rfl, -⟩ := List.cons.inj hmore
        exact absurd (by simp) hs
    · exact ⟨more, hu, hw⟩
  · rintro ⟨w', hu, hw⟩
    exact .inr ⟨w', hu, hw⟩

/-- A tail with more text behind what follows it. -/
def Tail.followedBy (tail : Tail) (more : Text) : Tail := { tail with rest := tail.rest ++ more }

section separator

variable {s : Char} (hs : isSeparator s = true)

include hs

/-- No separator stands in the name and the counter of a tail. -/
theorem IsTail.separator_not_mem {t : Text} {tail : Tail} (h : IsTail t tail) :
    s ∉ tail.name ++ '_' :: tail.counter := by
  intro hmem
  rw [h.isSeparator_eq_false s hmem] at hs
  cases hs

/-- A text starts with no word character whatever follows a separator behind it. -/
theorem startsNoWord_append_cons {t v : Text} : StartsNoWord (t ++ s :: v) ↔ StartsNoWord t := by
  cases t with
  | nil => simp [startsNoWord_cons, startsNoWord_nil, isWord_of_isSeparator hs]
  | cons c t => simp [startsNoWord_cons]

/-- The tails in front of a separator are those of the text up to it. -/
theorem isTail_append_cons {u v : Text} {tail : Tail} :
    IsTail (u ++ s :: v) tail ↔ ∃ inner, IsTail u inner ∧ tail = inner.followedBy (s :: v) := by
  constructor
  · intro h
    have htext := h.text_eq
    rw [← List.cons_append, ← List.append_assoc,
      append_cons_eq_append_iff (h.separator_not_mem hs)] at htext
    obtain ⟨rest, hu, hrest⟩ := htext
    refine ⟨{ tail with rest }, ⟨?_, h.name_ne, h.name, h.counter, ?_⟩, ?_⟩
    · simpa using hu
    · exact (startsNoWord_append_cons hs).1 (hrest ▸ h.rest)
    · rw [Tail.followedBy, ← hrest]
  · rintro ⟨inner, h, rfl⟩
    refine ⟨?_, h.name_ne, h.name, h.counter, (startsNoWord_append_cons hs).2 h.rest⟩
    simp [Tail.followedBy, h.text_eq]

/-- A counter is ahead only up to the next separator. -/
theorem openTail?_append_cons_eq_none_iff {u v : Text} :
    openTail? (u ++ s :: v) = none ↔ openTail? u = none := by
  simp only [← Option.not_isSome_iff_eq_none, isSome_openTail?_iff, isTail_append_cons hs]
  rw [not_iff_not]
  constructor
  · rintro ⟨-, inner, h, rfl⟩
    exact ⟨inner, h⟩
  · rintro ⟨inner, h⟩
    exact ⟨_, inner, h, rfl⟩

namespace Pattern.Plain

variable {p : Pattern} (hp : p.Plain)

include hp

/-- A pattern reads no further than to the next separator. -/
theorem tail?_append_cons (u v : Text) :
    p.tail? (u ++ s :: v) = (p.tail? u).map (·.followedBy (s :: v)) := by
  ext tail
  rw [hp.tail?_eq_some_iff, Option.map_eq_some_iff, isTail_append_cons hs]
  constructor
  · rintro ⟨⟨inner, htail, rfl⟩, hlast, hname⟩
    refine ⟨inner, hp.tail?_eq_some_iff.2 ⟨htail, fun h => ?_, hname⟩, rfl⟩
    exact (openTail?_append_cons_eq_none_iff hs).1 (hlast h)
  · rintro ⟨inner, hinner, rfl⟩
    obtain ⟨htail, hlast, hname⟩ := hp.tail?_eq_some_iff.1 hinner
    exact ⟨⟨inner, htail, rfl⟩, fun h => (openTail?_append_cons_eq_none_iff hs).2 (hlast h), hname⟩

/-- A lead with its underscore lies before a separator. -/
theorem append_cons_eq_lead_iff {lead u v w : Text} (hlead : lead ∈ p.leads) :
    u ++ s :: v = lead ++ '_' :: w ↔ ∃ w', u = lead ++ '_' :: w' ∧ w = w' ++ s :: v := by
  have hnot : s ∉ lead ++ ['_'] := by
    intro hmem
    have hword := hp.isWord_lead hlead s hmem
    rw [isWord_of_isSeparator hs] at hword
    cases hword
  have h := append_cons_eq_append_iff (u := u) (v := v) (w := w) hnot
  simpa using h

/-- Whether a generated name starts in front of a separator, and which, is settled there. -/
theorem nameAt?_append_cons (before : Option Char) (u v : Text) :
    p.nameAt? before (u ++ s :: v) = (p.nameAt? before u).map (·.followedBy (s :: v)) := by
  ext tail
  rw [hp.nameAt?_eq_some_iff, Option.map_eq_some_iff]
  constructor
  · rintro ⟨hbefore, lead, hlead, w, hw, htail⟩
    obtain ⟨w', rfl, rfl⟩ := (hp.append_cons_eq_lead_iff hs hlead).1 hw
    rw [hp.tail?_append_cons hs, Option.map_eq_some_iff] at htail
    obtain ⟨inner, hinner, rfl⟩ := htail
    exact ⟨inner, hp.nameAt?_eq_some_iff.2 ⟨hbefore, lead, hlead, w', rfl, hinner⟩, rfl⟩
  · rintro ⟨inner, hinner, rfl⟩
    obtain ⟨hbefore, lead, hlead, w, rfl, htail⟩ := hp.nameAt?_eq_some_iff.1 hinner
    refine ⟨hbefore, lead, hlead, w ++ s :: v, by simp, ?_⟩
    rw [hp.tail?_append_cons hs, htail]
    rfl

/-! ## Passes and separators -/

/-- The rest of a pass in front of a separator, and behind it a pass that starts anew. -/
theorem passFrom_append_cons (before : Option Char) (u v : Text) :
    p.passFrom before (u ++ s :: v) =
      ((p.passFrom before u).1 ++ s :: (p.passFrom none v).1,
        (p.passFrom before u).2 + (p.passFrom none v).2) := by
  induction hn : u.length using Nat.strong_induction_on generalizing before u with
  | _ n ih =>
    subst hn
    have hat := hp.nameAt?_append_cons hs before u v
    cases u with
    | nil =>
      rw [nameAt?_nil] at hat
      have hmay : mayFollow (some s) = mayFollow none := mayFollow_of_isSeparator hs
      rw [List.nil_append, passFrom_of_eq_none hat, passFrom_congr hmay]
      simp
    | cons c u =>
      cases hname : p.nameAt? before (c :: u) with
      | some tail =>
        rw [hname] at hat
        rw [passFrom_of_eq_some hname, passFrom_of_eq_some hat]
        have hrest := ih _ (length_rest_lt hname) tail.counter.getLast? tail.rest rfl
        simp only [Tail.followedBy, hrest, Prod.mk.injEq]
        exact ⟨(List.append_assoc _ _ _).symm, by omega⟩
      | none =>
        rw [hname] at hat
        rw [passFrom_of_eq_none hname, List.cons_append,
          passFrom_of_eq_none (t := u ++ s :: v) hat, ih _ (Nat.lt_succ_self _) (some c) u rfl]
        rfl

/-- A pass over two texts with a separator between them is a pass over each. -/
theorem pass_append_cons (x y : Text) :
    p.pass (x ++ s :: y) = ((p.pass x).1 ++ s :: (p.pass y).1, (p.pass x).2 + (p.pass y).2) :=
  hp.passFrom_append_cons hs none x y

/-- Shortening two texts with a separator between them is shortening each. -/
theorem shorten_append_cons (x y : Text) :
    p.shorten (x ++ s :: y) = p.shorten x ++ s :: p.shorten y := by
  -- on the length of both, since each pass may find names in one of them only
  induction hn : x.length + y.length using Nat.strong_induction_on generalizing x y with
  | _ n ih =>
    subst hn
    have hpass := hp.pass_append_cons hs x y
    by_cases hcount : (p.pass x).2 + (p.pass y).2 = 0
    · have hxy : (p.pass (x ++ s :: y)).2 = 0 := by rw [hpass]; exact hcount
      obtain ⟨hx, hy⟩ := Nat.add_eq_zero_iff.1 hcount
      rw [shorten_of_count_eq_zero hxy, shorten_of_count_eq_zero hx, shorten_of_count_eq_zero hy]
    · have hx : (p.pass x).1.length + 3 * (p.pass x).2 ≤ x.length := length_passFrom p none x
      have hy : (p.pass y).1.length + 3 * (p.pass y).2 ≤ y.length := length_passFrom p none y
      calc p.shorten (x ++ s :: y)
          = p.shorten ((p.pass x).1 ++ s :: (p.pass y).1) := by rw [← shorten_pass, hpass]
        _ = p.shorten (p.pass x).1 ++ s :: p.shorten (p.pass y).1 := ih _ (by omega) _ _ rfl
        _ = p.shorten x ++ s :: p.shorten y := by rw [shorten_pass, shorten_pass]

/-- A separator at the start of a text stays there. -/
theorem shorten_cons (y : Text) : p.shorten (s :: y) = s :: p.shorten y := by
  simpa using hp.shorten_append_cons hs [] y

end Pattern.Plain

end separator

/-! ## Lines -/

namespace Pattern.Plain

variable {p : Pattern} (hp : p.Plain)

include hp

/-- A text starts with a separator exactly if its short form does, and with the same. -/
theorem head?_shorten_eq_some_iff {s : Char} (hs : isSeparator s = true) (t : Text) :
    (p.shorten t).head? = some s ↔ t.head? = some s := by
  constructor
  · intro h
    obtain ⟨x, hx, ht⟩ := exists_stretch isSeparator t
    have hhead : x ≠ [] → ∀ rest, (p.shorten x ++ rest).head? ≠ some s := by
      intro hne rest h
      rw [List.head?_append_of_ne_nil _ (shorten_ne_nil hp hne)] at h
      have hmem := (p.shorten_sublist x).subset (List.mem_of_mem_head? h)
      rw [hx s hmem] at hs
      cases hs
    by_cases hne : x = []
    · rcases ht with rfl | ⟨e, y, he, rfl⟩
      · rw [hne, shorten_nil] at h
        cases h
      · rw [hne, List.nil_append, hp.shorten_cons he] at h
        rw [hne]
        exact h
    · rcases ht with rfl | ⟨e, y, he, rfl⟩
      · exact absurd (by simpa using h) (hhead hne [])
      · rw [hp.shorten_append_cons he] at h
        exact absurd h (hhead hne _)
  · intro h
    cases t with
    | nil => cases h
    | cons c t =>
      obtain rfl : c = s := by simpa using h
      rw [hp.shorten_cons hs]
      rfl

/-- Shortening neither makes nor breaks a pair of carriage return and newline. -/
theorem afterLineEnd_shorten (e : Char) (t : Text) :
    afterLineEnd e (p.shorten t) = p.shorten (afterLineEnd e t) := by
  have hnewline : isSeparator '\n' = true := by decide
  have hpair : opensPair e (p.shorten t) = opensPair e t := by
    rw [Bool.eq_iff_iff]
    simp only [opensPair, Bool.and_eq_true, beq_iff_eq, hp.head?_shorten_eq_some_iff hnewline]
  unfold afterLineEnd
  rw [hpair]
  split
  · rename_i h
    obtain ⟨-, t, rfl⟩ := opensPair_eq_true_iff.1 h
    rw [hp.shorten_cons hnewline]
    rfl
  · rfl

/-- The lines of a shortened text are the shortened lines of the text. -/
theorem splitLines_shorten (t : Text) :
    splitLines (p.shorten t) = (splitLines t).map p.shorten := by
  -- line by line: on the length of what follows the first line
  induction hn : t.length using Nat.strong_induction_on generalizing t with
  | _ n ih =>
    subst hn
    obtain ⟨x, hx, ht⟩ := exists_stretch isLineEnd t
    have hshort : ∀ c ∈ p.shorten x, isLineEnd c = false :=
      fun c hc => hx c ((p.shorten_sublist x).subset hc)
    rcases ht with rfl | ⟨e, y, he, rfl⟩
    · by_cases hne : t = []
      · rw [hne, shorten_nil]
        rfl
      · rw [splitLines_of_not_isLineEnd hx hne,
          splitLines_of_not_isLineEnd hshort (shorten_ne_nil hp hne)]
        rfl
    · have hlength : (afterLineEnd e y).length < (x ++ e :: y).length := by
        unfold afterLineEnd
        split <;> simp <;> omega
      rw [hp.shorten_append_cons (isSeparator_of_isLineEnd he), splitLines_append_cons hshort he,
        splitLines_append_cons hx he, hp.afterLineEnd_shorten, ih _ hlength _ rfl]
      rfl

end Pattern.Plain

/-- **Shortening is local to separators.** With the usual leads, for all functions or for one, two
texts with a separator between them are shortened each by itself. So are the lines of a text,
whatever ends them, and their number stays the same. -/
theorem shorten_local (function : Setting) (hfunction : IsFunctionSetting function) :
    ∃ p, Pattern.make defaultLeads function = .ok p ∧
      (∀ x y s, isSeparator s = true →
        p.shorten (x ++ s :: y) = p.shorten x ++ s :: p.shorten y) ∧
      ∀ code, splitLines (p.shorten code) = (splitLines code).map p.shorten ∧
        (splitLines (p.shorten code)).length = (splitLines code).length := by
  obtain ⟨p, hmake, -, hp⟩ := exists_make hfunction
  refine ⟨p, hmake, fun x y s hs => hp.shorten_append_cons hs x y, fun code => ?_⟩
  have hlines := hp.splitLines_shorten code
  exact ⟨hlines, by rw [hlines, List.length_map]⟩

/-- A name of one function up to a carriage return, and the newline of the pair behind it. -/
theorem shorten_local_pair :
    let x := "japi1_f_12".toList
    let y := "\nx.julia_f_1 jfptr_g_2\u2028jlcapi_f_٣".toList
    ∃ p, Pattern.make defaultLeads (.text "f") = .ok p ∧
      p.shorten (x ++ '\r' :: y) = p.shorten x ++ '\r' :: p.shorten y ∧
      splitLines (p.shorten (x ++ '\r' :: y)) =
        ["f".toList, "x.julia_f_1 jfptr_g_2".toList, "f".toList] := by
  intro x y
  obtain ⟨p, hmake, hlocal, hlines⟩ := shorten_local (.text "f")
    (.inr ⟨"f", rfl, by decide, forall_mem_of_all (by decide)⟩)
  obtain rfl : ⟨defaultLeads, some "f".toList⟩ = p := Except.ok.inj hmake
  refine ⟨_, hmake, hlocal x y '\r' (by decide), ?_⟩
  rw [(hlines _).1]
  decide +kernel

end Collate.Names
