import Mathlib.Data.List.TakeWhile
import Collate.Text.Lines

/-!
# How a text falls into stretches and lines

A text starts with a stretch that lacks a kind of character, and ends there or goes on with such a
character (`exists_stretch`). The first line of a text reaches up to its first line end, and the
other lines are those of what follows (`splitLines_append_cons`). So a statement about lines goes by
induction on the text behind the first line. In the other direction, lines with ends behind them
make up a text that is split into them, whatever the ends are (`splitLines_eq_iff`).

Carriage returns may become newlines before a text is split: the lines stay the same
(`splitLines_unifyNewlines`), and so does a byte order mark at the start (`dropMark_unifyNewlines`).
-/

namespace Collate.Text

/-- What every character of a text is found to be, each of them is. -/
theorem forall_mem_of_all {q : Char → Prop} [DecidablePred q] {t : Text}
    (h : t.all (fun c => decide (q c)) = true) : ∀ c ∈ t, q c := by
  simpa using h

/-- A text is a stretch without a certain kind of character, alone or with such a character and more
behind it. -/
theorem exists_stretch (q : Char → Bool) (t : Text) :
    ∃ x, (∀ c ∈ x, q c = false) ∧ (t = x ∨ ∃ e y, q e = true ∧ t = x ++ e :: y) := by
  refine ⟨t.takeWhile (!q ·), fun c hc => by simpa using List.mem_takeWhile_imp hc, ?_⟩
  have ht := List.takeWhile_append_dropWhile (p := (!q ·)) (l := t)
  cases hdrop : t.dropWhile (!q ·) with
  | nil =>
    rw [hdrop, List.append_nil] at ht
    exact .inl ht.symm
  | cons e y =>
    have hne : t.dropWhile (!q ·) ≠ [] := by rw [hdrop]; exact List.cons_ne_nil _ _
    have he := List.head_dropWhile_not (!q ·) hne
    simp only [hdrop, List.head_cons, Bool.not_eq_false'] at he
    rw [hdrop] at ht
    exact .inr ⟨e, y, he, ht.symm⟩

/-- What a text starts with of a kind of character is taken and dropped up to the first other one.
-/
theorem takeWhile_append_eq {q : Char → Bool} {x t : Text} (hx : ∀ c ∈ x, q c = true)
    (ht : ∀ c ∈ t.head?, q c = false) :
    (x ++ t).takeWhile q = x ∧ (x ++ t).dropWhile q = t := by
  have htake : t.takeWhile q = [] := by
    cases t with
    | nil => rfl
    | cons c t => exact List.takeWhile_cons_of_neg (by simpa using ht c)
  have hdrop : t.dropWhile q = t := by
    have := List.takeWhile_append_dropWhile (p := q) (l := t)
    rwa [htake, List.nil_append] at this
  rw [List.takeWhile_append_of_pos hx, List.dropWhile_append_of_pos hx, htake, hdrop,
    List.append_nil]
  exact ⟨rfl, rfl⟩

/-- Taking characters of a kind from a text stops at a text that starts with none. -/
theorem takeWhile_append_of_head? {q : Char → Bool} {v : Text} (hv : ∀ c ∈ v.head?, q c = false)
    (t : Text) :
    (t ++ v).takeWhile q = t.takeWhile q ∧ (t ++ v).dropWhile q = t.dropWhile q ++ v := by
  obtain ⟨x, hx, rfl | ⟨e, y, he, rfl⟩⟩ := exists_stretch (!q ·) t
  · have hx : ∀ c ∈ t, q c = true := by simpa using hx
    rw [(takeWhile_append_eq hx hv).1, (takeWhile_append_eq hx hv).2]
    simp [List.takeWhile_eq_self_iff.2 hx, List.dropWhile_eq_nil_iff.2 hx]
  · have hx : ∀ c ∈ x, q c = true := by simpa using hx
    have he : ∀ y, ∀ c ∈ (e :: y).head?, q c = false := by simpa using he
    rw [List.append_assoc, List.cons_append, (takeWhile_append_eq hx (he _)).1,
      (takeWhile_append_eq hx (he _)).2, (takeWhile_append_eq hx (he _)).1,
      (takeWhile_append_eq hx (he _)).2]
    exact ⟨rfl, rfl⟩

/-- A stretch without line ends joins the first line of what follows. -/
theorem splitLines_append {x : Text} (hx : ∀ c ∈ x, isLineEnd c = false) (hne : x ≠ []) (t : Text) :
    splitLines (x ++ t) = (x ++ (splitLines t).headD []) :: (splitLines t).tail := by
  induction x with
  | nil => exact absurd rfl hne
  | cons c x ih =>
    obtain ⟨hc, hx⟩ := List.forall_mem_cons.1 hx
    rw [List.cons_append, splitLines_cons hc]
    by_cases hnil : x = []
    · rw [hnil]
      rfl
    · rw [ih hx hnil]
      rfl

/-- A text without a mark is not split at it. -/
theorem splitOn_of_not_mem {mark : Char} {t : Text} (h : mark ∉ t) : splitOn mark t = [t] := by
  induction t with
  | nil => rfl
  | cons c t ih =>
    rw [List.mem_cons, not_or] at h
    rw [splitOn, if_neg (Ne.symm h.1), ih h.2]

/-- A stretch without a mark joins the first part of what follows. -/
theorem splitOn_append_of_not_mem {mark : Char} {s : Text} (h : mark ∉ s) (t : Text) :
    splitOn mark (s ++ t) = (s ++ (splitOn mark t).headD []) :: (splitOn mark t).tail := by
  have hne : ∀ t, splitOn mark t ≠ [] := by
    intro t
    cases t with
    | nil => exact List.cons_ne_nil _ _
    | cons c t =>
      rw [splitOn]
      split
      · exact List.cons_ne_nil _ _
      · split <;> exact List.cons_ne_nil _ _
  induction s with
  | nil =>
    rw [List.nil_append, List.nil_append]
    cases ht : splitOn mark t with
    | nil => exact absurd ht (hne t)
    | cons first rest => rfl
  | cons c s ih =>
    rw [List.mem_cons, not_or] at h
    rw [List.cons_append, splitOn, if_neg (Ne.symm h.1), ih h.2]
    rfl

/-- Texts without a mark are the parts between the marks when they are joined with it. -/
theorem splitOn_joinWith {mark : Char} {parts : List Text} (h : ∀ p ∈ parts, mark ∉ p)
    (hne : parts ≠ []) : splitOn mark (joinWith [mark] parts) = parts := by
  induction parts with
  | nil => exact absurd rfl hne
  | cons p parts ih =>
    obtain ⟨hp, hparts⟩ := List.forall_mem_cons.1 h
    cases parts with
    | nil => exact splitOn_of_not_mem hp
    | cons q parts =>
      have hrest := ih hparts (List.cons_ne_nil q parts)
      rw [joinWith, List.append_assoc, List.singleton_append, splitOn_append_of_not_mem hp, splitOn,
        if_pos rfl, hrest]
      · simp
      · exact List.cons_ne_nil q parts

/-- Texts that are joined with a mark hold their own characters and the mark. -/
theorem mem_joinWith {mark c : Char} {parts : List Text} (h : c ∈ joinWith [mark] parts) :
    c = mark ∨ ∃ p ∈ parts, c ∈ p := by
  induction parts with
  | nil => cases h
  | cons p parts ih =>
    cases parts with
    | nil => exact .inr ⟨p, List.mem_singleton_self p, h⟩
    | cons q parts =>
      rw [joinWith, List.append_assoc, List.singleton_append, List.mem_append, List.mem_cons] at h
      rcases h with h | h | h
      · exact .inr ⟨p, List.mem_cons_self, h⟩
      · exact .inl h
      · exact (ih h).imp_right fun ⟨r, hr, hc⟩ => ⟨r, List.mem_cons_of_mem p hr, hc⟩
      · exact List.cons_ne_nil q parts

/-- A text without line ends is one line, unless it is empty. -/
theorem splitLines_of_not_isLineEnd {x : Text} (hx : ∀ c ∈ x, isLineEnd c = false) (hne : x ≠ []) :
    splitLines x = [x] := by
  have h := splitLines_append hx hne []
  simpa [splitLines] using h

/-- A pair is a carriage return with a newline behind it. -/
theorem opensPair_eq_true_iff {c : Char} {t : Text} :
    opensPair c t = true ↔ c = '\r' ∧ ∃ u, t = '\n' :: u := by
  rw [opensPair, Bool.and_eq_true, beq_iff_eq, beq_iff_eq, List.head?_eq_some_iff]

/-- What follows a line end, which may be a carriage return with a newline. -/
def afterLineEnd (e : Char) (t : Text) : Text := if opensPair e t then t.tail else t

/-- A line ends at the first line end, and the lines of what follows come after it. -/
theorem splitLines_append_cons {x : Text} (hx : ∀ c ∈ x, isLineEnd c = false) {e : Char}
    (he : isLineEnd e = true) (t : Text) :
    splitLines (x ++ e :: t) = x :: splitLines (afterLineEnd e t) := by
  have hend : splitLines (e :: t) = [] :: splitLines (afterLineEnd e t) := by
    rw [splitLines, afterLineEnd, if_pos he]
    split
    · rename_i hpair
      obtain ⟨-, t, rfl⟩ := opensPair_eq_true_iff.1 hpair
      rw [splitLines]
      rfl
    · rfl
  by_cases hne : x = []
  · rw [hne, List.nil_append, hend]
  · rw [splitLines_append hx hne, hend]
    simp

/-- Lines that hold no line ends are the lines of a text that ends each of them. -/
theorem splitLines_unlines {lines : List Text}
    (h : ∀ line ∈ lines, ∀ c ∈ line, isLineEnd c = false) : splitLines (unlines lines) = lines := by
  induction lines with
  | nil => rfl
  | cons line lines ih =>
    obtain ⟨hline, hlines⟩ := List.forall_mem_cons.1 h
    have hafter : afterLineEnd '\n' (unlines lines) = unlines lines := by
      rw [afterLineEnd, opensPair]
      rfl
    rw [unlines, splitLines_append_cons hline (by decide), hafter, ih hlines]

/-! ## Texts that fall into lines -/

/-- A text that falls into lines. No line holds a line end, and each has one behind it: a character
that ends lines, or a carriage return with the newline after it, which are one end. The last line
may go without, unless it is empty. -/
inductive FallsInto : Text → List Text → Prop
  /-- The empty text has no lines. -/
  | empty : FallsInto [] []
  /-- A last line without an end. -/
  | last {line : Text} (hline : ∀ c ∈ line, isLineEnd c = false) (hne : line ≠ []) :
    FallsInto line [line]
  /-- A line that a single character ends. -/
  | ended {line t : Text} {lines : List Text} {e : Char} (hline : ∀ c ∈ line, isLineEnd c = false)
    (he : isLineEnd e = true) (hsingle : e = '\r' → t.head? ≠ some '\n') (h : FallsInto t lines) :
    FallsInto (line ++ e :: t) (line :: lines)
  /-- A line that a carriage return with a newline ends. -/
  | pair {line t : Text} {lines : List Text} (hline : ∀ c ∈ line, isLineEnd c = false)
    (h : FallsInto t lines) : FallsInto (line ++ '\r' :: '\n' :: t) (line :: lines)

/-- Every text falls into the lines that it is split into. -/
theorem fallsInto_splitLines (t : Text) : FallsInto t (splitLines t) := by
  -- line by line: on the length of what follows the first line
  induction hn : t.length using Nat.strong_induction_on generalizing t with
  | _ n ih =>
    subst hn
    obtain ⟨x, hx, rfl | ⟨e, y, he, rfl⟩⟩ := exists_stretch isLineEnd t
    · by_cases hne : t = []
      · rw [hne]
        exact .empty
      · rw [splitLines_of_not_isLineEnd hx hne]
        exact .last hx hne
    · rw [splitLines_append_cons hx he, afterLineEnd]
      by_cases hpair : opensPair e y = true
      · rw [if_pos hpair]
        obtain ⟨rfl, y, rfl⟩ := opensPair_eq_true_iff.1 hpair
        exact .pair hx (ih _ (by simp; omega) y rfl)
      · rw [if_neg hpair]
        refine .ended hx he (fun hcarriage hnewline => hpair ?_) (ih _ (by simp; omega) y rfl)
        exact opensPair_eq_true_iff.2 ⟨hcarriage, List.head?_eq_some_iff.1 hnewline⟩

/-- **A text is split into the lines that it falls into**, and it falls into no others. -/
theorem splitLines_eq_iff {t : Text} {lines : List Text} :
    splitLines t = lines ↔ FallsInto t lines := by
  constructor
  · rintro rfl
    exact fallsInto_splitLines t
  · intro h
    induction h with
    | empty => rfl
    | last hline hne => exact splitLines_of_not_isLineEnd hline hne
    | @ended line t lines e hline he hsingle h ih =>
      have hpair : ¬opensPair e t = true := by
        rw [opensPair_eq_true_iff, ← List.head?_eq_some_iff]
        exact fun hpair => hsingle hpair.1 hpair.2
      rw [splitLines_append_cons hline he, afterLineEnd, if_neg hpair, ih]
    | pair hline h ih =>
      rw [splitLines_append_cons hline (by decide)]
      exact congrArg _ ih

/-- A text holds the characters of the lines that it falls into. -/
theorem FallsInto.mem {t line : Text} {lines : List Text} (h : FallsInto t lines)
    (hline : line ∈ lines) {c : Char} (hc : c ∈ line) : c ∈ t := by
  induction h with
  | empty => cases hline
  | last =>
    rw [List.mem_singleton] at hline
    rwa [← hline]
  | ended _ _ _ _ ih | pair _ _ ih =>
    rcases List.mem_cons.1 hline with rfl | hline
    · exact List.mem_append_left _ hc
    · have := ih hline
      simp [this]

/-! ## Newlines for carriage returns -/

/-- A carriage return of a pair goes, one by itself becomes a newline, and any other character
stays. -/
theorem unifyNewlines_cons (c : Char) (t : Text) :
    unifyNewlines (c :: t) =
      if opensPair c t then unifyNewlines t
      else (if c = '\r' then '\n' else c) :: unifyNewlines t := by
  rw [unifyNewlines]

/-- Only a carriage return opens a pair. -/
theorem opensPair_of_ne {c : Char} (h : c ≠ '\r') (t : Text) : opensPair c t = false := by
  rw [opensPair, beq_false_of_ne h, Bool.false_and]

/-- **The lines of a text do not depend on which of the newline, the carriage return and the pair of
both ends them.** -/
theorem splitLines_unifyNewlines (t : Text) : splitLines (unifyNewlines t) = splitLines t := by
  induction t with
  | nil => rfl
  | cons c t ih =>
    rw [unifyNewlines_cons]
    by_cases hpair : opensPair c t = true
    · rw [if_pos hpair, ih, splitLines, if_pos hpair]
    rw [if_neg hpair]
    by_cases hc : c = '\r'
    · subst hc
      rw [if_pos rfl, splitLines, if_neg (by simp [opensPair_of_ne]), if_pos (by decide), ih,
        splitLines, if_neg hpair, if_pos (by decide)]
    · rw [if_neg hc, splitLines, splitLines, ih, opensPair_of_ne hc, opensPair_of_ne hc]

/-- Both a pair and a carriage return by itself start with a newline in the end. -/
theorem head?_unifyNewlines (t : Text) :
    (unifyNewlines t).head? = t.head?.map fun c => if c = '\r' then '\n' else c := by
  cases t with
  | nil => rfl
  | cons c t =>
    rw [unifyNewlines_cons]
    by_cases hpair : opensPair c t = true
    · rw [if_pos hpair]
      obtain ⟨rfl, t, rfl⟩ := opensPair_eq_true_iff.1 hpair
      rw [unifyNewlines_cons, opensPair_of_ne (by decide)]
      rfl
    · rw [if_neg hpair]
      rfl

/-- A text that starts with no byte order mark keeps its first character. -/
theorem dropMark_of_head? {t : Text} (h : t.head? ≠ some byteOrderMark) : dropMark t = t := by
  cases t with
  | nil => rfl
  | cons c t =>
    have hc : c ≠ byteOrderMark := by simpa using h
    rw [dropMark, if_neg hc]

/-- A byte order mark at the start is dropped. -/
@[simp] theorem dropMark_byteOrderMark_cons (t : Text) : dropMark (byteOrderMark :: t) = t := by
  rw [dropMark, if_pos rfl]

/-- A byte order mark can be dropped before carriage returns become newlines or after. -/
theorem dropMark_unifyNewlines (t : Text) :
    dropMark (unifyNewlines t) = unifyNewlines (dropMark t) := by
  by_cases hmark : t.head? = some byteOrderMark
  · obtain ⟨t, rfl⟩ := List.head?_eq_some_iff.1 hmark
    have hc : byteOrderMark ≠ '\r' := by decide
    rw [unifyNewlines_cons, opensPair_of_ne hc, if_neg Bool.false_ne_true, if_neg hc,
      dropMark_byteOrderMark_cons, dropMark_byteOrderMark_cons]
  · have hhead : (unifyNewlines t).head? ≠ some byteOrderMark := by
      rw [head?_unifyNewlines]
      intro h
      obtain ⟨c, hc, hcmark⟩ := Option.map_eq_some_iff.1 h
      split_ifs at hcmark
      · exact absurd hcmark (by decide)
      · exact hmark (hcmark ▸ hc)
    rw [dropMark_of_head? hmark, dropMark_of_head? hhead]

end Collate.Text
