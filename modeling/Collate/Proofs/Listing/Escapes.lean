import Mathlib.Data.List.Infix
import Mathlib.Tactic.Tauto
import Collate.Proofs.Text.Lines
import Collate.Terminal.Styled

/-!
# What a line shows between style escapes

A line is read token by token, and an escape may reach over everything that follows it. It does not
reach over a style escape: none of its characters but the first starts an escape, and the first one
belongs to no other escape (`escapeAt?_append`). So the tokens of a line between two style escapes
are its own with one more on either side (`tokens_append_styleEscape`), and the line shows there
what it shows by itself (`readPlain_between`).

What a line shows need not be the line. It is exactly if the line holds no control character that
styled text drops and no escape starts anywhere in it (`readPlain_eq_self_iff`).
-/

namespace Collate.Terminal

open Collate.Text

/-! ## Style escapes -/

/-- A style escape with its parameters: they stand between the escape character with a bracket and
the letter m, and none of them is a number too long to be read. -/
structure IsStyleEscape (v body : Text) : Prop where
  /-- How it is written. -/
  text_eq : v = escapeChar :: '[' :: (body ++ ['m'])
  /-- It holds parameters only. -/
  parameters : ∀ c ∈ body, between '0' '?' c = true
  /-- Its numbers can be read. -/
  short : Styled.longParameter? body = none

/-- A style escape consists of four kinds of characters. -/
theorem IsStyleEscape.not_mem {v body : Text} (h : IsStyleEscape v body) {c : Char}
    (hc : c ≠ escapeChar ∧ c ≠ '[' ∧ between '0' '?' c = false ∧ c ≠ 'm') : c ∉ v := by
  obtain ⟨hescape, hbracket, hparameter, hfinal⟩ := hc
  rw [h.text_eq]
  simp only [List.mem_cons, List.mem_append, List.not_mem_nil, or_false, not_or]
  refine ⟨hescape, hbracket, fun hc => ?_, hfinal⟩
  rw [h.parameters c hc] at hparameter
  cases hparameter

section append

variable {q : Char → Bool} {u v w t mark body : Text}

/-- A control sequence does not reach over an escape character. -/
theorem controlSequence?_append (hv : v.head? = some escapeChar) (t : Text) :
    controlSequence? (t ++ v) =
      (controlSequence? t).map fun (inner, final, after) => (inner, final, after ++ v) := by
  have hparameters : ∀ c ∈ v.head?, between '0' '?' c = false := by
    simpa [hv] using (by decide : between '0' '?' escapeChar = false)
  have hmiddle : ∀ c ∈ v.head?, between ' ' '/' c = false := by
    simpa [hv] using (by decide : between ' ' '/' escapeChar = false)
  unfold controlSequence?
  simp only [(takeWhile_append_of_head? hparameters t).1,
    (takeWhile_append_of_head? hparameters t).2, (takeWhile_append_of_head? hmiddle _).1,
    (takeWhile_append_of_head? hmiddle _).2]
  cases hrest : (t.dropWhile (between '0' '?')).dropWhile (between ' ' '/') with
  | nil =>
    obtain ⟨v', rfl⟩ := List.head?_eq_some_iff.1 hv
    rfl
  | cons c after =>
    dsimp only [List.cons_append]
    split <;> rfl

/-- A mark of two characters is found in a text with another one behind it as it is found in the
text, if the other text neither holds the mark nor starts with its last character. -/
theorem cutAt?_append {c d : Char} (hv : cutAt? [c, d] v = none) (hd : v.head? ≠ some d)
    (t : Text) :
    cutAt? [c, d] (t ++ v) = (cutAt? [c, d] t).map fun (x, after) => (x, after ++ v) := by
  induction t with
  | nil => simpa [cutAt?] using hv
  | cons e t ih =>
    have hlead : dropLead? [c, d] (e :: (t ++ v)) = (dropLead? [c, d] (e :: t)).map (· ++ v) := by
      unfold dropLead?
      split_ifs with hc
      · cases t with
        | nil =>
          cases v with
          | nil => rfl
          | cons f v =>
            have hne : d ≠ f := by
              rintro rfl
              exact hd rfl
            simp [dropLead?, hne]
        | cons f t => by_cases hf : d = f <;> simp [dropLead?, hf]
      · rfl
    rw [List.cons_append, cutAt?, hlead, cutAt?]
    cases dropLead? [c, d] (e :: t) with
    | none => simp [ih, Function.comp_def]
    | some rest => rfl

/-- A mark is not found in a text that lacks its first character. -/
theorem cutAt?_eq_none_of_not_mem {c : Char} (ht : c ∉ t) : cutAt? (c :: mark) t = none := by
  induction t with
  | nil => rfl
  | cons d t ih =>
    rw [List.mem_cons, not_or] at ht
    rw [cutAt?, dropLead?, if_neg ht.1, ih ht.2]
    rfl

/-- A style escape holds the escape character once. -/
theorem IsStyleEscape.escapeChar_not_mem (hv : IsStyleEscape v body) :
    escapeChar ∉ '[' :: (body ++ ['m']) := by
  intro hmem
  simp only [List.mem_cons, List.mem_append, List.not_mem_nil, or_false] at hmem
  rcases hmem with h | h | h
  · revert h
    decide
  · have hparameter := hv.parameters _ h
    revert hparameter
    decide
  · revert h
    decide

/-- An operating system command does not end in a style escape. -/
theorem IsStyleEscape.cutAt?_eq_none (hv : IsStyleEscape v body) :
    cutAt? [escapeChar, '\\'] v = none := by
  have hlead : dropLead? [escapeChar, '\\'] v = none := by
    rw [hv.text_eq]
    rfl
  rw [hv.text_eq] at hlead ⊢
  rw [cutAt?, hlead, cutAt?_eq_none_of_not_mem hv.escapeChar_not_mem]
  rfl

/-- An escape does not reach over a style escape behind it. -/
theorem escapeAt?_append (hv : IsStyleEscape v body) (hu : u ≠ []) :
    escapeAt? (u ++ v) = (escapeAt? u).map fun (e, rest) => (e, rest ++ v) := by
  have hhead : v.head? = some escapeChar := by rw [hv.text_eq]; rfl
  match u with
  | [c] =>
    rw [hv.text_eq]
    by_cases hc : c = escapeChar
    · subst hc
      rfl
    · simp [escapeAt?, hc]
  | c :: d :: t =>
    rw [List.cons_append, List.cons_append, escapeAt?, escapeAt?, controlSequence?_append hhead,
      cutAt?_append hv.cutAt?_eq_none (by rw [hhead]; decide)]
    split_ifs
    · rfl
    · rfl
    · simp [Function.comp_def]
    · rfl
    · cases cutAt? [escapeChar, '\\'] t <;> rfl
    · rfl
    · rfl

/-- A style escape is read as such, whatever follows it. -/
theorem escapeAt?_styleEscape (hv : IsStyleEscape v body) (w : Text) :
    escapeAt? (v ++ w) = some (.style body, w) := by
  have hfinal : ∀ (q : Char → Bool), q 'm' = false → ∀ c ∈ ('m' :: w).head?, q c = false := by
    intro q hq
    simpa using hq
  have hsequence : controlSequence? (body ++ 'm' :: w) = some (body, 'm', w) := by
    have hparameters := takeWhile_append_eq hv.parameters (hfinal (between '0' '?') (by decide))
    have hmiddle := takeWhile_append_eq (x := []) (by simp) (hfinal (between ' ' '/') (by decide))
    rw [List.nil_append] at hmiddle
    unfold controlSequence?
    simp only [hparameters.1, hparameters.2, hmiddle.1, hmiddle.2, List.append_nil]
    rfl
  rw [hv.text_eq, List.cons_append, List.cons_append, List.append_assoc, escapeAt?]
  simp only [List.cons_append, List.nil_append, hsequence]
  rfl

/-! ## Tokens -/

/-- Where reading goes on behind an escape and what follows it: the escape of a character set takes
one more character. -/
def behind (e : Escape) (rest : Text) : Text :=
  if e = .charset ∧ (escapeAt? rest).isNone then rest.tail else rest

/-- Reading goes on in what follows the escape. -/
theorem behind_sublist (e : Escape) (rest : Text) : (behind e rest).Sublist rest := by
  unfold behind
  split_ifs
  · exact List.tail_sublist rest
  · exact List.Sublist.refl rest

/-- A character set is not named by a style escape. -/
theorem behind_append (hv : IsStyleEscape v body) (e : Escape) (rest : Text) :
    behind e (rest ++ v) = behind e rest ++ v := by
  unfold behind
  by_cases hrest : rest = []
  · have hsome : escapeAt? v = some (.style body, []) := by
      simpa using escapeAt?_styleEscape hv []
    simp [hrest, hsome]
  · rw [escapeAt?_append hv hrest, Option.isNone_map, List.tail_append_of_ne_nil hrest,
      ← apply_ite (· ++ v)]

/-- Where no escape starts, a character is text. -/
theorem tokens_of_eq_none {c : Char} (h : escapeAt? (c :: t) = none) :
    tokens (c :: t) = Token.cons c (tokens t) := by
  rw [tokens]
  split
  · rfl
  · rename_i h'
    rw [h] at h'
    cases h'

/-- Where an escape starts, it is a token. -/
theorem tokens_of_eq_some {e : Escape} {rest : Text} (h : escapeAt? t = some (e, rest)) :
    tokens t = .escape e :: tokens (behind e rest) := by
  unfold behind
  cases t with
  | nil => cases h
  | cons c t =>
    rw [tokens]
    split
    · rename_i h'
      rw [h] at h'
      cases h'
    · rename_i h'
      rw [h] at h'
      cases h'
      split_ifs <;> rfl

theorem tokens_nil : tokens [] = [] := by
  rw [tokens]

/-- The tokens behind a style escape are those of what follows it. -/
theorem tokens_styleEscape_append (hv : IsStyleEscape v body) (w : Text) :
    tokens (v ++ w) = .escape (.style body) :: tokens w := by
  rw [tokens_of_eq_some (escapeAt?_styleEscape hv w)]
  rfl

/-- The tokens in front of a style escape are those of what comes before it. -/
theorem tokens_append_styleEscape (hv : IsStyleEscape v body) (u : Text) :
    tokens (u ++ v) = tokens u ++ [.escape (.style body)] := by
  have hself : tokens v = [.escape (.style body)] := by
    have := tokens_styleEscape_append hv []
    rwa [List.append_nil, tokens_nil] at this
  induction hn : u.length using Nat.strong_induction_on generalizing u with
  | _ n ih =>
    subst hn
    cases u with
    | nil => rw [List.nil_append, tokens_nil, hself, List.nil_append]
    | cons c u =>
      have hat := escapeAt?_append hv (List.cons_ne_nil c u)
      cases hescape : escapeAt? (c :: u) with
      | none =>
        rw [hescape] at hat
        rw [List.cons_append] at hat ⊢
        rw [tokens_of_eq_none (t := u ++ v) hat, tokens_of_eq_none hescape,
          ih _ (Nat.lt_succ_self _) u rfl]
        cases tokens u with
        | nil => rfl
        | cons token ts => cases token <;> rfl
      | some found =>
        obtain ⟨e, rest⟩ := found
        rw [hescape] at hat
        have hlength := (behind_sublist e rest).length_le.trans_lt (length_of_escapeAt? hescape)
        rw [tokens_of_eq_some hat, tokens_of_eq_some hescape, behind_append hv, ih _ hlength _ rfl]
        rfl

end append

/-! ## What is shown -/

/-- The characters that a token shows. -/
def Token.shown : Token → Text
  | .text t => withoutControls t
  | .escape _ => []

/-- The characters of a line's chunks are those that its tokens show. -/
theorem plain_ofTokens (style : Style) (ts : List Token) :
    (Styled.ofTokens style ts).1.plain = ts.flatMap Token.shown := by
  induction ts generalizing style with
  | nil => rfl
  | cons token ts ih =>
    cases token with
    | text t => simp [Styled.ofTokens, ih, Token.shown]
    | escape e => cases e <;> simp [Styled.ofTokens, ih, Token.shown]

section line

variable {line before after b a : Text}

/-- Without newlines and carriage returns a line is read as its tokens: those that show something,
unless one of them holds a number too long to be read. -/
theorem readPlain_of_not_mem (hnewline : '\n' ∉ line) (hcarriage : '\r' ∉ line) :
    readPlain line =
      match (tokens line).findSome? Styled.longInToken? with
      | some count => .error (.tooManyDigits count)
      | none => .ok ((tokens line).flatMap Token.shown) := by
  have hreturn : Styled.afterReturn line = line := by
    unfold Styled.afterReturn
    rw [List.takeWhile_eq_self_iff.2, List.reverse_reverse]
    intro c hc
    rw [decide_eq_true_eq]
    rintro rfl
    exact hcarriage (List.mem_reverse.1 hc)
  unfold readPlain Styled.read Styled.longNumber? Styled.decode
  rw [splitOn_of_not_mem hnewline, List.findSome?_singleton, hreturn]
  cases (tokens line).findSome? Styled.longInToken? with
  | some count => rfl
  | none =>
    rw [← plain_ofTokens Style.plain]
    simp only [Styled.ofLines, Styled.ofLine, hreturn]
    rfl

/-- A line without line ends is read as its tokens. -/
theorem readPlain_of_not_isLineEnd (hline : ∀ c ∈ line, isLineEnd c = false) :
    readPlain line =
      match (tokens line).findSome? Styled.longInToken? with
      | some count => .error (.tooManyDigits count)
      | none => .ok ((tokens line).flatMap Token.shown) :=
  readPlain_of_not_mem (fun h => absurd (hline _ h) (by decide))
    fun h => absurd (hline _ h) (by decide)

/-- A text that can be read shows what it is read as. -/
theorem plain_decode_of_readPlain {t plain : Text} (h : readPlain t = .ok plain) :
    (Styled.decode t).plain = plain := by
  unfold readPlain Styled.read at h
  split at h
  · cases h
  · exact Except.ok.inj h

/-- A style escape ends no line. -/
theorem IsStyleEscape.not_isLineEnd (h : IsStyleEscape before b) :
    ∀ c ∈ before, isLineEnd c = false := by
  have hends : ∀ c ∈ "\n\x0b\x0c\r\x1c\x1d\x1e\u0085\u2028\u2029".toList,
      c ≠ escapeChar ∧ c ≠ '[' ∧ between '0' '?' c = false ∧ c ≠ 'm' :=
    forall_mem_of_all (by decide)
  intro c hc
  rw [← Bool.not_eq_true]
  intro hend
  exact h.not_mem (hends c (by simpa [isLineEnd, or_assoc] using hend)) hc

/-- **Style escapes around a line do not change what it shows**, nor whether it can be read. -/
theorem readPlain_between (hbefore : IsStyleEscape before b) (hafter : IsStyleEscape after a)
    (hline : ∀ c ∈ line, isLineEnd c = false) :
    readPlain (before ++ (line ++ after)) = readPlain line := by
  have hall : ∀ c ∈ before ++ (line ++ after), isLineEnd c = false := by
    intro c hc
    simp only [List.mem_append] at hc
    rcases hc with hc | hc | hc
    · exact hbefore.not_isLineEnd c hc
    · exact hline c hc
    · exact hafter.not_isLineEnd c hc
  have hlong : ∀ {v body : Text}, IsStyleEscape v body →
      Styled.longInToken? (.escape (.style body)) = none := fun h => h.short
  rw [readPlain_of_not_isLineEnd hall, readPlain_of_not_isLineEnd hline,
    tokens_styleEscape_append hbefore, tokens_append_styleEscape hafter]
  simp [List.findSome?_append, hlong hbefore, hlong hafter, Token.shown]

/-- A line that shows what it holds: no control character that styled text drops, and no escape. -/
def ShowsItself (line : Text) : Prop :=
  (∀ c ∈ line, isStripped c = false) ∧ ∀ t ∈ line.tails, escapeAt? t = none

instance : DecidablePred ShowsItself := fun line =>
  have : Decidable (∀ c ∈ line, isStripped c = false) := List.decidableBAll _ line
  inferInstanceAs (Decidable (_ ∧ _))

theorem showsItself_cons_iff {c : Char} {t : Text} :
    ShowsItself (c :: t) ↔ isStripped c = false ∧ escapeAt? (c :: t) = none ∧ ShowsItself t := by
  simp only [ShowsItself, List.forall_mem_cons, List.tails_cons]
  tauto

/-- What the tokens of a text show, a character at a time. -/
theorem shown_cons (c : Char) (ts : List Token) :
    (Token.cons c ts).flatMap Token.shown =
      withoutControls [c] ++ ts.flatMap Token.shown := by
  cases ts with
  | nil => simp [Token.cons, Token.shown]
  | cons token ts =>
    cases token with
    | text t => simp [Token.cons, Token.shown, withoutControls, List.filter_cons]; split <;> simp
    | escape e => simp [Token.cons, Token.shown]

/-- A line shows no more characters than it holds. -/
theorem length_shown_le (line : Text) :
    ((tokens line).flatMap Token.shown).length ≤ line.length := by
  induction hn : line.length using Nat.strong_induction_on generalizing line with
  | _ n ih =>
    subst hn
    cases line with
    | nil => simp [tokens_nil]
    | cons c t =>
      cases hescape : escapeAt? (c :: t) with
      | none =>
        have hkept : (withoutControls [c]).length ≤ 1 := List.length_filter_le _ [c]
        have ht := ih _ (Nat.lt_succ_self _) t rfl
        rw [tokens_of_eq_none hescape, shown_cons, List.length_append, List.length_cons]
        omega
      | some found =>
        obtain ⟨e, rest⟩ := found
        have hlength := (behind_sublist e rest).length_le.trans_lt (length_of_escapeAt? hescape)
        rw [tokens_of_eq_some hescape, List.flatMap_cons]
        exact (ih _ hlength _ rfl).trans hlength.le

/-- A line is what its tokens show exactly if it holds nothing that is not shown. -/
theorem shown_eq_self_iff : (tokens line).flatMap Token.shown = line ↔ ShowsItself line := by
  induction line with
  | nil => simp [tokens_nil, ShowsItself, escapeAt?]
  | cons c t ih =>
    rw [showsItself_cons_iff]
    cases hescape : escapeAt? (c :: t) with
    | none =>
      rw [tokens_of_eq_none hescape, shown_cons]
      cases hstripped : isStripped c with
      | false => simp [withoutControls, hstripped, ih]
      | true =>
        simp only [withoutControls, hstripped, List.filter_cons, Bool.not_true, Bool.false_eq_true,
          if_false, List.filter_nil, List.nil_append, reduceCtorEq, false_and, iff_false]
        intro h
        have hlength := length_shown_le t
        rw [h, List.length_cons] at hlength
        omega
    | some found =>
      obtain ⟨e, rest⟩ := found
      simp only [reduceCtorEq, false_and, and_false, iff_false]
      rw [tokens_of_eq_some hescape, List.flatMap_cons]
      intro h
      have hlength := (length_shown_le (behind e rest)).trans (behind_sublist e rest).length_le
      have hrest := length_of_escapeAt? hescape
      rw [Token.shown, List.nil_append] at h
      rw [h] at hlength
      omega

/-- A character in front of tokens brings in no number. -/
theorem findSome?_longInToken?_cons (c : Char) (ts : List Token) :
    (Token.cons c ts).findSome? Styled.longInToken? = ts.findSome? Styled.longInToken? := by
  cases ts with
  | nil => rfl
  | cons token ts => cases token <;> rfl

/-- A line that shows itself has no escapes, and so no numbers in them. -/
theorem ShowsItself.findSome?_eq_none (h : ShowsItself line) :
    (tokens line).findSome? Styled.longInToken? = none := by
  induction line with
  | nil => rw [tokens_nil]; rfl
  | cons c t ih =>
    obtain ⟨-, hescape, ht⟩ := showsItself_cons_iff.1 h
    rw [tokens_of_eq_none hescape, findSome?_longInToken?_cons, ih ht]

/-- **A line is read as itself exactly if it shows itself.** -/
theorem readPlain_eq_self_iff (hline : ∀ c ∈ line, isLineEnd c = false) :
    readPlain line = .ok line ↔ ShowsItself line := by
  rw [readPlain_of_not_isLineEnd hline]
  constructor
  · intro h
    split at h
    · cases h
    · exact shown_eq_self_iff.1 (Except.ok.inj h)
  · intro h
    rw [h.findSome?_eq_none]
    exact congrArg Except.ok (shown_eq_self_iff.2 h)

end line

end Collate.Terminal
