import Collate.Text.Basic

/-!
# Escape sequences

How a line with escape sequences falls into tokens. Three forms are escapes: the escape character
with one of the characters from `0` to `?`; an operating system command, up to its terminator; and a
single letter or a control sequence. An escape character that starts none of them is text.

Main statement: a token uses up at least one character (`length_of_escapeAt?`), so a line has no
more tokens than characters.
-/

namespace Collate.Terminal

/-- The escape character. -/
def escapeChar : Char := '\x1b'

/-- A character between two others. -/
def between (low high c : Char) : Bool := low ≤ c && c ≤ high

/-- What an escape sequence does to text after it. -/
inductive Escape
  /-- Styles the text, by parameters not yet read. -/
  | style (parameters : Text)
  /-- Selects a character set; the next character names it. -/
  | charset
  /-- Nothing that shows. -/
  | other
  deriving DecidableEq, Repr

/-- A control sequence after its bracket: parameters, intermediate characters and a final one.
Answers what stands before the final character, the final character, and what follows. -/
def controlSequence? (t : Text) : Option (Text × Char × Text) :=
  let parameters := t.takeWhile (between '0' '?')
  let rest := t.dropWhile (between '0' '?')
  let middle := rest.takeWhile (between ' ' '/')
  match rest.dropWhile (between ' ' '/') with
  | [] => none
  | c :: after => if between '@' '~' c then some (parameters ++ middle, c, after) else none

/-- The single characters that make an escape by themselves. -/
def isEscapeLetter (c : Char) : Bool := between '@' 'Z' c || between '\\' '_' c

/-- The escape sequence at the start of a text, and what follows it. -/
def escapeAt? : Text → Option (Escape × Text)
  | c :: d :: t =>
    if c ≠ escapeChar then none
    else if between '0' '?' d then some (.other, t)
    else if d = '[' then
      (controlSequence? t).map fun (body, final, after) =>
        (if final = 'm' then .style body else .other, after)
    else if d = '(' then some (.charset, t)
    else if isEscapeLetter d then
      match if d = ']' then Text.cutAt? [escapeChar, '\\'] t else none with
      | some (_, after) => some (.other, after)
      | none => some (.other, t)
    else none
  | _ => none

/-- What stands after the mark is shorter. -/
theorem length_of_cutAt? {mark t before after : Text}
    (h : Text.cutAt? mark t = some (before, after)) : after.length ≤ t.length := by
  induction t generalizing before after with
  | nil =>
    simp only [Text.cutAt?] at h
    split at h <;> simp_all
  | cons c t ih =>
    simp only [Text.cutAt?] at h
    split at h
    · rename_i rest hr
      have := Text.dropLead?_eq_some_iff.1 hr
      simp only [Option.some.injEq, Prod.mk.injEq] at h
      have hl := congrArg List.length this
      simp only [List.length_append] at hl
      rw [← h.2]
      omega
    · simp only [Option.map_eq_some_iff] at h
      obtain ⟨⟨b, a⟩, hb, heq⟩ := h
      simp only [Prod.mk.injEq] at heq
      have := ih hb
      simp only [List.length_cons]
      rw [← heq.2]
      omega

/-- What follows an escape sequence is shorter than the text that it starts. -/
theorem length_of_escapeAt? {t rest : Text} {e : Escape} (h : escapeAt? t = some (e, rest)) :
    rest.length < t.length := by
  match t with
  | [] => simp [escapeAt?] at h
  | [_] => simp [escapeAt?] at h
  | c :: d :: t =>
    simp only [escapeAt?] at h
    split at h
    · simp at h
    split at h
    · cases h; simp only [List.length_cons]; omega
    split at h
    · simp only [Option.map_eq_some_iff] at h
      obtain ⟨⟨body, final, after⟩, hc, heq⟩ := h
      simp only [Prod.mk.injEq] at heq
      rw [← heq.2]
      simp only [controlSequence?] at hc
      split at hc
      · simp at hc
      · rename_i d' after' hd
        split at hc
        · cases hc
          have h1 := (List.dropWhile_sublist (between '0' '?') (l := t)).length_le
          have h2 := (List.dropWhile_sublist (between ' ' '/')
            (l := t.dropWhile (between '0' '?'))).length_le
          rw [hd] at h2
          simp only [List.length_cons] at h2 ⊢
          omega
        · simp at hc
    split at h
    · cases h; simp only [List.length_cons]; omega
    split at h
    · split at h
      · rename_i after hc
        cases h
        split at hc
        · have := length_of_cutAt? hc
          simp only [List.length_cons]
          omega
        · simp at hc
      · cases h; simp only [List.length_cons]; omega
    · simp at h

/-- A token of a line: a stretch of text or an escape. -/
inductive Token
  /-- Text that shows. -/
  | text (t : Text)
  /-- An escape. -/
  | escape (e : Escape)
  deriving DecidableEq, Repr

/-- Puts a character in front of tokens. -/
def Token.cons (c : Char) : List Token → List Token
  | .text t :: rest => .text (c :: t) :: rest
  | rest => .text [c] :: rest

/-- The tokens of a line. The character that names a character set belongs to its escape, unless it
starts an escape of its own. -/
def tokens : Text → List Token
  | [] => []
  | c :: t =>
    match h : escapeAt? (c :: t) with
    | none => Token.cons c (tokens t)
    | some (e, rest) =>
      have := length_of_escapeAt? h
      if e = .charset ∧ (escapeAt? rest).isNone then .escape e :: tokens rest.tail
      else .escape e :: tokens rest
  termination_by t => t.length
  decreasing_by all_goals simp_all; try omega

end Collate.Terminal
