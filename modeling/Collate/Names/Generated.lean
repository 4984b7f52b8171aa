import Collate.Failure
import Collate.Text.Blank
import Collate.Text.Word

/-!
# Generated names

A compiler gives every compilation of a function a fresh name: a lead, an underscore, the function's
name, an underscore and a counter. Such a name starts where no word character or point stands before
it, and ends where no word character follows. The function's name may hold anything but blanks and a
few separators, underscores and digits included; the longest one is taken, and of several leads the
one listed first that leads to a generated name.
-/

namespace Collate.Names

open Collate.Text

/-- Separators besides blanks that no function name holds: quotes, semicolon, comma, hyphen,
parentheses and the at sign. -/
def isSeparatorMark (c : Char) : Bool :=
  c == '"' || c == '\'' || c == ';' || c == ',' || c == '-' || c == '(' || c == ')' || c == '@'

/-- Characters that no function name holds. -/
def isSeparator (c : Char) : Bool := isSeparatorMark c || isBlank c

/-- The leads that the code generator uses. -/
def defaultLeads : List Text :=
  ["julia", "japi1", "japi3", "jfptr", "jlcapi", "tojlinvoke"].map String.toList

/-- What to look for: the leads, and the one function whose names count, if not all do. -/
structure Pattern where
  /-- The leads, in order of preference. -/
  leads : List Text := defaultLeads
  /-- The function whose names count. -/
  function : Option Text := none

/-- The rest of a generated name after its lead and underscore, and what follows it. -/
structure Tail where
  /-- The function's name. -/
  name : Text
  /-- The digits of the counter. -/
  counter : Text
  /-- The text after the generated name. -/
  rest : Text
  deriving DecidableEq, Repr

/-- A counter at the start of a text: digits, as many as there are, that no word character follows.
Answers the digits and what follows. -/
def counterAt? (t : Text) : Option (Text × Text) :=
  let digits := t.takeWhile isDigit
  let rest := t.dropWhile isDigit
  if digits = [] || rest.head?.any isWord then none else some (digits, rest)

/-- The underscore and the counter that end a generated name. -/
def endingAt? : Text → Option (Text × Text)
  | '_' :: t => counterAt? t
  | _ => none

/-- The tail of a generated name of any function, with the longest name that can be had. -/
def openTail? : Text → Option Tail
  | [] => none
  | c :: t =>
    if isSeparator c then none
    else
      match openTail? t with
      | some tail => some { tail with name := c :: tail.name }
      | none => (endingAt? t).map fun (counter, rest) => ⟨[c], counter, rest⟩

/-- The tail of a generated name of one function. -/
def fixedTail? (name t : Text) : Option Tail :=
  (dropLead? name t).bind fun t => (endingAt? t).map fun (counter, rest) => ⟨name, counter, rest⟩

/-- The tail of a generated name that the pattern looks for. -/
def Pattern.tail? (p : Pattern) (t : Text) : Option Tail :=
  match p.function with
  | none => openTail? t
  | some name => fixedTail? name t

/-- The tail of a generated name after one of the given leads. -/
def Pattern.afterLead? (p : Pattern) (t : Text) : List Text → Option Tail
  | [] => none
  | lead :: leads =>
    match (dropLead? lead t).bind fun
      | '_' :: t => p.tail? t
      | _ => none with
    | some tail => some tail
    | none => p.afterLead? t leads

/-- Whether a generated name may start after a character. -/
def mayFollow (before : Option Char) : Bool := !before.any fun c => isWord c || c == '.'

/-- The generated name at the start of a text, of which `before` is the character in front. -/
def Pattern.nameAt? (p : Pattern) (before : Option Char) (t : Text) : Option Tail :=
  if mayFollow before then p.afterLead? t p.leads else none

/-! ## A name uses up text -/

/-- A counter and what follows it make up the text. -/
theorem append_of_counterAt? {t counter rest : Text} (h : counterAt? t = some (counter, rest)) :
    t = counter ++ rest ∧ counter ≠ [] := by
  simp only [counterAt?] at h
  split at h
  · simp at h
  · rename_i hn
    simp only [Option.some.injEq, Prod.mk.injEq] at h
    obtain ⟨rfl, rfl⟩ := h
    refine ⟨(List.takeWhile_append_dropWhile).symm, ?_⟩
    intro he
    simp [he] at hn

/-- An underscore, the counter and what follows make up the text. -/
theorem append_of_endingAt? {t counter rest : Text} (h : endingAt? t = some (counter, rest)) :
    t = '_' :: counter ++ rest ∧ counter ≠ [] := by
  unfold endingAt? at h
  split at h
  · obtain ⟨rfl, hc⟩ := append_of_counterAt? h
    exact ⟨rfl, hc⟩
  · simp at h

/-- The parts of a tail make up the text. -/
theorem append_of_openTail? {t : Text} {tail : Tail} (h : openTail? t = some tail) :
    t = tail.name ++ '_' :: tail.counter ++ tail.rest ∧ tail.name ≠ [] ∧ tail.counter ≠ [] := by
  induction t generalizing tail with
  | nil => simp [openTail?] at h
  | cons c t ih =>
    simp only [openTail?] at h
    split at h
    · simp at h
    · split at h
      · rename_i tail' ht
        cases h
        obtain ⟨h1, _, h3⟩ := ih ht
        exact ⟨by rw [h1]; simp, by simp, h3⟩
      · simp only [Option.map_eq_some_iff] at h
        obtain ⟨⟨counter, rest⟩, he, rfl⟩ := h
        obtain ⟨h1, h2⟩ := append_of_endingAt? he
        exact ⟨by rw [h1]; simp, by simp, h2⟩

/-- The parts of a tail make up the text, whatever the pattern looks for. -/
theorem append_of_tail? {p : Pattern} {t : Text} {tail : Tail} (h : p.tail? t = some tail) :
    t = tail.name ++ '_' :: tail.counter ++ tail.rest ∧ tail.counter ≠ [] := by
  unfold Pattern.tail? at h
  split at h
  · obtain ⟨h1, _, h3⟩ := append_of_openTail? h
    exact ⟨h1, h3⟩
  · simp only [fixedTail?, Option.bind_eq_some_iff, Option.map_eq_some_iff] at h
    obtain ⟨u, hu, ⟨counter, rest⟩, he, rfl⟩ := h
    obtain ⟨h1, h2⟩ := append_of_endingAt? he
    refine ⟨?_, h2⟩
    rw [dropLead?_eq_some_iff.1 hu, h1]
    simp

/-- A generated name is a lead and an underscore with its tail. -/
theorem append_of_afterLead? {p : Pattern} {t : Text} {leads : List Text} {tail : Tail}
    (h : p.afterLead? t leads = some tail) :
    ∃ lead ∈ leads, t = lead ++ '_' :: (tail.name ++ '_' :: tail.counter ++ tail.rest) ∧
      tail.counter ≠ [] := by
  induction leads with
  | nil => simp [Pattern.afterLead?] at h
  | cons lead leads ih =>
    simp only [Pattern.afterLead?] at h
    split at h
    · rename_i tail' ht
      cases h
      simp only [Option.bind_eq_some_iff] at ht
      obtain ⟨u, hu, ht⟩ := ht
      split at ht
      · obtain ⟨h1, h2⟩ := append_of_tail? ht
        exact ⟨lead, by simp, by rw [dropLead?_eq_some_iff.1 hu, h1], h2⟩
      · simp at ht
    · obtain ⟨l, hl, hrest⟩ := ih h
      exact ⟨l, by simp [hl], hrest⟩

/-- A generated name is at least three characters longer than the function's name. -/
theorem length_of_nameAt? {p : Pattern} {before : Option Char} {t : Text} {tail : Tail}
    (h : p.nameAt? before t = some tail) :
    tail.name.length + tail.rest.length + 3 ≤ t.length := by
  unfold Pattern.nameAt? at h
  split at h
  · obtain ⟨lead, _, ht, hc⟩ := append_of_afterLead? h
    have := List.length_pos_iff.2 hc
    rw [ht]
    simp only [List.length_append, List.length_cons]
    omega
  · simp at h

/-! ## Finding names -/

/-- A generated name in a text: where it starts and ends, and its parts. -/
structure Occurrence where
  /-- The index of its first character. -/
  first : Nat
  /-- The index after its last character. -/
  last : Nat
  /-- The function's name. -/
  name : Text
  /-- The digits of the counter. -/
  counter : Text
  deriving DecidableEq, Repr

/-- The generated names in the rest of a text from index `index` on, from left to right without
overlap. -/
def Pattern.occurrencesFrom (p : Pattern) (index : Nat) (before : Option Char) :
    Text → List Occurrence
  | [] => []
  | c :: t =>
    match h : p.nameAt? before (c :: t) with
    | some tail =>
      have := length_of_nameAt? h
      let last := index + ((c :: t).length - tail.rest.length)
      ⟨index, last, tail.name, tail.counter⟩ ::
        p.occurrencesFrom last tail.counter.getLast? tail.rest
    | none => p.occurrencesFrom (index + 1) (some c) t
  termination_by t => t.length
  decreasing_by all_goals (simp only [List.length_cons] at *; omega)

/-- The generated names in a text. -/
def Pattern.occurrences (p : Pattern) (t : Text) : List Occurrence := p.occurrencesFrom 0 none t

/-! ## Shortening names -/

/-- One pass over the rest of a text: every generated name becomes the function's name. Answers the
text and the number of names. -/
def Pattern.passFrom (p : Pattern) (before : Option Char) : Text → Text × Nat
  | [] => ([], 0)
  | c :: t =>
    match h : p.nameAt? before (c :: t) with
    | some tail =>
      have := length_of_nameAt? h
      let (rest, count) := p.passFrom tail.counter.getLast? tail.rest
      (tail.name ++ rest, count + 1)
    | none =>
      let (rest, count) := p.passFrom (some c) t
      (c :: rest, count)
  termination_by t => t.length
  decreasing_by all_goals (simp only [List.length_cons] at *; omega)

/-- One pass over a text. -/
def Pattern.pass (p : Pattern) (t : Text) : Text × Nat := p.passFrom none t

/-- A pass takes at least three characters away for every name. -/
theorem length_passFrom (p : Pattern) (before : Option Char) (t : Text) :
    (p.passFrom before t).1.length + 3 * (p.passFrom before t).2 ≤ t.length := by
  fun_induction Pattern.passFrom p before t with
  | case1 => simp
  | case2 before c t tail h _ rest count hr ih =>
    rw [hr] at ih
    have := length_of_nameAt? h
    simp only [List.length_append] at *
    omega
  | case3 before c t h rest count hr ih =>
    rw [hr] at ih
    simp only [List.length_cons] at *
    omega

/-- Passes over a text until none finds a name any more. Answers the text and the number of names
shortened. -/
def Pattern.shortenCounting (p : Pattern) (t : Text) : Text × Nat :=
  match h : p.pass t with
  | (u, 0) => (u, 0)
  | (u, n + 1) =>
    have : u.length + 3 * (n + 1) ≤ t.length := by
      have := length_passFrom p none t
      rwa [show p.passFrom none t = (u, n + 1) from h] at this
    let (result, count) := p.shortenCounting u
    (result, count + (n + 1))
  termination_by t.length
  decreasing_by omega

/-- A text with every generated name shortened to the function's name, as often as that brings
forth new ones. -/
def Pattern.shorten (p : Pattern) (t : Text) : Text := (p.shortenCounting t).1

/-! ## Patterns from settings -/

/-- The pattern for the given leads and function. There has to be a lead, and the function has to
have a name that a generated name can hold. -/
def Pattern.make (leads : List Text) (function : Setting) : Except Failure Pattern :=
  if leads = [] then .error .noLeads
  else
    match function with
    | .null => .ok ⟨leads, none⟩
    | .text name =>
      if name = "" || name.toList.any isSeparator then .error (.badFunctionName function)
      else .ok ⟨leads, some name.toList⟩
    | value =>
      if value.holds then .error (.misuse .wrongKind) else .error (.badFunctionName value)

end Collate.Names
