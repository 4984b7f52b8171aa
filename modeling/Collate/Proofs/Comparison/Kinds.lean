import Collate.Compare

/-!
# Asking for a kind of code

A comparison can be told the kind of its codes by dispatch, by a keyword and by its options.
Dispatching on a kind other than plain text sets the kind: the options are used as if they had been
updated to it, a keyword may repeat the kind, and one that asks for another kind is refused
(`Compare.dispatch_eq`).

Plain text is dispatched to the comparison for any kind. That is the same as long as nothing else
asks for a kind; where the options or a keyword do, the codes are compared as of that kind
(`Compare.dispatch_text_other`).
-/

namespace Collate

open Collate.Highlight Collate.Journal Collate.Options

/-- Only a text is the same as a text. -/
theorem Setting.same_text_iff {v : Setting} {s : String} :
    v.same (.text s) = true ↔ v = .text s := by
  cases v <;> simp [same, amount?]

namespace Options

/-! ## Fields that are replaced -/

namespace Fields

variable {fs given given' : Fields} {name : String} {value : Setting}

/-- Fields with one value replaced. -/
def replace (fs : Fields) (name : String) (value : Setting) : Fields :=
  fs.map fun f => if f.1 = name then (name, value) else f

/-- Whether all values are given for fields that there are. -/
def covers (fs given : Fields) : Bool := given.all fun g => fs.any fun f => f.1 == g.1

/-- Replacing a value keeps the names. -/
theorem covers_replace : (fs.replace name value).covers given = fs.covers given := by
  unfold covers replace
  congr 1
  funext g
  rw [List.any_map]
  congr 1
  funext f
  show ((if f.1 = name then (name, value) else f).1 == g.1) = (f.1 == g.1)
  split
  · rename_i h
    rw [h]
  · rfl

/-- A value given for a field comes to the same as one that the field was replaced with before the
others are given, as long as these say the same about the field or nothing. -/
theorem override_replace (hcovers : fs.covers given' = fs.covers given)
    (hothers : ∀ n, n ≠ name → given'.lookup n = given.lookup n)
    (hgiven' : given'.lookup name = some value)
    (hgiven : given.lookup name = none ∨ given.lookup name = some value) :
    (fs.replace name value).override given = fs.override given' := by
  show (if (fs.replace name value).covers given then _ else _) =
    if fs.covers given' then _ else _
  rw [covers_replace, hcovers]
  congr 2
  unfold replace
  rw [List.map_map]
  apply List.map_congr_left
  intro f _
  show ((if f.1 = name then (name, value) else f).1,
    (given.lookup (if f.1 = name then (name, value) else f).1).getD
      (if f.1 = name then (name, value) else f).2) = (f.1, (given'.lookup f.1).getD f.2)
  by_cases hf : f.1 = name
  · rw [if_pos hf, hf, hgiven']
    rcases hgiven with h | h
    · rw [h]
      rfl
    · rw [h]
      rfl
  · rw [if_neg hf, hothers f.1 hf]

/-- The value of a field that the others say nothing about can be given first. -/
theorem override_cons (hname : (fs.any fun f => f.1 == name) = true)
    (hgiven : given.lookup name = none) :
    (fs.replace name value).override given = fs.override ((name, value) :: given) := by
  apply override_replace
  · show ((fs.any fun f => f.1 == name) && fs.covers given) = fs.covers given
    rw [hname, Bool.true_and]
  · intro n hn
    rw [List.lookup_cons, beq_false_of_ne hn]
  · rw [List.lookup_cons, beq_self_eq_true]
  · exact .inl hgiven

/-- The value of a field that is given anyway can be given first. -/
theorem override_of_lookup (hgiven : given.lookup name = some value) :
    (fs.replace name value).override given = fs.override given :=
  override_replace rfl (fun _ _ => rfl) hgiven (.inr hgiven)

/-- Nothing given changes nothing. -/
@[simp] theorem override_nil (fs : Fields) : fs.override [] = .ok fs := by
  show Except.ok (fs.map fun f => f) = .ok fs
  rw [List.map_id']

end Fields

/-! ## Options of a kind -/

namespace ComparisonOptions

/-- The options with another kind of code. -/
def withKind (o : ComparisonOptions) (kind : CodeType) : ComparisonOptions :=
  { o with codeType := kind }

/-- The fields of options with another kind of code. -/
theorem fields_withKind (o : ComparisonOptions) (kind : CodeType) :
    (o.withKind kind).fields = o.fields.replace "code_type" (.text kind.name) := by
  simp [withKind, fields, Fields.replace]

/-- Asking for a kind is asking of the options with that kind, if the other values do not ask for
one. -/
theorem update_cons_kind (o : ComparisonOptions) (kind : CodeType) {given : Fields}
    (hgiven : given.lookup "code_type" = none) :
    o.update (("code_type", .text kind.name) :: given) = (o.withKind kind).update given := by
  unfold update
  rw [fields_withKind, Fields.override_cons (by simp [fields]) hgiven]

/-- Nor does it matter which kind the options have if the values ask for one. -/
theorem update_of_lookup_kind (o : ComparisonOptions) (kind : CodeType) {given : Fields}
    (hgiven : given.lookup "code_type" = some (.text kind.name)) :
    o.update given = (o.withKind kind).update given := by
  unfold update
  rw [fields_withKind, Fields.override_of_lookup hgiven]

/-- Options can be updated to any kind. -/
theorem update_kind (o : ComparisonOptions) (kind : CodeType) :
    o.update [("code_type", .text kind.name)] = .ok (o.withKind kind) := by
  rw [update_cons_kind o kind rfl]
  unfold update
  rw [Fields.override_nil]
  exact ofFields_fields (o.withKind kind)

/-- The options that are used where none are given. -/
def standard : ComparisonOptions :=
  ⟨.text, .bool true, .bool true, .null, .bool true, defaultTolerance,
    .text Metric.levenshtein.name, .null, .null, checkTolerance_sevenTenths⟩

end ComparisonOptions

end Options

namespace Compare

variable {o : Option ComparisonOptions} {h : Option Highlighter} {given : Fields} {kind : CodeType}
  {code1 code2 : Text}

/-- Options that are not given are the standard ones. -/
theorem optionsOf_eq (o : Option ComparisonOptions) (given : Fields) :
    optionsOf o given = (o.getD .standard).update given := by
  cases o with
  | none => rfl
  | some o => rfl

/-- Options with the same values compare in the same way. -/
theorem withOptions_congr {o' : Option ComparisonOptions} {given' : Fields}
    (ho : optionsOf o given = optionsOf o' given') :
    withOptions o h given code1 code2 = withOptions o' h given' code1 code2 := by
  unfold withOptions
  rw [ho]

/-! ## Dispatch -/

/-- Plain text is dispatched to the comparison for any kind. -/
theorem dispatch_text :
    dispatch (.text CodeType.text.name) o h given code1 code2 =
      withOptions o h given code1 code2 := rfl

/-- Any other kind is dispatched to the comparison for it. -/
theorem dispatch_of_ne_text (hkind : kind ≠ .text) :
    dispatch (.text kind.name) o h given code1 code2 = ofKind kind o h given code1 code2 := by
  cases kind with
  | text => exact absurd rfl hkind
  | native | llvm | typed | ast => rfl

/-- The comparison for a kind sets the kind where the values do not ask for one. -/
theorem ofKind_of_lookup_none (hgiven : given.lookup "code_type" = none) :
    ofKind kind o h given code1 code2 =
      withOptions (some ((o.getD .standard).withKind kind)) h given code1 code2 := by
  unfold ofKind
  rw [hgiven]
  apply withOptions_congr
  rw [optionsOf_eq, ComparisonOptions.update_cons_kind _ kind hgiven]
  rfl

/-- The comparison for a kind takes a value that asks for it. -/
theorem ofKind_of_lookup_self (hgiven : given.lookup "code_type" = some (.text kind.name)) :
    ofKind kind o h given code1 code2 = withOptions o h given code1 code2 := by
  unfold ofKind
  rw [hgiven]
  show (if (Setting.text kind.name).same (.text kind.name) then _ else _) = _
  rw [if_pos (Setting.same_text_iff.2 rfl)]

/-- The comparison for a kind refuses a value that asks for another one. -/
theorem ofKind_of_lookup_other {requested : Setting}
    (hgiven : given.lookup "code_type" = some requested) (hother : requested ≠ .text kind.name) :
    ofKind kind o h given code1 code2 =
      Noted.lift (.error (.conflictingCodeType requested kind)) := by
  have hsame : requested.same (.text kind.name) ≠ true := by
    rw [Ne, Setting.same_text_iff]
    exact hother
  unfold ofKind
  rw [hgiven]
  show (if requested.same (.text kind.name) then _ else _) = _
  rw [if_neg hsame]

/-- Whether nothing asks for a kind of code besides dispatch: neither the values, unless they repeat
it, nor the options, where dispatch leaves the kind to them. -/
def AsksOnlyFor (kind : CodeType) (o : Option ComparisonOptions) (given : Fields) : Prop :=
  given.lookup "code_type" = some (.text kind.name) ∨
    given.lookup "code_type" = none ∧ (kind = .text → (o.getD .standard).codeType = .text)

/-- Where nothing asks for another kind, dispatch sets the kind in the options. -/
theorem dispatch_of_asksOnlyFor (hasks : AsksOnlyFor kind o given) :
    dispatch (.text kind.name) o h given code1 code2 =
      withOptions (some ((o.getD .standard).withKind kind)) h given code1 code2 := by
  have hself : given.lookup "code_type" = some (.text kind.name) →
      withOptions o h given code1 code2 =
        withOptions (some ((o.getD .standard).withKind kind)) h given code1 code2 := by
    intro hgiven
    apply withOptions_congr
    rw [optionsOf_eq, ComparisonOptions.update_of_lookup_kind _ kind hgiven]
    rfl
  by_cases hkind : kind = .text
  · subst hkind
    rw [dispatch_text]
    rcases hasks with hgiven | ⟨-, htext⟩
    · exact hself hgiven
    · apply withOptions_congr
      have hkind := htext rfl
      rw [optionsOf_eq]
      show _ = ((o.getD .standard).withKind .text).update given
      unfold ComparisonOptions.withKind
      rw [← hkind]
  · rw [dispatch_of_ne_text hkind]
    rcases hasks with hgiven | ⟨hgiven, -⟩
    · rw [ofKind_of_lookup_self hgiven, hself hgiven]
    · exact ofKind_of_lookup_none hgiven

/-- **Dispatch agrees with the options of the kind.** Options can be updated to any kind, those that
are not given included. Dispatching on a kind is comparing with the updated options, whatever the
codes, the highlighter and the other values, as long as nothing asks for another kind. On a kind
other than plain text nothing can but a value, and one that does is refused by the name of the
field. On plain text the comparison is that for any kind, and takes the kind from the values or else
from the options. -/
theorem dispatch_eq (kind : CodeType) (o : Option ComparisonOptions) (h : Option Highlighter)
    (given : Fields) (code1 code2 : Text) :
    (∃ o', optionsOf o [("code_type", .text kind.name)] = .ok o' ∧ o'.codeType = kind ∧
      (AsksOnlyFor kind o given →
        dispatch (.text kind.name) o h given code1 code2 =
          withOptions (some o') h given code1 code2)) ∧
    (kind ≠ .text →
      (AsksOnlyFor kind o given ∨
        ∃ requested, given.lookup "code_type" = some requested ∧ requested ≠ .text kind.name) ∧
      ∀ requested, given.lookup "code_type" = some requested → requested ≠ .text kind.name →
        ∃ f, (dispatch (.text kind.name) o h given code1 code2).result = .error f ∧
          f.category? = some .validation ∧ f.parameter? = some ("code_type", requested)) ∧
    (kind = .text →
      dispatch (.text kind.name) o h given code1 code2 = withOptions o h given code1 code2) := by
  refine ⟨⟨(o.getD .standard).withKind kind, ?_, rfl, dispatch_of_asksOnlyFor⟩, ?_, ?_⟩
  · rw [optionsOf_eq]
    exact ComparisonOptions.update_kind _ kind
  · intro hkind
    constructor
    · cases hgiven : given.lookup "code_type" with
      | none => exact .inl (.inr ⟨hgiven, fun htext => absurd htext hkind⟩)
      | some requested =>
        by_cases hself : requested = .text kind.name
        · exact .inl (.inl (hself ▸ hgiven))
        · exact .inr ⟨requested, rfl, hself⟩
    · intro requested hgiven hother
      rw [dispatch_of_ne_text hkind, ofKind_of_lookup_other hgiven hother]
      exact ⟨_, rfl, rfl, rfl⟩
  · rintro rfl
    exact dispatch_text

/-- Dispatch on LLVM code with options for native code: a value that repeats the kind is taken, and
one that asks for plain text is refused. -/
theorem dispatch_eq_llvm :
    let native : ComparisonOptions := ⟨.native, .bool false, .bool true, .null, .bool true, .int 0,
      .text Metric.levenshtein.name, .null, .null, rfl⟩
    let code1 : Text := "call julia_f_1".toList
    let code2 : Text := "call julia_f_2".toList
    let llvm : Setting := .text CodeType.llvm.name
    (∃ o', native.update [("code_type", llvm)] = .ok o' ∧ o'.codeType = .llvm ∧
      dispatch llvm (some native) none [("code_type", llvm)] code1 code2 =
        withOptions (some o') none [("code_type", llvm)] code1 code2) ∧
    ∃ f, (dispatch llvm (some native) none [("code_type", .text "text")] code1 code2).result =
        .error f ∧ f.category? = some .validation ∧
      f.parameter? = some ("code_type", .text "text") := by
  intro native code1 code2 llvm
  obtain ⟨⟨o', ho', hkind, hagree⟩, -, -⟩ :=
    dispatch_eq .llvm (some native) none [("code_type", llvm)] code1 code2
  obtain ⟨-, hother, -⟩ :=
    dispatch_eq .llvm (some native) none [("code_type", .text "text")] code1 code2
  refine ⟨⟨o', ho', hkind, hagree (.inl rfl)⟩, ?_⟩
  exact (hother nofun).2 (.text "text") rfl (by simp [CodeType.name])

/-- Dispatch on plain text with options for native code: the codes are compared as native code,
whose names lose their counters, and as plain text they differ. Nor is a value refused that asks for
native code. -/
theorem dispatch_text_other :
    let native : ComparisonOptions := ⟨.native, .bool false, .bool true, .null, .bool true, .int 0,
      .text Metric.levenshtein.name, .null, .null, rfl⟩
    let code1 : Text := "call julia_f_1".toList
    let code2 : Text := "call julia_f_2".toList
    let text : Setting := .text CodeType.text.name
    let given : Fields := [("code_type", .text CodeType.native.name), ("color", .bool false)]
    (∃ d, (dispatch text (some native) none [] code1 code2).result = .ok d ∧
      d.entries = [.unchanged 0 0]) ∧
    (∃ d, (dispatch text none none given code1 code2).result = .ok d ∧
      d.entries = [.unchanged 0 0]) ∧
    ∃ o' d, native.update [("code_type", text)] = .ok o' ∧
      (withOptions (some o') none [] code1 code2).result = .ok d ∧ d.entries = [.changed 0 0] := by
  intro native code1 code2 text given
  have hoptions : (dispatch text (some native) none [] code1 code2).result.toOption.map
      Diff.entries = some [.unchanged 0 0] := by decide +kernel
  have hvalue : (dispatch text none none given code1 code2).result.toOption.map
      Diff.entries = some [.unchanged 0 0] := by decide +kernel
  have htext : (withOptions (some (native.withKind .text)) none [] code1 code2).result.toOption.map
      Diff.entries = some [.changed 0 0] := by decide +kernel
  obtain ⟨d, hd, hde⟩ := toOption_map_eq_some_iff.1 htext
  refine ⟨toOption_map_eq_some_iff.1 hoptions, toOption_map_eq_some_iff.1 hvalue,
    native.withKind .text, d, ?_, hd, hde⟩
  exact ComparisonOptions.update_kind native .text

end Compare

end Collate
