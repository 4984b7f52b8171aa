import Collate.Proofs.Comparison.Faithful
import Collate.Proofs.Names.Separators
import Collate.Proofs.Text.Utf8
import Collate.Storage.Code

/-!
# Comparing codes that are stored in files

A code comes back from its file with newlines for all its carriage returns and without the byte
order mark that it may start with (`Storage.readCode_of_read`). Neither touches the lines that are
compared. Shortening goes line by line, and which of the newline, the carriage return and the pair
of both ends a line is forgotten when the code is split (`preparedLines_unifyNewlines`). A
comparison drops a mark itself, so it is of no account who drops the only one.

What is left is a second mark. Reading a file drops the first and the comparison the second, where a
comparison of the texts drops one. The mark that it keeps is the first character of the first line
(`preparedLines_ne_of_twoMarks`), so then no diff of the files is one of the texts
(`Storage.compareFiles_eq`).
-/

namespace Collate

open Collate.Highlight Collate.Journal Collate.Options

namespace Text

/-- Whether a text starts with two byte order marks. -/
def StartsWithTwoMarks (t : Text) : Prop := [byteOrderMark, byteOrderMark] <+: t

instance (t : Text) : Decidable t.StartsWithTwoMarks :=
  inferInstanceAs (Decidable (_ <+: _))

/-- Unless it starts with two, a text has no mark left to drop after one has been dropped. -/
theorem dropMark_dropMark {t : Text} (h : ¬ t.StartsWithTwoMarks) :
    dropMark (dropMark t) = dropMark t := by
  apply dropMark_of_head?
  intro hhead
  obtain ⟨u, hu⟩ := List.head?_eq_some_iff.1 hhead
  apply h
  by_cases hmark : t.head? = some byteOrderMark
  · obtain ⟨v, rfl⟩ := List.head?_eq_some_iff.1 hmark
    rw [dropMark, if_pos rfl] at hu
    rw [hu]
    exact List.prefix_append [byteOrderMark, byteOrderMark] u
  · rw [dropMark_of_head? hmark] at hu
    rw [hu] at hmark
    exact absurd rfl hmark

/-- A further character at the start of the first line makes other lines. -/
theorem splitLines_cons_ne {c : Char} (h : isLineEnd c = false) (t : Text) :
    splitLines (c :: t) ≠ splitLines t := by
  intro heq
  rw [splitLines_cons h] at heq
  have hfirst := congrArg (List.headD · []) heq
  exact List.cons_ne_self _ _ hfirst

end Text

namespace Compare

variable {o : ComparisonOptions} {code code1 code2 : Text}

/-- The prepared lines of a code are its lines without the mark, each shortened by itself where
generated names lose their counters. -/
theorem preparedLines_eq (o : ComparisonOptions) (code : Text) :
    preparedLines o code =
      if o.normalize.holds && o.codeType.hasGeneratedNames then
        (Names.Pattern.make Names.defaultLeads o.functionName).map fun p =>
          (Text.splitLines (Text.dropMark code)).map p.shorten
      else .ok (Text.splitLines (Text.dropMark code)) := by
  unfold preparedLines prepared
  split
  · cases hmake : Names.Pattern.make Names.defaultLeads o.functionName with
    | error f => rfl
    | ok p => exact congrArg Except.ok ((Names.plain_of_make hmake).splitLines_shorten _)
  · rfl

/-- **Newlines for carriage returns leave the prepared lines as they are.** -/
theorem preparedLines_unifyNewlines (o : ComparisonOptions) (code : Text) :
    preparedLines o (Text.unifyNewlines code) = preparedLines o code := by
  rw [preparedLines_eq, preparedLines_eq, Text.dropMark_unifyNewlines,
    Text.splitLines_unifyNewlines]

/-- Unless a code starts with two marks, it does not matter to the prepared lines whether one has
been dropped. -/
theorem preparedLines_dropMark (h : ¬ code.StartsWithTwoMarks) :
    preparedLines o (Text.dropMark code) = preparedLines o code := by
  rw [preparedLines_eq, preparedLines_eq, Text.dropMark_dropMark h]

/-- A mark that stays is no part of a generated name, and none starts differently behind it. -/
theorem prepared_twoMarks (o : ComparisonOptions) (t : Text) :
    prepared o (Text.byteOrderMark :: Text.byteOrderMark :: t) =
      (prepared o (Text.byteOrderMark :: t)).map (Text.byteOrderMark :: ·) := by
  have hword : Text.isWord Text.byteOrderMark = false := by decide +kernel
  have hfollow : Names.mayFollow (some Text.byteOrderMark) = true := by decide +kernel
  unfold prepared
  rw [Text.dropMark_byteOrderMark_cons, Text.dropMark_byteOrderMark_cons]
  split
  · cases hmake : Names.Pattern.make Names.defaultLeads o.functionName with
    | error f => rfl
    | ok p =>
      have hp := Names.plain_of_make hmake
      exact congrArg Except.ok (Names.Pattern.shorten_cons_of_not_isWord hp hword hfollow t)
  · rfl

/-- With a second mark it does, since that mark stays in the first line. -/
theorem preparedLines_ne_of_twoMarks (h : code.StartsWithTwoMarks) {lines : List Text}
    (hlines : preparedLines o code = .ok lines) :
    preparedLines o (Text.dropMark code) ≠ .ok lines := by
  obtain ⟨t, rfl⟩ := h
  have hmark : Text.isLineEnd Text.byteOrderMark = false := by decide
  intro hlines'
  rw [List.cons_append, List.singleton_append] at hlines hlines'
  rw [Text.dropMark_byteOrderMark_cons] at hlines'
  unfold preparedLines at hlines hlines'
  rw [prepared_twoMarks] at hlines
  cases hprepared : prepared o (Text.byteOrderMark :: t) with
  | error f =>
    rw [hprepared] at hlines
    cases hlines
  | ok u =>
    rw [hprepared] at hlines hlines'
    apply Text.splitLines_cons_ne hmark u
    exact (Except.ok.inj hlines).trans (Except.ok.inj hlines').symm

/-- Without its notes a comparison with options is one with the options that come out of them. -/
theorem result_withOptions (o : Option ComparisonOptions) (h : Option Highlighter) (given : Fields)
    (code1 code2 : Text) :
    (withOptions o h given code1 code2).result =
      (optionsOf o given >>= fun o' => (codes o' h code1 code2).result) := by
  rw [withOptions, Noted.result_bind, Noted.result_lift]

/-- Codes that have the same prepared lines with any options compare in the same way. -/
theorem result_withOptions_of_lines {code1' code2' : Text}
    (h1 : ∀ o, preparedLines o code1 = preparedLines o code1')
    (h2 : ∀ o, preparedLines o code2 = preparedLines o code2') (o : Option ComparisonOptions)
    (h : Option Highlighter) (given : Fields) :
    (withOptions o h given code1 code2).result = (withOptions o h given code1' code2').result := by
  rw [result_withOptions, result_withOptions]
  congr 1
  funext o'
  exact result_codes_of_lines (h1 o') (h2 o')

end Compare

namespace Storage

variable {fs : Files} {name1 name2 code1 code2 : Text}

/-- A code comes back from its file without a mark and with newlines for carriage returns. -/
theorem readCode_of_read {name code : Text}
    (h : fs.read (Path.ofText name) = .ok (Text.Utf8.encode code)) :
    readCode fs name = .ok (Text.unifyNewlines (Text.dropMark code)) := by
  unfold readCode codeOfBytes
  simp only [h, Text.Utf8.dropMarkBytes_encode, Text.Utf8.decode_encode]
  rfl

/-- Where both files hold a code, comparing them is comparing the codes without a mark. -/
theorem result_compareFiles (o : Option ComparisonOptions) (h : Option Highlighter) (given : Fields)
    (h1 : fs.read (Path.ofText name1) = .ok (Text.Utf8.encode code1))
    (h2 : fs.read (Path.ofText name2) = .ok (Text.Utf8.encode code2)) :
    (compareFiles fs o h given name1 name2).result =
      (Compare.withOptions o h given (Text.dropMark code1) (Text.dropMark code2)).result := by
  unfold compareFiles
  rw [readCode_of_read h1, readCode_of_read h2, Noted.result_bind, Noted.result_lift]
  show (Noted.lift _ >>= _ : Noted Diff).result = _
  rw [Noted.result_bind, Noted.result_lift]
  apply Compare.result_withOptions_of_lines
  · exact fun o' => Compare.preparedLines_unifyNewlines o' _
  · exact fun o' => Compare.preparedLines_unifyNewlines o' _

/-- **Comparing two files is comparing the codes in them without a byte order mark.** Whatever the
options, and whatever ends the lines of the codes: the answer, a diff or a failure, is that for the
codes from which one mark at the start has been dropped. So it is that for the codes themselves,
unless one of them starts with two marks. Then no diff of the files is a diff of the codes. -/
theorem compareFiles_eq (o : Option ComparisonOptions) (h : Option Highlighter) (given : Fields)
    (h1 : fs.read (Path.ofText name1) = .ok (Text.Utf8.encode code1))
    (h2 : fs.read (Path.ofText name2) = .ok (Text.Utf8.encode code2)) :
    (compareFiles fs o h given name1 name2).result =
      (Compare.withOptions o h given (Text.dropMark code1) (Text.dropMark code2)).result ∧
    (¬ code1.StartsWithTwoMarks → ¬ code2.StartsWithTwoMarks →
      (compareFiles fs o h given name1 name2).result =
        (Compare.withOptions o h given code1 code2).result) ∧
    (code1.StartsWithTwoMarks ∨ code2.StartsWithTwoMarks →
      ∀ d, (compareFiles fs o h given name1 name2).result = .ok d →
        (Compare.withOptions o h given code1 code2).result ≠ .ok d) := by
  have hfiles := result_compareFiles o h given h1 h2
  refine ⟨hfiles, ?_, ?_⟩
  · intro hone1 hone2
    rw [hfiles]
    apply Compare.result_withOptions_of_lines
    · exact fun o' => Compare.preparedLines_dropMark hone1
    · exact fun o' => Compare.preparedLines_dropMark hone2
  · intro htwo d hd hd'
    rw [hfiles] at hd
    rw [Compare.result_withOptions, bind_eq_ok_iff] at hd hd'
    obtain ⟨o', ho, hd⟩ := hd
    obtain ⟨o'', ho', hd'⟩ := hd'
    obtain rfl := Except.ok.inj (ho.symm.trans ho')
    -- both diffs hold the prepared lines of their codes
    obtain ⟨hleft, hright⟩ := Compare.preparedLines_of_codes hd
    obtain ⟨hleft', hright'⟩ := Compare.preparedLines_of_codes hd'
    rcases htwo with htwo | htwo
    · exact Compare.preparedLines_ne_of_twoMarks htwo hleft' hleft
    · exact Compare.preparedLines_ne_of_twoMarks htwo hright' hright

/-- Files whose codes have a mark, every kind of line end and a recompiled name. -/
theorem compareFiles_eq_lineEnds :
    let code1 : Text := "\ufeffcall julia_f_1\r\n\rret\u2028".toList
    let code2 : Text := "call julia_f_2\n\nret".toList
    let fs : Files := ⟨[],
      [(["a".toList], .file (Text.Utf8.encode code1)),
        (["b".toList], .file (Text.Utf8.encode code2))]⟩
    let given : Fields := [("code_type", .text "native"), ("color", .bool false)]
    fs.read (Path.ofText "a".toList) = .ok (Text.Utf8.encode code1) ∧
      fs.read (Path.ofText "./b".toList) = .ok (Text.Utf8.encode code2) ∧
      ∃ d, (compareFiles fs none none given "a".toList "./b".toList).result = .ok d ∧
        (Compare.withOptions none none given code1 code2).result = .ok d ∧
        d.entries = [.unchanged 0 0, .unchanged 1 1, .unchanged 2 2] := by
  intro code1 code2 fs given
  have h1 : fs.read (Path.ofText "a".toList) = .ok (Text.Utf8.encode code1) :=
    toOption_eq_some_iff.1 (by decide +kernel)
  have h2 : fs.read (Path.ofText "./b".toList) = .ok (Text.Utf8.encode code2) :=
    toOption_eq_some_iff.1 (by decide +kernel)
  have hentries :
      (Compare.withOptions none none given code1 code2).result.toOption.map Diff.entries =
        some [.unchanged 0 0, .unchanged 1 1, .unchanged 2 2] := by decide +kernel
  obtain ⟨d, hd, hde⟩ := toOption_map_eq_some_iff.1 hentries
  obtain ⟨-, hsame, -⟩ := compareFiles_eq none none given h1 h2
  have hfiles := hsame (by decide +kernel) (by decide +kernel)
  exact ⟨h1, h2, d, hfiles.trans hd, hd, hde⟩

/-- Codes with two marks and with one: the files compare as equal, the codes do not. -/
theorem compareFiles_twoMarks :
    let code1 : Text := "\ufeff\ufeffx".toList
    let code2 : Text := "\ufeffx".toList
    let fs : Files := ⟨[],
      [(["a".toList], .file (Text.Utf8.encode code1)),
        (["b".toList], .file (Text.Utf8.encode code2))]⟩
    let given : Fields := [("color", .bool false)]
    fs.read (Path.ofText "a".toList) = .ok (Text.Utf8.encode code1) ∧
      fs.read (Path.ofText "b".toList) = .ok (Text.Utf8.encode code2) ∧
      (∃ d, (compareFiles fs none none given "a".toList "b".toList).result = .ok d ∧
        d.entries = [.unchanged 0 0]) ∧
      ∃ d, (Compare.withOptions none none given code1 code2).result = .ok d ∧
        d.entries = [.removed 0, .added 0] := by
  intro code1 code2 fs given
  have hfiles : (compareFiles fs none none given "a".toList "b".toList).result.toOption.map
      Diff.entries = some [.unchanged 0 0] := by decide +kernel
  have hcodes : (Compare.withOptions none none given code1 code2).result.toOption.map
      Diff.entries = some [.removed 0, .added 0] := by decide +kernel
  refine ⟨?_, ?_, toOption_map_eq_some_iff.1 hfiles, toOption_map_eq_some_iff.1 hcodes⟩
  · exact toOption_eq_some_iff.1 (by decide +kernel)
  · exact toOption_eq_some_iff.1 (by decide +kernel)

end Storage

end Collate
