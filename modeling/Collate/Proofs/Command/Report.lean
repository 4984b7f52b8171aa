import Collate.Proofs.Command.Messages
import Collate.Proofs.Comparison.Faithful

/-!
# When no differences are reported

The command says that it found no differences exactly when the prepared lines of the two codes are
the same. The comparison finds no changes exactly then
(`Compare.hasChanges_eq_false_iff_of_codes`), and everything that a run writes to standard error is
accounted for, so the report stands there once or not at all (`reports_iff_equal`).
-/

namespace Collate.Command

open Collate.Compare Collate.Display Collate.Highlight Collate.Journal Collate.Options

/-- How a request is answered once the log is set up: the session that it is answered in, the stream
of its display, and the file that the display goes to, if it does not go to standard output. A file
is emptied first. -/
inductive Opened (s : Session) (r : Request) : Session → Stream → Option Text → Prop
  /-- The display goes to standard output. -/
  | output (h : r.wishes.output = none ∨ r.wishes.output = some []) : Opened s r s .standard none
  /-- The display goes to a file whose name can be written to. -/
  | file {name : Text} {steps : List Text} (h : r.wishes.output = some name) (hname : name ≠ [])
    (hsteps : s.files.forWriting name = .ok steps) :
    Opened s r { s with files := s.files.put steps [] } .buffer (some name)

section run

variable {w : Surroundings} {s s' s₀ : Session} {r : Request} {stream : Stream}
  {file : Option Text}

/-- Opening leaves the log and standard error as they are. -/
theorem Opened.unheard (h : Opened s r s₀ stream file) :
    s₀.log = s.log ∧ s₀.errors = s.errors := by
  cases h with
  | output _ => exact ⟨rfl, rfl⟩
  | file _ _ _ => exact ⟨rfl, rfl⟩

/-- A run says after its answer what there is to say at the end. -/
theorem Opened.says_runToTarget (w : Surroundings) (h : Opened s r s₀ stream file) :
    (answer w s₀ stream r).1.Says
      (closing (answer w s₀ stream r).1.log file (answer w s₀ stream r).2)
      (runToTarget w s r).session := by
  unfold runToTarget
  cases h with
  | output h =>
    have hsays := says_runToOutput w s r
    rcases h with h | h
    · rw [h]
      exact hsays
    · rw [h]
      exact hsays
  | @file name steps h hname hsteps =>
    have hsays := says_runToFile w s r hsteps
    rw [h]
    cases name with
    | nil => exact absurd rfl hname
    | cons c t => exact hsays

/-- A run that is set up and reads standard input at most once ends. -/
theorem carryOut_eq_ok (w : Surroundings) (hs : setUp s r = .ok s')
    (hinput : ¬ (r.left = .value standardInput ∧ r.right = .value standardInput)) :
    carryOut w s r = .ok (runToTarget w s' r) := by
  unfold carryOut
  rw [hs]
  exact if_neg hinput

/-- The diff of a request is the comparison of the two codes that its operands stand for. -/
theorem of_compared_eq_ok {files : Storage.Files} {coloured : Bool} {d : Diff}
    (h : (compared w files coloured r).result = .ok d) :
    ∃ o code1 code2, r.wishes.comparison coloured = .ok o ∧
      readOperand w files r.left = .ok code1 ∧ readOperand w files r.right = .ok code2 ∧
      (codes o none code1 code2).result = .ok d := by
  unfold compared at h
  simp only [Noted.result_bind, Noted.result_lift, bind_eq_ok_iff] at h
  obtain ⟨o, ho, code1, hcode1, code2, hcode2, hd⟩ := h
  exact ⟨o, code1, code2, ho, hcode1, hcode2, hd⟩

/-- A report on changes is a report on the prepared lines. -/
theorem report_eq {o : ComparisonOptions} {h : Option Highlighter} {code1 code2 : Text} {d : Diff}
    (hd : (codes o h code1 code2).result = .ok d) :
    (if d.hasChanges then [] else noDifferences.toList) =
      if d.left.lines = d.right.lines then noDifferences.toList else [] := by
  have hiff := hasChanges_eq_false_iff_of_codes hd
  by_cases hequal : d.left.lines = d.right.lines
  · rw [if_pos hequal, hiff.2 hequal]
    rfl
  · have hchanges : d.hasChanges = true := by
      rw [← Bool.not_eq_false]
      exact mt hiff.1 hequal
    rw [if_neg hequal, if_pos hchanges]

end run

/-- **No differences are reported exactly for equal lines.** A comparison finds no changes exactly
when the prepared lines of both codes are equal, whatever its options and its highlighter. A run of
the command that compares two codes says so, once, exactly then: what it writes to standard error is
what the log gives to the console for the comparison, the report if the prepared lines are equal,
what the log gives for the display, and the end of the run. Where the comparison fails, the report
is left out. -/
theorem reports_iff_equal :
    (∀ (o : ComparisonOptions) (h : Option Highlighter) (code1 code2 : Text) (d : Diff),
      (codes o h code1 code2).result = .ok d →
      ∃ left right, preparedLines o code1 = .ok left ∧ preparedLines o code2 = .ok right ∧
        (d.hasChanges = false ↔ left = right)) ∧
    ∀ (w : Surroundings) (s s' s₀ : Session) (r : Request) (stream : Stream) (file : Option Text),
      setUp s r = .ok s' →
      ¬ (r.left = .value standardInput ∧ r.right = .value standardInput) →
      Opened s' r s₀ stream file →
      let coloured := isColoured w stream r
      let comparison := compared w s₀.files coloured r
      ∃ out, carryOut w s r = .ok out ∧
        (∀ f, comparison.result = .error f →
          out.session.errors = s'.errors ++ consoleText s'.log comparison.notes ++
            closing s'.log file (.error f)) ∧
        ∀ d, comparison.result = .ok d →
          ∃ o left right, r.wishes.comparison coloured = .ok o ∧
            (readOperand w s₀.files r.left >>= preparedLines o) = .ok left ∧
            (readOperand w s₀.files r.right >>= preparedLines o) = .ok right ∧
            let display := shown w.environment stream coloured r.wishes d
            out.session.errors = s'.errors ++ consoleText s'.log comparison.notes ++
              (if left = right then noDifferences.toList else []) ++
              consoleText s'.log display.notes ++ closing s'.log file display.result := by
  refine ⟨?_, ?_⟩
  · intro o h code1 code2 d hd
    obtain ⟨hleft, hright⟩ := preparedLines_of_codes hd
    exact ⟨d.left.lines, d.right.lines, hleft, hright, hasChanges_eq_false_iff_of_codes hd⟩
  · intro w s s' s₀ r stream file hs hinput hopen coloured comparison
    have hend := hopen.says_runToTarget w
    obtain ⟨hlog, herrors⟩ := hopen.unheard
    refine ⟨runToTarget w s' r, carryOut_eq_ok w hs hinput, ?_, ?_⟩
    · intro f hf
      obtain ⟨hsaid, hresult⟩ := says_answer_of_error w s₀ stream r hf
      rw [hend.errors_eq, hsaid.errors_eq, hsaid.log_eq, hresult, hlog, herrors]
    · intro d hd
      obtain ⟨hsaid, hresult⟩ := says_answer_of_ok w s₀ stream r hd
      obtain ⟨o, code1, code2, ho, hcode1, hcode2, hcodes⟩ := of_compared_eq_ok hd
      obtain ⟨hleft, hright⟩ := preparedLines_of_codes hcodes
      refine ⟨o, d.left.lines, d.right.lines, ho, ?_, ?_, ?_⟩
      · rw [hcode1]
        exact hleft
      · rw [hcode2]
        exact hright
      · rw [hend.errors_eq, hsaid.errors_eq, hsaid.log_eq, hresult, hlog, herrors,
          report_eq hcodes]
        simp only [List.append_assoc]
        rfl

/-- Two functions called in native code are a change. One function compiled twice is none: on
standard input and in a file behind a byte order mark its name has other counters and other line
ends behind it, and the report is written. -/
theorem reports_iff_equal_input_and_file :
    let o : ComparisonOptions := ⟨.native, .bool false, .bool true, .null, .bool true, .int 0,
      .text Metric.levenshtein.name, .null, .null, rfl⟩
    let w : Surroundings :=
      { environment := { bindings := [] }, input := Text.Utf8.encode "call julia_f_1\r\n".toList }
    let s : Session :=
      { files := ⟨[], [([['a']], .file (Text.Utf8.encode "\ufeffcall julia_f_23\n".toList))]⟩ }
    let r : Request :=
      { left := .value standardInput, right := .value ['a'], wishes := { kind := .value .native } }
    (∃ d, (codes o none "call julia_f_1".toList "call julia_g_1".toList).result = .ok d ∧
      d.hasChanges = true) ∧
    ∃ out before after, carryOut w s r = .ok out ∧
      out.session.errors = before ++ noDifferences.toList ++ after := by
  intro o w s r
  obtain ⟨hchanges, hreport⟩ := reports_iff_equal
  constructor
  · have hsome : (codes o none "call julia_f_1".toList
        "call julia_g_1".toList).result.toOption.isSome = true := by decide +kernel
    obtain ⟨d, hd⟩ := isSome_toOption_iff.1 hsome
    obtain ⟨left, right, hleft, hright, hiff⟩ := hchanges o none _ _ d hd
    have hf : (preparedLines o "call julia_f_1".toList).toOption = some ["call f".toList] := by
      decide +kernel
    have hg : (preparedLines o "call julia_g_1".toList).toOption = some ["call g".toList] := by
      decide +kernel
    cases hleft.symm.trans (toOption_eq_some_iff.1 hf)
    cases hright.symm.trans (toOption_eq_some_iff.1 hg)
    exact ⟨d, hd, by simpa using mt hiff.1 (by decide)⟩
  · obtain ⟨s', hs⟩ : ∃ s', setUp s r = .ok s' := ⟨_, rfl⟩
    have honce : ¬ (r.left = .value standardInput ∧ r.right = .value standardInput) := by decide
    obtain ⟨out, hout, -, hcompared⟩ :=
      hreport w s s' s' r .standard none hs honce (.output (.inl rfl))
    cases hs
    have hsome :
        (compared w s.files (isColoured w .standard r) r).result.toOption.isSome = true := by
      decide +kernel
    obtain ⟨d, hd⟩ := isSome_toOption_iff.1 hsome
    obtain ⟨o', left, right, ho, hleft, hright, herrors⟩ := hcompared d hd
    change r.wishes.comparison (isColoured w .standard r) = .ok o' at ho
    -- the options are those that the request comes to, so both codes are prepared with them
    have hprepared : ∀ operand ∈ [r.left, r.right],
        (r.wishes.comparison (isColoured w .standard r) >>= fun o =>
          readOperand w s.files operand >>= preparedLines o).toOption = some ["call f".toList] := by
      decide +kernel
    have hlines : ∀ operand ∈ [r.left, r.right],
        (readOperand w s.files operand >>= preparedLines o') = .ok ["call f".toList] := by
      intro operand hoperand
      have h := toOption_eq_some_iff.1 (hprepared operand hoperand)
      rwa [ho] at h
    have hequal : left = right := by
      cases hleft.symm.trans (hlines r.left (by simp))
      cases hright.symm.trans (hlines r.right (by simp))
      rfl
    rw [if_pos hequal] at herrors
    exact ⟨out, _, _, hout, herrors.trans (List.append_assoc _ _ _)⟩

end Collate.Command
