import Collate.Proofs.Command.Report
import Collate.Proofs.Display.Rows
import Collate.Proofs.Storage.Files

/-!
# What a run does to files

A run writes to two files at most: the one that the display goes to and that of the log. Everything
else that it does leaves files alone (`Session.OnlyLogs`).

The file for the display is emptied before the codes are read. So what a run leaves there is the
display of the codes as they are read with the file empty, or nothing where the comparison fails. A
code in another file is read as it was before the run, and one in the file itself is empty
(`WritesFile`). `run_over_operand` shows both losses: the display of a code that the run itself has
emptied, and a file that is lost to a run that fails.
-/

namespace Collate.Command

open Collate.Display Collate.Journal Collate.Storage

/-! ## Sessions that write to the log only -/

namespace Session

/-- A session that comes from another one with nothing written but the log. -/
structure OnlyLogs (s s' : Session) : Prop where
  /-- The settings of the log are the same. -/
  log_eq : s'.log = s.log
  /-- No other file has changed. -/
  lookup_eq : ∀ file, s.log.file ≠ some file →
    s'.files.entries.lookup file = s.files.entries.lookup file

section onlyLogs

variable {s s' s'' : Session}

theorem onlyLogs_refl (s : Session) : s.OnlyLogs s := ⟨rfl, fun _ _ => rfl⟩

/-- One after the other. -/
theorem OnlyLogs.trans (h : s.OnlyLogs s') (h' : s'.OnlyLogs s'') : s.OnlyLogs s'' := by
  refine ⟨h'.log_eq.trans h.log_eq, fun file hfile => ?_⟩
  rw [h'.lookup_eq file (by rwa [h.log_eq]), h.lookup_eq file hfile]

theorem onlyLogs_complain (s : Session) (message : String) : s.OnlyLogs (s.complain message) :=
  ⟨rfl, fun _ _ => rfl⟩

/-- A record is written to the log file, if it is written to one at all. -/
theorem files_record (s : Session) (r : Record) :
    (s.record r).files = s.files ∨
      ∃ steps t, s.log.file = some steps ∧
        (s.record r).files = s.files.append steps (Text.Utf8.encode t) := by
  show (s.logToFile (s.log.lines r).2).files = s.files ∨ ∃ steps t, _ ∧
    (s.logToFile (s.log.lines r).2).files = _
  unfold logToFile
  split
  · rename_i steps hsteps
    split
    · exact .inl rfl
    · exact .inr ⟨steps, _, hsteps, rfl⟩
  · exact .inl rfl

theorem onlyLogs_record (s : Session) (r : Record) : s.OnlyLogs (s.record r) := by
  refine ⟨(s.says_record r).log_eq, fun file hfile => ?_⟩
  rcases s.files_record r with heq | ⟨steps, t, hsteps, heq⟩
  · rw [heq]
  · rw [heq]
    exact Files.lookup_put_of_ne _ _ fun h => hfile (h ▸ hsteps)

theorem onlyLogs_keep (s : Session) (notes : List Note) : s.OnlyLogs (s.keep notes) := by
  induction notes generalizing s with
  | nil => exact s.onlyLogs_refl
  | cons n notes ih => exact (s.onlyLogs_record n.record).trans (ih _)

end onlyLogs

end Session

/-- An answer writes nothing but the log. -/
theorem onlyLogs_answer (w : Surroundings) (s : Session) (stream : Stream) (r : Request) :
    s.OnlyLogs (answer w s stream r).1 := by
  unfold answer
  have hnotes := s.onlyLogs_keep (compared w s.files (isColoured w stream r) r).notes
  dsimp only
  split
  · exact hnotes
  · split
    · exact hnotes.trans (Session.onlyLogs_keep _ _)
    · exact (hnotes.trans (Session.onlyLogs_complain _ _)).trans (Session.onlyLogs_keep _ _)

/-- Nor does giving up, which is never a success. -/
theorem onlyLogs_giveUpFile (s : Session) (name : Text) (f : Failure) :
    (giveUpFile s name f).status ≠ .success ∧ s.OnlyLogs (giveUpFile s name f).session := by
  have hgiveUp : ∀ f : Failure,
      (giveUp s f).status ≠ .success ∧ s.OnlyLogs (giveUp s f).session := by
    intro f
    refine ⟨?_, (s.onlyLogs_record _).trans (Session.onlyLogs_complain _ _)⟩
    have hcategory : ∀ c : Category, c.status ≠ .success := by
      intro c
      cases c <;> decide
    show f.status ≠ .success
    unfold Failure.status
    cases f.category? with
    | none => exact Status.noConfusion
    | some c => exact hcategory c
  cases f with
  | blocked o t => exact ⟨Status.noConfusion, s.onlyLogs_complain _⟩
  | _ => exact hgiveUp _

/-- A record leaves the files as they are, or is written to the log file. -/
theorem differsAt_recordAtLevel {s : Session} {fs : Files} {steps : List Text} (level : Int)
    (message : String) (hfile : s.log.file = some steps) (h : Files.DiffersAt steps fs s.files) :
    Files.DiffersAt steps fs (s.recordAtLevel level message).files := by
  rcases s.files_record ⟨Source.package.name, level, message⟩ with heq | ⟨steps', t, hsteps', heq⟩
  · exact heq ▸ h
  · rw [hfile] at hsteps'
    cases hsteps'
    exact heq ▸ h.put _

/-- Setting up a log opens its file, if it has one. -/
theorem files_of_setUp {s s' : Session} {r : Request} (h : setUp s r = .ok s') :
    s'.log.file = none ∧ s'.files = s.files ∨
      ∃ steps, s'.log.file = some steps ∧ Files.DiffersAt steps s.files s'.files := by
  have hlog : ∀ (s : Session) level message, (s.recordAtLevel level message).log = s.log :=
    fun s _ _ => (s.says_record _).log_eq
  unfold setUp Session.configure at h
  dsimp only at h
  split at h
  · cases h
    exact .inl ⟨rfl, rfl⟩
  · cases h
    exact .inl ⟨rfl, rfl⟩
  · unfold Session.openLog at h
    dsimp only at h
    split at h
    · rename_i steps hsteps
      cases h
      refine .inr ⟨steps, congrArg Log.file (hlog _ _ _), ?_⟩
      exact differsAt_recordAtLevel _ _ rfl
        ((Files.differsAt_refl (Files.writable_of_forWriting hsteps)).put _)
    · split at h
      · cases h
        refine .inl ⟨congrArg Log.file (hlog _ _ _), ?_⟩
        rcases Session.files_record _ _ with heq | ⟨steps, t, hsteps, heq⟩
        · exact heq
        · cases hsteps
      · cases h

/-! ## Codes and files -/

/-- The file that an operand is read from, if it is read from one. -/
def operandFile? (fs : Files) : Operand → Option (List Text)
  | .nothing => none
  | .value name => if name = standardInput then none else fs.leadsTo? (Path.ofText name)

/-- The rows that are written to a file for a request when the codes are read from given files. -/
def displayed (w : Surroundings) (fs : Files) (r : Request) : Except Failure (List Text) :=
  let coloured := isColoured w .buffer r
  (compared w fs coloured r).result >>= fun d =>
    (shown w.environment .buffer coloured r.wishes d).result

section operands

variable {w : Surroundings} {fs fs' : Files} {r : Request}

/-- What is answered for a file are the rows for the files of the session. -/
theorem snd_answer (w : Surroundings) (s : Session) (r : Request) :
    (answer w s .buffer r).2 = displayed w s.files r := by
  unfold answer displayed
  dsimp only
  cases (compared w s.files (isColoured w .buffer r) r).result <;> rfl

/-- An operand is read as before if its code is, where it names one. -/
theorem readOperand_congr {o : Operand}
    (h : ∀ name, o = .value name → name ≠ standardInput → readCode fs' name = readCode fs name) :
    readOperand w fs' o = readOperand w fs o := by
  cases o with
  | nothing => rfl
  | value name =>
    rw [readOperand, readOperand]
    by_cases hinput : name = standardInput
    · rw [if_pos hinput, if_pos hinput]
    · rw [if_neg hinput, if_neg hinput, h name rfl hinput]

/-- The display depends on the codes that are read. -/
theorem displayed_congr (hleft : readOperand w fs' r.left = readOperand w fs r.left)
    (hright : readOperand w fs' r.right = readOperand w fs r.right) :
    displayed w fs' r = displayed w fs r := by
  unfold displayed compared
  rw [hleft, hright]

end operands

/-! ## Runs to a file -/

/-- How a run that writes its display to a file ends. The log has been set up with the session `s'`,
and it is not written to the same file. -/
structure WritesFile (w : Surroundings) (s s' : Session) (r : Request) (steps : List Text)
    (out : Outcome) : Prop where
  /-- A display is in the file afterwards. It is that of the codes with the file empty. -/
  success : ∀ rows, displayed w (s'.files.put steps []) r = .ok rows → out.status = .success ∧
    out.session.files.entries.lookup steps = some (.file (Text.Utf8.encode rows.flatten))
  /-- Without a display the file is empty. -/
  failure : ∀ f, displayed w (s'.files.put steps []) r = .error f → out.status ≠ .success ∧
    out.session.files.entries.lookup steps = some (.file [])
  /-- A code from neither file is read as it was before the run. -/
  elsewhere : ∀ o, (∀ file, operandFile? s.files o = some file →
      file ≠ steps ∧ s'.log.file ≠ some file) →
    readOperand w (s'.files.put steps []) o = readOperand w s.files o
  /-- A code from the file is empty. -/
  itself : ∀ o, operandFile? s.files o = some steps → ∀ code, readOperand w s.files o = .ok code →
    readOperand w (s'.files.put steps []) o = .ok []
  /-- If neither code is from one of the two files, the display is that of the codes as they were
  before the run. -/
  unshared : (∀ o ∈ [r.left, r.right], ∀ file, operandFile? s.files o = some file →
      file ≠ steps ∧ s'.log.file ≠ some file) →
    displayed w (s'.files.put steps []) r = displayed w s.files r

section run

variable {w : Surroundings} {s s' : Session} {r : Request} {name : Text} {steps : List Text}

/-- Setting up the log changes no file but that of the log. -/
theorem lookup_of_setUp (hs : setUp s r = .ok s') {file : List Text}
    (hfile : s'.log.file ≠ some file) :
    s'.files.entries.lookup file = s.files.entries.lookup file := by
  rcases files_of_setUp hs with ⟨-, heq⟩ | ⟨steps, hsteps, hdiffers⟩
  · rw [heq]
  · exact hdiffers.lookup_eq file fun heq => hfile (heq ▸ hsteps)

/-- It leaves paths and codes from elsewhere as they are. -/
theorem read_of_setUp (hs : setUp s r = .ok s') :
    (∀ p, s'.files.leadsTo? p = s.files.leadsTo? p) ∧
    ∀ name, (∀ file, s.files.leadsTo? (Path.ofText name) = some file → s'.log.file ≠ some file) →
      readCode s'.files name = readCode s.files name := by
  rcases files_of_setUp hs with ⟨-, heq⟩ | ⟨steps, hsteps, hdiffers⟩
  · rw [heq]
    exact ⟨fun _ => rfl, fun _ _ => rfl⟩
  · exact ⟨hdiffers.leadsTo?_eq, fun name hname =>
      hdiffers.readCode_eq name fun heq => hname steps heq hsteps⟩

/-- A file that holds nothing has no bytes. -/
theorem bytesAt_eq_nil {fs : Files} (h : fs.entries.lookup steps = some (.file [])) :
    fs.bytesAt steps = [] := by
  unfold Files.bytesAt Files.node?
  rw [h]
  split <;> rename_i hnode
  · split at hnode
    · cases hnode
    · cases hnode
      rfl
  · rfl

/-- A run to a file that can be opened empties it, answers, and writes the rows over the start of
the file or gives up. -/
theorem runToFile_cases (w : Surroundings) (r : Request)
    (hsteps : s.files.forWriting name = .ok steps) :
    ∃ s₁, ({ s with files := s.files.put steps [] } : Session).OnlyLogs s₁ ∧
      ((∃ rows, displayed w (s.files.put steps []) r = .ok rows ∧
        runToFile w s name r = ⟨.success, { s₁ with
          files := s₁.files.overwrite steps (Text.Utf8.encode rows.flatten) }.complain
            (written name)⟩) ∨
      ∃ f, displayed w (s.files.put steps []) r = .error f ∧
        runToFile w s name r = giveUpFile s₁ name f) := by
  let emptied : Session := { s with files := s.files.put steps [] }
  have hlogs : emptied.OnlyLogs (answer w emptied .buffer r).1 := onlyLogs_answer w _ _ r
  have hrows : (answer w emptied .buffer r).2 = displayed w (s.files.put steps []) r :=
    snd_answer w emptied r
  simp only [runToFile, hsteps, ← hrows]
  rcases hanswer : answer w emptied .buffer r with ⟨s₁, f | rows⟩
  · rw [hanswer] at hlogs
    exact ⟨s₁, hlogs, .inr ⟨f, rfl, rfl⟩⟩
  · rw [hanswer] at hlogs
    exact ⟨s₁, hlogs, .inl ⟨rows, rfl, rfl⟩⟩

/-- Once the file is emptied, a run changes no other one but the log. -/
theorem lookup_runToFile (w : Surroundings) (r : Request)
    (hsteps : s.files.forWriting name = .ok steps) {file : List Text} (hne : file ≠ steps)
    (hfile : s.log.file ≠ some file) :
    (runToFile w s name r).session.files.entries.lookup file = s.files.entries.lookup file := by
  obtain ⟨s₁, hlogs, hrun⟩ := runToFile_cases w r hsteps
  have hanswered : s₁.files.entries.lookup file = s.files.entries.lookup file :=
    (hlogs.lookup_eq file hfile).trans (Files.lookup_put_of_ne _ _ hne)
  rcases hrun with ⟨rows, -, hrun⟩ | ⟨f, -, hrun⟩
  · rw [hrun]
    exact (Files.lookup_put_of_ne _ _ hne).trans hanswered
  · rw [hrun, (onlyLogs_giveUpFile s₁ name f).2.lookup_eq file (by rwa [hlogs.log_eq]), hanswered]

/-- **A run leaves the display in the file, or nothing.** -/
theorem lookup_self_runToFile (w : Surroundings) (r : Request)
    (hsteps : s.files.forWriting name = .ok steps) (hfile : s.log.file ≠ some steps) :
    (∀ rows, displayed w (s.files.put steps []) r = .ok rows →
      (runToFile w s name r).status = .success ∧
      (runToFile w s name r).session.files.entries.lookup steps =
        some (.file (Text.Utf8.encode rows.flatten))) ∧
    ∀ f, displayed w (s.files.put steps []) r = .error f →
      (runToFile w s name r).status ≠ .success ∧
      (runToFile w s name r).session.files.entries.lookup steps = some (.file []) := by
  obtain ⟨s₁, hlogs, hrun⟩ := runToFile_cases w r hsteps
  have hempty : s₁.files.entries.lookup steps = some (.file []) :=
    (hlogs.lookup_eq steps hfile).trans (Files.lookup_put_self _ _ _)
  rcases hrun with ⟨rows, hrows, hrun⟩ | ⟨f, hf, hrun⟩
  · refine ⟨fun rows' hrows' => ?_, fun f hf => ?_⟩
    · cases hrows.symm.trans hrows'
      rw [hrun]
      refine ⟨rfl, ?_⟩
      show (s₁.files.overwrite steps _).entries.lookup steps = _
      rw [Files.overwrite, Files.lookup_put_self, bytesAt_eq_nil hempty, List.drop_nil,
        List.append_nil]
    · cases hrows.symm.trans hf
  · refine ⟨fun rows hrows => ?_, fun f' hf' => ?_⟩
    · cases hf.symm.trans hrows
    · obtain ⟨hstatus, hgiveUp⟩ := onlyLogs_giveUpFile s₁ name f
      rw [hrun]
      refine ⟨hstatus, (hgiveUp.lookup_eq steps ?_).trans hempty⟩
      rwa [hlogs.log_eq]

/-- **What a run to a file leaves there**, once the log is set up. -/
theorem writesFile_runToFile (w : Surroundings) (hs : setUp s r = .ok s')
    (hsteps : s'.files.forWriting name = .ok steps) (hfile : s'.log.file ≠ some steps) :
    WritesFile w s s' r steps (runToFile w s' name r) := by
  have hwritable := Files.writable_of_forWriting hsteps
  obtain ⟨hleads, hread⟩ := read_of_setUp hs
  have helsewhere : ∀ o, (∀ file, operandFile? s.files o = some file →
      file ≠ steps ∧ s'.log.file ≠ some file) →
      readOperand w (s'.files.put steps []) o = readOperand w s.files o := by
    intro o ho
    refine readOperand_congr fun name hname hinput => ?_
    subst hname
    rw [operandFile?, if_neg hinput] at ho
    rw [(Files.readCode_put hwritable name).1 [], hread name fun file heq => (ho file heq).2]
    rw [hleads]
    exact fun heq => (ho steps heq).1 rfl
  obtain ⟨hsuccess, hfailure⟩ := lookup_self_runToFile w r hsteps hfile
  refine ⟨hsuccess, hfailure, helsewhere, ?_, fun h => displayed_congr
    (helsewhere r.left (h r.left (by simp))) (helsewhere r.right (h r.right (by simp)))⟩
  intro o ho code hcode
  cases o with
  | nothing => cases ho
  | value name =>
    rw [operandFile?] at ho
    split at ho
    · cases ho
    · rename_i hinput
      rw [readOperand, if_neg hinput] at hcode ⊢
      refine (Files.readCode_put hwritable name).2 ?_ code ?_
      · rw [hleads]
        exact ho
      · rw [hread name fun file heq hlog => hfile ?_]
        · exact hcode
        · rw [ho] at heq
          rw [hlog, heq]

/-- A run to a file is carried out once the log is set up, unless it reads standard input twice. -/
theorem run_eq_runToFile (w : Surroundings) {words : List Text} (hr : readRequest words = .ok r)
    (houtput : r.wishes.output = some name) (hname : name ≠ []) (hs : setUp s r = .ok s')
    (hinput : ¬ (r.left = .value standardInput ∧ r.right = .value standardInput)) :
    run w s words = .ok (runToFile w s' name r) := by
  have htarget : runToTarget w s' r = runToFile w s' name r := by
    unfold runToTarget
    rw [houtput]
    cases name with
    | nil => exact absurd rfl hname
    | cons c t => rfl
  unfold run
  rw [hr]
  exact (carryOut_eq_ok w hs hinput).trans (congrArg Except.ok htarget)

end run

/-- **What the command does to the file that its display goes to.** A run whose log can be set up
ends. If it reads standard input twice or the file cannot be opened, it fails and writes nothing but
the log. Otherwise it empties the file before it reads the codes. It then changes no other file but
the log; and if the log is not written to the same file, it succeeds exactly if there is a display
of the codes with the file empty, which is in the file afterwards, and leaves nothing there if it
fails. -/
theorem run_to_file {w : Surroundings} {s s' : Session} {words : List Text} {r : Request}
    {name : Text} (hr : readRequest words = .ok r) (houtput : r.wishes.output = some name)
    (hname : name ≠ []) (hs : setUp s r = .ok s') :
    ∃ out, run w s words = .ok out ∧
      ((r.left = .value standardInput ∧ r.right = .value standardInput) ∨
          (∃ f, s'.files.forWriting name = .error f) →
        out.status ≠ .success ∧ ∀ file, s'.log.file ≠ some file →
          out.session.files.entries.lookup file = s.files.entries.lookup file) ∧
      ∀ steps, s'.files.forWriting name = .ok steps →
        ¬ (r.left = .value standardInput ∧ r.right = .value standardInput) →
        (∀ file, file ≠ steps → s'.log.file ≠ some file →
          out.session.files.entries.lookup file = s.files.entries.lookup file) ∧
        (s'.log.file ≠ some steps → WritesFile w s s' r steps out) := by
  by_cases hinput : r.left = .value standardInput ∧ r.right = .value standardInput
  · refine ⟨⟨.badFile, s'.complain
      "Error: only one of the two inputs can be read from stdin\n"⟩, ?_, ?_, ?_⟩
    · unfold run carryOut
      rw [hr]
      dsimp only
      rw [hs]
      exact if_pos hinput
    · exact fun _ => ⟨Status.noConfusion, fun file hfile => lookup_of_setUp hs hfile⟩
    · exact fun steps _ hnot => absurd hinput hnot
  · refine ⟨_, run_eq_runToFile w hr houtput hname hs hinput, ?_, ?_⟩
    · rintro (hboth | ⟨f, hf⟩)
      · exact absurd hboth hinput
      · have hrun : runToFile w s' name r = giveUpFile s' name f := by
          simp only [runToFile, hf]
        obtain ⟨hstatus, hlogs⟩ := onlyLogs_giveUpFile s' name f
        rw [hrun]
        exact ⟨hstatus, fun file hfile =>
          (hlogs.lookup_eq file hfile).trans (lookup_of_setUp hs hfile)⟩
    · intro steps hsteps _
      exact ⟨fun file hne hfile =>
        (lookup_runToFile w r hsteps hne hfile).trans (lookup_of_setUp hs hfile),
        writesFile_runToFile w hs hsteps⟩

/-- Two codes in files, a display in a file that held something, and a log: the display is that of
the codes as they were, and they stay. -/
theorem run_to_file_with_log :
    let w : Surroundings := { environment := { bindings := [] }, input := [] }
    let before : Text := "before".toList
    let after : Text := "after".toList
    let s : Session := { files := ⟨[], [([before], .file [120, 10]),
      ([after], .file [120, 10, 121]), (["display".toList], .file [0, 1, 2])]⟩ }
    let words : List Text := [before, after, "--output=display".toList, "--log-file=log".toList]
    ∃ r s' out, readRequest words = .ok r ∧ r.wishes.output = some "display".toList ∧
      setUp s r = .ok s' ∧ s'.log.file = some ["log".toList] ∧ run w s words = .ok out ∧
      out.status = .success ∧
      out.session.files.entries.lookup ["display".toList] =
        some (.file (Text.Utf8.encode "x ┃ x\n  ┣⟫y\n".toList)) ∧
      out.session.files.entries.lookup [before] = some (.file [120, 10]) := by
  intro w before after s words
  have hread : (readRequest words).toOption.map (fun r => (r.left, r.right, r.wishes.output)) =
      some (.value before, .value after, some "display".toList) := by decide +kernel
  have hopened : ((readRequest words).toOption.bind fun r => (setUp s r).toOption.map fun s' =>
      (s'.log.file, (s'.files.forWriting "display".toList).toOption)) =
      some (some ["log".toList], some ["display".toList]) := by decide +kernel
  have hshown : ((readRequest words).toOption.bind fun r =>
      (displayed w s.files r).toOption.map List.flatten) = some "x ┃ x\n  ┣⟫y\n".toList := by
    simp only [displayed, shown, painted, Layout.rows, Layout.layout_eq]
    decide +kernel
  obtain ⟨r, hr, hread⟩ := Option.map_eq_some_iff.1 hread
  rw [hr] at hopened hshown
  obtain ⟨s', hs, hopened⟩ := Option.map_eq_some_iff.1 hopened
  simp only [Prod.mk.injEq] at hread hopened
  obtain ⟨hleft, hright, houtput⟩ := hread
  obtain ⟨hlog, hsteps⟩ := hopened
  have hr := toOption_eq_some_iff.1 hr
  have hs := toOption_eq_some_iff.1 hs
  have hsteps := toOption_eq_some_iff.1 hsteps
  obtain ⟨rows, hrows, hflat⟩ := Option.map_eq_some_iff.1 hshown
  have hrows := toOption_eq_some_iff.1 hrows
  obtain ⟨out, hout, -, hwrites⟩ := run_to_file (w := w) hr houtput (by decide) hs
  obtain ⟨hothers, hwrites⟩ := hwrites _ hsteps (fun h => absurd (hleft ▸ h.1) (by decide))
  have hwrites := hwrites (by rw [hlog]; decide)
  have hdisplay := hwrites.unshared (by
    rw [hleft, hright, hlog]
    decide)
  obtain ⟨hstatus, hlookup⟩ := hwrites.success rows (hdisplay.trans hrows)
  refine ⟨r, s', out, hr, houtput, hs, hlog, hout, hstatus, by rw [hlookup, hflat], ?_⟩
  rw [hothers [before] (by decide) (by rw [hlog]; decide)]
  rfl

/-- Without a log file, a run to a file starts from the files as they are. -/
theorem run_without_log {s : Session} {words : List Text} {r : Request} {name : Text}
    (w : Surroundings) (hr : readRequest words = .ok r) (houtput : r.wishes.output = some name)
    (hname : name ≠ []) (hlog : r.wishes.logFile = none)
    (hinput : ¬ (r.left = .value standardInput ∧ r.right = .value standardInput)) :
    ∃ s' : Session, s'.files = s.files ∧ s'.log.file = none ∧
      run w s words = .ok (runToFile w s' name r) := by
  obtain ⟨s', hs, hfiles, hfile⟩ :
      ∃ s', setUp s r = .ok s' ∧ s'.files = s.files ∧ s'.log.file = none := by
    unfold setUp Session.configure
    rw [hlog]
    exact ⟨_, rfl, rfl, rfl⟩
  exact ⟨s', hfiles, hfile, run_eq_runToFile w hr houtput hname hs hinput⟩

/-- Two runs that lose what a file held. The first one writes the display over one of two equal
codes and succeeds: the display shows a line as added that both codes held. The second one fails
for a code that is missing, and the file for the display is empty afterwards. -/
theorem run_over_operand :
    let w : Surroundings := { environment := { bindings := [] }, input := [] }
    let first : Text := "a.txt".toList
    let second : Text := "b.txt".toList
    let s : Session := { files := ⟨[], [([first], .file [120, 10]), ([second], .file [120, 10])]⟩ }
    (∃ r out rows, readRequest [first, second, "-o".toList, first] = .ok r ∧
      run w s [first, second, "-o".toList, first] = .ok out ∧ out.status = .success ∧
      displayed w s.files r = .ok rows ∧ rows.flatten = "x ┃ x\n".toList ∧
      out.session.files.entries.lookup [first] =
        some (.file (Text.Utf8.encode "  ┣⟫x\n".toList))) ∧
    ∃ out, run w s [first, "c.txt".toList, "-o".toList, second] = .ok out ∧
      out.status ≠ .success ∧
      s.files.entries.lookup [second] = some (.file [120, 10]) ∧
      out.session.files.entries.lookup [second] = some (.file []) := by
  intro w first second s
  constructor
  · have hread : (readRequest [first, second, "-o".toList, first]).toOption.map
        (fun r => (r.left, r.wishes.output, r.wishes.logFile)) =
          some (.value first, some first, none) := by decide +kernel
    have hbefore : ((readRequest [first, second, "-o".toList, first]).toOption.bind fun r =>
        (displayed w s.files r).toOption.map List.flatten) = some "x ┃ x\n".toList := by
      simp only [displayed, shown, painted, Layout.rows, Layout.layout_eq]
      decide +kernel
    have hemptied : ((readRequest [first, second, "-o".toList, first]).toOption.bind fun r =>
        (displayed w (s.files.put [first] []) r).toOption.map List.flatten) =
          some "  ┣⟫x\n".toList := by
      simp only [displayed, shown, painted, Layout.rows, Layout.layout_eq]
      decide +kernel
    obtain ⟨r, hr, hread⟩ := Option.map_eq_some_iff.1 hread
    simp only [Prod.mk.injEq] at hread
    obtain ⟨hleft, houtput, hlog⟩ := hread
    rw [hr] at hbefore hemptied
    have hr := toOption_eq_some_iff.1 hr
    obtain ⟨rows, hrows, hflat⟩ := Option.map_eq_some_iff.1 hbefore
    obtain ⟨rows', hrows', hflat'⟩ := Option.map_eq_some_iff.1 hemptied
    obtain ⟨s', hfiles, hfile, hrun⟩ := run_without_log (s := s) w hr houtput (by decide) hlog
      (fun h => absurd (hleft ▸ h.1) (by decide))
    have hsteps : s'.files.forWriting first = .ok [first] := by
      rw [hfiles]
      rfl
    obtain ⟨hsuccess, -⟩ := lookup_self_runToFile w r hsteps (by rw [hfile]; decide)
    rw [hfiles] at hsuccess
    obtain ⟨hstatus, hlookup⟩ := hsuccess rows' (toOption_eq_some_iff.1 hrows')
    exact ⟨r, _, rows, hr, hrun, hstatus, toOption_eq_some_iff.1 hrows, hflat,
      by rw [hlookup, hflat']⟩
  · have hread : (readRequest [first, "c.txt".toList, "-o".toList, second]).toOption.map
        (fun r => (r.left, r.wishes.output, r.wishes.logFile)) =
          some (.value first, some second, none) := by decide +kernel
    have hemptied : ((readRequest [first, "c.txt".toList, "-o".toList, second]).toOption.map
        fun r => (displayed w (s.files.put [second] []) r).toOption.isSome) = some false := by
      simp only [displayed, shown, painted, Layout.rows, Layout.layout_eq]
      decide +kernel
    obtain ⟨r, hr, hread⟩ := Option.map_eq_some_iff.1 hread
    simp only [Prod.mk.injEq] at hread
    obtain ⟨hleft, houtput, hlog⟩ := hread
    rw [hr] at hemptied
    have hr := toOption_eq_some_iff.1 hr
    obtain ⟨s', hfiles, hfile, hrun⟩ := run_without_log (s := s) w hr houtput (by decide) hlog
      (fun h => absurd (hleft ▸ h.1) (by decide))
    have hsteps : s'.files.forWriting second = .ok [second] := by
      rw [hfiles]
      rfl
    obtain ⟨-, hfailure⟩ := lookup_self_runToFile w r hsteps (by rw [hfile]; decide)
    rw [hfiles] at hfailure
    cases hdisplayed : displayed w (s.files.put [second] []) r with
    | ok rows =>
      rw [Option.map_some, hdisplayed] at hemptied
      cases hemptied
    | error f =>
      obtain ⟨hstatus, hlookup⟩ := hfailure f hdisplayed
      exact ⟨_, hrun, hstatus, rfl, hlookup⟩

end Collate.Command
