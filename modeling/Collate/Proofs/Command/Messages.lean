import Collate.Command.Run

/-!
# What a run writes to standard error

A run tells its user what it does by adding to standard error, and nothing that it does takes back
what stands there. `Session.Says` says of two sessions that the second comes from the first with a
text more on standard error and the same settings of the log. Every operation on a session says some
text, and texts of operations in a row follow each other (`Session.Says.trans`), so what a whole run
says is put together from its parts:

* `says_answer_of_ok` and `says_answer_of_error` for the comparison and the display;
* `says_runToOutput` and `says_runToFile` for the end of the run.
-/

namespace Collate.Command

open Collate.Display Collate.Journal Collate.Storage

/-! ## Sessions -/

/-- What notes add to the console. -/
def consoleText (log : Log) (notes : List Note) : Text :=
  notes.flatMap fun n => (log.lines n.record).1

namespace Session

/-- A session that comes from another one with a text more on standard error. The log is set up as
before. -/
structure Says (s : Session) (t : Text) (s' : Session) : Prop where
  /-- The settings of the log are the same. -/
  log_eq : s'.log = s.log
  /-- The text is added at the end. -/
  errors_eq : s'.errors = s.errors ++ t

/-- What is said in a row. -/
theorem Says.trans {s s' s'' : Session} {t t' : Text} (h : s.Says t s') (h' : s'.Says t' s'') :
    s.Says (t ++ t') s'' := by
  refine ⟨h'.log_eq.trans h.log_eq, ?_⟩
  rw [h'.errors_eq, h.errors_eq, List.append_assoc]

/-- Nothing happens and nothing is said. -/
theorem says_refl (s : Session) : s.Says [] s := ⟨rfl, (List.append_nil _).symm⟩

theorem says_complain (s : Session) (message : String) :
    s.Says message.toList (s.complain message) :=
  ⟨rfl, rfl⟩

theorem says_print (s : Session) (t : Text) : s.Says [] (s.print t) :=
  ⟨rfl, (List.append_nil _).symm⟩

/-- Files can be written without a word. -/
theorem says_withFiles (s : Session) (files : Files) : s.Says [] { s with files } :=
  ⟨rfl, (List.append_nil _).symm⟩

/-- The log file gets its text and nothing else changes. -/
theorem logToFile_eq (s : Session) (t : Text) :
    ∃ files, s.logToFile t = { s with files } := by
  unfold logToFile
  split
  · split
    · exact ⟨s.files, rfl⟩
    · exact ⟨_, rfl⟩
  · exact ⟨s.files, rfl⟩

/-- A record says what the log gives to the console. -/
theorem says_record (s : Session) (r : Record) : s.Says (s.log.lines r).1 (s.record r) := by
  obtain ⟨files, hfiles⟩ := s.logToFile_eq (s.log.lines r).2
  have hrecord : s.record r =
      { s.logToFile (s.log.lines r).2 with errors := s.errors ++ (s.log.lines r).1 } := rfl
  rw [hrecord, hfiles]
  exact ⟨rfl, rfl⟩

/-- Notes say what the log gives to the console, one after the other. -/
theorem says_keep (s : Session) (notes : List Note) :
    s.Says (consoleText s.log notes) (s.keep notes) := by
  induction notes generalizing s with
  | nil => exact s.says_refl
  | cons n notes ih =>
    have hfirst := s.says_record n.record
    have hrest := ih (s.record n.record)
    rw [hfirst.log_eq] at hrest
    exact hfirst.trans hrest

end Session

/-! ## The answer -/

section answer

variable (w : Surroundings) (s : Session) (stream : Stream) (r : Request)

/-- A comparison that fails says what it notes and no more. -/
theorem says_answer_of_error {f : Failure}
    (h : (compared w s.files (isColoured w stream r) r).result = .error f) :
    s.Says (consoleText s.log (compared w s.files (isColoured w stream r) r).notes)
      (answer w s stream r).1 ∧ (answer w s stream r).2 = .error f := by
  have hanswer : answer w s stream r =
      (s.keep (compared w s.files (isColoured w stream r) r).notes, .error f) := by
    simp only [answer, h]
  rw [hanswer]
  exact ⟨s.says_keep _, rfl⟩

/-- A comparison that succeeds says whether it found no differences, after what it notes and before
what the display notes. -/
theorem says_answer_of_ok {d : Diff}
    (h : (compared w s.files (isColoured w stream r) r).result = .ok d) :
    s.Says (consoleText s.log (compared w s.files (isColoured w stream r) r).notes ++
        (if d.hasChanges then [] else noDifferences.toList) ++
        consoleText s.log (shown w.environment stream (isColoured w stream r) r.wishes d).notes)
      (answer w s stream r).1 ∧
    (answer w s stream r).2 =
      (shown w.environment stream (isColoured w stream r) r.wishes d).result := by
  let s₁ := s.keep (compared w s.files (isColoured w stream r) r).notes
  let s₂ := if d.hasChanges then s₁ else s₁.complain noDifferences
  let display := shown w.environment stream (isColoured w stream r) r.wishes d
  have hanswer : answer w s stream r = (s₂.keep display.notes, display.result) := by
    simp only [answer, h]
    rfl
  have hnotes : s.Says _ s₁ := s.says_keep _
  have hreport : s₁.Says (if d.hasChanges then [] else noDifferences.toList) s₂ := by
    unfold s₂
    split
    · exact s₁.says_refl
    · exact s₁.says_complain noDifferences
  have hcompared := hnotes.trans hreport
  have hshown := s₂.says_keep display.notes
  rw [hcompared.log_eq] at hshown
  rw [hanswer]
  exact ⟨hcompared.trans hshown, rfl⟩

end answer

/-! ## The end of a run -/

/-- What a run says after its answer; `file` is the file that the display goes to, if it does not go
to standard output. -/
def closing (log : Log) (file : Option Text) : Except Failure (List Text) → Text
  | .ok _ => (file.map fun name => (written name).toList).getD []
  | .error f =>
    match file, f with
    | some name, .blocked .. => (notWritten name f).toList
    | _, _ =>
      (log.lines ⟨Source.command.name, debug, (lastWords f).1⟩).1 ++ (lastWords f).2.toList

/-- Giving up says what is recorded and what is said of the failure. -/
theorem says_giveUp (s : Session) (f : Failure) :
    s.Says (closing s.log none (.error f)) (giveUp s f).session :=
  (s.says_record _).trans (Session.says_complain _ _)

/-- Giving up a file says so where its name is blocked. -/
theorem says_giveUpFile (s : Session) (name : Text) (f : Failure) :
    s.Says (closing s.log (some name) (.error f)) (giveUpFile s name f).session := by
  cases f with
  | blocked o t => exact s.says_complain _
  | _ => exact says_giveUp s _

/-- A run to standard output says nothing after its answer unless that is a failure. -/
theorem says_runToOutput (w : Surroundings) (s : Session) (r : Request) :
    let answered := answer w s .standard r
    answered.1.Says (closing answered.1.log none answered.2) (runToOutput w s r).session := by
  unfold runToOutput
  obtain ⟨s', rows⟩ := answer w s .standard r
  cases rows with
  | ok rows => exact s'.says_print _
  | error f => exact says_giveUp s' f

/-- A run to a file says after its answer whether the file was written. -/
theorem says_runToFile (w : Surroundings) (s : Session) {name : Text} (r : Request)
    {steps : List Text} (hsteps : s.files.forWriting name = .ok steps) :
    let answered := answer w { s with files := s.files.put steps [] } .buffer r
    answered.1.Says (closing answered.1.log (some name) answered.2)
      (runToFile w s name r).session := by
  simp only [runToFile, hsteps]
  obtain ⟨s', rows⟩ := answer w { s with files := s.files.put steps [] } .buffer r
  cases rows with
  | ok rows => exact (s'.says_withFiles _).trans (Session.says_complain _ _)
  | error f => exact says_giveUpFile s' name f

end Collate.Command
