import Collate.Failure

/-!
# Notes

What the stages of a comparison report while they run, in order, for whoever keeps a journal. A
computation that takes notes keeps those it took when it fails. Its result does not depend on them
(`Noted.result_bind`): the notes can be left out of every argument about what a comparison answers.
-/

namespace Collate.Journal

/-- The stage that a note comes from. -/
inductive Source
  /-- The package as a whole. -/
  | package
  /-- Shortening of generated names. -/
  | names
  /-- Colouring. -/
  | highlight
  /-- Alignment of lines. -/
  | alignment
  /-- Merging of near lines. -/
  | merging
  /-- The comparison as a whole. -/
  | comparison
  /-- Options from the environment. -/
  | environment
  /-- The side-by-side display. -/
  | display
  /-- The command. -/
  | command
  deriving DecidableEq, Repr

/-- The name under which a stage's notes are kept. -/
def Source.name : Source → String
  | package => "codediffs"
  | names => "codediffs.normalize"
  | highlight => "codediffs.highlight"
  | alignment => "codediffs.diff.alignment"
  | merging => "codediffs.diff.optimize"
  | comparison => "codediffs.api"
  | environment => "codediffs.config"
  | display => "codediffs.diff.renderers.side_by_side"
  | command => "codediffs.cli"

/-- A note of a stage. -/
structure Note where
  /-- The stage. -/
  source : Source
  /-- What it reports. -/
  message : String
  deriving DecidableEq, Repr

/-- A computation that takes notes and may fail. -/
structure Noted (α : Type) where
  /-- The notes taken, in order. -/
  notes : List Note
  /-- The value, or the failure. -/
  result : Except Failure α

namespace Noted

/-- A value without notes. -/
protected def pure {α : Type} (a : α) : Noted α := ⟨[], .ok a⟩

/-- One computation after the other; the second does not run if the first fails. -/
protected def bind {α β : Type} (x : Noted α) (f : α → Noted β) : Noted β :=
  match x.result with
  | .ok a => ⟨x.notes ++ (f a).notes, (f a).result⟩
  | .error e => ⟨x.notes, .error e⟩

instance : Monad Noted where
  pure := Noted.pure
  bind := Noted.bind

/-- Takes a note. -/
def note (source : Source) (message : String) : Noted Unit := ⟨[⟨source, message⟩], .ok ()⟩

/-- A computation that may fail and takes no notes. -/
def lift {α : Type} (x : Except Failure α) : Noted α := ⟨[], x⟩

/-! ## The result leaves the notes out -/

@[simp] theorem result_pure {α : Type} (a : α) : (pure a : Noted α).result = .ok a := rfl

@[simp] theorem result_note (source : Source) (message : String) :
    (note source message).result = .ok () := rfl

@[simp] theorem result_lift {α : Type} (x : Except Failure α) : (lift x).result = x := rfl

/-- The result of two computations in a row is that of their results. -/
@[simp] theorem result_bind {α β : Type} (x : Noted α) (f : α → Noted β) :
    (x >>= f).result = x.result >>= fun a => (f a).result := by
  obtain ⟨notes, result⟩ := x
  cases result <;> rfl

end Noted

end Collate.Journal
