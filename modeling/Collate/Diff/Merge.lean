import Collate.Diff.Basic
import Collate.Similarity.Metric

/-!
# Merging

Turns a removed line and an added line into one changed line when they are near. A run is a stretch
of removed entries with the added entries right after it. Inside a run every added line in turn is
paired with the first removed line that is near to it and stands after the one paired last. What is
left over keeps its order: before each pair and at the end, removed lines first.
-/

namespace Collate.Merge

/-- The first item of a list that satisfies a condition, with what stands before and after it. -/
def findSplit? {α : Type} (p : α → Bool) : List α → Option (List α × α × List α)
  | [] => none
  | a :: as =>
    if p a then some ([], a, as)
    else (findSplit? p as).map fun (before, found, after) => (a :: before, found, after)

/-- Removals of the given lines. -/
def removedLines (ls : List Int) : List Entry := ls.map .removed

/-- Additions of the given lines. -/
def addedLines (rs : List Int) : List Entry := rs.map .added

/-- The entries of a run with the left lines `removed` and the right lines `added`; `waiting` holds
the right lines since the last pair that found no partner. -/
def pairRun (near : Int → Int → Bool) (removed : List Int) (waiting : List Int) :
    (added : List Int) → List Entry
  | [] => removedLines removed ++ addedLines waiting
  | r :: added =>
    match findSplit? (near · r) removed with
    | some (skipped, l, rest) =>
      removedLines skipped ++ addedLines waiting ++ .changed l r :: pairRun near rest [] added
    | none => pairRun near removed (waiting ++ [r]) added

/-- The removed lines at the start of a list of entries, and the entries after them. -/
def takeRemoved : List Entry → List Int × List Entry
  | .removed l :: rest =>
    let (ls, rest) := takeRemoved rest
    (l :: ls, rest)
  | rest => ([], rest)

/-- The added lines at the start of a list of entries, and the entries after them. -/
def takeAdded : List Entry → List Int × List Entry
  | .added r :: rest =>
    let (rs, rest) := takeAdded rest
    (r :: rs, rest)
  | rest => ([], rest)

/-- Taking the removed lines leaves no more entries than there were. -/
theorem length_takeRemoved (es : List Entry) : (takeRemoved es).2.length ≤ es.length := by
  fun_induction takeRemoved es <;> simp_all; omega

/-- Taking the added lines leaves no more entries than there were. -/
theorem length_takeAdded (es : List Entry) : (takeAdded es).2.length ≤ es.length := by
  fun_induction takeAdded es <;> simp_all; omega

/-- Merges the near lines of every run. -/
def mergeRuns (near : Int → Int → Bool) : List Entry → List Entry
  | [] => []
  | .removed l :: rest =>
    have := Nat.le_trans (length_takeAdded (takeRemoved rest).2) (length_takeRemoved rest)
    pairRun near (l :: (takeRemoved rest).1) [] (takeAdded (takeRemoved rest).2).1 ++
      mergeRuns near (takeAdded (takeRemoved rest).2).2
  | e :: rest => e :: mergeRuns near rest
  termination_by es => es.length

/-- Whether some removed entry stands right before an added one, so that lines are compared. -/
def hasRun : List Entry → Bool
  | .removed _ :: .added _ :: _ => true
  | _ :: rest => hasRun rest
  | [] => false

end Collate.Merge

namespace Collate

/-- Whether two lines of a diff are at most `threshold` apart. -/
def Diff.nearLines (d : Diff) (distance : Distance) (threshold : Number.Binary64) (l r : Int) :
    Bool :=
  match d.left.line? l, d.right.line? r with
  | some a, some b => distance.near threshold a b
  | _, _ => false

/-- Merges removed and added lines of a diff that are near. The tolerance is checked before anything
is compared, and a distance that gives no number fails at the first comparison. -/
def Diff.merge (d : Diff) (distance : Distance) (tolerance : Setting) : Except Failure Diff := do
  checkTolerance tolerance
  if Merge.hasRun d.entries && !distance.isComparable then throw (.misuse .wrongKind)
  d.withEntries (Merge.mergeRuns (d.nearLines distance (thresholdOf tolerance)) d.entries)

end Collate
