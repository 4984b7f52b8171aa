import Collate.Failure
import Collate.Similarity.Blocks
import Collate.Similarity.EditDistance

/-!
# Distance metrics

A metric says how far two lines are apart, from 0 for equal lines to 1. The two that have a name are
exact shares, rounded once to double precision (the block metric twice, since it is one minus a
rounded ratio). A caller may also pass a measure of its own, or one value for all lines.

Lines are near enough to be shown as one changed line when their distance is at most the threshold,
which is one minus the tolerance.
-/

namespace Collate

open Collate.Number Collate.Similarity

/-- The metrics that have a name. -/
inductive Metric
  /-- Edit distance as a share of the longer line. -/
  | levenshtein
  /-- What the matching blocks leave over. -/
  | blocks
  deriving DecidableEq, Repr

namespace Metric

/-- The name of a metric. -/
def name : Metric → String
  | levenshtein => "levenshtein"
  | blocks => "difflib"

/-- All metrics, in the order in which they are offered. -/
def all : List Metric := [levenshtein, blocks]

/-- The metric of a name. -/
def ofName? (s : String) : Option Metric := all.find? (·.name == s)

/-- The metric that a setting names. -/
def find (value : Setting) : Except Failure Metric :=
  if value.isKey then
    match value.text?.bind ofName? with
    | some m => .ok m
    | none => .error (.unknownMetric value)
  else .error (.misuse (.noKey value))

/-- One minus a double-precision number between 0 and 1, rounded. -/
def complement (x : Binary64) : Binary64 :=
  match x.value? with
  | some r => Binary64.ofRat (1 - r)
  | none => .nan

/-- The distance of two lines as an exact share. -/
def share : Metric → Text → Text → Rat
  | levenshtein, a, b => editShare a b
  | blocks, a, b => if a = b then 0 else 1 - blockRatio a b

/-- The distance of two lines in double precision. -/
def distance : Metric → Text → Text → Binary64
  | levenshtein, a, b => Binary64.ofRat (editShare a b)
  | blocks, a, b =>
    if a = b then Binary64.zero else complement (Binary64.ofRat (blockRatio a b))

end Metric

/-- What decides how far two lines are apart. -/
inductive Distance
  /-- A metric. -/
  | metric (m : Metric)
  /-- A measure of a caller's own. -/
  | measure (f : Text → Text → Setting.Amount)
  /-- A value that is the same for all lines. -/
  | constant (value : Setting)
  /-- Something that gives no distance. -/
  | absent

namespace Distance

/-- Whether a distance can be compared with a threshold at all. -/
def isComparable : Distance → Bool
  | metric _ | measure _ => true
  | constant value => value.amount?.isSome
  | absent => false

/-- Whether two lines are at most `threshold` apart. -/
def near (threshold : Binary64) : Distance → Text → Text → Bool
  | metric m, a, b => (m.distance a b).le threshold
  | measure f, a, b => (f a b).atMost threshold
  | constant value, _, _ => value.amount?.any (·.atMost threshold)
  | absent, _, _ => false

end Distance

/-! ## Tolerance -/

/-- A tolerance is a number from 0 to 1. -/
def checkTolerance (value : Setting) : Except Failure Unit :=
  match value.amount? with
  | none => .error (.misuse (.incomparable value))
  | some amount => if amount.inUnit then .ok () else .error (.toleranceOutside value)

/-- The greatest distance at which two lines are merged: one minus the tolerance, rounded. -/
def thresholdOf (tolerance : Setting) : Binary64 :=
  match tolerance.amount? with
  | some (.whole n) => Binary64.ofRat (1 - (n : Rat))
  | some (.real x) => Metric.complement x
  | none => .nan

/-- Seven tenths. -/
def sevenTenths : Binary64 := ofDecimal false 7 (-1)

/-- The tolerance used where none is given. -/
def defaultTolerance : Setting := .float sevenTenths

/-- Seven tenths is a tolerance. -/
theorem checkTolerance_sevenTenths : checkTolerance (.float sevenTenths) = .ok () := by
  have h : (Setting.Amount.real sevenTenths).inUnit = true := by decide +kernel
  simp [checkTolerance, Setting.amount?, h]

end Collate
