import Collate.Options.Fields
import Collate.Similarity.Metric

/-!
# Comparison options

How two listings are compared: their kind, whether they are coloured, by which lexer and theme,
whether generated names lose their counters and of which function, and whether near lines are
merged, by which metric and with how much tolerance. The kind has to exist and the tolerance has to
lie between 0 and 1; every other value is looked at only when it is used.
-/

namespace Collate.Options

/-- Options of a comparison. -/
structure ComparisonOptions where
  /-- The kind of the listings. -/
  codeType : CodeType
  /-- Whether the listings are coloured. -/
  colour : Setting
  /-- Whether generated names lose their counters. -/
  normalize : Setting
  /-- The function whose generated names lose their counters, if not all do. -/
  functionName : Setting
  /-- Whether near lines are merged. -/
  optimize : Setting
  /-- How alike two lines have to be to be merged. -/
  tolerance : Setting
  /-- The name of the metric. -/
  distance : Setting
  /-- The lexer to use in place of the one of the kind. -/
  language : Setting
  /-- The theme of the colours. -/
  theme : Setting
  /-- The tolerance is a number from 0 to 1. -/
  tolerance_ok : checkTolerance tolerance = .ok ()

namespace ComparisonOptions

/-- The kind of code that a setting names. -/
def codeTypeOf (value : Setting) : Except Failure CodeType :=
  match value.text?.bind CodeType.ofName? with
  | some t => .ok t
  | none => .error (.unknownCodeType "code_type" value)

/-- The options with these fields. The kind is checked before the tolerance. -/
def ofFields (fs : Fields) : Except Failure ComparisonOptions := do
  let codeType ← codeTypeOf (fs.get "code_type")
  match h : checkTolerance (fs.get "tolerance") with
  | .error f => throw f
  | .ok () =>
    return ⟨codeType, fs.get "color", fs.get "normalize", fs.get "function_name",
      fs.get "optimize", fs.get "tolerance", fs.get "distance", fs.get "language",
      fs.get "theme", h⟩

/-- The fields of options. -/
def fields (o : ComparisonOptions) : Fields :=
  [("code_type", .text o.codeType.name), ("color", o.colour), ("normalize", o.normalize),
    ("function_name", o.functionName), ("optimize", o.optimize), ("tolerance", o.tolerance),
    ("distance", o.distance), ("language", o.language), ("theme", o.theme)]

/-- The fields used where none are given. -/
def standardFields : Fields :=
  [("code_type", .text CodeType.text.name), ("color", .bool true), ("normalize", .bool true),
    ("function_name", .null), ("optimize", .bool true), ("tolerance", defaultTolerance),
    ("distance", .text Metric.levenshtein.name), ("language", .null), ("theme", .null)]

/-- The options with these values and the standard ones for the rest. -/
def make (given : Fields) : Except Failure ComparisonOptions := do
  ofFields (← standardFields.override given)

/-- Options with some values replaced. -/
def update (o : ComparisonOptions) (given : Fields) : Except Failure ComparisonOptions := do
  ofFields (← o.fields.override given)

/-- Options are those with their own fields. -/
@[simp] theorem ofFields_fields (o : ComparisonOptions) : ofFields o.fields = .ok o := by
  obtain ⟨codeType, colour, normalize, functionName, optimize, tolerance, distance, language, theme,
    ht⟩ := o
  have hc : codeTypeOf (Fields.get (fields ⟨codeType, colour, normalize, functionName, optimize,
      tolerance, distance, language, theme, ht⟩) "code_type") = .ok codeType := by
    simp [codeTypeOf, fields, Fields.get, Setting.text?]
  simp only [ofFields, hc, bind, Except.bind]
  split
  · rename_i f hf
    simp [fields, Fields.get, List.lookup_cons] at hf
    rw [ht] at hf
    cases hf
  · simp [fields, Fields.get, List.lookup_cons, pure, Except.pure]

end ComparisonOptions

end Collate.Options
