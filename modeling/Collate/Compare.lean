import Collate.Diff.Alignment
import Collate.Diff.Merge
import Collate.Highlight.Lexer
import Collate.Journal.Note
import Collate.Names.Generated
import Collate.Options.Comparison

/-!
# Comparison

Compares two codes: a byte order mark is dropped, generated names lose their counters where the kind
of code has such names, both codes become listings with colours, the listings are aligned, and near
lines are merged. Every stage may take notes.

The kind of code can be asked for in several ways: by name when a comparison is dispatched, by the
comparison for one kind, and by option. The comparison for a kind refuses an option that asks for
another one.
-/

namespace Collate

open Collate.Highlight Collate.Journal Collate.Options

namespace Compare

/-- A code as it is compared: without generated counters, if that is asked for. -/
def normalized (o : ComparisonOptions) (code : Text) : Noted Text := do
  if o.normalize.holds && o.codeType.hasGeneratedNames then
    let p ← Noted.lift (Names.Pattern.make Names.defaultLeads o.functionName)
    let (text, count) := p.shortenCounting code
    if count ≠ 0 then Noted.note .names s!"Replaced {count} generated module names"
    return text
  else return code

/-- The highlighter of a comparison: none without colours, the one given, or that of the kind. -/
def highlighterOf (o : ComparisonOptions) (given : Option Highlighter) :
    Noted (Option Highlighter) := do
  if !o.colour.holds then return none
  else
    match given with
    | some h => return some h
    | none =>
      match Lexer.nameFor? o.codeType o.language with
      | none => return none
      | some name =>
        Noted.note .highlight
          s!"Highlighting {o.codeType.name} code with the {name.shown} lexer"
        let lexer ← Noted.lift (Lexer.find name o.theme)
        return some lexer.highlight

/-- The listing of a code with its colours. Every line is given to the highlighter with an end of
its own, so that a blank last line is not lost. -/
def colouredListing (code : Text) (highlighter : Option Highlighter) : Except Failure Listing :=
  let lines := Text.splitLines code
  match highlighter with
  | none => Listing.ofLines lines none
  | some h =>
    if lines = [] then Listing.ofLines lines none
    else Listing.ofLines lines (some (Text.splitLines (h (Text.unlines lines))))

/-- The diff that keeps as many lines as can be kept, with a note on its size. -/
def aligned (left right : Listing) : Noted Diff := do
  let d ← Noted.lift (Diff.align left right)
  Noted.note .alignment
    (s!"Aligned {left.size} left lines with {right.size} right lines into " ++
      s!"{d.entries.length} entries")
  return d

/-- A diff with its near lines merged, with a note on their number. -/
def merged (o : ComparisonOptions) (d : Diff) : Noted Diff := do
  if o.optimize.holds then
    let metric ← Noted.lift (Metric.find o.distance)
    let m ← Noted.lift (d.merge (.metric metric) o.tolerance)
    Noted.note .merging
      s!"Merged {d.entries.length - m.entries.length} removed/added line pairs into changed lines"
    return m
  else return d

/-- Compares two codes. -/
def codes (o : ComparisonOptions) (highlighter : Option Highlighter) (code1 code2 : Text) :
    Noted Diff := do
  let code1 ← normalized o (Text.dropMark code1)
  let code2 ← normalized o (Text.dropMark code2)
  let h ← highlighterOf o highlighter
  let left ← Noted.lift (colouredListing code1 h)
  let right ← Noted.lift (colouredListing code2 h)
  let aligned ← aligned left right
  let d ← merged o aligned
  Noted.note .comparison s!"Compared {left.size} and {right.size} lines: {d.statsText}"
  return d

/-- The options that a call asks for: those given, or the standard ones, with some values
replaced. -/
def optionsOf (o : Option ComparisonOptions) (given : Fields) : Except Failure ComparisonOptions :=
  match o with
  | none => ComparisonOptions.make given
  | some o => o.update given

/-- Compares two codes with options and values that replace some of them. -/
def withOptions (o : Option ComparisonOptions) (highlighter : Option Highlighter) (given : Fields)
    (code1 code2 : Text) : Noted Diff := do
  let o ← Noted.lift (optionsOf o given)
  codes o highlighter code1 code2

/-- Compares two codes of one kind. A value that asks for another kind is refused. -/
def ofKind (kind : CodeType) (o : Option ComparisonOptions) (highlighter : Option Highlighter)
    (given : Fields) (code1 code2 : Text) : Noted Diff := do
  match given.lookup "code_type" with
  | some requested =>
    if requested.same (.text kind.name) then withOptions o highlighter given code1 code2
    else Noted.lift (.error (.conflictingCodeType requested kind))
  | none => withOptions o highlighter (("code_type", .text kind.name) :: given) code1 code2

/-- Compares two codes of the kind that a setting names. Any kind of text may be asked for when the
setting names plain text. -/
def dispatch (kind : Setting) (o : Option ComparisonOptions) (highlighter : Option Highlighter)
    (given : Fields) (code1 code2 : Text) : Noted Diff := do
  if kind.isKey then
    match kind.text?.bind CodeType.ofName? with
    | some .text => withOptions o highlighter given code1 code2
    | some t => ofKind t o highlighter given code1 code2
    | none => Noted.lift (.error (.unknownCodeType "type" kind))
  else Noted.lift (.error (.misuse .wrongKind))

end Compare

end Collate
