import Collate.Compare
import Collate.Storage.Files

/-!
# Codes in files

Reads codes from files and compares them. A code is stored as UTF-8, with or without a byte order
mark, and with any line ends; what is read has newlines only. Both files are read before the options
of the comparison are looked at.
-/

namespace Collate.Storage

open Collate.Highlight Collate.Journal Collate.Options

/-- The text that the bytes of a code file hold. -/
def codeOfBytes (bytes : List UInt8) : Except Text.Utf8.BadSequence Text :=
  (Text.Utf8.decode (Text.Utf8.dropMarkBytes bytes)).map Text.unifyNewlines

/-- The code in the file that a text names. -/
def readCode (fs : Files) (name : Text) : Except Failure Text :=
  let p := Path.ofText name
  match fs.read p with
  | .error f => .error f
  | .ok bytes => (codeOfBytes bytes).mapError fun bad => .unreadable (String.ofList p.written) bad

/-- Compares the codes in two files. -/
def compareFiles (fs : Files) (o : Option ComparisonOptions) (highlighter : Option Highlighter)
    (given : Fields) (name1 name2 : Text) : Noted Diff := do
  let code1 ← Noted.lift (readCode fs name1)
  let code2 ← Noted.lift (readCode fs name2)
  Compare.withOptions o highlighter given code1 code2

end Collate.Storage
