import SourceSurvey.Json.Typed

/-!
Where in the files of a survey a piece of text stands: the number of its file, and its lines and
columns, counted from zero. Columns count bytes.
-/

namespace SourceSurvey

/-- The number of a file within a survey; the first is 1. -/
structure FileId where
  number : UInt64
deriving DecidableEq, Repr

namespace FileId

def toValue (id : FileId) : Json.Value := .natural id.number.toNat

def reader : Json.Reader FileId :=
  (fun n ↦ ⟨UInt64.ofNat n⟩) <$> Json.Reader.natural "u64" UInt64.size

def describe (id : FileId) : String := "FileId(" ++ toString id.number ++ ")"

end FileId

structure TextRange where
  startLine : UInt32
  startColumn : UInt32
  endLine : UInt32
  endColumn : UInt32
deriving DecidableEq, Repr

namespace TextRange

def toValue (r : TextRange) : Json.Value :=
  .object [
    ("start_line", .natural r.startLine.toNat),
    ("start_col", .natural r.startColumn.toNat),
    ("end_line", .natural r.endLine.toNat),
    ("end_col", .natural r.endColumn.toNat)]

def number (v : Json.Value) (name : String) : UInt32 :=
  UInt32.ofNat (((v.get? name).bind (·.natural?)).getD 0)

def ofValue (v : Json.Value) : TextRange :=
  ⟨number v "start_line", number v "start_col", number v "end_line", number v "end_col"⟩

def valueReader : Json.Reader Json.Value :=
  let count := Json.Value.natural <$> Json.Reader.natural "u32" UInt32.size
  Json.Reader.record "TextRange" false
    [⟨"start_line", count⟩, ⟨"start_col", count⟩, ⟨"end_line", count⟩, ⟨"end_col", count⟩]

def reader : Json.Reader TextRange := ofValue <$> valueReader

def describe (r : TextRange) : String :=
  "TextRange \x7b start_line: " ++ toString r.startLine ++
    ", start_col: " ++ toString r.startColumn ++
    ", end_line: " ++ toString r.endLine ++
    ", end_col: " ++ toString r.endColumn ++ " \x7d"

end TextRange

structure Location where
  file : FileId
  range : TextRange
deriving DecidableEq, Repr

namespace Location

def toValue (l : Location) : Json.Value :=
  .object [("file_id", l.file.toValue), ("range", l.range.toValue)]

def ofValue (v : Json.Value) : Location where
  file := ⟨UInt64.ofNat (((v.get? "file_id").bind (·.natural?)).getD 0)⟩
  range := TextRange.ofValue ((v.get? "range").getD (.object []))

def reader : Json.Reader Location :=
  ofValue <$> Json.Reader.record "AstLocation" false
    [⟨"file_id", FileId.toValue <$> FileId.reader⟩, ⟨"range", TextRange.valueReader⟩]

def describe (l : Location) : String :=
  "AstLocation \x7b file_id: " ++ l.file.describe ++ ", range: " ++ l.range.describe ++ " \x7d"

end Location

end SourceSurvey
