import SourceSurvey.Json.Typed
import SourceSurvey.Language
import SourceSurvey.Text.Quoted

/-! A decoded source file, as it is shown to the handlers of a survey. -/

namespace SourceSurvey

namespace Language

def toValue (l : Language) : Json.Value := .string l.name

def reader : Json.Reader Language :=
  (fun name ↦ (ofName? name).getD default) <$> Json.Reader.variant names

end Language

structure SourceFile where
  path : String
  /-- The name of the file without its extension. -/
  name : String
  /-- The extension with its dot, or nothing. -/
  extension : String
  language : Language
  content : String
deriving DecidableEq, Repr

namespace SourceFile

def toValue (f : SourceFile) : Json.Value :=
  .object [
    ("path", .string f.path),
    ("file_name", .string f.name),
    ("extension", .string f.extension),
    ("language", f.language.toValue),
    ("content", .string f.content)]

def text (v : Json.Value) (name : String) : String :=
  ((v.get? name).bind (·.string?)).getD ""

def ofValue (v : Json.Value) : SourceFile where
  path := text v "path"
  name := text v "file_name"
  extension := text v "extension"
  language := (Language.ofName? (text v "language")).getD default
  content := text v "content"

def reader : Json.Reader SourceFile :=
  let text := Json.Value.string <$> Json.Reader.text
  ofValue <$> Json.Reader.record "SourceFile" false
    [⟨"path", text⟩, ⟨"file_name", text⟩, ⟨"extension", text⟩,
     ⟨"language", Language.toValue <$> Language.reader⟩, ⟨"content", text⟩]

open Text.Quoted in
def describe (f : SourceFile) : String :=
  "SourceFile \x7b path: " ++ quote f.path ++
    ", file_name: " ++ quote f.name ++
    ", extension: " ++ quote f.extension ++
    ", language: " ++ f.language.title ++
    ", content: " ++ quote f.content ++ " \x7d"

end SourceFile

end SourceSurvey
