import SourceSurvey.Error
import SourceSurvey.FileTree
import SourceSurvey.Json.Typed
import SourceSurvey.Text.Quoted

/-! Settings that are kept in a JSON text. What the text leaves out has its default. -/

namespace SourceSurvey

structure Config where
  encoding : String
  excluded : List String
  fileTypes : List String
  namedOnly : Bool
  followLinks : Bool
deriving DecidableEq, Repr

namespace Config

def default : Config := ⟨"utf-8", [], ["ts", "tsx"], false, false⟩

open Json.Reader in
def fields : List Field :=
  [⟨"file_encoding", Json.Value.string <$> text⟩,
   ⟨"excluded_files", (fun ss ↦ .array (ss.map .string)) <$> texts⟩,
   ⟨"allowed_file_types", (fun ss ↦ .array (ss.map .string)) <$> texts⟩,
   ⟨"named_nodes_only", Json.Value.bool <$> flag⟩,
   ⟨"follow_links", Json.Value.bool <$> flag⟩]

/-- The configuration in which the members that are given replace the defaults. -/
def ofValue (v : Json.Value) : Config where
  encoding := ((v.get? "file_encoding").bind (·.string?)).getD default.encoding
  excluded := ((v.get? "excluded_files").bind (·.strings?)).getD default.excluded
  fileTypes := ((v.get? "allowed_file_types").bind (·.strings?)).getD default.fileTypes
  namedOnly := ((v.get? "named_nodes_only").bind (·.bool?)).getD default.namedOnly
  followLinks := ((v.get? "follow_links").bind (·.bool?)).getD default.followLinks

def toValue (c : Config) : Json.Value :=
  .object [
    ("file_encoding", .string c.encoding),
    ("excluded_files", .array (c.excluded.map .string)),
    ("allowed_file_types", .array (c.fileTypes.map .string)),
    ("named_nodes_only", .bool c.namedOnly),
    ("follow_links", .bool c.followLinks)]

def reader : Json.Reader Config := ofValue <$> Json.Reader.record "AnalyzerConfig" true fields

def ofText (text : String) : Except Json.Error Config := reader.ofText text

/-- Why a configuration could not be loaded. -/
structure LoadError where
  message : String
  causes : List String

/-- Loads the file at a path. -/
def load (tree : Node) (path : Path) : Except LoadError Config :=
  let content : Except IoError String := do
    let bytes ← tree.readAt path
    match Encoding.Utf8.strict? bytes with
    | some text => pure text
    | none => .error .notText
  match content with
  | .error e => .error ⟨"failed to read config " ++ path.display, [e.message]⟩
  | .ok text =>
    match ofText text with
    | .ok config => .ok config
    | .error e =>
      let inner := SurveyError.config e
      .error ⟨"failed to parse config " ++ path.display, inner.message :: inner.causes⟩

open Text.Quoted in
def describe (c : Config) : String :=
  "AnalyzerConfig \x7b file_encoding: " ++ quote c.encoding ++
    ", excluded_files: " ++ quoteList c.excluded ++
    ", allowed_file_types: " ++ quoteList c.fileTypes ++
    ", named_nodes_only: " ++ toString c.namedOnly ++
    ", follow_links: " ++ toString c.followLinks ++ " \x7d"

end Config

end SourceSurvey
