import SourceSurvey.Text.Blank
import SourceSurvey.Text.Quoted

/-! What to walk: the settings of a walk and their canonical forms. -/

namespace SourceSurvey

/-- An extension without blanks around it and dots before it, in lower case. -/
def canonicalFileType (extension : String) : String :=
  String.ofList (((Text.trim extension.toList).dropWhile fun c ↦ c = '.').map Char.toLower)

/-- The stored form of a list of file types. -/
def canonicalFileTypes (extensions : List String) : List String :=
  (extensions.map canonicalFileType).filter fun t ↦ !t.isEmpty

structure WalkSettings where
  /-- Extensions in canonical form; without any, every file is accepted. -/
  fileTypes : List String
  /-- The label of the encoding of the files. -/
  encoding : String
  /-- Exclusion patterns, as they were given. -/
  excluded : List String
  followLinks : Bool
deriving DecidableEq, Repr

namespace WalkSettings

def default : WalkSettings := ⟨[], "utf-8", [], false⟩

def withFileTypes (s : WalkSettings) (extensions : List String) : WalkSettings :=
  { s with fileTypes := canonicalFileTypes extensions }

open Text.Quoted in
def describe (s : WalkSettings) : String :=
  "FileTreeWalker \x7b allowed_file_types: " ++ quoteList s.fileTypes ++
    ", file_encoding: " ++ quote s.encoding ++
    ", excluded_files: " ++ quoteList s.excluded ++
    ", follow_links: " ++ toString s.followLinks ++ " \x7d"

end WalkSettings

end SourceSurvey
