import SourceSurvey.Exclusion
import SourceSurvey.IoError
import SourceSurvey.Json.Message

/-!
Everything that can go wrong in a survey, with its wording. A message may have causes: the message of
what failed inside, and so on inwards.
-/

namespace SourceSurvey

/-- What can go wrong on the way through the directories. -/
inductive WalkFailure where
  | io (path : Option Path) (e : IoError)
  /-- A followed link leads to a directory that it lies in. -/
  | loop (child ancestor : Path)

def WalkFailure.message : WalkFailure → String
  | .io none e => e.message
  | .io (some path) e => "IO error for operation on " ++ path.display ++ ": " ++ e.message
  | .loop child ancestor =>
    "File system loop found: " ++ child.display ++ " points to an ancestor " ++ ancestor.display

def WalkFailure.causes : WalkFailure → List String
  | .io _ e => [e.message]
  | .loop _ _ => []

inductive SurveyError where
  | io (path : Path) (e : IoError)
  | walk (failure : WalkFailure)
  | notADirectory (path : Path)
  | unknownEncoding (label : String)
  | invalidExclusion (e : Exclusion.Error)
  | unsupportedFileType (fileType : String)
  | parseFailed (path : String)
  | config (e : Json.Error)

namespace SurveyError

def message : SurveyError → String
  | io path e => "I/O error on " ++ path.display ++ ": " ++ e.message
  | walk failure => "failed to walk directory: " ++ failure.message
  | notADirectory path => path.display ++ " is not a directory"
  | unknownEncoding label => "unknown file encoding label: " ++ label
  | invalidExclusion e =>
    "invalid exclusion pattern " ++ Text.Quoted.quote e.pattern ++ ": " ++ e.cause
  | unsupportedFileType fileType =>
    "no grammar available for file type " ++ Text.Quoted.quote fileType
  | parseFailed path => "tree-sitter returned no tree for " ++ path
  | config e => "invalid analyzer configuration: " ++ e.message

/-- The messages of the causes, from the outside in. -/
def causes : SurveyError → List String
  | io _ e => [e.message]
  | walk failure => failure.message :: failure.causes
  | invalidExclusion e => [e.cause]
  | config e => [e.message]
  | _ => []

end SurveyError

end SourceSurvey
