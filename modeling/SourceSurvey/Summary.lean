import SourceSurvey.Json.Typed

/-! The totals of a survey. -/

namespace SourceSurvey

structure Summary where
  filesAnalyzed : UInt64
  nodesVisited : UInt64
  /-- Files with errors in their trees. -/
  filesWithErrors : UInt64
deriving DecidableEq, Repr

namespace Summary

def zero : Summary := ⟨0, 0, 0⟩

def toValue (s : Summary) : Json.Value :=
  .object [
    ("files_analyzed", .natural s.filesAnalyzed.toNat),
    ("nodes_visited", .natural s.nodesVisited.toNat),
    ("files_with_errors", .natural s.filesWithErrors.toNat)]

def number (v : Json.Value) (name : String) : UInt64 :=
  UInt64.ofNat (((v.get? name).bind (·.natural?)).getD 0)

def ofValue (v : Json.Value) : Summary :=
  ⟨number v "files_analyzed", number v "nodes_visited", number v "files_with_errors"⟩

def reader : Json.Reader Summary :=
  let count := Json.Value.natural <$> Json.Reader.natural "usize" UInt64.size
  ofValue <$> Json.Reader.record "AnalysisSummary" false
    [⟨"files_analyzed", count⟩, ⟨"nodes_visited", count⟩, ⟨"files_with_errors", count⟩]

def describe (s : Summary) : String :=
  "AnalysisSummary \x7b files_analyzed: " ++ toString s.filesAnalyzed ++
    ", nodes_visited: " ++ toString s.nodesVisited ++
    ", files_with_errors: " ++ toString s.filesWithErrors ++ " \x7d"

end Summary

end SourceSurvey
