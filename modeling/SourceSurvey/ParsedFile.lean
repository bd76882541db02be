import SourceSurvey.Error
import SourceSurvey.Languages.Machines
import SourceSurvey.SourceFile
import SourceSurvey.SyntaxTree

/-! A source file with its syntax tree. -/

namespace SourceSurvey

structure ParsedFile where
  id : FileId
  source : SourceFile
  root : SyntaxNode

namespace ParsedFile

/-- Parses a file, whatever errors are in its text. It fails where the parse comes to no tree; that a
parser does not take the grammar of a language cannot happen with the grammars that there are. -/
def parse (id : FileId) (source : SourceFile) : Except SurveyError ParsedFile :=
  match source.language.machine.syntaxTree source.content with
  | some root => .ok ⟨id, source, root⟩
  | none => .error (.parseFailed source.path)

theorem parse_eq_error_iff {id : FileId} {source : SourceFile} {e : SurveyError} :
    parse id source = .error e ↔
      source.language.machine.syntaxTree source.content = none ∧ e = .parseFailed source.path := by
  rw [parse]
  cases source.language.machine.syntaxTree source.content <;> simp [eq_comm]

/-- A file that has been parsed holds its number and its source. -/
theorem eq_of_parse_eq_ok {id : FileId} {source : SourceFile} {file : ParsedFile}
    (h : parse id source = .ok file) : file.id = id ∧ file.source = source := by
  rw [parse] at h
  cases hroot : source.language.machine.syntaxTree source.content <;> rw [hroot] at h <;> cases h
  exact ⟨rfl, rfl⟩

def hasErrors (f : ParsedFile) : Bool := f.root.hasErrors

def locationOf (f : ParsedFile) (n : SyntaxNode) : Location := ⟨f.id, n.range⟩

def textOf (f : ParsedFile) (n : SyntaxNode) : String := n.textIn f.source.content

end ParsedFile

end SourceSurvey
