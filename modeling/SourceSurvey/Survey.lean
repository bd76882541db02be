import SourceSurvey.Config
import SourceSurvey.ParsedFile
import SourceSurvey.Summary
import SourceSurvey.Visit
import SourceSurvey.Walk

/-!
Surveys. A survey walks a directory tree, parses every accepted file, and shows it to its handlers: the
file before it is parsed, each node of its tree, and the file again. What one file is shown for is over
before the next one starts.

What a handler does is to change what the caller keeps.
-/

namespace SourceSurvey

structure Survey (σ : Type) where
  settings : WalkSettings
  /-- Whether only named nodes are shown. -/
  namedOnly : Bool
  onStart : Option (SourceFile → σ → σ)
  onNode : Option (ParsedFile → SyntaxNode → σ → σ)
  onEnd : Option (SourceFile → σ → σ)

namespace Survey

variable {σ : Type}

def default : Survey σ := ⟨WalkSettings.default.withFileTypes ["ts", "tsx"], false, none, none, none⟩

/-- The survey that a configuration describes; it shows nothing to anyone. -/
def ofConfig (c : Config) : Survey σ :=
  ⟨{ WalkSettings.default.withFileTypes c.fileTypes with
      encoding := c.encoding, excluded := c.excluded, followLinks := c.followLinks },
    c.namedOnly, none, none, none⟩

def describe (s : Survey σ) : String :=
  "CodeAnalyzer \x7b walker: " ++ s.settings.describe ++
    ", named_only: " ++ toString s.namedOnly ++
    ", on_file_start: " ++ toString s.onStart.isSome ++
    ", on_node: " ++ toString s.onNode.isSome ++
    ", on_file_end: " ++ toString s.onEnd.isSome ++ " \x7d"

/-- What a survey keeps while it runs: what its caller keeps, its totals, and the number of the file
that comes next. -/
structure Progress (σ : Type) where
  kept : σ
  summary : Summary
  nextId : UInt64

def handle (change : σ → σ) : Run (Progress σ) Unit :=
  modify fun world ↦ { world with kept := { world.kept with kept := change world.kept.kept } }

def count (change : Summary → Summary) : Run (Progress σ) Unit :=
  modify fun world ↦ { world with kept := { world.kept with summary := change world.kept.summary } }

/-- Sets the totals to nothing, and begins with the first number. -/
def begin : Run (Progress σ) Unit :=
  modify fun world ↦ { world with kept := ⟨world.kept.kept, .zero, 1⟩ }

/-- Takes the next number for a file. -/
def takeId : Run (Progress σ) FileId := do
  let id := (← get).kept.nextId
  modify fun world ↦ { world with kept := { world.kept with nextId := id + 1 } }
  pure ⟨id⟩

/-- Parses a file and shows it to the handlers. Where it cannot be parsed, only its start is shown. -/
def analyzeFile (s : Survey σ) (source : SourceFile) : Run (Progress σ) Unit := do
  let id ← takeId
  report .debug "analyzing file" [("path", source.path), ("language", source.language.name)]
  match s.onStart with
  | some onStart => handle (onStart source)
  | none => pure ()
  match ParsedFile.parse id source with
  | .error e => throw e
  | .ok file =>
    if file.hasErrors then
      report .warn "file has syntax errors" [("path", source.path)]
      count fun t ↦ { t with filesWithErrors := t.filesWithErrors + 1 }
    let showNode (n : SyntaxNode) (kept : σ) := s.onNode.elim kept fun onNode ↦ onNode file n kept
    let (kept, shown) := file.root.visit s.namedOnly showNode (← get).kept.kept
    handle fun _ ↦ kept
    count fun t ↦ { t with nodesVisited := t.nodesVisited + UInt64.ofNat shown }
    match s.onEnd with
    | some onEnd => handle (onEnd source)
    | none => pure ()
    count fun t ↦ { t with filesAnalyzed := t.filesAnalyzed + 1 }

/-- Analyzes a file that a walk hands on, if its language is known. -/
def analyzeFound (s : Survey σ) (f : FoundFile) : Run (Progress σ) Unit :=
  match Language.ofExtension? f.extension with
  | none => report .debug "no grammar for file, skipping" [("path", f.path.display)]
  | some language => s.analyzeFile ⟨f.path.display, f.stem, f.extension, language, f.content⟩

/-- The first file type without a language. -/
def unsupported? (s : Survey σ) : Option String :=
  s.settings.fileTypes.find? fun t ↦ (Language.ofExtension? t).isNone

/-- Surveys the tree below a root. Gives back the totals, or nothing if `steps` steps were not
enough. -/
def analyze (s : Survey σ) (steps : Nat) (root : Path) : Run (Progress σ) (Option Summary) := do
  match s.unsupported? with
  | some t => throw (.unsupportedFileType t)
  | none =>
    report .info "analyzing source tree"
      [("root", root.display), ("file_types", Text.Quoted.quoteList s.settings.fileTypes),
       ("excluded", Text.Quoted.quoteList s.settings.excluded), ("encoding", s.settings.encoding)]
    begin
    match ← walk s.settings steps root s.analyzeFound with
    | none => pure none
    | some _ =>
      let t := (← get).kept.summary
      report .info "analysis complete"
        [("files", toString t.filesAnalyzed), ("nodes", toString t.nodesVisited),
         ("files_with_errors", toString t.filesWithErrors)]
      pure (some t)

end Survey

end SourceSurvey
