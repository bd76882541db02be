import SourceSurvey.Glob.Match
import SourceSurvey.Path
import SourceSurvey.Text.Blank

/-!
Exclusion patterns. A pattern without a separator is about the name of an entry, at any depth; one
with a separator is about the path below the root. A separator at the end asks for a directory, an
exclamation mark at the start takes an entry back in. Of the patterns that match, the last decides.
-/

namespace SourceSurvey.Exclusion

/-- A pattern without blanks around it and without one `./` in front; backslashes are separators. -/
def normalize (pattern : String) : List Char :=
  let cs := (Text.trim pattern.toList).map fun c ↦ if c = '\\' then '/' else c
  match cs with
  | '.' :: '/' :: rest => rest
  | _ => cs

structure Rule where
  glob : Glob.Pattern
  /-- Takes back in instead of excluding. -/
  negated : Bool
  directoriesOnly : Bool

/-- The parts of the line of a rule. -/
structure Line where
  negated : Bool
  /-- Whether a separator at the start was taken away. -/
  rooted : Bool
  directoriesOnly : Bool
  body : List Char

/-- The parts of a line, unless it is blank or a comment. -/
def Line.ofChars? (chars : List Char) : Option Line :=
  if chars.head? = some '#' then none
  else
    let line := Text.trimEnd chars
    if line.isEmpty then none
    else
      let negated := line.head? = some '!'
      let line := if negated then line.drop 1 else line
      let rooted := line.head? = some '/'
      let line := if rooted then line.drop 1 else line
      let directoriesOnly := line.getLast? = some '/'
      some ⟨negated, rooted, directoriesOnly, if directoriesOnly then line.dropLast else line⟩

def startsUpper (body : List Char) : Bool :=
  "**/".toList.isPrefixOf body || body = "**".toList

/-- The pattern that the body of a line stands for: a bare name is sought in every directory, and
`**` at the end asks for something inside. -/
def Line.glob (line : Line) : List Char :=
  let body :=
    if !line.rooted && !line.body.contains '/' && !startsUpper line.body then
      "**/".toList ++ line.body
    else line.body
  if "/**".toList.isSuffixOf body then body ++ "/*".toList else body

/-- What is wrong with a list of patterns. -/
structure Error where
  /-- The pattern as it was given, or all of them when only their combination fails. -/
  pattern : String
  /-- The pattern as it was read, if one pattern is to blame. -/
  glob : Option String
  reason : String

/-- The message of the reader of patterns. -/
def Error.cause (e : Error) : String :=
  match e.glob with
  | some glob => "error parsing glob '" ++ glob ++ "': " ++ e.reason
  | none => e.reason

/-- The rule of a pattern, if it has one. -/
def rule? (pattern : String) : Except Error (Option Rule) :=
  let chars := normalize pattern
  match Line.ofChars? chars with
  | none => .ok none
  | some line =>
    match Glob.read line.glob with
    | .ok glob => .ok (some ⟨glob, line.negated, line.directoriesOnly⟩)
    | .error e => .error ⟨pattern, some (String.ofList (Text.trimEnd chars)), e.message⟩

end Exclusion

/-- The rules of a walk, with the root that paths are seen from. -/
structure Exclusions where
  root : Path
  rules : List Exclusion.Rule

namespace Exclusions

open Exclusion

def empty : Exclusions := ⟨[], []⟩

def isEmpty (e : Exclusions) : Bool := e.rules.isEmpty

def here : Path := [Path.dot, Path.slash]

/-- Compiles patterns for the entries below a root. -/
def compile (root : Path) (patterns : List String) : Except Exclusion.Error Exclusions := do
  let rules := (← patterns.mapM rule?).filterMap id
  match Glob.refusal? (rules.map (·.glob)) with
  | some reason => throw ⟨", ".intercalate patterns, none, reason⟩
  | none => pure ⟨(Path.strip? here root).getD root, rules⟩

/-- The path as it is seen from the root. -/
def relative (e : Exclusions) (path : Path) : Path :=
  let path := (Path.strip? here path).getD path
  if e.root.isHere || !path.contains Path.slash then path
  else
    match Path.strip? e.root path with
    | none => path
    | some below => (Path.strip? [Path.slash] below).getD below

/-- Whether the last rule that is about the entry excludes it. -/
def excludes (e : Exclusions) (path : Path) (isDirectory : Bool) : Bool :=
  let below := e.relative path
  let last := e.rules.reverse.find? fun rule ↦
    (isDirectory || !rule.directoriesOnly) && Glob.isMatch rule.glob below
  last.any fun rule ↦ !rule.negated

end Exclusions

end SourceSurvey
