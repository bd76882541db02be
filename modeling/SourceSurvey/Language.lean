/-!
The languages that can be parsed, their names, and the file extensions that select them.
-/

namespace SourceSurvey

inductive Language where
  | typeScript
  | tsx
  | javaScript
  | python
  | rust
  | go
  | java
  | json
  | yaml
deriving DecidableEq, Repr, Inhabited

namespace Language

def all : List Language :=
  [typeScript, tsx, javaScript, python, rust, go, java, json, yaml]

theorem mem_all (l : Language) : l ∈ all := by
  cases l <;> decide

def name : Language → String
  | typeScript => "typescript"
  | tsx => "tsx"
  | javaScript => "javascript"
  | python => "python"
  | rust => "rust"
  | go => "go"
  | java => "java"
  | json => "json"
  | yaml => "yaml"

/-- The name with capitals at the starts of its words. -/
def title : Language → String
  | typeScript => "TypeScript"
  | tsx => "Tsx"
  | javaScript => "JavaScript"
  | python => "Python"
  | rust => "Rust"
  | go => "Go"
  | java => "Java"
  | json => "Json"
  | yaml => "Yaml"

def names : List String := all.map name

def ofName? (s : String) : Option Language := all.find? fun l ↦ l.name == s

theorem ofName?_name (l : Language) : ofName? l.name = some l := by
  cases l <;> decide

/-- Extensions in lower case, without a dot. -/
def extensions : Language → List String
  | typeScript => ["ts", "mts", "cts"]
  | tsx => ["tsx"]
  | javaScript => ["js", "jsx", "mjs", "cjs"]
  | python => ["py", "pyi"]
  | rust => ["rs"]
  | go => ["go"]
  | java => ["java"]
  | json => ["json"]
  | yaml => ["yaml", "yml"]

/-- An extension without the dots in front, in lower case. Only ASCII letters have a case here. -/
def canonicalExtension (extension : String) : String :=
  String.ofList ((extension.toList.dropWhile fun c ↦ c = '.').map Char.toLower)

/-- The language of an extension, with or without dots in front, in any case. -/
def ofExtension? (extension : String) : Option Language :=
  let wanted := canonicalExtension extension
  all.find? fun l ↦ l.extensions.contains wanted

end Language

end SourceSurvey
