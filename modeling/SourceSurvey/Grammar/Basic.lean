import SourceSurvey.Grammar.Reader

/-! Grammars of languages. -/

namespace SourceSurvey

/-- An entry of a list that orders how strongly rules bind, the strongest first: a named precedence, or
all of a rule. -/
inductive Grammar.Rank where
  | level (name : String)
  | rule (name : String)
deriving DecidableEq, Repr

structure Grammar where
  /-- Names and what they stand for; the first is what a whole text is. -/
  rules : List (String × Grammar.Rule)
  /-- What may stand between any two tokens. -/
  extras : List Grammar.Rule
  /-- Tokens that a scanner recognises. -/
  externals : List Grammar.Rule
  /-- Rules that are replaced by their content. -/
  inlined : List String
  /-- Rules that leave no node of their own, whatever their name. -/
  supertypes : List String
  /-- The token whose texts may be keywords. -/
  word : Option String
  ranks : List (List Grammar.Rank)
  /-- Keywords that are never read as a plain word. -/
  reserved : List String
deriving Repr

namespace Grammar

/-- How something shows in the tree: under its name, as its own text, or not at all. -/
inductive Kind where
  | named
  | anonymous
  | hidden
  | auxiliary
deriving DecidableEq, Repr, Inhabited

/-- A rule or a token without an underscore in front of its name shows under it. -/
def Kind.ofName (name : String) : Kind := if name.startsWith "_" then .hidden else .named

/-- Puts rules in the place of those of the same name, and the others behind. -/
def revise (rules changes : List (String × Rule)) : List (String × Rule) :=
  rules.map (fun (name, r) ↦ (name, (changes.lookup name).getD r)) ++
    changes.filter fun (name, _) ↦ !rules.any fun old ↦ old.1 = name

/-- Reads a list of rules, separated by blanks. -/
def ruleList (source : String) : List Rule :=
  match Reader.rule source with
  | .seq members => members
  | .blank => []
  | r => [r]

/-- Reads a list that orders precedences: named ones in quotes, rules without. -/
def rankList (source : String) : List Rank :=
  (ruleList source).filterMap fun r ↦
    match r with
    | .text s => some (.level s)
    | .name s => some (.rule s)
    | _ => none

/-- Reads a list of names, separated by blanks. -/
def nameList (source : String) : List String :=
  (ruleList source).filterMap fun r ↦
    match r with
    | .text s => some s
    | .name s => some s
    | _ => none

end Grammar

end SourceSurvey
