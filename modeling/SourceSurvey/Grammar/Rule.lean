/-!
Rules of a grammar. A rule says what a piece of a text may look like: fixed texts, patterns of
characters and the names of other rules, in sequence, in choice or repeated. Marks on a rule settle
ambiguities, glue it into one token, or give it another name in the tree.
-/

namespace SourceSurvey.Grammar

/-- How strongly a rule binds. -/
inductive Precedence where
  | none
  | level (n : Int)
  | named (name : String)
deriving DecidableEq, Repr, Inhabited, Hashable

inductive Associativity where
  | left
  | right
deriving DecidableEq, Repr, Hashable

/-- The name of a node in the tree, and whether it counts as a named node. -/
structure Label where
  text : String
  isNamed : Bool
deriving DecidableEq, Repr, Inhabited, Hashable

structure Marks where
  precedence : Precedence
  associativity : Option Associativity
  /-- Chooses between whole trees when a text can be read in several ways. -/
  weight : Int
  label : Option Label
  isToken : Bool
  /-- The token does not let blanks come before it. -/
  isImmediate : Bool
  /-- Reserved words may stand for the plain words in it. -/
  isUnreserved : Bool
  /-- It has a role of its own in what it is a part of. -/
  hasRole : Bool
deriving DecidableEq, Repr

def Marks.plain : Marks := ⟨.none, none, 0, none, false, false, false, false⟩

/-- What a rule refers to. -/
inductive Symbol where
  | token (index : Nat)
  | external (index : Nat)
  | variable (index : Nat)
deriving DecidableEq, Repr, Inhabited, Hashable

inductive Rule where
  | blank
  | text (s : String)
  | pattern (source : String)
  | name (s : String)
  | symbol (s : Symbol)
  | seq (members : List Rule)
  | choice (members : List Rule)
  /-- One or more times. -/
  | many (content : Rule)
  | marked (marks : Marks) (content : Rule)
deriving Repr, Inhabited

namespace Rule

mutual

def same : Rule → Rule → Bool
  | blank, blank => true
  | text a, text b => a = b
  | pattern a, pattern b => a = b
  | name a, name b => a = b
  | symbol a, symbol b => a = b
  | seq as, seq bs => sameList as bs
  | choice as, choice bs => sameList as bs
  | many a, many b => same a b
  | marked m a, marked n b => m = n && same a b
  | _, _ => false

def sameList : List Rule → List Rule → Bool
  | [], [] => true
  | a :: as, b :: bs => same a b && sameList as bs
  | _, _ => false

end

instance : BEq Rule := ⟨same⟩

/-- The alternatives of a rule, itself if it is no choice. -/
def alternatives : Rule → List Rule
  | choice members => members
  | r => [r]

/-- A choice without choices directly inside, and without repetitions. -/
def either (members : List Rule) : Rule :=
  .choice ((members.flatMap alternatives).foldl
    (fun kept r ↦ if kept.contains r then kept else kept ++ [r]) [])

def optional (r : Rule) : Rule := either [r, blank]

/-- Zero or more times. -/
def any (r : Rule) : Rule := either [many r, blank]

/-- One or more times, with commas between. -/
def commas (r : Rule) : Rule := .seq [r, any (.seq [.text ",", r])]

/-- Changes the marks of a rule. The marks of a token stay apart from those around it. -/
def mark (change : Marks → Marks) : Rule → Rule
  | marked m r => if m.isToken then marked (change .plain) (marked m r) else marked (change m) r
  | r => marked (change .plain) r

end Rule

end SourceSurvey.Grammar
