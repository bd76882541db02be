import SourceSurvey.Grammar.Productions

/-!
The symbols of a grammar by number: the end of the text, the tokens, those of the scanner, the end of
an interposed rule, and the variables. The word token comes first among the tokens.
-/

namespace SourceSurvey.Parsing

open Grammar

/-- A set of tokens; token `n` is the bit `n`. -/
abbrev TokenSet := Nat

def TokenSet.single (token : Nat) : TokenSet := 1 <<< token

structure Symbols where
  /-- By number: the name in the tree. -/
  labels : Array Label
  /-- By number: whether it shows in the tree. -/
  visible : Array Bool
  /-- How many numbers are tokens, the end of the text included. -/
  tokenCount : Nat
  word : Option Nat

namespace Symbols

/-- The end of the text. -/
def endOfText : Nat := 0

/-- Stands for skipped text. -/
def error : Nat := 65535

/-- Stands for skipped text while there may be more. -/
def errorPiece : Nat := 65534

variable (s : Symbols)

/-- What comes after a rule that may stand anywhere. -/
def endOfExtra : Nat := s.tokenCount

/-- In a set of tokens: a plain word for which a reserved one may stand. -/
def unreservedWord : Nat := s.tokenCount + 1

def firstVariable : Nat := s.tokenCount + 1

def isToken (symbol : Nat) : Bool := symbol < s.tokenCount

def label (symbol : Nat) : Label :=
  if symbol = error then ⟨"ERROR", true⟩ else s.labels.getD symbol ⟨"", false⟩

def isVisible (symbol : Nat) : Bool :=
  symbol = error || (symbol ≠ errorPiece && s.visible.getD symbol false)

end Symbols

/-- The number of a symbol. -/
def numberOf (g : Flat) : Symbol → Nat
  | .token i =>
    match g.word with
    | some w => if i = w then 1 else if i < w then i + 2 else i + 1
    | none => i + 1
  | .external i =>
    match (g.externals[i]?).bind (·.token) with
    | some t => numberOf g (.token t)
    | none => 1 + g.tokens.size + i
  | .variable i => 1 + g.tokens.size + g.externals.size + 1 + i
termination_by s => match s with | .external _ => 1 | _ => 0

namespace Symbols

/-- How a symbol shows: its name, and whether it is visible. -/
def appearance (name : String) (kind : Kind) : Option Label → Label × Bool
  | some label => (label, true)
  | none =>
    match kind with
    | .named => (⟨name, true⟩, true)
    | .anonymous => (⟨name, false⟩, true)
    | .hidden => (⟨name, true⟩, false)
    | .auxiliary => (⟨name, false⟩, false)

def ofGrammar (g : Flat) : Symbols :=
  let tokens := g.tokens.mapIdx fun i t ↦
    (numberOf g (.token i), appearance t.name t.kind g.usual[Symbol.token i]?)
  let externals := g.externals.mapIdx fun i e ↦
    (1 + g.tokens.size + i, appearance e.name e.kind g.usual[Symbol.external i]?)
  let heads := g.heads.mapIdx fun i h ↦
    (numberOf g (.variable i), appearance h.name h.kind g.usual[Symbol.variable i]?)
  let size := 1 + g.tokens.size + g.externals.size + 1 + g.heads.size
  let shown := (tokens ++ externals ++ heads).foldl
    (fun (shown : Array (Label × Bool)) (n, a) ↦ shown.setIfInBounds n a)
    (Array.replicate size (⟨"end", false⟩, false))
  ⟨shown.map (·.1), shown.map (·.2), 1 + g.tokens.size + g.externals.size,
    g.word.map fun w ↦ numberOf g (.token w)⟩

end Symbols

end SourceSurvey.Parsing
