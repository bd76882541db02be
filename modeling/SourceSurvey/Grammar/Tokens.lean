import Std.Data.HashMap
import SourceSurvey.Grammar.Basic

/-!
Separating the tokens of a grammar from its rules. Every fixed text, pattern and marked token becomes
a token of its own, in the order of first use, and the rules refer to it. A rule that is nothing but a
token used nowhere else gives the token its name and disappears.
-/

namespace SourceSurvey.Grammar

structure Token where
  name : String
  kind : Kind
  /-- What the token looks like: no names and no symbols. -/
  rule : Rule
  uses : Nat
deriving Repr, Inhabited

structure Variable where
  name : String
  kind : Kind
  rule : Rule
deriving Repr, Inhabited

structure External where
  name : String
  kind : Kind
  /-- The token of the same look that needs no scanner. -/
  token : Option Nat
deriving Repr, Inhabited

/-- A grammar whose rules refer to symbols only. -/
structure Separated where
  heads : Array Variable
  tokens : Array Token
  externals : Array External
  /-- What may stand before any token that is not immediate, as part of it. -/
  separators : List Rule
  /-- Symbols that may stand anywhere. -/
  extras : List Symbol
  inlined : List Symbol
  word : Option Nat
deriving Repr

namespace Tokens

/-! ## Names -/

abbrev Names := Std.HashMap String Symbol

/-- What the names of a grammar refer to: its rules first, then its external tokens. -/
def names (g : Grammar) : Names :=
  let externals := (g.externals.zipIdx).foldl (fun (names : Names) (r, i) ↦
    match r with
    | .name s => names.insert s (.external i)
    | _ => names) {}
  (g.rules.zipIdx).foldl (fun names (r, i) ↦ names.insert r.1 (.variable i)) externals

mutual

def resolve (names : Names) : Rule → Rule
  | .name s => (names[s]?.map Rule.symbol).getD .blank
  | .seq members => .seq (resolveAll names members)
  | .choice members => .choice (resolveAll names members)
  | .many content => .many (resolve names content)
  | .marked m content => .marked m (resolve names content)
  | r => r

def resolveAll (names : Names) : List Rule → List Rule
  | [] => []
  | r :: rs => resolve names r :: resolveAll names rs

end

/-! ## Extraction -/

structure Extraction where
  tokens : Array Token
  /-- The rule under way, and how many tokens it has without a text. -/
  owner : String
  unnamed : Nat

abbrev Extract := StateM Extraction

/-- The number of a token that looks like `r`, a new one if there is none yet. -/
def tokenOf (r : Rule) (text : Option String) : Extract Rule := do
  let s ← get
  match s.tokens.findIdx? fun t ↦ t.rule == r with
  | some i =>
    set { s with tokens := s.tokens.modify i fun t ↦ { t with uses := t.uses + 1 } }
    pure (.symbol (.token i))
  | none =>
    let token := match text with
      | some name => ⟨name, .anonymous, r, 1⟩
      | none => ⟨s.owner ++ "_token" ++ toString (s.unnamed + 1), .auxiliary, r, 1⟩
    set { s with
      tokens := s.tokens.push token
      unnamed := if text.isNone then s.unnamed + 1 else s.unnamed }
    pure (.symbol (.token s.tokens.size))

mutual

def extract : Rule → Extract Rule
  | .text s => tokenOf (.text s) (some s)
  | .pattern p => tokenOf (.pattern p) none
  | .seq members => Rule.seq <$> extractAll members
  | .choice members => Rule.choice <$> extractAll members
  | .many content => Rule.many <$> extract content
  | .marked m content =>
    if m.isToken then
      let rest := { m with isToken := false }
      tokenOf (if rest = .plain then content else .marked m content)
        (match content with | .text s => some s | _ => none)
    else Rule.marked m <$> extract content
  | r => pure r

def extractAll : List Rule → Extract (List Rule)
  | [] => pure []
  | r :: rs => do
    let r ← extract r
    let rs ← extractAll rs
    pure (r :: rs)

end

def extractVariable (v : Variable) : Extract Variable := do
  modify fun s ↦ { s with owner := v.name, unnamed := 0 }
  let rule ← extract v.rule
  pure { v with rule := rule }

/-! ## Renaming symbols -/

mutual

def rename (f : Symbol → Symbol) : Rule → Rule
  | .symbol s => .symbol (f s)
  | .seq members => .seq (renameAll f members)
  | .choice members => .choice (renameAll f members)
  | .many content => .many (rename f content)
  | .marked m content => .marked m (rename f content)
  | r => r

def renameAll (f : Symbol → Symbol) : List Rule → List Rule
  | [] => []
  | r :: rs => rename f r :: renameAll f rs

end

/-- Whether the variable is nothing but a token used nowhere else, which then takes its name. -/
def soleToken? (tokens : Array Token) (index : Nat) (v : Variable) : Option Nat :=
  match v.rule with
  | .symbol (.token i) =>
    let t := tokens.getD i default
    if index > 0 && t.uses = 1 && (t.kind = .auxiliary || v.kind ≠ .hidden) then some i else none
  | _ => none

structure Merged where
  heads : Array Variable
  tokens : Array Token
  /-- What has become of each variable. -/
  fate : Array Symbol

/-- Lets tokens take the names of the variables that are nothing else. -/
def mergeSole (heads : Array Variable) (tokens : Array Token) : Merged :=
  heads.zipIdx.foldl (fun merged (v, i) ↦
    match soleToken? tokens i v with
    | some t =>
      { merged with
        tokens := merged.tokens.modify t fun token ↦ { token with name := v.name, kind := v.kind }
        fate := merged.fate.push (.token t) }
    | none =>
      { merged with
        heads := merged.heads.push v
        fate := merged.fate.push (.variable merged.heads.size) })
    ⟨#[], tokens, #[]⟩

def Merged.rename (m : Merged) : Symbol → Symbol
  | .variable i => m.fate.getD i (.variable i)
  | s => s

end Tokens

open Tokens in
/-- Separates the tokens of a grammar from its rules. -/
def separate (g : Grammar) : Separated :=
  let names := names g
  let heads := (g.rules.map fun (name, r) ↦
    (⟨name, if g.supertypes.contains name then .hidden else .ofName name, resolve names r⟩ :
      Variable)).toArray
  let outside := (g.externals.map fun r ↦
    match r with
    | .name s => (⟨s, .ofName s, resolve names r⟩ : Variable)
    | r => ⟨"", .anonymous, r⟩).toArray
  let ((heads, outside), extraction) := (do
    let heads ← heads.mapM extractVariable
    let outside ← outside.mapM extractVariable
    pure (heads, outside) : Extract _).run ⟨#[], "", 0⟩
  let merged := mergeSole heads extraction.tokens
  let rule (r : Rule) : Rule := Tokens.rename merged.rename r
  let symbol? (name : String) : Option Symbol := (names[name]?).map merged.rename
  let extras := g.extras.map (resolve names)
  let anywhere := extras.filterMap fun r ↦
    match r with
    | .symbol s => some (merged.rename s)
    | r => (merged.tokens.findIdx? fun t ↦ t.rule == r).map Symbol.token
  let separators := extras.filter fun r ↦
    match r with
    | .symbol _ => false
    | r => (merged.tokens.findIdx? fun t ↦ t.rule == r).isNone
  ⟨merged.heads.map fun v ↦ { v with rule := rule v.rule },
    merged.tokens,
    outside.map fun v ↦
      match rule v.rule with
      | .symbol (.token t) => ⟨(merged.tokens.getD t default).name, v.kind, some t⟩
      | _ => ⟨v.name, v.kind, none⟩,
    separators,
    anywhere,
    g.inlined.filterMap symbol?,
    (g.word.bind symbol?).bind fun s ↦
      match s with
      | .token i => some i
      | _ => none⟩

end SourceSurvey.Grammar
