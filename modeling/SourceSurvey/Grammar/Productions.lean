import SourceSurvey.Grammar.Tokens

/-!
Rules as productions: lists of alternatives without choice or repetition. A repetition becomes a
variable of its own that stands for one piece or for two of itself.
-/

namespace SourceSurvey.Grammar

/-- A symbol of a production, with the marks that hold there. -/
structure Step where
  symbol : Symbol
  precedence : Precedence
  associativity : Option Associativity
  label : Option Label
  /-- A reserved word may stand for a plain word. -/
  isUnreserved : Bool
  hasRole : Bool
deriving DecidableEq, Repr, Inhabited, Hashable

structure Production where
  steps : List Step
  weight : Int
deriving DecidableEq, Repr, Inhabited

structure Head where
  name : String
  kind : Kind
  productions : List Production
deriving Repr, Inhabited

namespace Productions

/-! ## Repetitions -/

structure Expansion where
  /-- How many variables there are already. -/
  offset : Nat
  added : Array Variable
  /-- Repeated contents, with the variables that repeat them. -/
  known : List (Rule × Symbol)
  owner : String
  count : Nat

abbrev Expand := StateM Expansion

/-- One piece, or two of itself. -/
def doubled (s : Symbol) (piece : Rule) : Rule :=
  .either [.seq [.symbol s, .symbol s], piece]

mutual

def expand : Rule → Expand Rule
  | .seq members => Rule.seq <$> expandAll members
  | .choice members => Rule.choice <$> expandAll members
  | .marked m content => Rule.marked m <$> expand content
  | .many content => do
    let piece ← expand content
    let s ← get
    match s.known.find? fun known ↦ known.1 == piece with
    | some (_, symbol) => pure (.symbol symbol)
    | none =>
      let symbol := Symbol.variable (s.offset + s.added.size)
      let name := s.owner ++ "_repeat" ++ toString (s.count + 1)
      set { s with
        added := s.added.push ⟨name, .auxiliary, doubled symbol piece⟩
        known := (piece, symbol) :: s.known
        count := s.count + 1 }
      pure (.symbol symbol)
  | r => pure r

def expandAll : List Rule → Expand (List Rule)
  | [] => pure []
  | r :: rs => do
    let r ← expand r
    let rs ← expandAll rs
    pure (r :: rs)

end

def expandVariable (index : Nat) (v : Variable) : Expand Variable := do
  modify fun s ↦ { s with owner := v.name, count := 0 }
  match v.kind, v.rule with
  | .hidden, .many content =>
    let piece ← expand content
    pure ⟨v.name, .auxiliary, doubled (.variable index) piece⟩
  | _, rule =>
    let rule ← expand rule
    pure { v with rule := rule }

def expandVariables (all : Array Variable) : Array Variable :=
  let (all, s) := (all.zipIdx.mapM fun (v, i) ↦ expandVariable i v : Expand _).run
    ⟨all.size, #[], [], "", 0⟩
  all ++ s.added

/-! ## Alternatives -/

mutual

def alternatives : Rule → List Rule
  | .seq members => (sequences members).map Rule.seq
  | .choice members => alternativesOfAll members
  | .marked m content => (alternatives content).map (Rule.marked m)
  | r => [r]

/-- All ways to choose one alternative of each member. -/
def sequences : List Rule → List (List Rule)
  | [] => [[]]
  | r :: rs =>
    let rest := sequences rs
    (alternatives r).flatMap fun first ↦ rest.map fun others ↦ first :: others

def alternativesOfAll : List Rule → List Rule
  | [] => []
  | r :: rs => alternatives r ++ alternativesOfAll rs

end

/-- The marks around a place, the innermost first. -/
structure Surroundings where
  precedences : List Precedence
  associativities : List Associativity
  labels : List Label
  isUnreserved : Bool
  hasRole : Bool

structure Flattening where
  /-- The steps so far, the last first. -/
  steps : List Step
  weight : Int

/-- Changes the last step. -/
def Flattening.amend (f : Flattening) (change : Step → Step) : Flattening :=
  match f.steps with
  | s :: rest => { f with steps := change s :: rest }
  | [] => f

def larger (a b : Int) : Int := if b.natAbs > a.natAbs then b else a

mutual

/-- Appends the steps of a rule without choices. The last step takes its precedence and associativity
from outside, unless it ends the production. Also says whether there was any step. -/
def flatten (around : Surroundings) (atEnd : Bool) :
    Rule → Flattening → Flattening × Bool
  | .seq members, f => flattenAll around atEnd members f
  | .marked m content, f =>
    let inside : Surroundings :=
      ⟨if m.precedence = .none then around.precedences else m.precedence :: around.precedences,
       m.associativity.toList ++ around.associativities,
       m.label.toList ++ around.labels,
       m.isUnreserved || around.isUnreserved,
       m.hasRole || around.hasRole⟩
    let f := { f with weight := larger f.weight m.weight }
    let (f, pushed) := flatten inside atEnd content f
    if pushed && !atEnd then
      let f := if m.precedence = .none then f
        else f.amend fun s ↦ { s with precedence := around.precedences.headD .none }
      let f := if m.associativity.isNone then f
        else f.amend fun s ↦ { s with associativity := around.associativities.head? }
      (f, true)
    else (f, pushed)
  | .symbol s, f =>
    ({ f with steps :=
        ⟨s, around.precedences.headD .none, around.associativities.head?, around.labels.head?,
          around.isUnreserved, around.hasRole⟩ :: f.steps }, true)
  | _, f => (f, false)

def flattenAll (around : Surroundings) (atEnd : Bool) :
    List Rule → Flattening → Flattening × Bool
  | [], f => (f, false)
  | [r], f => flatten around atEnd r f
  | r :: rs, f =>
    let (f, a) := flatten around false r f
    let (f, b) := flattenAll around atEnd rs f
    (f, a || b)

end

def production (r : Rule) : Production :=
  let (f, _) := flatten ⟨[], [], [], false, false⟩ true r ⟨[], 0⟩
  ⟨f.steps.reverse, f.weight⟩

def head (v : Variable) : Head :=
  ⟨v.name, v.kind, ((alternatives v.rule).map production).eraseDups⟩

/-! ## Labels that always go with a symbol -/

/-- The labels that a symbol is given somewhere, with how often; none if it also appears bare. -/
structure Usage where
  bare : Bool
  labels : List (Label × Nat)
deriving Inhabited

def Usage.add (u : Usage) : Option Label → Usage
  | none => { u with bare := true }
  | some label =>
    if u.labels.any fun entry ↦ entry.1 = label then
      { u with labels := u.labels.map fun entry ↦
          if entry.1 = label then (label, entry.2 + 1) else entry }
    else { u with labels := u.labels ++ [(label, 1)] }

/-- The label given most often, the first of those. -/
def Usage.usual? (u : Usage) : Option Label :=
  if u.bare then none
  else
    (u.labels.foldl (fun (best : Option (Label × Nat)) entry ↦
      match best with
      | some b => if entry.2 > b.2 then some entry else best
      | none => some entry) none).map (·.1)

abbrev Usual := Std.HashMap Symbol Label

def usualLabels (heads : Array Head) (extras inlined : List Symbol) : Usual :=
  let usages : Std.HashMap Symbol Usage := heads.foldl (fun usages h ↦
    h.productions.foldl (fun usages p ↦
      p.steps.foldl (fun usages s ↦
        if inlined.contains s.symbol then usages
        else usages.insert s.symbol ((usages.getD s.symbol ⟨false, []⟩).add s.label)) usages) usages) {}
  let usages := extras.foldl (fun usages s ↦
    usages.insert s ((usages.getD s ⟨false, []⟩).add none)) usages
  usages.fold (fun usual s u ↦
    match u.usual? with
    | some label => usual.insert s label
    | none => usual) {}

/-- Whether another production needs the label at the same place, because its symbol there usually has
another one. -/
def neededBy (usual : Usual) (label : Label) (place : Nat) (p : Production) : Bool :=
  match p.steps[place]? with
  | some s => s.label = some label && usual[s.symbol]? ≠ some label
  | none => false

/-- Leaves out the labels that go without saying. -/
def dropUsual (usual : Usual) (h : Head) : Head :=
  { h with productions := h.productions.zipIdx.map fun (p, i) ↦
      let others := (h.productions.zipIdx.filter fun (_, k) ↦ k ≠ i).map (·.1)
      { p with steps := p.steps.zipIdx.map fun (s, j) ↦
          match s.label with
          | some label =>
            if usual[s.symbol]? = some label && !others.any (neededBy usual label j) then
              { s with label := none }
            else s
          | none => s } }

/-! ## Inlining -/

/-- Puts the steps of a production in the place of a symbol. -/
def splice (before : List Step) (s : Step) (after : List Step) (weight : Int) (p : Production) :
    Production :=
  let inserted := p.steps.map fun t ↦
    { t with
      label := if s.label.isSome then s.label else t.label
      hasRole := s.hasRole || t.hasRole }
  let inserted := match inserted.reverse with
    | [] => []
    | last :: rest =>
      let last := if last.precedence = .none then { last with precedence := s.precedence } else last
      let last := if last.associativity.isNone then { last with associativity := s.associativity }
        else last
      (last :: rest).reverse
  ⟨before ++ inserted ++ after, larger weight p.weight⟩

/-- Replaces inlined symbols from a place on, at most `fuel` of them on one way. -/
def inlineFrom (heads : Array Head) (inlined : List Symbol) :
    Nat → Nat → Production → List Production
  | 0, _, p => [p]
  | fuel + 1, place, p =>
    match p.steps.drop place with
    | [] => [p]
    | s :: after =>
      match s.symbol with
      | .variable v =>
        if inlined.contains s.symbol then
          (heads.getD v default).productions.flatMap fun q ↦
            inlineFrom heads inlined fuel place (splice (p.steps.take place) s after p.weight q)
        else inlineFrom heads inlined fuel (place + 1) p
      | _ => inlineFrom heads inlined fuel (place + 1) p

def inlineAll (heads : Array Head) (inlined : List Symbol) : Array Head :=
  if inlined.isEmpty then heads
  else heads.map fun h ↦
    { h with productions := (h.productions.flatMap (inlineFrom heads inlined 100 0)).eraseDups }

end Productions

/-- A grammar as productions. -/
structure Flat where
  heads : Array Head
  tokens : Array Token
  externals : Array External
  separators : List Rule
  extras : List Symbol
  inlined : List Symbol
  word : Option Nat
  /-- The labels that symbols have when nothing else is said. -/
  usual : Productions.Usual

open Productions in
def flatten (g : Separated) : Flat :=
  let heads := (expandVariables g.heads).map head
  let usual := usualLabels heads g.extras g.inlined
  let heads := heads.map (dropUsual usual)
  ⟨inlineAll heads g.inlined, g.tokens, g.externals, g.separators, g.extras, g.inlined, g.word,
    usual⟩

end SourceSurvey.Grammar
