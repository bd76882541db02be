import SourceSurvey.Parsing.Symbols

/-!
Productions under way. An item is a production with a place in it; two items are one if nothing that is
still to come, and nothing in the node that it makes, tells them apart. Items are numbered by place
first, then by variable.

Beside the items stand the sets that follow from the productions: the tokens that a symbol may begin
with, those that may come after it, and what a variable stands for at its beginning.
-/

namespace SourceSurvey.Parsing

open Grammar

/-- What an item makes when it is complete. -/
structure Reduction where
  symbol : Nat
  count : Nat
  weight : Int
  /-- By place: the name that a part takes in the tree. -/
  labels : List (Option Label)
  /-- Some part has a role of its own. -/
  hasRoles : Bool
deriving DecidableEq, Repr, Inhabited

structure Item where
  /-- Counted from zero; the one past the last is the whole text. -/
  head : Nat
  place : Nat
  /-- The symbol behind the place. -/
  next : Option Nat
  /-- The tokens that this symbol may begin with. -/
  nextFirst : TokenSet
  /-- The item behind that symbol. -/
  after : Nat
  /-- Marks of the step before the place. -/
  precedence : Precedence
  associativity : Option Associativity
  reduction : Reduction
deriving Repr, Inhabited

/-- What a variable begins with, directly or through other variables. -/
structure Opening where
  head : Nat
  /-- Tokens that may follow it there. -/
  lookaheads : TokenSet
  /-- What follows the outer variable may follow it too. -/
  isLast : Bool
deriving Repr, Inhabited

structure Items where
  items : Array Item
  /-- The item of a whole text, at its beginning. -/
  whole : Nat
  /-- By variable: the symbols that its productions begin with, and the items behind these. -/
  beginnings : Array (Array (Nat × Nat))
  /-- Variables that have a production without steps, and its item. -/
  empty : List (Nat × Nat)
  /-- By variable: the tokens that its productions begin with. -/
  initial : Array TokenSet
  /-- By symbol: the tokens that it may begin with. -/
  first : Array TokenSet
  openings : Array (Array Opening)
  /-- The items behind the first token of each production of a rule that may stand anywhere. -/
  interposed : List (Nat × List Nat)

namespace Items

def item (items : Items) (i : Nat) : Item := items.items.getD i default

/-- A production by numbers. -/
structure Line where
  head : Nat
  symbols : Array Nat
  steps : Array Step
  weight : Int
deriving Inhabited

/-- What tells items apart. -/
structure Key where
  place : Nat
  head : Nat
  weight : Int
  length : Nat
  precedence : Precedence
  associativity : Option Associativity
  labels : List (Option Label)
  roles : List Bool
  rest : List Step
deriving DecidableEq, Hashable

def Line.before (l : Line) (place : Nat) : Option Step :=
  if place = 0 then none else l.steps[place - 1]?

def Line.key (l : Line) (place : Nat) : Key :=
  ⟨place, l.head, l.weight, l.steps.size,
    ((l.before place).map (·.precedence)).getD .none, (l.before place).bind (·.associativity),
    (l.steps.toList.take place).map (·.label), (l.steps.toList.take place).map (·.hasRole),
    l.steps.toList.drop place⟩

/-- The order of the numbers of items. -/
def Key.before (a b : Key × Nat) : Bool :=
  let x := a.1
  let y := b.1
  if x.place ≠ y.place then x.place < y.place
  else if x.head ≠ y.head then x.head < y.head
  else if x.weight ≠ y.weight then x.weight < y.weight
  else if x.length ≠ y.length then x.length < y.length
  else a.2 < b.2

def linesOf (g : Flat) : Array Line :=
  let lines := g.heads.zipIdx.flatMap fun (h, v) ↦
    if g.inlined.contains (.variable v) then #[]
    else h.productions.toArray.map fun p ↦
      ⟨v, (p.steps.map fun s ↦ numberOf g s.symbol).toArray, p.steps.toArray, p.weight⟩
  lines.push ⟨g.heads.size, #[numberOf g (.variable 0)],
    #[⟨.variable 0, .none, none, none, false, false⟩], 0⟩

/-- Repeats a step until it changes nothing, at most so many times. -/
def settle (rounds : Nat) (step : Array TokenSet → Array TokenSet) (sets : Array TokenSet) :
    Array TokenSet :=
  match rounds with
  | 0 => sets
  | n + 1 =>
    let sets' := step sets
    if sets' == sets then sets else settle n step sets'

def grow (sets : Array TokenSet) (i : Nat) (more : TokenSet) : Array TokenSet :=
  sets.modify i fun set ↦ set ||| more

/-- The tokens that a step of a line may begin with. -/
def firstAt (symbols : Symbols) (first : Array TokenSet) (l : Line) (place : Nat) : TokenSet :=
  match l.symbols[place]? with
  | some s =>
    let isUnreserved := symbols.word = some s && (l.steps[place]?).any (·.isUnreserved)
    first.getD s 0 ||| if isUnreserved then TokenSet.single symbols.unreservedWord else 0
  | none => 0

def firstSets (symbols : Symbols) (lines : Array Line) (size : Nat) : Array TokenSet :=
  let initial := (Array.range size).map fun i ↦
    if i < symbols.tokenCount then TokenSet.single i else 0
  settle size (fun sets ↦ lines.foldl (fun sets l ↦
    grow sets (symbols.firstVariable + l.head) (firstAt symbols sets l 0)) sets) initial

/-- A variable that productions of another begin with. -/
structure Edge where
  target : Nat
  lookaheads : TokenSet
  isLast : Bool
deriving Inhabited

def Edge.insert (edges : Array Edge) (e : Edge) : Array Edge :=
  match edges.findIdx? fun f ↦ f.target = e.target with
  | some i => edges.modify i fun f ↦
    ⟨f.target, f.lookaheads ||| e.lookaheads, f.isLast || e.isLast⟩
  | none => edges.push e

def edgesOf (symbols : Symbols) (lines : Array Line) (first : Array TokenSet) (headCount : Nat) :
    Array (Array Edge) :=
  lines.foldl (fun edges l ↦
    match l.symbols[0]? with
    | some s =>
      if symbols.firstVariable ≤ s then
        let edge : Edge := match l.symbols[1]? with
          | some _ => ⟨s - symbols.firstVariable, firstAt symbols first l 1, false⟩
          | none => ⟨s - symbols.firstVariable, 0, true⟩
        edges.modify l.head fun es ↦ Edge.insert es edge
      else edges
    | none => edges) (Array.replicate (headCount + 1) #[])

/-- What is known of the variables at a beginning: whether each is there, the tokens that may follow,
and whether it may be last. -/
abbrev Reached := Array (Option (TokenSet × Bool))

/-- Follows the edges from what is still to be looked at. -/
def reach (edges : Array (Array Edge)) : Nat → List (Nat × TokenSet × Bool) → Reached → Reached
  | 0, _, reached => reached
  | _, [], reached => reached
  | fuel + 1, (v, look, last) :: rest, reached =>
    let old := (reached[v]?).join
    let new : TokenSet × Bool := match old with
      | some (l, b) => (l ||| look, b || last)
      | none => (look, last)
    if old = some new then reach edges fuel rest reached
    else
      let more := (edges.getD v #[]).foldl (fun more e ↦
        let more := if e.isLast then (e.target, look, last) :: more else more
        if e.lookaheads = 0 then more else (e.target, e.lookaheads, false) :: more) rest
      reach edges fuel more (reached.setIfInBounds v (some new))

def openingsOf (edges : Array (Array Edge)) (headCount : Nat) (v : Nat) : Array Opening :=
  let reached := reach edges (headCount * headCount * 4 + 16) [(v, 0, true)]
    (Array.replicate (headCount + 1) none)
  reached.zipIdx.filterMap fun (entry, w) ↦ entry.map fun (look, last) ↦ ⟨w, look, last⟩

def ofGrammar (g : Flat) (symbols : Symbols) : Items :=
  let lines := linesOf g
  let headCount := g.heads.size
  let size := symbols.firstVariable + headCount + 1
  let keyed : Array (Nat × Nat × Key) := lines.zipIdx.flatMap fun (l, i) ↦
    (Array.range (l.symbols.size + 1)).map fun place ↦ (i, place, l.key place)
  let known : Std.HashMap Key Nat := keyed.foldl (fun known (i, _, k) ↦
    if known.contains k then known else known.insert k i) {}
  let sorted := (known.toList.mergeSort Key.before).toArray
  let ids : Std.HashMap Key Nat := sorted.zipIdx.foldl (fun ids ((k, _), id) ↦ ids.insert k id) {}
  let first := firstSets symbols lines size
  let items := sorted.map fun (k, i) ↦
    let l := lines.getD i default
    { head := k.head
      place := k.place
      next := l.symbols[k.place]?
      nextFirst := firstAt symbols first l k.place
      after := if k.place < l.symbols.size then ids.getD (l.key (k.place + 1)) 0 else 0
      precedence := k.precedence
      associativity := k.associativity
      reduction := ⟨symbols.firstVariable + k.head, k.place, k.weight,
        (l.steps.toList.map (·.label)), l.steps.any (·.hasRole)⟩ : Item }
  let extras := g.extras.map (numberOf g)
  let edges := edgesOf symbols lines first headCount
  let behindFirst (l : Line) : Nat := ids.getD (l.key 1) 0
  { items := items
    whole := ids.getD ((lines.back?.getD default).key 0) 0
    beginnings := lines.foldl (fun table l ↦
      match l.symbols[0]? with
      | some s => table.modify l.head fun entries ↦
        if entries.contains (s, behindFirst l) then entries else entries.push (s, behindFirst l)
      | none => table) (Array.replicate (headCount + 1) #[])
    empty := lines.toList.filterMap fun l ↦
      if l.symbols.isEmpty then some (l.head, ids.getD (l.key 0) 0) else none
    initial := lines.foldl (fun sets l ↦
      match l.symbols[0]? with
      | some s => if s < symbols.tokenCount then grow sets l.head (firstAt symbols first l 0) else sets
      | none => sets) (Array.replicate (headCount + 1) 0)
    first := first
    openings := (Array.range (headCount + 1)).map (openingsOf edges headCount)
    interposed := lines.toList.foldl (fun table l ↦
      if extras.contains (symbols.firstVariable + l.head) then
        match l.symbols[0]? with
        | some s =>
          match table.find? fun (entry : Nat × List Nat) ↦ entry.1 = s with
          | some _ => table.map fun entry ↦
            if entry.1 = s then (s, (behindFirst l :: entry.2).eraseDups) else entry
          | none => table ++ [(s, [behindFirst l])]
        | none => table
      else table) [] }

end Items

end SourceSurvey.Parsing
