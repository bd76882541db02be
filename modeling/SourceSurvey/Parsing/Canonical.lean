import SourceSurvey.Parsing.Rules

/-!
The states of a parse at their finest: a core with the tokens that may follow each of its items. Sets
of tokens are kept by number, and a union is made once.
-/

namespace SourceSurvey.Parsing

/-- Sets of tokens by number. The empty set has the number zero. -/
structure Pool where
  sets : Array TokenSet
  /-- By remainder of the set: the numbers to look at. -/
  numbers : Std.HashMap Nat (List Nat)
  /-- By pair of numbers. -/
  unions : Std.HashMap Nat Nat
deriving Inhabited

namespace Pool

def empty : Pool := ⟨#[0], ({} : Std.HashMap _ _).insert 0 [0], {}⟩

def modulus : Nat := 2305843009213693951

def set (p : Pool) (n : Nat) : TokenSet := p.sets.getD n 0

def add (p : Pool) (s : TokenSet) : Nat × Pool :=
  let key := s % modulus
  let known := p.numbers.getD key []
  match known.find? fun n ↦ p.set n = s with
  | some n => (n, p)
  | none =>
    let n := p.sets.size
    (n, { p with sets := p.sets.push s, numbers := p.numbers.insert key (n :: known) })

def union (p : Pool) (a b : Nat) : Nat × Pool :=
  if a = b || b = 0 then (a, p)
  else if a = 0 then (b, p)
  else
    let key := if a < b then a * 16777216 + b else b * 16777216 + a
    match p.unions[key]? with
    | some n => (n, p)
    | none =>
      let (n, p) := p.add (p.set a ||| p.set b)
      (n, { p with unions := p.unions.insert key n })

end Pool

/-- A core with the numbers of the sets that may follow its items. -/
structure Spot where
  core : Nat
  followers : Array Nat
deriving BEq, Hashable, Inhabited

structure Canonical where
  pool : Pool
  spots : Array Spot
  numbers : Std.HashMap Spot Nat
  /-- By state and way of its core: the state that it leads to. -/
  targets : Array (Array Nat)
  /-- By state and complete item of its core: the number of the set that may follow. -/
  endings : Array (Array Nat)
deriving Inhabited

namespace Canonical

/-- A source with its set by number, and the places of the items that pass theirs on. -/
structure Feed where
  always : Nat
  places : Array Nat
deriving Inhabited

def bitsOf (n : Nat) (size : Nat) : Array Nat := (Array.range size).filter n.testBit

def feedsOf (p : Pool) (core : Core) : Array Feed × Pool :=
  core.sources.foldl (fun (feeds, p) source ↦
    let (n, p) := p.add source.always
    (feeds.push ⟨n, bitsOf source.passing core.items.size⟩, p)) (#[], p)

def Feed.value (followers : Array Nat) (p : Pool) (feed : Feed) : Nat × Pool :=
  feed.places.foldl (fun (n, p) place ↦ p.union n (followers.getD place 0)) (feed.always, p)

def number (c : Canonical) (spot : Spot) : Nat × Canonical :=
  match c.numbers[spot]? with
  | some n => (n, c)
  | none => (c.spots.size,
      { c with spots := c.spots.push spot, numbers := c.numbers.insert spot c.spots.size })

/-- Works out where a state leads. -/
def work (cores : Array Core) (feeds : Array (Array Feed)) (c : Canonical) (spot : Spot) :
    Canonical :=
  let core := cores.getD spot.core default
  let pool := c.pool
  let c := { c with pool := default }
  let (values, pool) := (feeds.getD spot.core #[]).foldl (fun (values, p) feed ↦
    let (n, p) := feed.value spot.followers p
    (values.push n, p)) (Array.mkEmpty 64, pool)
  let c := { c with pool := pool }
  let (targets, c) := core.ways.foldl (fun (targets, c) way ↦
    let (n, c) := number c ⟨way.target, way.sources.map fun s ↦ values.getD s 0⟩
    (targets.push n, c)) (Array.mkEmpty core.ways.size, c)
  { c with
    targets := c.targets.push targets
    endings := c.endings.push (core.complete.map fun (_, s) ↦ values.getD s 0) }

def explore (cores : Array Core) (feeds : Array (Array Feed)) : Nat → Canonical → Canonical
  | 0, c => c
  | fuel + 1, c =>
    match c.spots[c.targets.size]? with
    | some spot => explore cores feeds fuel (work cores feeds c spot)
    | none => c

/-- All states: the error state, the start, those behind the first tokens of rules that may stand
anywhere, and all that these lead to. -/
def ofRules (r : Rules) : Canonical :=
  let (feeds, pool) := r.cores.foldl (fun (feeds, p) core ↦
    let (fs, p) := feedsOf p core
    (feeds.push fs, p)) (#[], Pool.empty)
  let (atEnd, pool) := pool.add (TokenSet.single Symbols.endOfText)
  let (behindExtra, pool) := pool.add (TokenSet.single r.symbols.endOfExtra)
  let roots := #[(⟨0, #[]⟩ : Spot), ⟨1, #[atEnd]⟩] ++
    (r.items.interposed.zipIdx.map fun ((_, is), i) ↦
      (⟨2 + i, Array.replicate is.length behindExtra⟩ : Spot)).toArray
  let c := roots.foldl (fun c spot ↦ (number c spot).2) ⟨pool, #[], {}, #[], #[]⟩
  explore r.cores feeds 10000000 c

end Canonical

end SourceSurvey.Parsing
