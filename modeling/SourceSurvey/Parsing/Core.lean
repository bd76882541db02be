import SourceSurvey.Parsing.Items

/-!
Cores. A core is a set of items under way without the tokens that may follow them. What can come next
in it, and where that leads, is the same for all states that share the core, so it is worked out once.
-/

namespace SourceSurvey.Parsing

/-- The tokens that may follow an item: some in any case, and those that may follow some items of the
core, given as bits by their place in it. -/
structure Source where
  always : TokenSet
  passing : Nat
deriving DecidableEq, Hashable, Inhabited

def Source.none : Source := ⟨0, 0⟩

def Source.or (a b : Source) : Source := ⟨a.always ||| b.always, a.passing ||| b.passing⟩

/-- Where a symbol leads from a core. -/
structure Way where
  symbol : Nat
  target : Nat
  /-- By item of the target: the number of its source. -/
  sources : Array Nat
deriving Inhabited

structure Core where
  items : Array Nat
  sources : Array Source
  ways : Array Way
  /-- By symbol: the number of its way. -/
  wayOf : Std.HashMap Nat Nat
  /-- Items that are complete here, those without parts first, with the numbers of their sources. -/
  complete : Array (Nat × Nat)
  /-- The tokens that lead on. -/
  shiftable : TokenSet
deriving Inhabited

namespace Core

/-- Cores found so far, and those that are worked out. -/
structure Search where
  kernels : Array (Array Nat)
  numbers : Std.HashMap (Array Nat) Nat
  cores : Array Core

def Search.number (s : Search) (kernel : Array Nat) : Nat × Search :=
  match s.numbers[kernel]? with
  | some n => (n, s)
  | none => (s.kernels.size,
      { s with
        kernels := s.kernels.push kernel
        numbers := s.numbers.insert kernel s.kernels.size })

variable (symbols : Symbols) (items : Items)

/-- What may follow the variables that begin in a core. -/
def begun (kernel : Array Nat) : Array Source :=
  let asked := kernel.zipIdx.foldl (fun (asked : List (Nat × Source)) (i, place) ↦
    let item := items.item i
    match item.next with
    | some s =>
      if symbols.firstVariable ≤ s then
        let after := items.item item.after
        let source : Source :=
          if after.next.isNone then ⟨0, 1 <<< place⟩ else ⟨after.nextFirst, 0⟩
        match asked.lookup s with
        | some old => asked.map fun (t, old') ↦ if t = s then (s, old.or source) else (t, old')
        | none => (s, source) :: asked
      else asked
    | none => asked) []
  asked.foldl (fun table (s, source) ↦
    (items.openings.getD (s - symbols.firstVariable) #[]).foldl (fun table o ↦
      table.modify o.head fun old ↦
        if o.isLast then ⟨old.always ||| o.lookaheads ||| source.always, old.passing ||| source.passing⟩
        else ⟨old.always ||| o.lookaheads, old.passing⟩) table)
    (Array.replicate items.openings.size Source.none)

/-- The items that each symbol leads to, with their sources. -/
def behind (kernel : Array Nat) (begun : Array Source) : Array (Array (Nat × Source)) :=
  let size := symbols.firstVariable + items.openings.size
  let fromKernel := kernel.zipIdx.foldl (fun (table : Array (Array (Nat × Source))) (i, place) ↦
    let item := items.item i
    match item.next with
    | some s => table.modify s fun found ↦ found.push (item.after, ⟨0, 1 <<< place⟩)
    | none => table) (Array.replicate size #[])
  begun.zipIdx.foldl (fun table (source, v) ↦
    if source = Source.none then table
    else (items.beginnings.getD v #[]).foldl (fun table (s, i) ↦
      table.modify s fun found ↦ found.push (i, source)) table) fromKernel

def offered (kernel : Array Nat) (begun : Array Source) : TokenSet :=
  let fromKernel := kernel.foldl (fun set i ↦
    match (items.item i).next with
    | some s => if symbols.isToken s then set ||| (items.item i).nextFirst else set
    | none => set) 0
  begun.zipIdx.foldl (fun set (source, v) ↦
    if source = Source.none then set else set ||| items.initial.getD v 0) fromKernel

/-- Each item once, in order. -/
def gathered (found : Array (Nat × Source)) : Array (Nat × Source) :=
  (found.qsort fun a b ↦ a.1 < b.1).foldl (fun kept (i, source) ↦
    match kept.back? with
    | some (j, old) => if i = j then kept.pop.push (i, old.or source) else kept.push (i, source)
    | none => kept.push (i, source)) #[]

/-- Sources by number. -/
structure Listing where
  sources : Array Source
  numbers : Std.HashMap Source Nat

def Listing.number (l : Listing) (s : Source) : Nat × Listing :=
  match l.numbers[s]? with
  | some n => (n, l)
  | none => (l.sources.size, ⟨l.sources.push s, l.numbers.insert s l.sources.size⟩)

def Listing.numberAll (l : Listing) (found : Array (Nat × Source)) : Array Nat × Listing :=
  found.foldl (fun (ns, l) (_, s) ↦
    let (n, l) := l.number s
    (ns.push n, l)) (#[], l)

/-- Works out a core. -/
def work (order : Array Nat) (s : Search) (kernel : Array Nat) : Search :=
  let begun := begun symbols items kernel
  let table := behind symbols items kernel begun
  let (s, ways, listing) := order.foldl (fun (s, ways, listing) symbol ↦
    let found := table.getD symbol #[]
    if found.isEmpty then (s, ways, listing)
    else
      let found := gathered found
      let (target, s) := Search.number s (found.map (·.1))
      let (numbers, listing) := Listing.numberAll listing found
      (s, ways.push (⟨symbol, target, numbers⟩ : Way), listing)) (s, #[], (⟨#[], {}⟩ : Listing))
  let done := items.empty.toArray.filterMap (fun (v, i) ↦
      let source := begun.getD v Source.none
      if source = Source.none then none else some (i, source)) ++
    kernel.zipIdx.filterMap fun (i, place) ↦
      if (items.item i).next.isNone then some (i, (⟨0, 1 <<< place⟩ : Source)) else none
  let (numbers, listing) := listing.numberAll done
  let core : Core :=
    { items := kernel
      sources := listing.sources
      ways := ways
      wayOf := ways.zipIdx.foldl (fun table (w, n) ↦ table.insert w.symbol n) {}
      complete := (done.map (·.1)).zip numbers
      shiftable := offered symbols items kernel begun }
  { s with cores := s.cores.push core }

def explore (order : Array Nat) : Nat → Search → Search
  | 0, s => s
  | fuel + 1, s =>
    match s.kernels[s.cores.size]? with
    | some kernel => explore order fuel (work symbols items order s kernel)
    | none => s

/-- All cores: the empty one, that of a whole text at its beginning, those behind the first tokens of
rules that may stand anywhere, and all that these lead to. -/
def all (order : Array Nat) : Array Core :=
  let roots := #[#[], #[items.whole]] ++ (items.interposed.map fun (_, is) ↦
    is.toArray.qsort fun a b ↦ a < b).toArray
  let s := roots.foldl (fun s kernel ↦ (Search.number s kernel).2) ⟨#[], {}, #[]⟩
  (explore symbols items order 100000 s).cores

end Core

end SourceSurvey.Parsing
