import SourceSurvey.Parsing.Core

/-!
What a parse may do with a token. Where a core leaves more than one way open for a token, precedence and
associativity decide, and what they leave undecided stays open.
-/

namespace SourceSurvey.Parsing

open Grammar

structure Rules where
  symbols : Symbols
  items : Items
  cores : Array Core
  /-- By variable. -/
  names : Array String
  /-- By variable: whether it repeats a piece. -/
  repeats : Array Bool
  ranks : List (List Rank)
  /-- Symbols that may stand anywhere. -/
  extras : List Nat

inductive Action where
  /-- Goes on to a state. If it only starts another round of a repetition, it is for recovery alone. -/
  | shift (state : Nat) (isRepetition : Bool)
  /-- Lets a symbol stand that may stand anywhere. -/
  | shiftExtra
  | reduce (r : Reduction)
  | accept
  /-- Skips the token. -/
  | recover
deriving DecidableEq, Repr

namespace Rules

variable (r : Rules)

def item (i : Nat) : Item := r.items.item i

def core (c : Nat) : Core := r.cores.getD c default

def firstOf (symbol : Nat) : TokenSet := r.items.first.getD symbol 0

/-- The tokens that may stand anywhere, or begin what may. -/
def extraTokens : TokenSet :=
  let direct := r.extras.foldl (fun set s ↦
    if r.symbols.isToken s then set ||| TokenSet.single s else set) 0
  r.items.interposed.foldl (fun set (s, _) ↦ set ||| TokenSet.single s) direct

/-! ## Conflicts -/

def Rank.fits (names : Array String) (rank : Rank) (p : Precedence) (heads : List Nat) : Bool :=
  match rank with
  | .level n => p = .named n
  | .rule n => heads.any fun v ↦ names.getD v "" = n

/-- Looks for the two in a list of ranks; the one that comes first is greater. -/
def compareIn (names : Array String) (p : Precedence) (ps : List Nat) (q : Precedence)
    (qs : List Nat) : Bool → Bool → List Rank → Option Ordering
  | _, _, [] => none
  | sawLeft, sawRight, rank :: rest =>
    if Rank.fits names rank p ps then
      if sawRight then some .lt else compareIn names p ps q qs true sawRight rest
    else if Rank.fits names rank q qs then
      if sawLeft then some .gt else compareIn names p ps q qs sawLeft true rest
    else compareIn names p ps q qs sawLeft sawRight rest

/-- Compares precedences, each with the variables that it is for. Numbers compare with numbers, and with
none as zero; names and rules compare where a list of ranks has both. -/
def compare (p : Precedence) (ps : List Nat) (q : Precedence) (qs : List Nat) : Ordering :=
  let ranked := (r.ranks.findSome? fun list ↦ compareIn r.names p ps q qs false false list).getD .eq
  match p, q with
  | .level m, .level n => if m = 0 && n = 0 then ranked else Ord.compare m n
  | .level m, .none => if m = 0 then ranked else Ord.compare m 0
  | .none, .level n => if n = 0 then ranked else Ord.compare 0 n
  | _, _ => ranked

/-- The reductions that are left of those found so far, and what they have in common. -/
structure Contest where
  reductions : List Reduction
  precedence : Precedence
  heads : List Nat
  left : Bool
  right : Bool
  neither : Bool

def Contest.none : Contest := ⟨[], .none, [], false, false, false⟩

/-- Lets one more complete item take part. -/
def enter (c : Contest) (i : Item) : Contest :=
  let add (c : Contest) : Contest :=
    { c with
      reductions := c.reductions ++ [i.reduction]
      precedence := i.precedence
      heads := if c.heads.contains i.head then c.heads else c.heads ++ [i.head]
      left := c.left || i.associativity = some .left
      right := c.right || i.associativity = some .right
      neither := c.neither || i.associativity = Option.none }
  if c.reductions.isEmpty then add c
  else
    match r.compare i.precedence [i.head] c.precedence c.heads with
    | .gt => add .none
    | .eq => add c
    | .lt => c

/-- Items past their beginning that a token may continue. -/
def continued (c : Core) (token : Nat) : List Item :=
  c.items.toList.filterMap fun i ↦
    let item := r.item i
    match item.next with
    | some s => if item.place > 0 && (r.firstOf s).testBit token then some item else none
    | none => none

/-- Whether a reduction makes a whole text. -/
def isWhole (reduction : Reduction) : Bool :=
  reduction.symbol = r.symbols.firstVariable + r.names.size - 1

def actionOf (reduction : Reduction) : Action :=
  if r.isWhole reduction then .accept else .reduce reduction

/-- Decides between going on to a state and the reductions that are left. -/
def settleShift (core : Core) (complete : List Item) (token target : Nat) (c : Contest) :
    List Action :=
  let reductions := c.reductions.map r.actionOf
  let whole := r.names.size - 1
  let continued := r.continued core token
  let heads := ((continued ++ complete).map (·.head)).filter fun v ↦ v ≠ whole
  let isRepetition := match heads with
    | v :: rest => r.repeats.getD v false && rest.all fun w ↦ w = v
    | [] => false
  if isRepetition then reductions ++ [.shift target true]
  else
    let orders := continued.map fun i ↦ r.compare i.precedence [i.head] c.precedence c.heads
    let more := orders.contains .gt
    let less := orders.contains .lt
    if more && !less then [.shift target false]
    else if less && !more then reductions
    else if !less && !more then
      if c.left && !c.neither && !c.right then reductions
      else if c.right && !c.neither && !c.left then [.shift target false]
      else reductions ++ [.shift target false]
    else reductions ++ [.shift target false]

/-- What can be done with a token in a core, reductions first, where it may follow some complete items
and leads to a state, or to none. -/
def settle (core : Core) (complete : List Item) (token : Nat) (target : Option Nat) : List Action :=
  let contest := complete.foldl r.enter .none
  match target with
  | none => contest.reductions.map r.actionOf
  | some target =>
    if contest.reductions.isEmpty then [.shift target false]
    else r.settleShift core complete token target contest

/-- The complete items of a core that a token may follow, given the tokens that may follow each. -/
def completeBefore (core : Core) (followers : Array TokenSet) (token : Nat) : List Item :=
  (core.complete.zip followers).toList.filterMap fun ((i, _), set) ↦
    if set.testBit token then some (r.item i) else none

end Rules

def Rules.ofGrammar (g : Grammar) (flat : Flat) : Rules :=
  let symbols := Symbols.ofGrammar flat
  let items := Items.ofGrammar flat symbols
  let order := (Array.range flat.externals.size).map (fun i ↦ numberOf flat (.external i)) ++
    (Array.range flat.tokens.size).map (fun i ↦ numberOf flat (.token i)) ++
    (Array.range flat.heads.size).map fun i ↦ numberOf flat (.variable i)
  let order := order.foldl (fun kept s ↦ if kept.contains s then kept else kept.push s) #[]
  ⟨symbols, items, Core.all symbols items order, (flat.heads.map (·.name)).push "",
    (flat.heads.map fun h ↦ decide (h.kind = .auxiliary)).push false, g.ranks,
    flat.extras.map (numberOf flat)⟩

end SourceSurvey.Parsing
