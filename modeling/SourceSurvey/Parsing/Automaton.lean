import SourceSurvey.Parsing.Merging

/-!
The automaton of a grammar: where a parse can stand, and what it may do there.

Tokens are not looked for state by state. States whose tokens do not get into each other's way are in one
mode, and in a mode all tokens of its states are looked for; so a state may find a token that it can do
nothing with.
-/

namespace SourceSurvey.Parsing

open Grammar

structure State where
  core : Nat
  /-- By complete item of the core: the tokens that may follow. -/
  followers : Array TokenSet
  /-- By way of the core: the state that it leads to. -/
  targets : Array Nat
  /-- The tokens that can be dealt with here. -/
  expected : TokenSet
  /-- The end of a rule that may stand anywhere. -/
  endsExtra : Bool
  /-- Words are expected here, and reserved ones are no words. -/
  reserves : Bool
  /-- The number of the mode. -/
  mode : Nat
deriving Inhabited

structure Automaton where
  rules : Rules
  states : Array State
  /-- The tokens of each mode, a word standing for the keywords. -/
  modes : Array TokenSet
  /-- By first token of a rule that may stand anywhere: the state behind it. -/
  interposed : List (Nat × Nat)

namespace Automaton

def errorState : Nat := 0

def startState : Nat := 1

/-! ## Tokens -/

/-- What is known of tokens beside how they clash. -/
structure Lexis where
  clash : Clash
  /-- By token: those that are expected together with it somewhere. -/
  companions : Array TokenSet
  keywords : TokenSet
  word : Option Nat
  /-- How many tokens need no scanner, the end of the text included. -/
  plainCount : Nat

namespace Lexis

variable (x : Lexis)

/-- All sets of tokens that states expect, each once. -/
def expectations (m : Merging) : Array TokenSet :=
  ((List.range m.canonical.spots.size).foldl (fun (p : Pool) state ↦ (p.add (m.tokens state)).2)
    Pool.empty).sets

def companionsIn (sets : Array TokenSet) (count : Nat) : Array TokenSet :=
  (Array.range count).map fun t ↦ sets.foldl (fun all set ↦
    if set.testBit t then all ||| set else all) 0

/-- Tokens that no other one outdoes or is outdone by, but for those expected together with it. -/
def free : TokenSet :=
  (List.range x.plainCount).foldl (fun set t ↦
    if t ≠ 0 && (List.range x.plainCount).all fun u ↦
        u = 0 || u = t || (x.companions.getD t 0).testBit u || !x.clash.outdoes t u then
      set ||| TokenSet.single t
    else set) 0

/-- The tokens that are looked for in an error: all but those that would spoil a free one. -/
def sought (externals : TokenSet) : TokenSet :=
  let free := x.free
  (List.range x.plainCount).foldl (fun set t ↦
    let isFree := free.testBit t || x.keywords.testBit t || x.word = some t
    let spoiled := x.clash.spoils t &&& free
    let strangers := spoiled ^^^ (spoiled &&& x.companions.getD t 0)
    if isFree || strangers = 0 then set ||| TokenSet.single t else set) externals

/-- The tokens that the lexicon looks for. -/
def plain (tokens : TokenSet) : TokenSet :=
  let tokens := tokens &&& (TokenSet.single x.plainCount - 1)
  let keywords := tokens &&& x.keywords
  match x.word with
  | some word => if keywords = 0 then tokens else (tokens ^^^ keywords) ||| TokenSet.single word
  | none => tokens

/-- By token: those that it is not looked for together with. -/
def rivals : Array TokenSet :=
  (Array.range x.plainCount).map fun t ↦
    let overlapping := (List.range x.plainCount).foldl (fun set u ↦
      if (x.clash.overlaps u).testBit t then set ||| TokenSet.single u else set)
      (x.clash.overlaps t)
    x.clash.spoils t ||| x.clash.leads.getD t 0 |||
      (overlapping ^^^ (overlapping &&& x.companions.getD t 0))

/-- Whether a set of tokens can join a mode. -/
def canJoin (rivals : Array TokenSet) (mode tokens : TokenSet) : Bool :=
  let shared := mode &&& tokens
  let new := tokens ^^^ shared
  let old := mode ^^^ shared
  (rivals.foldl (fun (ok, t) rival ↦
    (ok && !(new.testBit t && rival &&& mode ≠ 0) && !(old.testBit t && rival &&& tokens ≠ 0), t + 1))
    (true, 0)).1

/-- Puts a set of tokens into the first mode that it can join, or a new one. -/
def join (rivals : Array TokenSet) (modes : Array TokenSet) (tokens : TokenSet) :
    Nat × Array TokenSet :=
  match modes.findIdx? fun mode ↦ canJoin rivals mode tokens with
  | some i => (i, modes.modify i fun mode ↦ mode ||| tokens)
  | none => (modes.size, modes.push tokens)

/-- The modes of sets of tokens, in the order in which these are given. -/
def modesOf (sets : Array TokenSet) : Array Nat × Array TokenSet :=
  let rivals := x.rivals
  let (numbers, modes, _) := sets.foldl (fun (numbers, modes, known) set ↦
    let tokens := x.plain set
    match (known : Std.HashMap TokenSet Nat)[tokens]? with
    | some mode => (numbers.push mode, modes, known)
    | none =>
      let (mode, modes) := join rivals modes tokens
      (numbers.push mode, modes, known.insert tokens mode)) (#[], #[], {})
  (numbers, modes)

end Lexis

/-! ## States -/

variable (m : Merging)

/-- One state for the states of a group. A token does what it does in the first of them that knows it. -/
def stateOf (word : Option Nat) (groupOf : Array Nat) (group : Array Nat) : State :=
  let first := group.getD 0 0
  let mask := TokenSet.single (m.rules.symbols.endOfExtra + 1) - 1
  let (followers, expected, reserves) := group.foldl (fun (followers, expected, reserves) state ↦
    let tokens := m.tokens state
    let mine := m.followers state
    let new := tokens ^^^ (tokens &&& expected)
    let all := mine.foldl (fun set s ↦ set ||| s) (m.core state).shiftable
    let reserves := reserves || word.any fun w ↦
      tokens.testBit w && !all.testBit m.rules.symbols.unreservedWord
    ((followers.zip mine).map (fun (old, set) ↦ old ||| (set &&& new &&& mask)),
      expected ||| tokens, reserves))
    (Array.replicate (m.endings first).size 0, (0 : TokenSet), false)
  { core := (m.canonical.spots.getD first default).core
    followers := followers
    targets := (m.targets first).map fun state ↦ groupOf.getD state 0
    expected := expected
    endsExtra := m.endsExtra first
    reserves := reserves
    mode := 0 }

/-- The variable that a state does nothing but stand for: it has one hidden part, and nothing else is to be
done with any token. -/
def soleVariable (isBare : Reduction → Bool) (s : State) : Option Nat :=
  let core := m.rules.core s.core
  if core.shiftable ≠ 0 || (!m.rules.items.interposed.isEmpty && !s.endsExtra) then none
  else
    match core.complete.toList.map fun (i, _) ↦ (m.rules.item i).reduction with
    | r :: rest => if isBare r && rest.all fun t ↦ isBare t && t.symbol = r.symbol then some r.symbol else none
    | [] => none

/-- Where a way leads when states that only stand for a variable are passed over. -/
def passOver (soles : Array (Option Nat)) (core : Core) (targets : Array Nat) : Nat → Nat → Nat
  | 0, target => target
  | fuel + 1, target =>
    match (soles.getD target none).bind fun v ↦ core.wayOf[v]? with
    | some w => passOver soles core targets fuel (targets.getD w target)
    | none => target

/-- How many symbols a state has a use for. -/
def useCount (s : State) : Nat :=
  let core := m.rules.core s.core
  let variableCount := core.ways.foldl (fun n w ↦
    if m.rules.symbols.isToken w.symbol then n else n + 1) 0
  variableCount + ((List.range (m.rules.symbols.endOfExtra + 1)).filter s.expected.testBit).length

/-- The states that modes are made for, in the order in which they join them: the error state, the start,
and then those with the most uses first. States that no state leads to are left out. -/
def joining (states : Array State) (interposed : List (Nat × Nat)) : Array Nat :=
  let used := states.foldl (fun used s ↦
    s.targets.foldl (fun used n ↦ used.setIfInBounds n true) used)
    (interposed.foldl (fun used (_, n) ↦ used.setIfInBounds n true)
      (Array.replicate states.size false))
  let others := (List.range states.size).filterMap fun n ↦
    if n < 2 || !used.getD n false then none
    else some (useCount m (states.getD n default), n)
  #[errorState, startState] ++
    ((others.mergeSort fun a b ↦ decide (b.1 ≤ a.1)).map (·.2)).toArray

def ofMerging (x : Lexis) (externals : TokenSet) (isBare : Reduction → Bool) : Automaton :=
  let groups := m.groups
  let states := groups.members.map (stateOf m x.word groups.groupOf)
  let states := states.modify errorState fun s ↦
    { s with expected := x.sought externals ||| m.rules.extraTokens }
  let soles := states.mapIdx fun n s ↦ if n < 2 then none else soleVariable m isBare s
  let states := states.map fun s ↦
    let core := m.rules.core s.core
    { s with targets := s.targets.map (passOver soles core s.targets 100) }
  let interposed := m.rules.items.interposed.zipIdx.map fun ((token, _), i) ↦
    (token, groups.groupOf.getD (2 + i) 0)
  let order := joining m states interposed
  let (numbers, modes) := x.modesOf (order.map fun n ↦ (states.getD n default).expected)
  let states := (order.zip numbers).foldl (fun states (n, mode) ↦
    states.modify n fun s ↦ { s with mode := mode }) states
  ⟨m.rules, states, modes, interposed⟩

/-! ## What parses rely on

A parse takes as many symbols off its stack as a rule has, and the automaton answers for their being
there. It answers as well for a whole text being one: it ends at the end of the text only, and with a
variable. This is looked at once the automaton is made.
-/

section

variable (a : Automaton)

def state (n : Nat) : State := a.states.getD n default

def coreOf (n : Nat) : Core := a.rules.core (a.state n).core

/-- How many symbols are behind a state at least: as many as the furthest of its items has passed. -/
def depth (n : Nat) : Nat :=
  (a.coreOf n).items.foldl (fun most i ↦ max most (a.rules.item i).place) 0

/-- Whether nothing is behind a state but a whole text, or not even that. -/
def isClean (n : Nat) : Bool :=
  n = startState || (a.coreOf n).complete.any fun (i, _) ↦ a.rules.isWhole (a.rules.item i).reduction

/-- Whether a state may come behind another one and a symbol. -/
def mayFollow (n target : Nat) : Bool :=
  a.depth target ≤ a.depth n + 1 && (!a.isClean target || a.isClean n)

/-- Whether the rules that may end in a state are no longer than what is behind it, and the states that
it leads to may follow. -/
def isSoundAt (n : Nat) : Bool :=
  let depth := a.depth n
  ((a.coreOf n).complete.all fun (i, _) ↦
    let r := (a.rules.item i).reduction
    r.count ≤ depth && r.symbol < Symbols.errorPiece) &&
  (a.state n).targets.all (a.mayFollow n)

/-- Whether nothing but the end of the text follows a whole one in a state, and no token leads from there
to where a whole text may end. -/
def endsTextAt (n : Nat) : Bool :=
  (((a.coreOf n).complete.zip (a.state n).followers).all fun ((i, _), tokens) ↦
    !a.rules.isWhole (a.rules.item i).reduction || tokens ≤ TokenSet.single Symbols.endOfText) &&
  (a.coreOf n).wayOf.all fun symbol w ↦
    a.rules.symbols.tokenCount < symbol || !a.isClean ((a.state n).targets.getD w 0)

/-- Whether every state is sound, nothing ends or begins in the error state, and a rule that may stand
anywhere begins with one symbol. -/
def isSound : Bool :=
  let core := a.rules.core 0
  a.rules.symbols.tokenCount < Symbols.errorPiece && (a.state errorState).core = 0 &&
  core.items.isEmpty && core.complete.isEmpty && core.wayOf.isEmpty &&
  ((List.range a.states.size).all fun n ↦ a.isSoundAt n && a.endsTextAt n) &&
  a.interposed.all fun (_, n) ↦ a.depth n ≤ 1 && !a.isClean n

/-- An automaton that can do nothing. -/
def idle : Automaton :=
  ⟨⟨⟨#[], #[], 0, none⟩, ⟨#[], 0, #[], [], #[], #[], #[], []⟩, #[], #[], #[], [], []⟩, #[], #[], []⟩

def guarded : Automaton := if a.isSound then a else idle

end

/-- The automaton of a grammar. -/
def ofGrammar (g : Grammar) (flat : Flat) (l : Lexicon) : Automaton :=
  let rules := Rules.ofGrammar g flat
  let symbols := rules.symbols
  let canonical := Canonical.ofRules rules
  let lines := Items.linesOf flat
  let size := l.starts.size
  let clash := Clash.ofLexicon l (Clash.behind symbols rules.items lines rules.extras size)
  let keywords := l.keywords.fold (fun set _ t ↦ set ||| TokenSet.single t) 0
  let externals := flat.externals.zipIdx.foldl (fun set (_, i) ↦
    set ||| TokenSet.single (numberOf flat (.external i))) 0
  let spoiled := Merging.spoiledBy clash keywords l.word size
  let m : Merging := ⟨rules, canonical, externals ||| TokenSet.single symbols.endOfExtra, spoiled,
    canonical.pool.sets.map (Merging.refusedFor spoiled)⟩
  let x : Lexis := ⟨clash, Lexis.companionsIn (Lexis.expectations m) size, keywords, l.word, size⟩
  let labelled : Std.HashSet Nat := flat.heads.foldl (fun known h ↦
    h.productions.foldl (fun known p ↦ p.steps.foldl (fun known step ↦
      if step.label.isSome then known.insert (numberOf flat step.symbol) else known) known) known) {}
  let isBare (r : Reduction) : Bool :=
    r.count = 1 && r.labels.all (·.isNone) && !r.hasRoles && r.weight = 0 && !rules.extras.contains r.symbol &&
      !labelled.contains r.symbol &&
      match flat.heads[r.symbol - symbols.firstVariable]? with
      | some h => h.kind ≠ .named && !g.supertypes.contains h.name && !symbols.isVisible r.symbol
      | none => false
  let scanned := externals ^^^ (externals &&& (TokenSet.single size - 1))
  (ofMerging m x scanned isBare).guarded

/-! ## Actions -/

variable (a : Automaton)

def symbols : Symbols := a.rules.symbols

/-- What can be done with a token in a state: reductions first. -/
def actions (n token : Nat) : List Action :=
  let s := a.state n
  let core := a.coreOf n
  let target := core.wayOf[token]?.map fun w ↦ s.targets.getD w 0
  let found :=
    a.rules.settle core (a.rules.completeBefore core s.followers token) token target
  if !found.isEmpty then found
  else if s.endsExtra then []
  else
    match a.interposed.lookup token with
    | some n => [.shift n false]
    | none =>
      if a.rules.extras.contains token then [.shiftExtra]
      else if n = errorState then [.recover]
      else []

/-- The state behind a symbol, or zero. -/
def next (n symbol : Nat) : Nat :=
  if a.symbols.isToken symbol then
    match (a.actions n symbol).getLast? with
    | some (.shift target _) => target
    | some .shiftExtra => n
    | _ => 0
  else if a.rules.extras.contains symbol then n
  else
    match (a.coreOf n).wayOf[symbol]? with
    | some w => (a.state n).targets.getD w 0
    | none => 0

end Automaton

end SourceSurvey.Parsing
