import SourceSurvey.Parsing.Machine

/-!
Parsing. All versions of a parse go on through the text together. A version that can deal with a token
in several ways becomes several versions; those that come together again merge, and of the trees that
then compete the better one is kept. A version that is stuck waits until the others have had their
turn; if no other is better off, it recovers: it goes back to a state that can deal with the token, it
skips the token, or it puts in a token that is missing.

Every choice goes by the costs of the errors so far, so that the tree found is one with cheap errors.
-/

namespace SourceSurvey.Parsing

open Grammar

/-- How a version is doing. -/
structure Standing where
  cost : Nat
  nodeCount : Nat
  weight : Int
  isInError : Bool

/-- How two versions compare. Where one is to be taken, the other can be dropped. -/
inductive Preference where
  | takeFirst
  | preferFirst
  | neither
  | preferSecond
  | takeSecond
deriving DecidableEq

namespace Standing

/-- From this difference on, weighted with the nodes made since, a version is dropped. -/
def maxDifference : Nat := 18 * Parsing.cost.skippedTree

def compare (a b : Standing) : Preference :=
  if !a.isInError && b.isInError then
    if a.cost < b.cost then .takeFirst else .preferFirst
  else if a.isInError && !b.isInError then
    if b.cost < a.cost then .takeSecond else .preferSecond
  else if a.cost < b.cost then
    if (b.cost - a.cost) * (1 + a.nodeCount) > maxDifference then .takeFirst else .preferFirst
  else if b.cost < a.cost then
    if (a.cost - b.cost) * (1 + b.nodeCount) > maxDifference then .takeSecond else .preferSecond
  else if a.weight > b.weight then .preferFirst
  else if b.weight > a.weight then .preferSecond
  else .neither

end Standing

namespace Machine

def maxVersions : Nat := 6

def maxExtraVersions : Nat := 4

def maxRetreat : Nat := 16

variable (m : Machine) (text : Array Char)

def getStack : Parse Stack := do pure (← get).stack

def versionCount : Parse Nat := do pure (← getStack).versions.size

def push (version : Nat) (tree : Option Tree) (state : Nat) : Parse Unit :=
  onStack fun s ↦ s.push version tree state

/-- Merges the second version into the first, if they stand alike. -/
def merge (a b : Nat) : Parse Bool := do
  if (← getStack).canMerge a b then
    onStack (Stack.merge a b)
    pure true
  else pure false

/-- Merges a version into the first of some others that stands like it. -/
def mergeInto (version : Nat) : List Nat → Parse Bool
  | [] => pure false
  | other :: rest => do
    if ← merge other version then pure true else mergeInto version rest

/-! ## Reducing -/

/-- The best node of several lists of children, with the extras that stood behind the children. -/
def bestNode (r : Reduction) : List (List Tree) → Option (Tree × List Tree) →
    Option (Tree × List Tree)
  | [], best => best
  | trees :: rest, best =>
    let (children, extras) := Tree.splitExtras trees
    match best with
    | none => bestNode r rest (some (.node m.symbols r.symbol r.labels children, extras))
    | some (old, oldExtras) =>
      -- The rival is looked at without the names of its children.
      let rival := Tree.node m.symbols r.symbol [] children
      if Tree.prefersSecond old rival then
        bestNode r rest (some (.node m.symbols r.symbol r.labels children, extras))
      else bestNode r rest (some (old, oldExtras))

def pushAll (version state : Nat) : List Tree → Parse Unit
  | [] => pure ()
  | t :: rest => do
    push version (some t) state
    pushAll version state rest

/-- Pushes the node of a reduction on a version that the children have left. Says whether this version is
gone: there are too many, or it has been merged into one before it. -/
def pushNode (version halted : Nat) (r : Reduction) (endsExtra : Bool) (v : Nat)
    (choices : List (List Tree)) : Parse Bool := do
  if v > maxVersions + maxExtraVersions + halted then
    onStack fun s ↦ s.removeVersion v
    pure true
  else
    match m.bestNode r choices none with
    | none => pure false
    | some (node, extras) =>
      let state := (← getStack).stateOf v
      let target := m.next state r.symbol
      let node := if endsExtra && target = state then node.withExtra true else node
      pushAll v target (node.addWeight r.weight :: extras)
      mergeInto v ((List.range v).filter fun j ↦ j ≠ version)

/-- Pushes the nodes of a reduction, one for each version that the children leave. -/
def pushNodes (version halted : Nat) (r : Reduction) (endsExtra : Bool) :
    List Stack.Slice → Nat → Parse Unit
  | [], _ => pure ()
  | slice :: rest, removed => do
    let isGone ← m.pushNode version halted r endsExtra (slice.version - removed) slice.choices
    pushNodes version halted r endsExtra rest (if isGone then removed + 1 else removed)

/-- Replaces trees on top of a version by a node, in new versions. Gives back the first of these. -/
def reduce (version : Nat) (r : Reduction) (endsExtra : Bool) : Parse (Option Nat) := do
  let before ← versionCount
  let (slices, stack) := (← getStack).pop version r.count
  modify fun s ↦ { s with stack := stack }
  m.pushNodes version stack.haltedCount r endsExtra slices 0
  if before < (← versionCount) then pure (some before) else pure none

/-! ## The end of the text -/

/-- The root: the last tree that is no extra, with all others as its children too. -/
def rootOf (trees : List Tree) : Tree :=
  let back := trees.reverse
  let behind := (back.takeWhile Tree.isExtra).reverse
  match back.dropWhile Tree.isExtra with
  | root :: others =>
    .node m.symbols root.symbol root.info.labels (others.reverse ++ root.children ++ behind)
  | [] => .node m.symbols Symbols.error [] trees

/-- The better one of the tree that has been found before, if there is one, and a new one. -/
def better (new : Tree) : Option Tree → Tree
  | some old => if Tree.prefersSecond old new then new else old
  | none => new

def finish (root : Tree) : Parse Unit :=
  modify fun s ↦
    { s with finished := some (better root s.finished), finishedCount := s.finishedCount + 1 }

def finishAll : List Tree → Parse Unit
  | [] => pure ()
  | root :: rest => do
    finish root
    finishAll rest

/-- Ends a version at the end of the text, behind some last trees. -/
def accept (version : Nat) (ends : List Tree) : Parse Unit := do
  finishAll (((← getStack).wholesOf version).map fun trees ↦ m.rootOf (trees ++ ends))
  onStack fun s ↦ s.close version ends Automaton.startState

/-! ## Versions -/

def standing (version : Nat) : Parse Standing := do
  onStack fun s ↦ s.lowerMark version
  let s ← getStack
  let isPaused := s.isPaused version
  let cost := s.errorCostOf version
  pure ⟨if isPaused then cost + Parsing.cost.skippedTree else cost, s.nodesSinceError version,
    (s.top version).weight, isPaused || s.stateOf version = Automaton.errorState⟩

/-- Whether a version is so much better than another one that would stand as given. -/
def isBetter (mine : Standing) (version v : Nat) : Parse Bool := do
  match mine.compare (← standing v) with
  | .takeSecond => pure true
  | .preferSecond => pure ((← getStack).canMerge v version)
  | _ => pure false

def anyBetter (mine : Standing) (version : Nat) : List Nat → Parse Bool
  | [] => pure false
  | v :: rest => do
    if ← isBetter mine version v then pure true else anyBetter mine version rest

/-- Whether a version that would cost so much is not worth making. -/
def betterExists (version cost : Nat) : Parse Bool := do
  let s ← get
  if s.finished.any fun t ↦ t.errorCost ≤ cost then pure true
  else
    onStack fun s ↦ s.lowerMark version
    let stack ← getStack
    let place := (stack.positionOf version).bytes
    let mine : Standing := ⟨cost, stack.nodesSinceError version, (stack.top version).weight, false⟩
    anyBetter mine version ((List.range stack.versions.size).filter fun v ↦
      v ≠ version && stack.isActive v && place ≤ (stack.positionOf v).bytes)

/-! ## Recovery -/

/-- What can be reduced in a state, whatever the token or before a given one, and whether a token can be
shifted. -/
def possibleReductions (state lookahead : Nat) : List Reduction × Bool :=
  let all := m.symbols.tokenCount
  let tokens := if lookahead = Symbols.endOfText then (List.range all).drop 1 else [lookahead]
  tokens.foldl (fun (found, canShift) token ↦
    (m.actions state token).foldl (fun (found, canShift) action ↦
      match action with
      | .shift _ isRepetition => (found, canShift || !isRepetition)
      | .recover => (found, true)
      | .reduce r =>
        if r.count = 0 || found.any fun (old : Reduction) ↦
            old.symbol = r.symbol && old.count = r.count then (found, canShift)
        else (found ++ [r], canShift)
      | _ => (found, canShift)) (found, canShift)) ([], false)

/-- Carries out reductions in turn; gives back what the last of them has made. -/
def reduceEach (version : Nat) : List Reduction → Option Nat → Parse (Option Nat)
  | [], made => pure made
  | r :: rest, _ => do
    let made ← m.reduce version r false
    reduceEach version rest made

/-- Makes the versions that reductions lead to from one, and from those in turn. Says whether one of
them can shift a token; where a token is given, versions that cannot are dropped. -/
def reduceAll (start lookahead before : Nat) : Nat → Nat → Nat → Bool → Parse Bool
  | 0, _, _, canShift => pure canShift
  | fuel + 1, round, version, canShift => do
    let count ← versionCount
    if count ≤ version then pure canShift
    else if ← mergeInto version ((List.range version).filter fun j ↦ before ≤ j) then
      reduceAll start lookahead before fuel (round + 1) version canShift
    else
      let state := (← getStack).stateOf version
      let (reductions, shifts) := m.possibleReductions state lookahead
      let made ← m.reduceEach version reductions none
      let onward := if version = start then count else version + 1
      match made with
      | some v =>
        if !shifts && round < maxVersions then
          onStack fun s ↦ s.renumberVersion v version
          reduceAll start lookahead before fuel (round + 1) version canShift
        else
          if !shifts && lookahead ≠ Symbols.endOfText then
            onStack fun s ↦ s.removeVersion version
          reduceAll start lookahead before fuel (round + 1) onward (canShift || shifts)
      | none =>
        if !shifts && lookahead ≠ Symbols.endOfText then
          onStack fun s ↦ s.removeVersion version
        reduceAll start lookahead before fuel (round + 1) onward (canShift || shifts)

def reduceAllFrom (version lookahead : Nat) : Parse Bool := do
  m.reduceAll version lookahead (← versionCount) 1000 0 version false

/-- What stands for skipped trees: an error, if there are any but extras, and the extras at the end. -/
def skippedAs (trees : List Tree) : List Tree :=
  let (children, extras) := Tree.splitExtras trees
  if children.isEmpty then extras else .errorNode m.symbols true children :: extras

/-- Makes an error of the trees that a version was left by, if it stands in a state; ends it if not. -/
def retreatIn (state : Nat) (slice : Stack.Slice) : Parse Bool := do
  if (← getStack).stateOf slice.version ≠ state then
    onStack fun s ↦ s.halt slice.version
    pure false
  else
    let (error, stack) := (← getStack).popError slice.version
    modify fun s ↦ { s with stack := stack }
    let skipped := (error.map Tree.children).getD []
    pushAll slice.version state (m.skippedAs (skipped ++ slice.choices.headD []))
    pure true

def retreatInAll (state : Nat) : List Stack.Slice → Parse Bool
  | [] => pure false
  | slice :: rest => do
    let isDone ← m.retreatIn state slice
    let areDone ← retreatInAll state rest
    pure (isDone || areDone)

/-- Makes an error of the trees down to a depth, in versions that then stand in a state. -/
def retreatTo (version depth state : Nat) : Parse Bool := do
  let (slices, stack) := (← getStack).pop version depth
  modify fun s ↦ { s with stack := stack }
  m.retreatInAll state slices

/-- Tries the retreats in turn until one leads to a state that can deal with the token. -/
def tryRetreats (version before cost : Nat) (position : Extent) (hasNodes : Bool)
    (lookahead : Tree) : List Retreat → Parse Bool
  | [] => pure false
  | r :: rest => do
    let s ← getStack
    if r.state = Automaton.errorState || r.position.bytes = position.bytes then
      tryRetreats version before cost position hasNodes lookahead rest
    else if (List.range before).any fun v ↦
        s.stateOf v = r.state && (s.positionOf v).bytes = position.bytes then
      tryRetreats version before cost position hasNodes lookahead rest
    else
      let newCost := cost + r.depth * Parsing.cost.skippedTree +
        (position.bytes - r.position.bytes) * Parsing.cost.skippedByte +
        (position.lines - r.position.lines) * Parsing.cost.skippedLine
      if ← betterExists version newCost then pure false
      else if (m.actions r.state lookahead.symbol).isEmpty then
        tryRetreats version before cost position hasNodes lookahead rest
      else if ← m.retreatTo version (if hasNodes then r.depth + 1 else r.depth) r.state then
        pure true
      else tryRetreats version before cost position hasNodes lookahead rest

/-- Drops the versions from a number on that are not active. -/
def dropInactive (first : Nat) : Parse Unit :=
  onStack fun s ↦
    (List.range s.versions.size).reverse.foldl (fun t v ↦
      if first ≤ v && !t.isActive v then t.removeVersion v else t) s

/-- Lets a version remember what the scanner remembers after a token. -/
def remember (version : Nat) (token : Tree) : Parse Unit :=
  match token.info.memory with
  | some memory => onStack fun s ↦ s.modifyVersion version fun v ↦ { v with memory := memory }
  | none => pure ()

/-- A skipped token, as an extra if it is one. -/
def skippedToken (lookahead : Tree) : Tree :=
  match (m.actions Automaton.startState lookahead.symbol).getLast? with
  | some .shiftExtra => lookahead.withExtra true
  | _ => lookahead

/-- Takes the text skipped last from a version, and puts more behind it. -/
def joinPiece (version : Nat) (piece : Tree) : Parse Tree := do
  let (slices, stack) := (← getStack).pop version 1
  modify fun s ↦ { s with stack := stack }
  match slices with
  | slice :: _ =>
    onStack fun s ↦ (s.takeVersions (slice.version + 1)).renumberVersion slice.version version
    pure (.node m.symbols Symbols.errorPiece [] (slice.choices.headD [] ++ [piece]))
  | [] => pure piece

/-- Puts a token, with the text skipped before it, on top of a version in error. -/
def skip (version : Nat) (lookahead : Tree) (hasNodes : Bool) : Parse Unit := do
  let piece := Tree.node m.symbols Symbols.errorPiece [] [m.skippedToken lookahead]
  let piece ← if hasNodes then m.joinPiece version piece else pure piece
  push version (some piece) Automaton.errorState
  remember version lookahead

/-- Deals with a token in error: goes back to a state that can use it, and also skips it. -/
def recover (version : Nat) (lookahead : Tree) : Parse Unit := do
  let before ← versionCount
  onStack fun s ↦ s.lowerMark version
  let s ← getStack
  let position := s.positionOf version
  let hasNodes := s.nodesSinceError version > 0
  let cost := s.errorCostOf version
  let retreats := if lookahead.isError then []
    else ((s.version version).retreats.getD #[]).toList
  let didRetreat ← m.tryRetreats version before cost position hasNodes lookahead retreats
  dropInactive before
  if lookahead.symbol = Symbols.endOfText then
    m.accept version [.errorNode m.symbols false [], lookahead]
  else if didRetreat && (maxVersions < (← versionCount) || lookahead.info.changesMemory) then
    onStack fun s ↦ s.halt version
  else
    let newCost := cost + Parsing.cost.skippedTree +
      lookahead.extent.bytes * Parsing.cost.skippedByte +
      lookahead.extent.lines * Parsing.cost.skippedLine
    if ← betterExists version newCost then onStack fun s ↦ s.halt version
    else m.skip version lookahead hasNodes

/-- Tries to put in a missing token, so that the lookahead can be dealt with after it. -/
def tryMissing (version lookahead : Nat) : List Nat → Parse Bool
  | [] => pure false
  | token :: rest => do
    let state := (← getStack).stateOf version
    let behind := m.next state token
    if behind = 0 || behind = state || !m.hasReduction behind lookahead then
      tryMissing version lookahead rest
    else
      let copy ← versionCount
      onStack fun s ↦ s.copyVersion version
      push copy (some (.missing m.symbols token)) behind
      if ← m.reduceAllFrom copy lookahead then pure true
      else tryMissing version lookahead rest

/-- Begins an error in each of some versions, and puts in a missing token in one of them. -/
def beginError (lookahead : Nat) : List Nat → Bool → Parse Unit
  | [], _ => pure ()
  | version :: rest, didInsert => do
    let didInsert ← if didInsert then pure true
      else do
        let state := (← getStack).stateOf version
        let expected : TokenSet := (m.stateAt state).expected
        let tokens := ((List.range m.symbols.tokenCount).drop 1).filter fun t ↦ expected.testBit t
        m.tryMissing version lookahead tokens
    push version none Automaton.errorState
    beginError lookahead rest didInsert

/-- Merges so many versions that come one after the other into an earlier one, as far as they stand like
it. -/
def mergeAll (version first : Nat) : Nat → Parse Unit
  | 0 => pure ()
  | count + 1 => do
    let _ ← merge version first
    mergeAll version first count

/-- Begins to recover from a token that a version cannot deal with. -/
def handleError (version : Nat) (lookahead : Tree) : Parse Unit := do
  let before ← versionCount
  let _ ← m.reduceAllFrom version Symbols.endOfText
  let count ← versionCount
  let others := (List.range count).filter fun v ↦ before ≤ v
  m.beginError lookahead.info.firstToken (version :: others) false
  mergeAll version before others.length
  onStack fun s ↦ s.recordRetreats version maxRetreat
  m.recover version lookahead

/-! ## Going on -/

/-- Sets a version on a token that it has dealt with. -/
def shift (version state : Nat) (lookahead : Tree) (isExtra : Bool) : Parse Unit := do
  push version (some (lookahead.withExtra isExtra)) state
  remember version lookahead

/-- What has become of a token after some actions. -/
inductive Outcome where
  | dealtWith
  /-- Reductions were made; the last of them is in this version. -/
  | reduced (last : Option Nat)
  | nothing

/-- The version with the last reduction. -/
def Outcome.made : Outcome → Option Nat
  | .reduced last => last
  | _ => none

/-- Deals with a token by an action that is no reduction. -/
def deal (version state : Nat) (token : Tree) : Action → Parse Unit
  | .shift target _ => shift version target token false
  | .shiftExtra => shift version state token true
  | .accept => m.accept version [token]
  | .recover => m.recover version token
  | .reduce _ => pure ()

/-- Carries out actions in turn, up to one that deals with the token. -/
def perform (version state : Nat) (lookahead : Option Tree) :
    List Action → Outcome → Parse Outcome
  | [], outcome => pure outcome
  | .shift _ true :: rest, outcome => perform version state lookahead rest outcome
  | .reduce r :: rest, outcome => do
    let made ← m.reduce version r lookahead.isNone
    perform version state lookahead rest (.reduced (made <|> outcome.made))
  | action :: rest, outcome => do
    match lookahead with
    | some token =>
      m.deal version state token action
      pure .dealtWith
    | none => perform version state lookahead rest outcome

/-- The token to go on with, which is looked for if need be, and nothing at the end of a rule that may
stand anywhere. -/
def fetch (version state : Nat) (lookahead : Option Tree) (mustLex : Bool) : Parse (Option Tree) :=
  if mustLex then m.lex text version state else pure lookahead

/-- The number that a token has for the automaton. -/
def numberFor (mustLex : Bool) : Option Tree → Nat
  | some t => if mustLex then t.symbol else t.info.firstToken
  | none => m.symbols.endOfExtra

/-- A keyword as a word, where it is no keyword and there may be a word. -/
def asWord (state : Nat) (t : Tree) : Option Tree :=
  match m.lexicon.word with
  | some word =>
    if t.info.isKeyword && t.symbol ≠ word && !m.isReserved state t.symbol &&
        !(m.actions state word).isEmpty then some (t.asToken m.symbols word)
    else none
  | none => none

/-- Lets a version deal with a token, which is looked for if need be. -/
def advanceWith (version : Nat) : Nat → Option Tree → Bool → Parse Unit
  | 0, _, _ => onStack fun s ↦ s.halt version
  | fuel + 1, lookahead, mustLex => do
    let state := (← getStack).stateOf version
    let lookahead ← m.fetch text version state lookahead mustLex
    let actions := m.actions state (m.numberFor mustLex lookahead)
    match ← m.perform version state lookahead actions .nothing with
    | .dealtWith => pure ()
    | .reduced (some made) =>
      onStack fun s ↦ s.renumberVersion made version
      advanceWith version fuel lookahead lookahead.isNone
    | .reduced none => onStack fun s ↦ s.halt version
    | .nothing =>
      match lookahead with
      | none => onStack fun s ↦ s.halt version
      | some t =>
        match m.asWord state t with
        | some word => advanceWith version fuel (some word) false
        | none =>
          if state = Automaton.errorState then m.recover version t
          else onStack fun s ↦ s.pause version t

/-- Lets a version go on until it is further in the text than any has been. -/
def advanceFar (version : Nat) : Nat → Nat → Parse Nat
  | 0, far => pure far
  | fuel + 1, far => do
    if (← getStack).isActive version then
      m.advanceWith text version (1000 + 10 * text.size) none true
      let place := ((← getStack).positionOf version).bytes
      if far < place || (0 < version && place = far) then pure place
      else advanceFar version fuel far
    else pure far

/-- Lets all versions go on, the later ones too that come up meanwhile. -/
def advanceAll : Nat → Nat → Nat → Parse Nat
  | 0, _, far => pure far
  | fuel + 1, version, far => do
    if version < (← versionCount) then
      let far ← m.advanceFar text version 100000 far
      advanceAll fuel (version + 1) far
    else pure far

/-- Compares a version with one before it. Gives back how many versions before the next one to look at
are gone, or nothing if the version itself is gone. -/
def settlePair (first second : Nat) (a b : Standing) : Parse (Option Bool) := do
  match a.compare b with
  | .takeFirst =>
    onStack fun s ↦ s.removeVersion second
    pure none
  | .preferFirst | .neither => if ← merge first second then pure none else pure (some false)
  | .preferSecond =>
    if ← merge first second then pure none
    else
      onStack fun s ↦ s.swapVersions second first
      pure (some false)
  | .takeSecond =>
    onStack fun s ↦ s.removeVersion first
    pure (some true)

/-- Compares a version with all before it; gives back the number of the next version. -/
def settleVersion (mine : Standing) : Nat → Nat → Nat → Parse Nat
  | 0, _, version => pure (version + 1)
  | fuel + 1, other, version => do
    if other < version then
      match ← settlePair other version (← standing other) mine with
      | none => pure version
      | some true => settleVersion mine fuel other (version - 1)
      | some false => settleVersion mine fuel (other + 1) version
    else pure (version + 1)

/-- Drops and merges versions, and puts the better ones first. Gives back the least cost of one that is
not in error. -/
def settleAll : Nat → Nat → Option Nat → Parse (Option Nat)
  | 0, _, least => pure least
  | fuel + 1, version, least => do
    let count ← versionCount
    if count ≤ version then pure least
    else if (← getStack).isHalted version then
      onStack fun s ↦ s.removeVersion version
      settleAll fuel version least
    else
      let mine ← standing version
      let least := if mine.isInError then least
        else some (match least with
          | some c => min c mine.cost
          | none => mine.cost)
      let following ← settleVersion mine (count + 1) 0 version
      settleAll fuel following least

/-- Lets the first version that waits recover, if none before it goes on; the others that wait are
dropped. -/
def resumeFrom : Nat → Nat → Nat → Bool → Option Nat → Parse (Option Nat)
  | 0, _, _, _, least => pure least
  | fuel + 1, version, count, hasActive, least => do
    if count ≤ version then pure least
    else
      match ((← getStack).version version).status with
      | .paused token =>
        if !hasActive && (← get).finishedCount < maxVersions then
          let cost := (← getStack).errorCostOf version
          onStack fun s ↦ s.modifyVersion version fun v ↦ { v with status := .active }
          m.handleError version token
          resumeFrom fuel (version + 1) count true (some cost)
        else
          onStack fun s ↦ s.removeVersion version
          resumeFrom fuel version (count - 1) hasActive least
      | _ => resumeFrom fuel (version + 1) count true least

/-- Settles which versions go on. Gives back the least cost of one that is not in error. -/
def condense : Parse (Option Nat) := do
  let least ← settleAll 10000 0 none
  onStack fun s ↦ s.takeVersions maxVersions
  let count ← versionCount
  m.resumeFrom 100 0 count false least

/-- Goes on until no version is left, or a finished tree is better than what any could still find. -/
def run : Nat → Nat → Parse Unit
  | 0, _ => pure ()
  | fuel + 1, far => do
    let far ← m.advanceAll text 1000 0 far
    let count ← versionCount
    let least ← m.condense
    let isDone := (← get).finished.any fun t ↦
      match least with
      | some c => t.errorCost < c
      | none => true
    if isDone || count = 0 then pure () else run fuel far

def initial : ParseState :=
  ⟨⟨#[⟨Automaton.startState, .zero, #[], 0, 0, 0⟩], #[⟨0, [], 0, .active, none⟩]⟩, none, 0⟩

/-- The tree of a text. -/
def parse (source : String) : Option Tree :=
  let text := (readable source).toArray
  ((m.run text (1000 + 100 * text.size) 0).run initial).2.finished

end Machine

end SourceSurvey.Parsing
