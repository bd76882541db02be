import SourceSurvey.Parsing.Canonical
import SourceSurvey.Parsing.Clash

/-!
Merging states. States of one core are one if they never do different things with a token, if no token
of one would be taken for a token of the other, and if they lead to states that are one.

The states of a core begin as one group. A group that holds states at odds gives up those that are at
odds with a state before them; they make a new group, which is looked at in turn.
-/

namespace SourceSurvey.Parsing

/-- What merging goes by. -/
structure Merging where
  rules : Rules
  canonical : Canonical
  /-- Tokens that no other state takes over. -/
  apart : TokenSet
  /-- By token: the tokens that a state with it does not take over. -/
  spoiled : Array TokenSet
  /-- By number of a set of tokens: the tokens that a state with all of them does not take over. -/
  refused : Array TokenSet

/-- Groups of states. -/
structure Groups where
  members : Array (Array Nat)
  /-- By state. -/
  groupOf : Array Nat

/-- Lets a group keep some states and makes a new group of the others. -/
def Groups.give (g : Groups) (i : Nat) (stay go : Array Nat) : Groups :=
  let new := g.members.size
  ⟨(g.members.setIfInBounds i stay).push go,
    go.foldl (fun table state ↦ table.setIfInBounds state new) g.groupOf⟩

namespace Merging

def refusedFor (spoiled : Array TokenSet) (tokens : TokenSet) : TokenSet :=
  (spoiled.foldl (fun (set, t) more ↦ (if tokens.testBit t then set ||| more else set, t + 1)) (0, 0)).1

/-- By token: the tokens that spoil it, but for words and keywords, which go together. -/
def spoiledBy (clash : Clash) (keywords : TokenSet) (word : Option Nat) (size : Nat) :
    Array TokenSet :=
  (List.range size).foldl (fun table t ↦
    (List.range size).foldl (fun table u ↦
      if (clash.spoils t).testBit u &&
          !(word = some u && keywords.testBit t) && !(word = some t && keywords.testBit u) then
        table.modify u fun set ↦ set ||| TokenSet.single t
      else table) table) (Array.replicate size 0)

variable (m : Merging)

def core (state : Nat) : Core := m.rules.core (m.canonical.spots.getD state default).core

def endings (state : Nat) : Array Nat := m.canonical.endings.getD state #[]

def targets (state : Nat) : Array Nat := m.canonical.targets.getD state #[]

/-- The sets that may follow the complete items of a state. -/
def followers (state : Nat) : Array TokenSet := (m.endings state).map m.canonical.pool.set

def endsExtra (state : Nat) : Bool :=
  (m.followers state).any fun set ↦ set.testBit m.rules.symbols.endOfExtra

/-- The tokens that can be dealt with in a state, the end of an interposed rule among them. -/
def tokens (state : Nat) : TokenSet :=
  let all := TokenSet.single (m.rules.symbols.endOfExtra + 1) - 1
  let set := (m.followers state).foldl (fun set s ↦ set ||| s) (m.core state).shiftable
  (if m.endsExtra state then set else set ||| m.rules.extraTokens) &&& all

/-- The tokens that a state does not take over. -/
def refusedBy (direct : TokenSet) (state : Nat) : TokenSet :=
  (m.endings state).foldl (fun set n ↦ set ||| m.refused.getD n 0) direct

/-- What a state does with a token, with the number of a core for the state that it leads to. -/
def actions (core : Core) (followers : Array TokenSet) (token : Nat) : List Action :=
  let target := core.wayOf[token]?.map fun w ↦ (core.ways.getD w default).target
  m.rules.settle core (m.rules.completeBefore core followers token) token target

/-- A state that has been kept in a group. -/
structure Kept where
  followers : Array TokenSet
  tokens : TokenSet
  refused : TokenSet

def keep (direct : TokenSet) (state : Nat) : Kept :=
  ⟨m.followers state, m.tokens state, m.refusedBy direct state⟩

/-- Whether two states of a core do different things with a token, or cannot take over a token. -/
def areAtOdds (core : Core) (a b : Kept) : Bool :=
  let onlyA := a.tokens &&& (a.tokens ^^^ (a.tokens &&& b.tokens))
  let onlyB := b.tokens &&& (b.tokens ^^^ (a.tokens &&& b.tokens))
  onlyA &&& b.refused ≠ 0 || onlyB &&& a.refused ≠ 0 ||
    let changed := (a.followers.zip b.followers).foldl (fun set (x, y) ↦ set ||| (x ^^^ y)) 0 &&&
      a.tokens &&& b.tokens
    changed ≠ 0 && (List.range m.rules.symbols.tokenCount).any fun t ↦
      changed.testBit t && m.actions core a.followers t ≠ m.actions core b.followers t

/-- The ways of a state by which groups are told apart: for tokens those that it takes, and if asked for
also those for variables. -/
def telling (state : Nat) (withVariables : Bool) : Array Nat :=
  let core := m.core state
  let followers := m.followers state
  let followed := followers.foldl (fun set s ↦ set ||| s) 0
  (Array.range core.ways.size).filter fun w ↦
    let s := (core.ways.getD w default).symbol
    if m.rules.symbols.isToken s then
      !followed.testBit s || (m.actions core followers s).any fun action ↦
        match action with
        | .shift _ _ => true
        | _ => false
    else withVariables

/-- Whether two states lead to different groups. -/
def leadApart (groupOf : Array Nat) (telling : Array Nat) (a b : Nat) : Bool :=
  let x := m.targets a
  let y := m.targets b
  telling.any fun w ↦
    let s := x.getD w 0
    let t := y.getD w 0
    s ≠ t && groupOf.getD s 0 ≠ groupOf.getD t 0

/-- How the states of a group are being told apart. -/
structure Sorting where
  /-- The states that stay, each kind once, in order. -/
  kept : Array Kept
  /-- By the sets that follow: the place of the first of those that is at odds with such a state. -/
  verdicts : Std.HashMap (Array Nat) (Option Nat)
  stay : Array Nat
  /-- The states that go, each with that place. -/
  go : Array (Nat × Nat)

/-- Lets a state stay or go. -/
def Sorting.place (s : Sorting) (state : Nat) (verdict : Option Nat) : Sorting :=
  match verdict with
  | some i => { s with go := s.go.push (i, state) }
  | none => { s with stay := s.stay.push state }

/-- Which states of a group stay, by what they do, and which go. Those that go are in the order of the
states that they are at odds with. -/
def sortByActions (groupOf : Array Nat) (states : Array Nat) : Array Nat × Array Nat :=
  match states[0]? with
  | none => (states, #[])
  | some first =>
    let core := m.core first
    let telling := m.telling first false
    let direct := refusedFor m.spoiled core.shiftable ||| m.apart
    let direct := if m.endsExtra first then direct
      else direct ||| refusedFor m.spoiled m.rules.extraTokens
    let sorting := states.foldl (fun (s : Sorting) state ↦
      if m.leadApart groupOf telling first state then s.place state (some 0)
      else
        let key := m.endings state
        match s.verdicts[key]? with
        | some verdict => s.place state verdict
        | none =>
          let new := m.keep direct state
          let verdict := s.kept.findIdx? fun old ↦ m.areAtOdds core old new
          let s := { s with verdicts := s.verdicts.insert key verdict }
          let s := if verdict.isNone then { s with kept := s.kept.push new } else s
          s.place state verdict) (⟨#[], {}, #[], #[]⟩ : Sorting)
    (sorting.stay, ((sorting.go.toList.mergeSort fun a b ↦ decide (a.1 ≤ b.1)).map (·.2)).toArray)

/-- Splits the groups from a number on whose states do different things, the new groups too. -/
def splitByActions : Nat → Nat → Groups → Groups
  | 0, _, g => g
  | fuel + 1, i, g =>
    match g.members[i]? with
    | none => g
    | some states =>
      let (stay, go) := if states.size < 2 then (states, #[]) else m.sortByActions g.groupOf states
      splitByActions fuel (i + 1) (if go.isEmpty then g else g.give i stay go)

/-- Splits the groups from a number on whose states lead to different groups, the new groups too, given
the ways of each group. Says whether there were any. -/
def splitByTargets : Nat → Nat → Groups → Array (Array Nat) → Bool →
    Groups × Array (Array Nat) × Bool
  | 0, _, g, ways, changed => (g, ways, changed)
  | fuel + 1, i, g, ways, changed =>
    match g.members[i]? with
    | none => (g, ways, changed)
    | some states =>
      let mine := ways.getD i #[]
      let (stay, go) := match states[0]? with
        | some first => states.partition fun state ↦ !m.leadApart g.groupOf mine first state
        | none => (states, #[])
      if go.isEmpty then splitByTargets fuel (i + 1) g ways changed
      else splitByTargets fuel (i + 1) (g.give i stay go) (ways.push mine) true

/-- Splits groups until no state leads elsewhere than others of its group. -/
def settleTargets : Nat → Groups → Array (Array Nat) → Groups
  | 0, g, _ => g
  | fuel + 1, g, ways =>
    let (g, ways, changed) := m.splitByTargets 1000000 0 g ways false
    if changed then settleTargets fuel g ways else g

/-- The groups of all states; those of the error state and the start come first. -/
def groups : Groups :=
  let cores := m.canonical.spots.map (·.core)
  let members := cores.zipIdx.foldl (fun (members : Array (Array Nat)) (c, state) ↦
    members.modify c fun states ↦ states.push state) (Array.replicate m.rules.cores.size #[])
  let g := m.splitByActions 1000000 0 ⟨members, cores⟩
  m.settleTargets 1000 g (g.members.map fun states ↦
    if states.size < 2 then #[] else m.telling (states.getD 0 0) true)

end Merging

end SourceSurvey.Parsing
