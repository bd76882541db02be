import SourceSurvey.Parsing.Automaton
import SourceSurvey.Parsing.Lexicon
import SourceSurvey.Parsing.Stack

/-!
All that a parse of a language needs, and finding its tokens. The scanner of the language goes first,
then the machine for tokens. Where neither finds a token that is expected, any token will do, and where
there is none, text is skipped up to the next one.
-/

namespace SourceSurvey.Parsing

open Grammar

/-- A token that a scanner has found: its number among the external ones, where it begins and ends, and
what the scanner remembers. -/
structure Scanned where
  external : Nat
  start : Nat
  stop : Nat
  memory : Memory
deriving Repr

/-- Looks for one of some external tokens at a place in a text. -/
abbrev Scanner := Array Char → Nat → Memory → (Nat → Bool) → Option Scanned

/-- The scanner of a language that needs none. -/
def Scanner.none : Scanner := fun _ _ _ _ ↦ Option.none

structure Machine where
  automaton : Automaton
  lexicon : Lexicon
  scanner : Scanner
  /-- The symbols of the external tokens. -/
  externals : Array Nat
  reserved : TokenSet
  /-- By mode: where its tokens begin, and whether the text may end there. -/
  starting : Array (Array Nat × Bool)

def Machine.ofGrammar (g : Grammar) (scanner : Scanner) : Machine :=
  let flat := Grammar.flatten (separate g)
  let lexicon := Lexicon.ofGrammar flat
  let automaton := Automaton.ofGrammar g flat lexicon
  let named (names : List String) : TokenSet := flat.tokens.zipIdx.foldl (fun set (t, i) ↦
    if names.contains t.name then set ||| TokenSet.single (numberOf flat (.token i)) else set) 0
  ⟨automaton, lexicon, scanner,
    (Array.range flat.externals.size).map fun i ↦ numberOf flat (.external i),
    named g.reserved,
    automaton.modes.map fun tokens ↦
      (lexicon.startingPlaces tokens, tokens.testBit Symbols.endOfText)⟩

structure ParseState where
  stack : Stack
  /-- The best tree of the whole text so far. -/
  finished : Option Tree
  finishedCount : Nat

abbrev Parse := StateM ParseState

namespace Machine

variable (m : Machine) (text : Array Char)

def symbols : Symbols := m.automaton.symbols

def onStack (f : Stack → Stack) : Parse Unit :=
  modify fun s ↦
    let stack := s.stack
    let s := { s with stack := ⟨#[], #[]⟩ }
    { s with stack := f stack }

def actions (state token : Nat) : List Action :=
  if m.symbols.tokenCount < token then [] else m.automaton.actions state token

def next (state symbol : Nat) : Nat := m.automaton.next state symbol

def stateAt (n : Nat) : State := m.automaton.state n

def hasReduction (state token : Nat) : Bool :=
  match m.actions state token with
  | .reduce _ :: _ => true
  | _ => false

/-- Where the tokens that are looked for in a state begin, and whether the text may end there. -/
def startingAt (state : Nat) : Array Nat × Bool :=
  m.starting.getD (m.stateAt state).mode (#[], false)

/-- Which external tokens are expected. -/
def externalsAt (state : Nat) : Nat → Bool :=
  let expected := (m.stateAt state).expected
  fun i ↦ expected.testBit (m.externals.getD i Symbols.error)

/-- A token of no length is of use only if it changes what the scanner remembers or the parse has moved
on since its last error, and not if it may stand anywhere. -/
def isIdle (version state : Nat) (inError : Bool) (place : Nat) (found : Scanned) : Parse Bool := do
  let stack := (← get).stack
  if found.stop ≤ place && found.memory = (stack.version version).memory then
    let target := m.next state (m.externals.getD found.external Symbols.error)
    pure (inError || !stack.hasAdvanced version || target = state)
  else pure false

/-- A token that the scanner finds. -/
def scanAt (version state lexState place : Nat) (inError : Bool) : Parse (Option Scanned) := do
  let valid := m.externalsAt lexState
  if (List.range m.externals.size).any valid then
    let memory := ((← get).stack.version version).memory
    match m.scanner text (Lexicon.passMark text place) memory valid with
    | some found =>
      if ← m.isIdle version state inError place found then pure none else pure (some found)
    | none => pure none
  else pure none

/-- Whether a keyword is reserved in a state. -/
def isReserved (state keyword : Nat) : Bool :=
  m.reserved.testBit keyword && (m.stateAt state).reserves

/-- The keyword that a word is, if it may be one in this state, and whether it is one anywhere. -/
def keywordAt (state first last : Nat) : Option Nat × Bool :=
  let word := String.ofList (text.extract first last).toList
  match m.lexicon.keywords[word]? with
  | some keyword =>
    if m.isReserved state keyword || !(m.actions state keyword).isEmpty then (some keyword, true)
    else (none, true)
  | none => (none, false)

/-- The token between two places, with what is passed over before it from an earlier place on. -/
def leafOf (begin : Extent) (first last symbol : Nat) (isKeyword : Bool) (memory : Option Memory)
    (changesMemory : Bool) : Tree :=
  let start := begin.upTo text first
  .leaf m.symbols symbol (start - begin) (start.upTo text last - start) isKeyword memory changesMemory

/-- Looks for a token from a place on. `skipped` holds where skipped text begins and ends. -/
def lexFrom (version state : Nat) (begin : Extent) :
    Nat → Nat → Bool → Option (Nat × Nat) → Parse Tree
  | 0, place, _, _ => pure (m.leafOf text begin place place Symbols.error false none false)
  | fuel + 1, place, inError, skipped => do
    let lexState := if inError then Automaton.errorState else state
    match ← m.scanAt text version state lexState place inError with
    | some found =>
      match skipped with
      | some (first, last) => pure (m.leafOf text begin first last Symbols.error false none false)
      | none =>
        let old := ((← get).stack.version version).memory
        pure (m.leafOf text begin (min found.start found.stop) found.stop
          (m.externals.getD found.external Symbols.error) false (some found.memory)
          (found.memory ≠ old))
    | none =>
      let (places, atEnd) := m.startingAt lexState
      let r := m.lexicon.readToken text places atEnd place
      match r.found with
      | some (token, stop) =>
        match skipped with
        | some (first, last) => pure (m.leafOf text begin first last Symbols.error false none false)
        | none =>
          let start := min r.start stop
          if m.lexicon.word = some token then
            let (keyword, isKeyword) := m.keywordAt text state start stop
            pure (m.leafOf text begin start stop (keyword.getD token) isKeyword none false)
          else pure (m.leafOf text begin start stop token false none false)
      | none =>
        if !inError then lexFrom version state begin fuel begin.chars true none
        else
          let (first, last) := skipped.getD (r.start, r.start)
          if r.position = last then
            if text.size ≤ r.position then
              pure (m.leafOf text begin first last Symbols.error false none false)
            else lexFrom version state begin fuel (r.position + 1) true (some (first, r.position + 1))
          else lexFrom version state begin fuel r.position true (some (first, r.position))

/-- The next token of a version, or nothing at the end of a rule that may stand anywhere. -/
def lex (version state : Nat) : Parse (Option Tree) := do
  if (m.stateAt state).endsExtra then pure none
  else
    let place := (← get).stack.positionOf version
    some <$> m.lexFrom text version state place (2 * text.size + 8) place.chars
      (state = Automaton.errorState) none

end Machine

end SourceSurvey.Parsing
