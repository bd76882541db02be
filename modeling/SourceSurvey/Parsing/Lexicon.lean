import SourceSurvey.Parsing.Symbols

/-!
The tokens of a grammar as one machine over characters. Each token has a chain of places; a place asks
for a character, or completes the token. Blanks and the like may come before every token that is not
immediate.
-/

namespace SourceSurvey.Parsing

open Grammar

namespace Lexicon

inductive Place where
  /-- Asks for a character; a separating one comes before the token itself. -/
  | advance (set : CharSet) (next : Nat) (isSeparator : Bool) (precedence : Int)
  | split (a b : Nat)
  | accept (precedence : Int)
deriving Repr, Inhabited

abbrev Build := StateM (Array Place)

def add (p : Place) : Build Nat := modifyGet fun places ↦ (places.size, places.push p)

/-- Adds the places of a pattern in front of a place, and gives back where they begin. -/
def buildPattern (isSeparator : Bool) (precedence : Int) : Pattern → Nat → Build Nat
  | .empty, next => pure next
  | .set s, next => add (.advance s next isSeparator precedence)
  | .seq a b, next => do buildPattern isSeparator precedence a (← buildPattern isSeparator precedence b next)
  | .either a b, next => do
    let x ← buildPattern isSeparator precedence a next
    let y ← buildPattern isSeparator precedence b next
    add (.split x y)
  | .many a, next => do
    let loop ← add default
    let start ← buildPattern isSeparator precedence a loop
    modify fun places ↦ places.setIfInBounds loop (.split start next)
    pure start

mutual

def buildRule (isSeparator : Bool) (precedence : Int) : Rule → Nat → Build Nat
  | .text s, next => buildPattern isSeparator precedence (.ofChars s.toList) next
  | .pattern p, next => buildPattern isSeparator precedence (.ofString p) next
  | .seq members, next => buildSeq isSeparator precedence members next
  | .choice members, next => buildChoice isSeparator precedence members next
  | .many content, next => do
    let loop ← add default
    let start ← buildRule isSeparator precedence content loop
    modify fun places ↦ places.setIfInBounds loop (.split start next)
    pure start
  | .marked m content, next =>
    let precedence := match m.precedence with
      | .level n => n
      | _ => precedence
    buildRule isSeparator precedence content next
  | _, next => pure next

def buildSeq (isSeparator : Bool) (precedence : Int) : List Rule → Nat → Build Nat
  | [], next => pure next
  | r :: rs, next => do
    buildRule isSeparator precedence r (← buildSeq isSeparator precedence rs next)

def buildChoice (isSeparator : Bool) (precedence : Int) : List Rule → Nat → Build Nat
  | [], next => pure next
  | [r], next => buildRule isSeparator precedence r next
  | r :: rs, next => do
    let x ← buildRule isSeparator precedence r next
    let y ← buildChoice isSeparator precedence rs next
    add (.split x y)

end

def completionPrecedence : Rule → Int
  | .marked m _ => match m.precedence with
    | .level n => n
    | _ => 0
  | _ => 0

/-- Fixed texts go before patterns, and immediate tokens before others. -/
def rankOf : Rule → Nat
  | .text _ => 2
  | .marked m content => rankOf content + if m.isImmediate then 1 else 0
  | _ => 0

def isImmediate : Rule → Bool
  | .marked m _ => m.isImmediate
  | _ => false

/-- Adds the places of a token, and gives back where it begins. -/
def buildToken (separators : List Rule) (t : Token) : Build Nat := do
  let done ← add (.accept (completionPrecedence t.rule))
  let start ← buildRule false 0 t.rule done
  if isImmediate t.rule || separators.isEmpty then pure start
  else
    let loop ← add default
    let separated ← buildChoice true 0 separators loop
    modify fun places ↦ places.setIfInBounds loop (.split start separated)
    pure loop

/-- The places reached without a character, in the order of their numbers. -/
def reach (places : Array Place) : Nat → List Nat → List Nat → List Nat → List Nat
  | 0, _, _, found => found
  | _, [], _, found => found
  | fuel + 1, p :: rest, seen, found =>
    if seen.contains p then reach places fuel rest seen found
    else
      match places.getD p default with
      | .split a b => reach places fuel (a :: b :: rest) (p :: seen) found
      | _ => reach places fuel rest (p :: seen) (p :: found)

def reachableFrom (places : Array Place) (p : Nat) : Array Nat :=
  (reach places (3 * places.size + 3) [p] [] []).toArray.qsort fun a b ↦ a < b

end Lexicon

open Lexicon in
structure Lexicon where
  places : Array Place
  /-- By place: the places that ask or complete, reached from it without a character. -/
  reachable : Array (Array Nat)
  /-- By place: the number of its token. -/
  owners : Array Nat
  /-- By token: where it begins. -/
  starts : Array Nat
  /-- By token: where it stands among tokens of the same precedence, the first the best. -/
  orders : Array (Nat × Nat)
  /-- Texts that are tokens of their own among the words. -/
  keywords : Std.HashMap String Nat
  word : Option Nat

namespace Lexicon

variable (l : Lexicon)

/-- The places where a token of a set may begin. -/
def startingPlaces (tokens : TokenSet) : Array Nat :=
  ((Array.range l.starts.size).flatMap fun t ↦
    if t > 0 && tokens.testBit t then
      match l.starts[t]? with
      | some p => l.reachable.getD p #[]
      | none => #[]
    else #[]).qsort fun a b ↦ a < b

/-- Whether one completed token is preferred to another. -/
def prefers (a b : Nat × Int) : Bool :=
  if a.2 ≠ b.2 then b.2 < a.2
  else
    let x := l.orders.getD a.1 (0, 0)
    let y := l.orders.getD b.1 (0, 0)
    if x.1 ≠ y.1 then y.1 < x.1 else x.2 < y.2

/-- The token completed at one of some places. -/
def completion (active : Array Nat) : Option (Nat × Int) :=
  active.foldl (fun best p ↦
    match l.places.getD p default with
    | .accept precedence =>
      let new := (l.owners.getD p 0, precedence)
      match best with
      | some b => if l.prefers b new then best else some new
      | none => some new
    | _ => best) none

structure Transition where
  /-- The places behind the character, not yet those reached from them. -/
  targets : Array Nat
  isSeparator : Bool
  precedence : Int

/-- Where a character leads from some places. -/
def transition (active : Array Nat) (c : Char) : Option Transition :=
  active.foldl (fun t p ↦
    match l.places.getD p default with
    | .advance set next isSeparator precedence =>
      if set.has c then
        match t with
        | some t => some ⟨t.targets.push next, t.isSeparator && isSeparator, max t.precedence precedence⟩
        | none => some ⟨#[next], isSeparator, precedence⟩
      else t
    | _ => t) none

def asksSeparator (active : Array Nat) : Bool :=
  active.any fun p ↦
    match l.places.getD p default with
    | .advance _ _ isSeparator _ => isSeparator
    | _ => false

/-- Whether to go on rather than to be content with a completed token. -/
def goesOn (active : Array Nat) (t : Transition) : Option (Nat × Int) → Bool
  | none => true
  | some (token, precedence) =>
    if t.precedence < precedence then false
    else if t.precedence = precedence then
      !t.isSeparator &&
        (!l.asksSeparator active || t.targets.any fun p ↦ l.owners.getD p 0 = token)
    else true

def dropRepeats (sorted : Array Nat) : Array Nat :=
  sorted.foldl (fun kept p ↦ if kept.back? = some p then kept else kept.push p) #[]

def advance (t : Transition) : Array Nat :=
  if t.targets.size = 1 then l.reachable.getD (t.targets.getD 0 0) #[]
  else dropRepeats ((t.targets.flatMap fun p ↦ l.reachable.getD p #[]).qsort fun a b ↦ a < b)

/-- How far a reading has come. -/
structure Reading where
  /-- The token completed last, and where it ends. -/
  found : Option (Nat × Nat)
  start : Nat
  position : Nat

/-- Reads on from a position. `atEnd` says whether the end of the text may be found here. -/
def read (text : Array Char) : Nat → Array Nat → Bool → Reading → Reading
  | 0, _, _, r => r
  | fuel + 1, active, atEnd, r =>
    let completed := l.completion active
    let r := match completed with
      | some (token, _) => { r with found := some (token, r.position) }
      | none => r
    match text[r.position]? with
    | none => if atEnd then { r with found := some (Symbols.endOfText, r.position) } else r
    | some c =>
      match l.transition active c with
      | none => r
      | some t =>
        if l.goesOn active t completed then
          let position := r.position + 1
          read text fuel (l.advance t) (atEnd && t.isSeparator)
            { r with position := position, start := if t.isSeparator then position else r.start }
        else r

/-- Passes over a mark of the byte order at the front of a text. -/
def passMark (text : Array Char) (position : Nat) : Nat :=
  if position = 0 && text[0]? = some '\ufeff' then 1 else position

/-- Whether no token is left to the machine. It then takes the text to end wherever it is. -/
def isEmpty : Bool := l.starts.size ≤ 1

/-- Reads a token of a set, given where these begin. -/
def readToken (text : Array Char) (starting : Array Nat) (atEnd : Bool) (position : Nat) : Reading :=
  let position := passMark text position
  if l.isEmpty then ⟨some (Symbols.endOfText, position), position, position⟩
  else l.read text (text.size + 1 - position) starting atEnd ⟨none, position, position⟩

/-- Whether the machine reads a whole text as a token. -/
def accepts (token : Nat) (text : String) : Bool :=
  let r := l.readToken text.toList.toArray (l.startingPlaces (TokenSet.single token)) false 0
  r.found = some (token, text.toList.length) && r.start = 0

/-- Fixed texts that the word token would read. -/
def keywordsOf (g : Flat) (word : Nat) : Std.HashMap String Nat :=
  g.tokens.zipIdx.foldl (fun known (t, i) ↦
    match t.rule with
    | .text s =>
      let n := numberOf g (.token i)
      match s.toList with
      | c :: _ =>
        if n ≠ word && (c.isAlpha || c = '_' || 0x80 ≤ c.toNat) && l.accepts word s then
          known.insert s n
        else known
      | [] => known
    | _ => known) {}

def ofGrammar (g : Flat) : Lexicon :=
  let count := 1 + g.tokens.size + g.externals.size
  let ((starts, owners), places) := ((g.tokens.zipIdx.foldlM (fun (starts, owners) (t, i) ↦ do
    let n := numberOf g (.token i)
    let start ← buildToken g.separators t
    let size := (← get).size
    pure (starts.setIfInBounds n start, owners ++ Array.replicate (size - owners.size) n))
    (Array.replicate (1 + g.tokens.size) 0, (#[] : Array Nat)) : Build _).run #[])
  let bare : Lexicon :=
    { places := places
      reachable := (Array.range places.size).map (reachableFrom places)
      owners := owners
      starts := starts
      orders := g.tokens.zipIdx.foldl (fun orders (t, i) ↦
        orders.setIfInBounds (numberOf g (.token i)) (rankOf t.rule, i)) (Array.replicate count (0, 0))
      keywords := {}
      word := g.word.map fun w ↦ numberOf g (.token w) }
  match bare.word with
  | some word => { bare with keywords := bare.keywordsOf g word }
  | none => bare

end Lexicon

end SourceSurvey.Parsing
