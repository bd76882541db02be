import SourceSurvey.Parsing.Items
import SourceSurvey.Parsing.Lexicon

/-!
How the tokens of a lexicon get into each other's way. Two tokens may be complete on the same text, one
may go on where the other is complete, and one may be complete where blanks are still passed. To find
out, two tokens are read side by side, with one character of each kind that the lexicon tells apart.
-/

namespace SourceSurvey.Parsing

open Grammar

/-! ## Kinds of characters -/

/-- The lexicon by kinds of characters. Sets of kinds are given as bits. -/
structure Kinds where
  /-- By place: the kinds that it asks for. -/
  asked : Array Nat
  /-- By token: the kinds that it begins with, blanks before it left out. -/
  beginning : Array Nat
  /-- By token: the kinds that may come behind it. -/
  following : Array Nat
  blank : Nat

namespace Kinds

/-- Characters that tell a class from other classes. -/
def samplesOfClass : CharClass → List Char
  | .nameStart => ['é']
  | .nameContinue => ['\u0301']
  | .spaceSeparator => ['\u2003']

def samplesOf : CharPart → List Char
  | .range first last =>
    if last.toNat < 128 then []
    else [first, last, Char.ofNat (first.toNat - 1), Char.ofNat (last.toNat + 1)]
  | .class k => samplesOfClass k

/-- One character of each kind that some sets tell apart. -/
def representatives (sets : List CharSet) : List Char :=
  let samples := (List.range 128).map Char.ofNat ++ sets.flatMap fun s ↦ s.parts.flatMap samplesOf
  (samples.foldl (fun (known : Std.HashMap (List Bool) Char) c ↦
    known.insertIfNew (sets.map (·.has c)) c) {}).toList.map (·.2)

def kindsIn (representatives : List Char) (set : CharSet) : Nat :=
  (representatives.foldl (fun (n, bit) c ↦ (if set.has c then n ||| bit else n, bit <<< 1)) (0, 1)).1

/-- Reads off the kinds, given the tokens that may come behind each token. -/
def ofLexicon (l : Lexicon) (behind : Array TokenSet) : Kinds :=
  let sets := (l.places.foldl (fun (known : Std.HashSet CharSet) p ↦
    match p with
    | .advance set _ _ _ => known.insert set
    | _ => known) {}).toList
  let representatives := representatives sets
  let kinds : Std.HashMap CharSet Nat := Std.HashMap.ofList (sets.map fun set ↦
    (set, kindsIn representatives set))
  let asked := l.places.map fun p ↦
    match p with
    | .advance set _ _ _ => kinds.getD set 0
    | _ => 0
  let startOf (t : Nat) := if t = 0 then #[] else l.reachable.getD (l.starts.getD t 0) #[]
  let gather (ps : Array Nat) (isSeparator : Bool) : Nat := ps.foldl (fun n p ↦
    match l.places.getD p default with
    | .advance _ _ b _ => if b = isSeparator then n ||| asked.getD p 0 else n
    | _ => n) 0
  let tokens := Array.range l.starts.size
  let starting := tokens.map fun t ↦ gather (startOf t) false ||| gather (startOf t) true
  { asked := asked
    beginning := tokens.map fun t ↦ gather (startOf t) false
    following := tokens.map fun t ↦ starting.zipIdx.foldl (fun n (kinds, u) ↦
      if (behind.getD t 0).testBit u then n ||| kinds else n) 0
    blank := tokens.foldl (fun n t ↦ n ||| gather (startOf t) true) 0 }

end Kinds

/-! ## Two tokens side by side -/

/-- What a token does where it meets another one. -/
structure Bearing where
  /-- It is complete on the same text, and preferred. -/
  isSame : Bool
  /-- It goes on where the other is complete. -/
  continues : Bool
  /-- It does so with a character that may come behind the other. -/
  intrudes : Bool
  /-- It is complete where blanks are passed. -/
  separates : Bool
  /-- It is complete, and preferred, where the other could go on. -/
  leads : Bool

def Bearing.none : Bearing := ⟨false, false, false, false, false⟩

/-- The bearings of two tokens to each other. -/
structure Meeting where
  a : Nat
  b : Nat
  ofA : Bearing
  ofB : Bearing

namespace Meeting

def note (m : Meeting) (token : Nat) (change : Bearing → Bearing) : Meeting :=
  if token = m.a then { m with ofA := change m.ofA } else { m with ofB := change m.ofB }

variable (l : Lexicon) (k : Kinds)

/-- The kinds of characters, split by the places that ask for them. -/
def split (active : Array Nat) : List (Nat × List Nat) :=
  let all := active.foldl (fun set p ↦ set ||| k.asked.getD p 0) 0
  active.foldl (fun groups p ↦
    let asked := k.asked.getD p 0
    if asked = 0 then groups
    else groups.flatMap fun (set, ps) ↦
      let inside := set &&& asked
      if inside = 0 then [(set, ps)]
      else if inside = set then [(set, p :: ps)]
      else [(inside, p :: ps), (set ^^^ inside, ps)]) [(all, [])]

/-- Where characters of a kind lead from the places that ask for them, the last given first. -/
def transition (places : List Nat) : Option Lexicon.Transition :=
  places.reverse.foldl (fun t p ↦
    match l.places.getD p default with
    | .advance _ next isSeparator precedence =>
      match t with
      | some t => some ⟨t.targets.push next, t.isSeparator && isSeparator, max t.precedence precedence⟩
      | none => some ⟨#[next], isSeparator, precedence⟩
    | _ => t) none

/-- Lets the tokens that are complete at some places compete. -/
def complete (active : Array Nat) (m : Meeting) : Option (Nat × Int) × Meeting :=
  let amongBlanks := l.asksSeparator active
  active.foldl (fun (best, m) p ↦
    match l.places.getD p default with
    | .accept precedence =>
      let token := l.owners.getD p 0
      let m := if amongBlanks then m.note token fun b ↦ { b with separates := true } else m
      match best with
      | some (old, oldPrecedence) =>
        if old = token then (best, m)
        else if l.prefers (old, oldPrecedence) (token, precedence) then
          (best, m.note old fun b ↦ { b with isSame := true })
        else (some (token, precedence), m.note token fun b ↦ { b with isSame := true })
      | none => (some (token, precedence), m)
    | _ => (best, m)) ((none : Option (Nat × Int)), m)

/-- Notes what it means to go on from some places to others with characters of some kinds. -/
def goOn (active targets : Array Nat) (t : Lexicon.Transition) (kinds : Nat)
    (completed : Option (Nat × Int)) (m : Meeting) : Meeting :=
  match completed with
  | none => m
  | some (token, precedence) =>
    if targets.any fun p ↦ l.owners.getD p 0 = token then m
    else
      let other := if token = m.a then m.b else m.a
      let goesOn := if t.precedence = precedence then !t.isSeparator && !l.asksSeparator active
        else precedence < t.precedence
      if goesOn then
        let isValid := (k.following.getD token 0) &&& kinds ≠ 0
        m.note other fun b ↦ { b with continues := true, intrudes := b.intrudes || isValid }
      else m.note token fun b ↦ { b with leads := true }

/-- Reads on from what is still to be looked at. -/
def search : Nat → List (Array Nat) → Std.HashSet (Array Nat) → Meeting → Meeting
  | 0, _, _, m => m
  | _, [], _, m => m
  | fuel + 1, active :: rest, seen, m =>
    let isAlone := match active[0]? with
      | some p => active.all fun q ↦ l.owners.getD q 0 = l.owners.getD p 0
      | none => true
    if isAlone then search fuel rest seen m
    else
      let (completed, m) := complete l active m
      let (rest, seen, m) := (split k active).foldl (fun (rest, seen, m) (kinds, places) ↦
        match transition l places with
        | none => (rest, seen, m)
        | some t =>
          let targets := l.advance t
          let m := goOn l k active targets t kinds completed m
          if seen.contains targets then (rest, seen, m)
          else (targets :: rest, seen.insert targets, m)) (rest, seen, m)
      search fuel rest seen m

/-- Whether two tokens have nothing to do with each other. -/
def areApart (a b : Nat) : Bool :=
  let x := k.beginning.getD a 0
  let y := k.beginning.getD b 0
  x &&& (y ||| k.blank) = 0 && y &&& (x ||| k.blank) = 0

def of (a b : Nat) : Meeting :=
  let start := l.startingPlaces (TokenSet.single a ||| TokenSet.single b)
  search l k 100000 [start] {} ⟨a, b, .none, .none⟩

end Meeting

/-! ## All tokens -/

/-- By token: the tokens to which it has a certain bearing. -/
structure Clash where
  same : Array TokenSet
  continues : Array TokenSet
  intrudes : Array TokenSet
  separates : Array TokenSet
  leads : Array TokenSet

namespace Clash

def relate (b : Bearing) (x y : Nat) (c : Clash) : Clash :=
  let add (has : Bool) (sets : Array TokenSet) :=
    if has then sets.modify x fun set ↦ set ||| TokenSet.single y else sets
  ⟨add b.isSame c.same, add b.continues c.continues, add b.intrudes c.intrudes,
    add b.separates c.separates, add b.leads c.leads⟩

/-- The tokens that may come directly behind each token. -/
def behind (symbols : Symbols) (items : Items) (lines : Array Items.Line) (extras : List Nat)
    (size : Nat) : Array TokenSet :=
  let initial := (Array.range items.first.size).map fun i ↦
    if i < symbols.tokenCount then TokenSet.single i else 0
  let last := Items.settle items.first.size (fun sets ↦ lines.foldl (fun sets l ↦
    match l.symbols.back? with
    | some s => Items.grow sets (symbols.firstVariable + l.head) (sets.getD s 0)
    | none => sets) sets) initial
  let all := TokenSet.single size - 2
  let pairs : Std.HashSet (Nat × Nat) := lines.foldl (fun pairs l ↦
    (l.symbols.zip (l.symbols.extract 1 l.symbols.size)).foldl (fun pairs p ↦ pairs.insert p) pairs) {}
  let table := pairs.fold (fun table (x, y) ↦
    let left := last.getD x 0
    let right := items.first.getD y 0
    (Array.range size).foldl (fun table t ↦
      if left.testBit t then Items.grow table t right else table) table) (Array.replicate size 0)
  extras.foldl (fun table e ↦
    if e < size then (table.map fun set ↦ set ||| TokenSet.single e).setIfInBounds e all
    else table) table

def ofLexicon (l : Lexicon) (behind : Array TokenSet) : Clash :=
  let size := l.starts.size
  let k := Kinds.ofLexicon l behind
  let none := Array.replicate size 0
  (List.range size).foldl (fun c a ↦
    (List.range a).foldl (fun c b ↦
      if b = 0 || Meeting.areApart k a b then c
      else
        let m := Meeting.of l k a b
        relate m.ofB b a (relate m.ofA a b c)) c) ⟨none, none, none, none, none⟩

variable (c : Clash)

/-- The tokens that a token spoils, if it is looked for together with them. -/
def spoils (token : Nat) : TokenSet :=
  c.intrudes.getD token 0 ||| c.separates.getD token 0 ||| c.same.getD token 0

/-- The tokens that a token has a text or a beginning in common with. -/
def overlaps (token : Nat) : TokenSet :=
  c.separates.getD token 0 ||| c.leads.getD token 0 ||| c.same.getD token 0 |||
    c.continues.getD token 0

/-- Whether a token may take the place of a longer or shorter one. -/
def outdoes (a b : Nat) : Bool :=
  (c.intrudes.getD a 0 ||| c.separates.getD a 0).testBit b && !(c.separates.getD b 0).testBit a

end Clash

end SourceSurvey.Parsing
