/-!
Glob patterns: what their pieces are, and reading a pattern from its text.

`?` stands for one byte of a name, `*` for any bytes of a name, and `**` between separators for any
number of directories. Brackets hold a set of characters, braces a choice of patterns.
-/

namespace SourceSurvey.Glob

inductive Token where
  | literal (c : Char)
  | any
  | star
  /-- `**` and the separator behind it, at the start. -/
  | upper
  /-- `**` between two separators, with both. -/
  | middle
  /-- `**` and the separator before it, at the end. -/
  | lower
  | set (negated : Bool) (ranges : List (Char × Char))
  /-- A choice; without branches it is nothing at all. -/
  | choice (branches : List (List Token))
deriving Inhabited

abbrev Pattern := List Token

inductive Error where
  | unclosedSet
  | invalidRange (low high : Char)
  | unopenedChoice
  | unclosedChoice
deriving DecidableEq

def Error.message : Error → String
  | .unclosedSet => "unclosed character class; missing ']'"
  | .invalidRange low high =>
    "invalid range; '" ++ low.toString ++ "' > '" ++ high.toString ++ "'"
  | .unopenedChoice =>
    "unopened alternate group; missing '\x7b' (maybe escape '\x7d' with '[\x7d]'?)"
  | .unclosedChoice =>
    "unclosed alternate group; missing '\x7d' (maybe escape '\x7b' with '[\x7b]'?)"

def Token.isNothing : Token → Bool
  | .choice [] => true
  | _ => false

/-- A choice among branches; a branch that is nothing does not count. -/
def Token.ofBranches (branches : List Pattern) : Token :=
  .choice (branches.filter fun branch ↦ !branch.all Token.isNothing)

/-- Ends the last range at `c`. -/
def closeRange (c : Char) : List (Char × Char) → Except Error (List (Char × Char))
  | [] => .ok [(c, c)]
  | (low, _) :: ranges =>
    if c < low then .error (.invalidRange low c) else .ok ((low, c) :: ranges)

/-- Reads a set behind its bracket and the mark of negation. At its first character a bracket or a
hyphen stands for itself; `dash` holds behind a hyphen that waits for the end of a range. -/
def readSet (first : Bool) (ranges : List (Char × Char)) (dash : Bool) :
    List Char → Except Error (List (Char × Char) × List Char)
  | [] => .error .unclosedSet
  | c :: rest =>
    if first then readSet false [(c, c)] false rest
    else if c = ']' then
      .ok ((if dash then ('-', '-') :: ranges else ranges).reverse, rest)
    else if dash then
      match closeRange c ranges with
      | .ok ranges => readSet false ranges false rest
      | .error e => .error e
    else if c = '-' then readSet false ranges true rest
    else readSet false ((c, c) :: ranges) false rest

/-- A choice that has been opened: what came before it, and its finished branches, both with the
last one first. -/
structure Opened where
  before : Pattern
  branches : List Pattern

/-- What has been read of a pattern. -/
structure State where
  /-- The branch under way, the last token first. -/
  current : Pattern
  opened : List Opened
  /-- The character before the rest. -/
  previous : Option Char

namespace State

def start : State := ⟨[], [], none⟩

def push (s : State) (t : Token) (c : Char) : State :=
  { s with current := t :: s.current, previous := some c }

/-- `**` that does not stand between separators. -/
def pushStars (s : State) : State := (s.push .star '*').push .star '*'

/-- Two stars, with what follows them: the new state and what is left. -/
def stars (s : State) (rest : List Char) : State × List Char :=
  if s.current.isEmpty then
    match rest with
    | [] => (s.push .upper '*', [])
    | '/' :: rest => (s.push .upper '/', rest)
    | _ => (s.pushStars, rest)
  else if s.previous != some '/' &&
      (s.opened.isEmpty || (s.previous != some ',' && s.previous != some '{')) then
    (s.pushStars, rest)
  else
    let closed (t : Token) : Pattern :=
      match s.current with
      | .upper :: _ => s.current
      | .lower :: _ => s.current
      | _ :: before => t :: before
      | [] => [t]
    match rest with
    | [] => ({ s with current := closed .lower, previous := some '*' }, [])
    | '/' :: rest => ({ s with current := closed .middle, previous := some '/' }, rest)
    | c :: _ =>
      if (c = ',' || c = '}') && !s.opened.isEmpty then
        ({ s with current := closed .lower, previous := some '*' }, rest)
      else (s.pushStars, rest)

/-- A bracket, with what follows it. -/
def bracket (s : State) (rest : List Char) : Except Error (State × List Char) := do
  let negated := rest.head? = some '!' || rest.head? = some '^'
  let (ranges, rest) ← readSet true [] false (if negated then rest.drop 1 else rest)
  pure (s.push (.set negated ranges) ']', rest)

def openChoice (s : State) : State := ⟨[], ⟨s.current, []⟩ :: s.opened, some '{'⟩

def comma (s : State) : State :=
  match s.opened with
  | [] => s.push (.literal ',') ','
  | choice :: outer =>
    let branches := s.current.reverse :: choice.branches
    ⟨[], { choice with branches } :: outer, some ','⟩

def closeChoice (s : State) : Except Error State :=
  match s.opened with
  | [] => .error .unopenedChoice
  | choice :: outer =>
    let branches := (s.current.reverse :: choice.branches).reverse
    .ok ⟨.ofBranches branches :: choice.before, outer, some '}'⟩

end State

def readFrom : Nat → State → List Char → Except Error Pattern
  | _, s, [] => if s.opened.isEmpty then .ok s.current.reverse else .error .unclosedChoice
  | 0, s, _ => .ok s.current.reverse
  | fuel + 1, s, c :: rest => do
    match c with
    | '?' => readFrom fuel (s.push .any '?') rest
    | '*' =>
      match rest with
      | '*' :: rest =>
        let (s, rest) := s.stars rest
        readFrom fuel s rest
      | _ => readFrom fuel (s.push .star '*') rest
    | '[' =>
      let (s, rest) ← s.bracket rest
      readFrom fuel s rest
    | '{' => readFrom fuel s.openChoice rest
    | '}' => do readFrom fuel (← s.closeChoice) rest
    | ',' => readFrom fuel s.comma rest
    | _ => readFrom fuel (s.push (.literal c) c) rest

/-- Reads a pattern; every character has a step. -/
def read (text : List Char) : Except Error Pattern := readFrom text.length .start text

end SourceSurvey.Glob
