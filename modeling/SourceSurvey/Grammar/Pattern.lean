import SourceSurvey.Grammar.CharSet

/-!
Patterns of characters, and reading them from the usual regular expression syntax: alternatives,
groups, square brackets, the repetitions `*`, `+`, `?` and counts in braces, the full stop, and
backslash escapes.
-/

namespace SourceSurvey.Grammar

inductive Pattern where
  | empty
  | set (s : CharSet)
  | seq (a b : Pattern)
  | either (a b : Pattern)
  /-- One or more times. -/
  | many (a : Pattern)
deriving DecidableEq, Repr, Inhabited

namespace Pattern

def optional (a : Pattern) : Pattern := .either a .empty

def times (a : Pattern) : Nat → Pattern
  | 0 => .empty
  | 1 => a
  | n + 1 => .seq a (times a n)

def atMost (a : Pattern) : Nat → Pattern
  | 0 => .empty
  | n + 1 => optional (.seq a (atMost a n))

def ofChars : List Char → Pattern
  | [] => .empty
  | [c] => .set (.single c)
  | c :: cs => .seq (.set (.single c)) (ofChars cs)

/-! ## Reading -/

def hexValue (c : Char) : Nat :=
  if '0' ≤ c && c ≤ '9' then c.toNat - 48 else c.toLower.toNat - 87

def hexNumber (digits : List Char) : Nat :=
  digits.foldl (fun n c ↦ n * 16 + hexValue c) 0

def className? (name : String) : Option CharClass :=
  match name with
  | "XID_Start" => some .nameStart
  | "XID_Continue" => some .nameContinue
  | "Zs" => some .spaceSeparator
  | _ => none

/-- Reads what follows a backslash. -/
def readEscape : List Char → List CharPart × List Char
  | 'd' :: rest => (CharSet.digits, rest)
  | 'w' :: rest => (CharSet.wordParts, rest)
  | 's' :: rest => (CharSet.blanks, rest)
  | 'n' :: rest => (char '\n', rest)
  | 'r' :: rest => (char '\r', rest)
  | 't' :: rest => (char '\t', rest)
  | 'f' :: rest => (char '\x0c', rest)
  | 'v' :: rest => (char '\x0b', rest)
  | '0' :: rest => (char '\x00', rest)
  | 'x' :: a :: b :: rest => (char (Char.ofNat (hexNumber [a, b])), rest)
  | 'u' :: a :: b :: c :: d :: rest => (char (Char.ofNat (hexNumber [a, b, c, d])), rest)
  | 'p' :: '{' :: rest =>
    let name := rest.takeWhile fun c ↦ c ≠ '}'
    ((className? (String.ofList name)).toList.map CharPart.class,
      (rest.dropWhile fun c ↦ c ≠ '}').drop 1)
  | c :: rest => (char c, rest)
  | [] => ([], [])
where
  char (c : Char) : List CharPart := [.range c c]

/-- Reads one end of a range, or a class. -/
def readPart : List Char → List CharPart × List Char
  | '\\' :: rest => readEscape rest
  | c :: rest => ([.range c c], rest)
  | [] => ([], [])

/-- Reads the parts of a set up to its closing bracket. -/
def readParts : Nat → List Char → List CharPart → List CharPart × List Char
  | 0, rest, parts => (parts, rest)
  | _, [], parts => (parts, [])
  | _, ']' :: rest, parts => (parts, rest)
  | fuel + 1, cs, parts =>
    let (part, rest) := readPart cs
    match part, rest with
    | [.range first _], '-' :: d :: rest' =>
      if d = ']' then readParts fuel rest (parts ++ part)
      else
        match readPart (d :: rest') with
        | ([.range _ last], rest) => readParts fuel rest (parts ++ [.range first last])
        | (other, rest) => readParts fuel rest (parts ++ part ++ other)
    | _, _ => readParts fuel rest (parts ++ part)

def number (digits : List Char) : Nat := digits.foldl (fun n c ↦ n * 10 + (c.toNat - 48)) 0

/-- Applies the repetition marks that follow a part. -/
def readRepeats : Nat → Pattern → List Char → Pattern × List Char
  | 0, p, rest => (p, rest)
  | fuel + 1, p, '*' :: rest => readRepeats fuel (optional (.many p)) rest
  | fuel + 1, p, '+' :: rest => readRepeats fuel (.many p) rest
  | fuel + 1, p, '?' :: rest => readRepeats fuel (optional p) rest
  | fuel + 1, p, '{' :: rest =>
    let low := rest.takeWhile Char.isDigit
    let rest := rest.dropWhile Char.isDigit
    match rest with
    | ',' :: rest =>
      let high := rest.takeWhile Char.isDigit
      let rest := (rest.dropWhile Char.isDigit).drop 1
      if high.isEmpty then
        readRepeats fuel (.seq (times p (number low)) (optional (.many p))) rest
      else
        readRepeats fuel (.seq (times p (number low)) (atMost p (number high - number low))) rest
    | _ => readRepeats fuel (times p (number low)) (rest.drop 1)
  | _ + 1, p, rest => (p, rest)

/-- Reads alternatives up to a closing parenthesis or the end. `done` holds the alternatives read so
far, and `current` the sequence under way. -/
def readAlternatives : Nat → List Char → Option Pattern → Option Pattern → Pattern × List Char
  | 0, rest, done, current => (join done current, rest)
  | _, [], done, current => (join done current, [])
  | _, ')' :: rest, done, current => (join done current, rest)
  | fuel + 1, '|' :: rest, done, current =>
    readAlternatives fuel rest (some (join done current)) none
  | fuel + 1, '(' :: rest, done, current =>
    let rest := match rest with
      | '?' :: ':' :: rest => rest
      | rest => rest
    let (inner, rest) := readAlternatives fuel rest none none
    let (part, rest) := readRepeats fuel inner rest
    readAlternatives fuel rest done (some (append current part))
  | fuel + 1, '[' :: rest, done, current =>
    let (inverted, rest) := match rest with
      | '^' :: rest => (true, rest)
      | rest => (false, rest)
    let (parts, rest) := readParts fuel rest []
    let (part, rest) := readRepeats fuel (.set ⟨inverted, parts⟩) rest
    readAlternatives fuel rest done (some (append current part))
  | fuel + 1, '.' :: rest, done, current =>
    let (part, rest) := readRepeats fuel (.set .dot) rest
    readAlternatives fuel rest done (some (append current part))
  | fuel + 1, cs, done, current =>
    let (parts, rest) := readPart cs
    let (part, rest) := readRepeats fuel (.set ⟨false, parts⟩) rest
    readAlternatives fuel rest done (some (append current part))
where
  append (current : Option Pattern) (part : Pattern) : Pattern :=
    match current with
    | some p => .seq p part
    | none => part
  join (done current : Option Pattern) : Pattern :=
    match done with
    | some p => .either p (current.getD .empty)
    | none => current.getD .empty

def ofString (source : String) : Pattern :=
  (readAlternatives (2 * source.length + 2) source.toList none none).1

end Pattern

end SourceSurvey.Grammar
