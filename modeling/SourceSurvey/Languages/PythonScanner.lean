import SourceSurvey.Parsing.Machine
import SourceSurvey.Text.Lookahead

/-!
The tokens of Python that depend on what came before: the ends of lines, the beginnings and ends of
indented blocks, and the pieces of strings. What is remembered is how deep the blocks are indented and
which strings are open.
-/

namespace SourceSurvey.Languages.PythonScanner

open Parsing Text.Lookahead

/-- Numbers of the external tokens. -/
abbrev newline : Nat := 0
abbrev indent : Nat := 1
abbrev dedent : Nat := 2
abbrev stringStart : Nat := 3
abbrev stringContent : Nat := 4
abbrev escapeInterpolation : Nat := 5
abbrev stringEnd : Nat := 6
abbrev closeBracket : Nat := 8
abbrev closeParenthesis : Nat := 9
abbrev closeBrace : Nat := 10
abbrev exceptWord : Nat := 11

/-- An open string: the character that ends it, and the letters in front of it. -/
structure Quote where
  mark : Char
  isTriple : Bool
  isRaw : Bool
  isFormat : Bool
  isBytes : Bool

structure Nesting where
  isInFormat : Bool
  /-- The innermost first. -/
  quotes : List Quote
  /-- The innermost first; at the outermost there is none. -/
  indents : List Nat

namespace Nesting

def bit (b : Bool) : Nat := if b then 1 else 0

def writeQuotes (quotes : List Quote) : Memory :=
  quotes.flatMap fun q ↦ [q.mark.toNat, bit q.isTriple, bit q.isRaw, bit q.isFormat, bit q.isBytes]

def readQuotes : Nat → Memory → List Quote × Memory
  | n + 1, m :: a :: b :: c :: d :: rest =>
    let (quotes, rest) := readQuotes n rest
    (⟨Char.ofNat m, a = 1, b = 1, c = 1, d = 1⟩ :: quotes, rest)
  | _, rest => ([], rest)

def toMemory (n : Nesting) : Memory :=
  bit n.isInFormat :: n.quotes.length :: (writeQuotes n.quotes ++ n.indents)

def ofMemory : Memory → Nesting
  | f :: count :: rest =>
    let (quotes, indents) := readQuotes count rest
    ⟨f = 1, quotes, indents⟩
  | _ => ⟨false, [], []⟩

def indentation (n : Nesting) : Nat := n.indents.headD 0

/-- Leaves the innermost string. -/
def leaveString (n : Nesting) : Nesting := { n with isInFormat := false, quotes := n.quotes.drop 1 }

end Nesting

/-! ## Inside a string -/

inductive ContentReading where
  | found (s : Scanned)
  | nothing
  /-- The text ends inside the string. -/
  | ended (place : Nat)

/-- The place behind a backslash, and what it protects, in a raw string. -/
def behindRawBackslash (text : Array Char) (mark : Char) (place : Nat) : Nat :=
  let place := place + 1
  let c := charAt text place
  let place := if c = mark || c = '\\' then place + 1 else place
  match charAt text place with
  | '\x0d' => if charAt text (place + 1) = '\n' then place + 2 else place + 1
  | '\n' => place + 1
  | _ => place

/-- Reads on in a string. `hasContent` says whether anything has been read yet. -/
def readContent (text : Array Char) (start : Nat) (n : Nesting) (q : Quote) :
    Nat → Nat → Bool → ContentReading
  | 0, place, _ => .ended place
  | fuel + 1, place, hasContent =>
    let content (stop : Nat) : Scanned := ⟨stringContent, start, stop, n.toMemory⟩
    let ending (stop : Nat) : Scanned := ⟨stringEnd, start, stop, n.leaveString.toMemory⟩
    let c := charAt text place
    if c = '\x00' then .ended place
    else if (c = '\x7b' || c = '\x7d') && q.isFormat then
      if hasContent then .found (content place) else .nothing
    else if c = '\\' then
      if q.isRaw then readContent text start n q fuel (behindRawBackslash text q.mark place) hasContent
      else
        let next := charAt text (place + 1)
        if q.isBytes && (next = 'N' || next = 'u' || next = 'U') then
          readContent text start n q fuel (place + 3) true
        else if hasContent then .found (content place)
        else .nothing
    else if c = q.mark then
      if q.isTriple then
        if charAt text (place + 1) = q.mark then
          if charAt text (place + 2) = q.mark then
            .found (if hasContent then content place else ending (place + 3))
          else .found (content (place + 2))
        else .found (content (place + 1))
      else .found (if hasContent then content place else ending (place + 1))
    else if c = '\n' && hasContent && !q.isTriple then .nothing
    else readContent text start n q fuel (place + 1) true

/-! ## Between tokens -/

/-- What the blanks and comments in front of a token say. -/
structure Layout where
  place : Nat
  foundLineEnd : Bool
  width : Nat
  firstComment : Option Nat

/-- Widths are kept to sixteen bits. -/
def widen (width more : Nat) : Nat := (width + more) % 65536

/-- Passes over blanks and, where blocks or lines may end, comments. Nothing comes of a comment behind a
token on its line, nor of a backslash that does not continue a line. -/
def readLayout (text : Array Char) (readsComments : Bool) : Nat → Layout → Option Layout
  | 0, l => some l
  | fuel + 1, l =>
    if text.size ≤ l.place then some { l with width := 0, foundLineEnd := true }
    else
      match charAt text l.place with
      | '\n' => readLayout text readsComments fuel ⟨l.place + 1, true, 0, l.firstComment⟩
      | ' ' => readLayout text readsComments fuel
          { l with place := l.place + 1, width := widen l.width 1 }
      | '\x0d' => readLayout text readsComments fuel { l with place := l.place + 1, width := 0 }
      | '\x0c' => readLayout text readsComments fuel { l with place := l.place + 1, width := 0 }
      | '\t' => readLayout text readsComments fuel
          { l with place := l.place + 1, width := widen l.width 8 }
      | '#' =>
        if !readsComments then some l
        else if !l.foundLineEnd then none
        else
          let stop := pass text (fun c ↦ c ≠ '\x00' && c ≠ '\n') l.place
          readLayout text readsComments fuel
            ⟨min (stop + 1) text.size, true, 0, l.firstComment.or (some l.width)⟩
      | '\\' =>
        let place := if charAt text (l.place + 1) = '\x0d' then l.place + 2 else l.place + 1
        if text.size ≤ place then readLayout text readsComments fuel { l with place := place }
        else if charAt text place = '\n' then
          readLayout text readsComments fuel { l with place := place + 1 }
        else none
      | _ => some l

/-! ## The beginning of a string -/

/-- Reads the letters in front of a string. -/
def readFlags (text : Array Char) : Nat → Nat → Quote → Nat × Quote
  | 0, place, q => (place, q)
  | fuel + 1, place, q =>
    match charAt text place with
    | 'f' | 'F' | 't' | 'T' => readFlags text fuel (place + 1) { q with isFormat := true }
    | 'r' | 'R' => readFlags text fuel (place + 1) { q with isRaw := true }
    | 'b' | 'B' => readFlags text fuel (place + 1) { q with isBytes := true }
    | 'u' | 'U' => readFlags text fuel (place + 1) q
    | _ => (place, q)

def readStart (text : Array Char) (start : Nat) (n : Nesting) : Option Scanned :=
  let (place, q) := readFlags text (text.size - start) start ⟨'\x00', false, false, false, false⟩
  let c := charAt text place
  let opened (q : Quote) (stop : Nat) : Option Scanned :=
    some ⟨stringStart, start, stop,
      { n with isInFormat := q.isFormat, quotes := q :: n.quotes : Nesting }.toMemory⟩
  if c = '\x60' then opened { q with mark := c } (place + 1)
  else if c = '\'' || c = '"' then
    if charAt text (place + 1) = c && charAt text (place + 2) = c then
      opened { q with mark := c, isTriple := true } (place + 3)
    else opened { q with mark := c } (place + 1)
  else none

/-! ## Scanning -/

def scanLayout (text : Array Char) (start place : Nat) (n : Nesting) (valid : Nat → Bool) :
    Option Scanned :=
  let isRecovering := valid stringContent && valid indent
  let isInBrackets := valid closeBrace || valid closeParenthesis || valid closeBracket
  let readsComments := valid indent || valid dedent || valid newline || valid exceptWord
  match readLayout text readsComments (text.size + 2 - place) ⟨place, false, 0, none⟩ with
  | none => none
  | some l =>
    let start := if l.place = place then start else l.place
    let c := charAt text l.place
    let comesString := c = '"' || c = '\'' || c = '\x60'
    if l.foundLineEnd && valid indent && n.indentation < l.width then
      some ⟨indent, start, place, { n with indents := l.width :: n.indents : Nesting }.toMemory⟩
    else if l.foundLineEnd &&
        (valid dedent ||
          (!valid newline && !(valid stringStart && comesString) && !isInBrackets)) &&
        l.width < n.indentation && !n.isInFormat &&
        (l.firstComment.all fun width ↦ width < n.indentation) then
      some ⟨dedent, start, place, { n with indents := n.indents.drop 1 : Nesting }.toMemory⟩
    else if l.foundLineEnd && valid newline && !isRecovering then
      some ⟨newline, start, place, n.toMemory⟩
    else if l.firstComment.isNone && valid stringStart then readStart text l.place n
    else none

/-- Looks for a token: in an open string first, then between tokens. -/
def scanner : Scanner := fun text place memory valid ↦
  let n := Nesting.ofMemory memory
  let isRecovering := valid stringContent && valid indent
  let c := charAt text place
  match n.quotes with
  | q :: _ =>
    if valid escapeInterpolation && (c = '\x7b' || c = '\x7d') && !isRecovering && q.isFormat then
      if charAt text (place + 1) = c then
        some ⟨escapeInterpolation, place, place + 2, n.toMemory⟩
      else none
    else if valid stringContent && !isRecovering then
      match readContent text place n q (text.size + 1 - place) place false with
      | .found s => some s
      | .nothing => none
      | .ended p => scanLayout text place p n valid
    else scanLayout text place place n valid
  | [] => scanLayout text place place n valid

end SourceSurvey.Languages.PythonScanner
