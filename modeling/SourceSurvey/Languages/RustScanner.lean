import SourceSurvey.Parsing.Machine
import SourceSurvey.Text.Lookahead

/-!
The tokens of Rust that need more than a pattern: the contents of strings, raw strings with their
hashes, floating point numbers, and the contents of comments, which nest. What is remembered is the
number of hashes of an open raw string.
-/

namespace SourceSurvey.Languages.RustScanner

open Parsing Text.Lookahead

/-- Numbers of the external tokens. -/
abbrev stringContent : Nat := 0
abbrev rawStart : Nat := 1
abbrev rawContent : Nat := 2
abbrev rawEnd : Nat := 3
abbrev floatLiteral : Nat := 4
abbrev outerMarker : Nat := 5
abbrev innerMarker : Nat := 6
abbrev blockContent : Nat := 7
abbrev lineContent : Nat := 8
abbrev sentinel : Nat := 9

/-! ## Strings -/

def scanString (text : Array Char) (place : Nat) (memory : Memory) : Option Scanned :=
  let stop := pass text (fun c ↦ c ≠ '"' && c ≠ '\\') place
  if stop < text.size && place < stop then some ⟨stringContent, place, stop, memory⟩ else none

def scanRawStart (text : Array Char) (place : Nat) : Option Scanned :=
  let c := charAt text place
  let letter := if c = 'b' || c = 'c' then place + 1 else place
  if charAt text letter = 'r' then
    let quote := pass text (· = '#') (letter + 1)
    if charAt text quote = '"' then
      some ⟨rawStart, place, quote + 1, [(quote - (letter + 1)) % 256]⟩
    else none
  else none

/-- Looks for a quote with enough hashes behind it. -/
def rawStop? (text : Array Char) (hashes : Nat) : Nat → Nat → Option Nat
  | 0, _ => none
  | fuel + 1, place =>
    let quote := pass text (· ≠ '"') place
    if text.size ≤ quote then none
    else
      let behind := min (pass text (· = '#') (quote + 1)) (quote + 1 + hashes)
      if behind = quote + 1 + hashes then some quote else rawStop? text hashes fuel behind

/-! ## Numbers -/

def isNumberPart (c : Char) : Bool := c = '_' || c.isDigit

/-- The end of an exponent, if there is one; without digits it does not count. -/
def exponentEnd (text : Array Char) (place : Nat) : Option (Option Nat) :=
  let c := charAt text place
  if c = 'e' || c = 'E' then
    let sign := charAt text (place + 1)
    let digits := if sign = '+' || sign = '-' then place + 2 else place + 1
    if isNumberPart (charAt text digits) then some (some (pass text isNumberPart digits))
    else some none
  else none

/-- The end of a type behind a number, or of the number itself. -/
def suffixEnd (text : Array Char) (place : Nat) : Nat :=
  let c := charAt text place
  if c = 'u' || c = 'i' || c = 'f' then
    let stop := pass text Char.isDigit (place + 1)
    if stop = place + 1 then place else stop
  else place

/-- A number with a fraction or an exponent. A point in front of a letter or another point belongs to
what follows. -/
def scanFloat (text : Array Char) (start place : Nat) (memory : Memory) : Option Scanned :=
  let found (stop : Nat) : Option Scanned := some ⟨floatLiteral, start, stop, memory⟩
  let whole := pass text isNumberPart (place + 1)
  let hasFraction := charAt text whole = '.'
  let next := charAt text (whole + 1)
  if hasFraction && (next.isAlpha || next = '.') then none
  else
    let stop := if hasFraction then pass text isNumberPart (whole + 1) else whole
    match exponentEnd text stop with
    | some none => found stop
    | some (some stop) => found (suffixEnd text stop)
    | none => if hasFraction then found (suffixEnd text stop) else none

/-! ## Comments -/

def scanLineContent (text : Array Char) (place : Nat) (memory : Memory) : Option Scanned :=
  let stop := pass text (· ≠ '\n') place
  some ⟨lineContent, place, min (stop + 1) text.size, memory⟩

inductive CommentState where
  | behindSlash
  | behindStar
  | inside

/-- The last eight bits of a character, which is what the marks of comments are compared with. -/
def lowByte (c : Char) : Nat := c.toNat % 256

abbrev slash : Nat := 47
abbrev star : Nat := 42

/-- Reads on in a comment at a depth; gives back where its content ends. -/
def readComment (text : Array Char) : Nat → Nat → CommentState → Nat → Option Nat → Nat
  | 0, place, _, _, stop => stop.getD place
  | fuel + 1, place, state, depth, stop =>
    if h : place < text.size then
      let c := lowByte text[place]
      let (state, depth, stop) := match state with
        | .behindSlash => (CommentState.inside, if c = star then depth + 1 else depth, stop)
        | .behindStar =>
          if c = star then (CommentState.behindStar, depth, some place)
          else (CommentState.inside, if c = slash then depth - 1 else depth, stop)
        | .inside =>
          (if c = slash then CommentState.behindSlash
            else if c = star then CommentState.behindStar else CommentState.inside,
            depth, some place)
      let place := place + 1
      if depth = 0 then stop.getD place
      else readComment text fuel place state depth (if c = slash then some place else stop)
    else stop.getD place

def scanBlockContent (text : Array Char) (place : Nat) (memory : Memory) (valid : Nat → Bool) :
    Option Scanned :=
  let first := lowByte (charAt text place)
  let isOuter := valid outerMarker && first = star
  let behind := min (place + 1) text.size
  let next := charAt text behind
  if valid innerMarker && first = 33 then some ⟨innerMarker, place, behind, memory⟩
  else if isOuter && next = '/' then none
  else if isOuter && next ≠ '*' then some ⟨outerMarker, place, behind, memory⟩
  else if valid blockContent && !(first = star && next = '/') then
    let state := if first = star then CommentState.behindStar
      else if first = slash then CommentState.behindSlash else CommentState.inside
    some ⟨blockContent, place, readComment text (text.size - place) behind state 1
      (if isOuter then some behind else none), memory⟩
  else none

/-! ## Scanning -/

/-- Looks for a token, but not while any token would do. -/
def scanner : Scanner := fun text place memory valid ↦
  let hashes := memory.headD 0
  let memory := [hashes]
  if valid sentinel then none
  else if valid blockContent || valid innerMarker || valid outerMarker then
    scanBlockContent text place memory valid
  else if valid stringContent && !valid floatLiteral then scanString text place memory
  else if valid lineContent then scanLineContent text place memory
  else
    let start := passBlanks text place
    let c := charAt text start
    if valid rawStart && (c = 'r' || c = 'b' || c = 'c') then scanRawStart text start
    else if valid rawContent then
      (rawStop? text hashes (text.size + 1 - start) start).map fun stop ↦
        ⟨rawContent, start, stop, memory⟩
    else if valid rawEnd && c = '"' then
      some ⟨rawEnd, start, min (start + 1 + hashes) text.size, memory⟩
    else if valid floatLiteral && c.isDigit then scanFloat text start start memory
    else none

end SourceSurvey.Languages.RustScanner
