import SourceSurvey.Json.Cursor
import SourceSurvey.Decimal.Shortest

/-!
Reading JSON from the front of a text: blanks, literals, strings and numbers, and passing over a
value that nobody asked for. The first thing that is wrong ends the reading and says where.
-/

namespace SourceSurvey.Json

/-- Takes a value off the front of the text. -/
abbrev Reader := StateT Cursor (Except Error)

namespace Reader

def failAt {α : Type} (place : Position) (fault : Fault) : Reader α := fun _ ↦ .error ⟨fault, place⟩

/-- Fails at the place reached. -/
def failHere {α : Type} (fault : Fault) : Reader α := fun c ↦ .error ⟨fault, c.here⟩

/-- Fails at the byte ahead. -/
def failAhead {α : Type} (fault : Fault) : Reader α := fun c ↦ .error ⟨fault, c.ahead⟩

def peek : Reader (Option Char) := fun c ↦ .ok (c.rest.head?, c)

def pass : Reader Unit := fun c ↦ .ok ((), c.pass)

/-- How many characters are left. -/
def remaining : Reader Nat := fun c ↦ .ok (c.rest.length, c)

def isBlank (c : Char) : Bool := c = ' ' || c = '\n' || c = '\t' || c = '\r'

def passBlanks : Reader Unit := fun c ↦ .ok ((), c.passWhile isBlank)

/-- Passes blanks and looks at the character behind them. -/
def peekToken : Reader (Option Char) := do
  passBlanks
  peek

/-- The rest of a literal whose first letter has been passed. -/
def literal : List Char → Reader Unit
  | [] => pure ()
  | x :: rest => do
    match ← peek with
    | none => failHere .endInValue
    | some c => if c = x then do pass; literal rest else failAhead .expectedIdent

def isDigit (c : Char) : Bool := '0' ≤ c && c ≤ '9'

def digitValue (c : Char) : Nat := c.toNat - '0'.toNat

def hexValue (c : Char) : Option Nat :=
  if isDigit c then some (digitValue c)
  else if 'a' ≤ c && c ≤ 'f' then some (c.toNat - 'a'.toNat + 10)
  else if 'A' ≤ c && c ≤ 'F' then some (c.toNat - 'A'.toNat + 10)
  else none

/-- The four bytes of a hexadecimal escape. -/
def hexEscape : Reader Nat := fun c ↦
  match c.rest with
  | x :: y :: z :: w :: rest =>
    match hexValue x, hexValue y, hexValue z, hexValue w with
    | some a, some b, some d, some e =>
      let here := (((c.here.after x).after y).after z).after w
      .ok (((a * 16 + b) * 16 + d) * 16 + e, ⟨rest, here⟩)
    | _, _, _, _ => .error ⟨.invalidEscape, Cursor.bytesAhead 4 c.rest c.here⟩
  | rest =>
    if rest.foldl (fun n x ↦ n + x.utf8Size) 0 < 4 then
      .error ⟨.endInString, rest.foldl Position.after c.here⟩
    else .error ⟨.invalidEscape, Cursor.bytesAhead 4 rest c.here⟩

def simpleEscape (c : Char) : Option Char :=
  if c = '"' then some '"'
  else if c = '\\' then some '\\'
  else if c = '/' then some '/'
  else if c = 'b' then some '\x08'
  else if c = 'f' then some '\x0c'
  else if c = 'n' then some '\n'
  else if c = 'r' then some '\r'
  else if c = 't' then some '\t'
  else none

/-- Passes a character that the second half of a surrogate pair needs. -/
def pairMark (wanted : Char) : Reader Unit := do
  match ← peek with
  | none => failHere .endInString
  | some c => if c = wanted then pass else failAhead .unexpectedEndOfHexEscape

/-- A character by its code: one escape, or two for a surrogate pair. -/
def codeEscape : Reader Char := do
  let n ← hexEscape
  if 0xDC00 ≤ n ∧ n < 0xE000 then failHere .loneSurrogate
  else if 0xD800 ≤ n ∧ n < 0xDC00 then do
    pairMark '\\'
    pairMark 'u'
    let m ← hexEscape
    if 0xDC00 ≤ m ∧ m < 0xE000 then
      pure (Char.ofNat (0x10000 + (n - 0xD800) * 0x400 + (m - 0xDC00)))
    else failHere .loneSurrogate
  else pure (Char.ofNat n)

/-- The character of an escape whose backslash has been passed. -/
def escape : Reader Char := do
  match ← peek with
  | none => failHere .endInString
  | some 'u' => do pass; codeEscape
  | some c =>
    match simpleEscape c with
    | some x => do pass; pure x
    | none => failAhead .invalidEscape

/-- The rest of a string whose opening quote has been passed. -/
def stringFrom : Nat → List Char → Reader String
  | 0, _ => failHere .endInString
  | fuel + 1, read => do
    match ← peek with
    | none => failHere .endInString
    | some '"' => do pass; pure (String.ofList read.reverse)
    | some '\\' => do
      pass
      let c ← escape
      stringFrom fuel (c :: read)
    | some c =>
      if c.toNat < 0x20 then failAhead .controlCharacter
      else do pass; stringFrom fuel (c :: read)

def string : Reader String := do
  stringFrom ((← remaining) + 1) []

/-- Passes over an escape: what it stands for does not matter. -/
def passEscape : Reader Unit := do
  match ← peek with
  | none => failHere .endInString
  | some 'u' => do pass; let _ ← hexEscape
  | some c => if (simpleEscape c).isSome then pass else failAhead .invalidEscape

def passStringFrom : Nat → Reader Unit
  | 0 => failHere .endInString
  | fuel + 1 => do
    match ← peek with
    | none => failHere .endInString
    | some '"' => pass
    | some '\\' => do pass; passEscape; passStringFrom fuel
    | some c =>
      if c.toNat < 0x20 then failHere .controlCharacter
      else do pass; passStringFrom fuel

def passString : Reader Unit := do
  passStringFrom ((← remaining) + 1)

/-! ## Numbers -/

inductive Number where
  | natural (n : Nat)
  /-- Minus a positive number. -/
  | negative (n : Nat)
  | float (f : Float)

/-- The digits at the front. -/
def digits : Reader (List Char) := fun c ↦
  .ok (c.rest.takeWhile isDigit, c.passWhile isDigit)

def peekDigit : Reader Bool := do
  pure ((← peek).any isDigit)

def word : Nat := UInt64.size

/-- Adds digits to a significand while it fits in a word; gives back how many of them it took. -/
def gather : Nat → List Char → Nat × Nat
  | n, [] => (n, 0)
  | n, c :: cs =>
    let next := n * 10 + digitValue c
    if next < word then
      let (m, taken) := gather next cs
      (m, taken + 1)
    else (n, 0)

/-- The float `significand * 10 ^ exponent`, computed in at most a few rounded steps. -/
def scale : Nat → Float → Int → Option Float
  | 0, f, _ => some f
  | fuel + 1, f, exponent =>
    if exponent.natAbs ≤ 308 then
      let power := Float.ofScientific 1 false exponent.natAbs
      if 0 ≤ exponent then
        let g := f * power
        if g.isInf then none else some g
      else some (f / power)
    else if f == 0.0 then some f
    else if 0 ≤ exponent then none
    else scale fuel (f / 1e308) (exponent + 308)

def float (positive : Bool) (significand : Nat) (exponent : Int) : Reader Number := do
  match scale (exponent.natAbs / 308 + 2) (UInt64.ofNat significand).toFloat exponent with
  | some f => pure (.float (if positive then f else -f))
  | none => failHere .numberOutOfRange

/-- The exponent of a number, whose mark is ahead. -/
def exponentPart (positive : Bool) (significand : Nat) (exponent : Int) : Reader Number := do
  pass
  let up ← match ← peek with
    | some '+' => do pass; pure true
    | some '-' => do pass; pure false
    | _ => pure true
  match ← peek with
  | none => failHere .endInValue
  | some c =>
    if !isDigit c then failAhead .invalidNumber
    else
      let start ← get
      let ds := start.rest.takeWhile isDigit
      let limit := UInt32.size / 2
      -- The number of digits up to and with the one that makes the exponent too large.
      let fitting := (List.range ds.length).find? fun i ↦
        limit ≤ ((ds.take (i + 1)).foldl (fun n d ↦ n * 10 + digitValue d) 0)
      match fitting with
      | some i =>
        if significand != 0 && up then
          failAt ((ds.take (i + 1)).foldl Position.after start.here) .numberOutOfRange
        else do
          let _ ← digits
          pure (.float (if positive then 0.0 else -0.0))
      | none =>
        let _ ← digits
        let e : Int := ds.foldl (fun n d ↦ n * 10 + digitValue d) 0
        float positive significand (if up then exponent + e else exponent - e)

def isExponentMark (c : Option Char) : Bool := c = some 'e' || c = some 'E'

/-- The decimals of a number, whose point is ahead. -/
def decimals (positive : Bool) (significand : Nat) (exponent : Int) : Reader Number := do
  pass
  let ds ← digits
  let (n, taken) := gather significand ds
  if ds.isEmpty then
    match ← peek with
    | some _ => failAhead .invalidNumber
    | none => failAhead .endInValue
  else if isExponentMark (← peek) then exponentPart positive n (exponent - taken)
  else float positive n (exponent - taken)

/-- A number whose sign has been passed. -/
def number (positive : Bool) : Reader Number := do
  match ← peek with
  | none => failHere .endInValue
  | some c =>
    if !isDigit c then failAhead .invalidNumber
    else do
      let ds ← if c = '0' then do pass; pure ['0'] else digits
      if c = '0' && (← peekDigit) then failAhead .invalidNumber
      else
        let (n, taken) := gather 0 ds
        let exponent : Int := (ds.length - taken : Nat)
        let next ← peek
        if next = some '.' then decimals positive n exponent
        else if isExponentMark next then exponentPart positive n exponent
        else if taken < ds.length then float positive n exponent
        else if positive then pure (.natural n)
        else if n = 0 ∨ UInt64.size / 2 < n then pure (.float (-(UInt64.ofNat n).toFloat))
        else pure (.negative n)

/-- Passes over the exponent of a number, whose mark is ahead. -/
def passExponent : Reader Unit := do
  pass
  match ← peek with
  | some '+' => pass
  | some '-' => pass
  | _ => pure ()
  if ← peekDigit then let _ ← digits
  else failAhead .invalidNumber

/-- Passes over a number whose sign has been passed. -/
def passNumber : Reader Unit := do
  match ← peek with
  | some '0' => do
    pass
    if ← peekDigit then failAhead .invalidNumber
  | _ =>
    if ← peekDigit then let _ ← digits
    else failAhead .invalidNumber
  let next ← peek
  if next = some '.' then do
    pass
    if ← peekDigit then let _ ← digits
    else failAhead .invalidNumber
    if isExponentMark (← peek) then passExponent
  else if isExponentMark next then passExponent

/-! ## Values nobody asked for -/

mutual

/-- Passes over a value of any kind, however deep. -/
def passValue : Nat → Reader Unit
  | 0 => failHere .endInValue
  | fuel + 1 => do
    match ← peekToken with
    | none => failAhead .endInValue
    | some 'n' => do pass; literal ['u', 'l', 'l']
    | some 't' => do pass; literal ['r', 'u', 'e']
    | some 'f' => do pass; literal ['a', 'l', 's', 'e']
    | some '-' => do pass; passNumber
    | some '"' => do pass; passString
    | some '[' => do
      pass
      match ← peekToken with
      | none => failAhead .endInList
      | some ']' => pass
      | some _ => passElements fuel
    | some '{' => do
      pass
      match ← peekToken with
      | none => failAhead .endInObject
      | some '}' => pass
      | some _ => passMembers fuel
    | some c => if isDigit c then passNumber else failAhead .expectedValue

def passElements : Nat → Reader Unit
  | 0 => failHere .endInList
  | fuel + 1 => do
    passValue fuel
    match ← peekToken with
    | none => failAhead .endInList
    | some ',' => do pass; passElements fuel
    | some ']' => pass
    | some _ => failAhead .expectedListCommaOrEnd

def passMembers : Nat → Reader Unit
  | 0 => failHere .endInObject
  | fuel + 1 => do
    match ← peekToken with
    | none => failAhead .endInObject
    | some '"' => do
      pass
      passString
      match ← peekToken with
      | none => failAhead .endInObject
      | some ':' => do
        pass
        passValue fuel
        match ← peekToken with
        | none => failAhead .endInObject
        | some ',' => do pass; passMembers fuel
        | some '}' => pass
        | some _ => failAhead .expectedObjectCommaOrEnd
      | some _ => failAhead .expectedColon
    | some _ => failAhead .keyMustBeString

end

/-- Passes over the next value: two steps for each character are enough. -/
def passOver : Reader Unit := do
  passValue (2 * (← remaining) + 2)

end Reader

end SourceSurvey.Json
