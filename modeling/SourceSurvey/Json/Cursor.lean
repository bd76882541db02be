/-!
A place in a JSON text, and what can be wrong there. Lines are counted from one; columns count the
bytes of the line that are behind the place.
-/

namespace SourceSurvey.Json

structure Position where
  line : Nat
  column : Nat
deriving DecidableEq, Repr

namespace Position

def start : Position := ⟨1, 0⟩

/-- The place behind a whole character. -/
def after (p : Position) (c : Char) : Position :=
  if c = '\n' then ⟨p.line + 1, 0⟩ else ⟨p.line, p.column + c.utf8Size⟩

/-- The place behind the first byte of a character. -/
def into (p : Position) (c : Char) : Position :=
  if c = '\n' then ⟨p.line + 1, 0⟩ else ⟨p.line, p.column + 1⟩

end Position

/-- What is left of the text, and where it begins. -/
structure Cursor where
  rest : List Char
  here : Position

namespace Cursor

def ofString (text : String) : Cursor := ⟨text.toList, Position.start⟩

/-- The place one byte ahead, or the end. -/
def ahead (c : Cursor) : Position :=
  match c.rest with
  | [] => c.here
  | x :: _ => c.here.into x

/-- Passes one character. -/
def pass (c : Cursor) : Cursor :=
  match c.rest with
  | [] => c
  | x :: rest => ⟨rest, c.here.after x⟩

/-- Passes the characters at the front that satisfy `p`. -/
def passWhile (p : Char → Bool) (c : Cursor) : Cursor :=
  ⟨c.rest.dropWhile p, (c.rest.takeWhile p).foldl Position.after c.here⟩

/-- The place a number of bytes ahead. -/
def bytesAhead : Nat → List Char → Position → Position
  | 0, _, p => p
  | _, [], p => p
  | n + 1, x :: rest, p =>
    if x.utf8Size ≤ n + 1 then bytesAhead (n + 1 - x.utf8Size) rest (p.after x)
    else ⟨p.line, p.column + (n + 1)⟩
termination_by _ rest => rest.length

end Cursor

/-- A value that stands where another kind of value is expected. -/
inductive Unexpected where
  | null
  | bool (value : Bool)
  | natural (value : Nat)
  | negative (magnitude : Nat)
  | float (value : String)
  | string (value : String)
  | sequence
  | map

inductive Fault where
  | endInList
  | endInObject
  | endInString
  | endInValue
  | expectedColon
  | expectedListCommaOrEnd
  | expectedObjectCommaOrEnd
  | expectedIdent
  | expectedValue
  | invalidEscape
  | invalidNumber
  | numberOutOfRange
  | controlCharacter
  | keyMustBeString
  | loneSurrogate
  | trailingComma
  | trailingCharacters
  | unexpectedEndOfHexEscape
  | tooDeep
  | invalidType (found : Unexpected) (expected : String)
  | invalidValue (found : Unexpected) (expected : String)
  | invalidLength (length : Nat) (expected : String)
  | missingField (name : String)
  | duplicateField (name : String)
  | unknownVariant (name : String) (variants : List String)

structure Error where
  fault : Fault
  place : Position

end SourceSurvey.Json
