import SourceSurvey.Encoding.Utf8

/-!
Paths and file names as bytes. A name need not be text: it is shown with a replacement character at
each malformed place.
-/

namespace SourceSurvey

abbrev Name := List UInt8

abbrev Path := List UInt8

namespace Path

open Encoding (Utf8.encodeString Utf8.lossy)

def slash : UInt8 := 0x2F

def dot : UInt8 := 0x2E

def ofString (s : String) : Path := Utf8.encodeString s

/-- The path as it is shown. -/
def display (path : Path) : String := Utf8.lossy path

/-- The pieces between the separators, empty ones too. -/
def pieces : Path → List Name
  | [] => [[]]
  | b :: rest =>
    match pieces rest with
    | [] => [[b]]
    | piece :: more => if b = slash then [] :: piece :: more else (b :: piece) :: more

/-- The names and dots that a path goes through. -/
def steps (path : Path) : List Name := path.pieces.filter fun piece ↦ !piece.isEmpty

def isAbsolute (path : Path) : Bool := path.head? = some slash

/-- The path of an entry of the directory at `path`. -/
def join (path : Path) (name : Name) : Path :=
  if path.isEmpty || path.getLast? = some slash then path ++ name else path ++ slash :: name

/-- The path without `front`, if it begins with those bytes. -/
def strip? (front path : Path) : Option Path :=
  if front.isPrefixOf path then some (path.drop front.length) else none

/-- Whether the path is one of the spellings of the current directory. -/
def isHere (path : Path) : Bool :=
  path.head? = some dot && path.steps.all fun step ↦ step = [dot]

/-- A name cut at its last dot: the stem, and what is behind the dot. A dot at the front does not
count. -/
def cut (name : Name) : Name × Option Name :=
  let tail := (name.reverse.takeWhile fun b ↦ b != dot).reverse
  let front := (name.reverse.dropWhile fun b ↦ b != dot).reverse
  if name = [dot, dot] || front.length ≤ 1 then (name, none) else (front.dropLast, some tail)

def stem (name : Name) : Name := (cut name).1

def extension? (name : Name) : Option Name := (cut name).2

end Path

end SourceSurvey
