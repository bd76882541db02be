import SourceSurvey.Glob.Expression
import SourceSurvey.Encoding.Utf8

/-!
Matching a path, as bytes, against a glob pattern. `rests` gives what can be left of the path behind
a piece of the pattern; a pattern matches when nothing can be left behind all of it.
-/

namespace SourceSurvey.Glob

open Encoding (Bytes)

def slash : UInt8 := 0x2F

/-- The bytes that a range of characters in a set stands for: the last byte of the first character
up to the first byte of the last one, and the remaining bytes by themselves. -/
def byteRanges (range : Char × Char) : List (UInt8 × UInt8) :=
  let low := String.utf8EncodeChar range.1
  let high := String.utf8EncodeChar range.2
  let alone (bytes : Bytes) := bytes.map fun b ↦ (b, b)
  if range.1 = range.2 then alone low
  else
    alone low.dropLast ++ [(low.getLastD 0, high.headD 0)] ++ alone high.tail

def inSet (ranges : List (Char × Char)) (b : UInt8) : Bool :=
  (ranges.flatMap byteRanges).any fun range ↦ range.1 ≤ b && b ≤ range.2

/-- The path without the bytes at its front, if it begins with them. -/
def strip? : Bytes → Bytes → Option Bytes
  | [], path => some path
  | _, [] => none
  | b :: bytes, c :: path => if b = c then strip? bytes path else none

/-- What can be left behind any number of bytes of a name. -/
def afterName : Bytes → List Bytes
  | [] => [[]]
  | b :: rest => (b :: rest) :: (if b = slash then [] else afterName rest)

/-- What stands behind each separator. -/
def behindSlashes : Bytes → List Bytes
  | [] => []
  | b :: rest => if b = slash then rest :: behindSlashes rest else behindSlashes rest

/-- What can be left behind any bytes. -/
def suffixes : Bytes → List Bytes
  | [] => [[]]
  | b :: rest => (b :: rest) :: suffixes rest

/-- Keeps one of the rests of each length: two rests of one path with one length are equal. -/
def distinct (rests : List Bytes) : List Bytes :=
  (rests.map fun r ↦ (r.length, r)).mergeSort (fun a b ↦ a.1 ≤ b.1) |>.foldr
    (fun r kept ↦ if (kept.head?.map List.length) = some r.1 then kept else r.2 :: kept) []

mutual

def rests (path : Bytes) : Token → List Bytes
  | .literal c => (strip? (String.utf8EncodeChar c) path).toList
  | .any =>
    match path with
    | b :: rest => if b = slash then [] else [rest]
    | [] => []
  | .star => afterName path
  | .upper => path :: behindSlashes path
  | .middle =>
    match path with
    | b :: rest => if b = slash then rest :: behindSlashes rest else []
    | [] => []
  | .lower =>
    match path with
    | b :: rest => if b = slash then suffixes rest else []
    | [] => []
  | .set negated ranges =>
    match path with
    | b :: rest => if inSet ranges b != negated then [rest] else []
    | [] => []
  | .choice [] => [path]
  | .choice branches => restsOfAny path branches

/-- What can be left behind a whole pattern. -/
def restsOfAll (paths : List Bytes) : List Token → List Bytes
  | [] => paths
  | t :: ts => restsOfAll (distinct (restsOfEach t paths)) ts

def restsOfEach (t : Token) : List Bytes → List Bytes
  | [] => []
  | path :: paths => rests path t ++ restsOfEach t paths

def restsOfAny (path : Bytes) : List (List Token) → List Bytes
  | [] => []
  | branch :: branches => restsOfAll [path] branch ++ restsOfAny path branches

end

/-- A pattern that is about the name of an entry, or about its end from the last dot on. -/
def needsName (pattern : Pattern) : Bool :=
  match pattern with
  | .upper :: rest =>
    if rest.all Token.isLiteral then !rest.any (Token.isLiteralOf '/')
    else rest.getLast?.any (Token.isLiteralOf '.')
  | _ => !pattern.all Token.isLiteral && pattern.getLast?.any (Token.isLiteralOf '.')

def dots : Bytes := [0x2E, 0x2E]

/-- The bytes behind the last separator. -/
def lastName (path : Bytes) : Bytes := (path.reverse.takeWhile fun b ↦ b != slash).reverse

/-- Whether the whole path matches. Two dots at the end of a path are not the name of an entry. -/
def isMatch (pattern : Pattern) (path : Bytes) : Bool :=
  match pattern with
  | [.upper] => true
  | _ =>
    !(lastName path = dots && needsName pattern) && (restsOfAll [path] pattern).any List.isEmpty

end SourceSurvey.Glob
