/-!
Looking along a text: the character at a place, and the first place where a run of characters of a class
ends.
-/

namespace SourceSurvey.Text.Lookahead

/-- The character at a place; the null character behind the end. -/
def charAt (text : Array Char) (place : Nat) : Char := text.getD place '\x00'

def passWhile (text : Array Char) (p : Char → Bool) : Nat → Nat → Nat
  | 0, place => place
  | fuel + 1, place =>
    if h : place < text.size then if p text[place] then passWhile text p fuel (place + 1) else place
    else place

/-- The first place from a given one on whose character is not of a class, or the end. -/
def pass (text : Array Char) (p : Char → Bool) (place : Nat) : Nat :=
  passWhile text p (text.size - place) place

/-- A blank of ASCII. -/
def isBlank (c : Char) : Bool := c = ' ' || ('\t' ≤ c && c ≤ '\x0d')

def passBlanks (text : Array Char) (place : Nat) : Nat := pass text isBlank place

/-- Whether some characters stand at a place. -/
def hasAt (text : Array Char) (place : Nat) : List Char → Bool
  | [] => true
  | c :: cs => charAt text place = c && hasAt text (place + 1) cs

end SourceSurvey.Text.Lookahead
