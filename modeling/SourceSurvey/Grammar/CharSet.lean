import SourceSurvey.Text.Identifier

/-! Sets of characters, as a pattern writes them between square brackets. -/

namespace SourceSurvey.Grammar

/-- Classes of characters that have a name in patterns. -/
inductive CharClass where
  | nameStart
  | nameContinue
  | spaceSeparator
deriving DecidableEq, Repr, Hashable

namespace CharClass

def has : CharClass → Char → Bool
  | nameStart, c => Text.Identifier.starts c
  | nameContinue, c => Text.Identifier.continues c
  | spaceSeparator, c =>
    c = ' ' || c = '\u00a0' || c = '\u1680' || ('\u2000' ≤ c && c ≤ '\u200a') || c = '\u202f' ||
      c = '\u205f' || c = '\u3000'

end CharClass

inductive CharPart where
  | range (first last : Char)
  | class (c : CharClass)
deriving DecidableEq, Repr

instance : Hashable CharPart where
  hash
    | .range first last => mixHash (hash first.toNat) (hash last.toNat)
    | .class k => hash k

def CharPart.has : CharPart → Char → Bool
  | range first last, c => first ≤ c && c ≤ last
  | .class k, c => k.has c

/-- The characters in one of the parts or, with `inverted`, those in none. The null character is in no
inverted set. -/
structure CharSet where
  inverted : Bool
  parts : List CharPart
deriving DecidableEq, Repr, Hashable

namespace CharSet

def has (s : CharSet) (c : Char) : Bool :=
  if s.inverted then c ≠ '\x00' && !s.parts.any (·.has c) else s.parts.any (·.has c)

def single (c : Char) : CharSet := ⟨false, [.range c c]⟩

/-- Everything but the end of a line. -/
def dot : CharSet := ⟨true, [.range '\n' '\n']⟩

def digits : List CharPart := [.range '0' '9']

def wordParts : List CharPart := [.range 'a' 'z', .range 'A' 'Z', .range '0' '9', .range '_' '_']

def blanks : List CharPart := [.range '\t' '\r', .range ' ' ' ']

end CharSet

end SourceSurvey.Grammar
