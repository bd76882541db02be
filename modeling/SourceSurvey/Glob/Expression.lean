import SourceSurvey.Glob.Pattern

/-!
The regular expressions that stand for patterns. Plain names and endings are compared as they are; all
other patterns become expressions, and one whose parts lie too deeply in each other is refused.
-/

namespace SourceSurvey.Glob

def Token.isLiteral : Token → Bool
  | .literal _ => true
  | _ => false

def Token.isLiteralOf (c : Char) : Token → Bool
  | .literal d => c = d
  | _ => false

/-! ## How a pattern is tried -/

inductive Method where
  /-- Texts are compared. -/
  | comparison
  /-- The end of the name is compared, and then an expression of its own is tried. -/
  | ownExpression
  /-- One expression is tried for all patterns of this kind. -/
  | sharedExpression
deriving DecidableEq

/-- The pattern without `**` at its front. -/
def withoutUpper : Pattern → Pattern
  | .upper :: rest => rest
  | pattern => pattern

/-- Any name with some ending that begins with its only dot. -/
def isEnding : Pattern → Bool
  | .upper :: .star :: .literal '.' :: rest =>
    rest.all fun t ↦ t.isLiteral && !t.isLiteralOf '.' && !t.isLiteralOf '/'
  | _ => false

/-- Whether a name has to end in a dot and certain characters. -/
def requiresEnding (pattern : Pattern) : Bool :=
  let literals := pattern.reverse.takeWhile Token.isLiteral
  let ending := literals.takeWhile fun t ↦ !t.isLiteralOf '.'
  literals.any (Token.isLiteralOf '.') && !ending.any (Token.isLiteralOf '/')

/-- Everything below a directory with a plain path. -/
def isBelowPlain (pattern : Pattern) : Bool :=
  match pattern.reverse with
  | .lower :: rest => rest.all Token.isLiteral
  | _ => false

def methodOf (pattern : Pattern) : Method :=
  let body := withoutUpper pattern
  if (!body.isEmpty && body.all Token.isLiteral) || isEnding pattern || isBelowPlain pattern then
    .comparison
  else if requiresEnding pattern then .ownExpression
  else .sharedExpression

/-! ## The text of an expression -/

def isSign (c : Char) : Bool := "\\.+*?()|[]\x7b\x7d^$#&-~".toList.contains c

def hexDigit (n : Nat) : Char := "0123456789abcdef".toList.getD n '0'

/-- A character by its bytes; signs lose their meaning. -/
def textOfChar (c : Char) : List Char :=
  if c.toNat < 0x80 then if isSign c then ['\\', c] else [c]
  else (String.utf8EncodeChar c).flatMap fun b ↦
    ['\\', 'x', hexDigit (b.toNat / 16), hexDigit (b.toNat % 16)]

def textOfRange (range : Char × Char) : List Char :=
  if range.1 = range.2 then textOfChar range.1
  else textOfChar range.1 ++ '-' :: textOfChar range.2

mutual

def textOf : Token → List Char
  | .literal c => textOfChar c
  | .any => "[^/]".toList
  | .star => "[^/]*".toList
  | .upper => "(?:/?|.*/)".toList
  | .middle => "(?:/|/.*/)".toList
  | .lower => "/.*".toList
  | .set negated ranges =>
    '[' :: (if negated then ['^'] else []) ++ ranges.flatMap textOfRange ++ [']']
  | .choice [] => []
  | .choice (branch :: branches) =>
    "(?:".toList ++ textOfAll branch ++ textOfOthers branches ++ [')']

def textOfAll : List Token → List Char
  | [] => []
  | t :: ts => textOf t ++ textOfAll ts

def textOfOthers : List (List Token) → List Char
  | [] => []
  | branch :: branches => '|' :: textOfAll branch ++ textOfOthers branches

end

/-- The whole expression of a pattern. -/
def expressionOf (pattern : Pattern) : List Char :=
  "(?-u)^".toList ++ (match pattern with | [.upper] => ".*".toList | _ => textOfAll pattern) ++ ['$']

/-! ## Depth -/

/-- How many parts of an expression stand for a token. -/
def partsOf : Token → Nat
  | .literal c => c.utf8Size
  | .lower => 2
  | .choice [] => 0
  | _ => 1

/-- How many parts stand in the brackets for a range. -/
def partsOfRange (range : Char × Char) : Nat :=
  if range.1 = range.2 then range.1.utf8Size else range.1.utf8Size + range.2.utf8Size - 1

/-- Whether a branch is more than one part, which then lie one level deeper. -/
def isCompound (branch : Pattern) : Bool := 1 < branch.foldl (fun n t ↦ n + partsOf t) 0

mutual

/-- How many levels a token adds below the one that it stands on. -/
def depthOf : Token → Nat
  | .literal _ => 0
  | .any => 1
  | .star => 2
  | .upper => 4
  | .middle => 4
  | .lower => 1
  | .set _ ranges => if 1 < ranges.foldl (fun n r ↦ n + partsOfRange r) 0 then 2 else 1
  | .choice [] => 0
  | .choice [branch] => depthOfAll branch + (if isCompound branch then 2 else 1)
  | .choice branches => depthOfAny branches + 2

def depthOfAll : List Token → Nat
  | [] => 0
  | t :: ts => max (depthOf t) (depthOfAll ts)

def depthOfAny : List (List Token) → Nat
  | [] => 0
  | branch :: branches =>
    max (depthOfAll branch + if isCompound branch then 1 else 0) (depthOfAny branches)

end

/-- The greatest depth of an expression. -/
def maxDepth : Nat := 250

def isTooDeep (pattern : Pattern) : Bool := maxDepth < 1 + depthOfAll pattern

/-- Why some patterns cannot be tried together, if they cannot: an expression is nested too deeply. The
other limit, that on the size of what an expression is compiled to, is left out; only patterns of some
hundreds of thousands of characters come to it. -/
def refusal? (patterns : List Pattern) : Option String :=
  match patterns.find? fun p ↦ methodOf p = .ownExpression && isTooDeep p with
  | some p => some ("error parsing glob '" ++ String.ofList (expressionOf p) ++
    "': error parsing pattern 0")
  | none =>
    ((patterns.filter fun p ↦ methodOf p = .sharedExpression).findIdx? isTooDeep).map fun i ↦
      "error parsing pattern " ++ toString i

end SourceSurvey.Glob
