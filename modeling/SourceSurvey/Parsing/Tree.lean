import SourceSurvey.Parsing.Extent
import SourceSurvey.Parsing.Items

/-!
Trees as a parse builds them. A tree covers a stretch of text, with the text before it that belongs to
no token. It carries what the choice between trees needs: what its errors cost, and its weight.
-/

namespace SourceSurvey.Parsing

open Grammar

/-- What a scanner remembers between tokens. -/
abbrev Memory := List Nat

structure TreeInfo where
  symbol : Nat
  /-- What is passed over before the first token. -/
  padding : Extent
  size : Extent
  errorCost : Nat
  weight : Int
  /-- How many nodes show directly below, and below altogether. -/
  shownChildren : Nat
  shownBelow : Nat
  /-- By place among the children that are no extras: names that they take. -/
  labels : List (Option Label)
  isVisible : Bool
  isExtra : Bool
  isMissing : Bool
  /-- Read as a keyword. -/
  isKeyword : Bool
  firstToken : Nat
  /-- What the scanner remembers after this token. -/
  memory : Option Memory
  changesMemory : Bool
deriving Inhabited

inductive Tree where
  | mk (info : TreeInfo) (children : List Tree)
deriving Inhabited

/-- What errors cost. -/
structure Cost where
  recovery : Nat
  missing : Nat
  skippedTree : Nat
  skippedLine : Nat
  skippedByte : Nat

def cost : Cost := ⟨500, 110, 100, 30, 1⟩

namespace Tree

def info : Tree → TreeInfo
  | mk info _ => info

def children : Tree → List Tree
  | mk _ children => children

def symbol (t : Tree) : Nat := t.info.symbol

def isExtra (t : Tree) : Bool := t.info.isExtra

def isError (t : Tree) : Bool := t.symbol = Symbols.error

/-- What is passed over before the first of some trees. -/
def paddingOf : List Tree → Extent
  | [] => .zero
  | t :: _ => t.info.padding

/-- Text passed over and text covered. -/
def extent (t : Tree) : Extent := t.info.padding + t.info.size

def errorCost (t : Tree) : Nat :=
  if t.info.isMissing then cost.missing + cost.recovery else t.info.errorCost

/-- How many nodes of the final tree it stands for. Pieces of skipped text count, so that skipping is
progress. -/
def nodeCount (t : Tree) : Nat :=
  t.info.shownBelow + (if t.info.isVisible then 1 else 0) +
    (if t.symbol = Symbols.errorPiece then 1 else 0)

def memory (t : Tree) : Memory := t.info.memory.getD []

def withExtra (isExtra : Bool) : Tree → Tree
  | mk info children => mk { info with isExtra := isExtra } children

def addWeight (w : Int) : Tree → Tree
  | mk info children => mk { info with weight := info.weight + w } children

/-- Reads the token as another one. -/
def asToken (symbols : Symbols) (symbol : Nat) : Tree → Tree
  | mk info children =>
    mk { info with symbol := symbol, firstToken := symbol, isVisible := symbols.isVisible symbol }
      children

/-- A token. The end of the text is an extra. -/
def leaf (symbols : Symbols) (symbol : Nat) (padding size : Extent) (isKeyword : Bool)
    (memory : Option Memory) (changesMemory : Bool) : Tree :=
  mk ⟨symbol, padding, size, 0, 0, 0, 0, [], symbols.isVisible symbol,
    symbol = Symbols.endOfText, false, isKeyword, symbol, memory, changesMemory⟩ []

/-- A token that should have been there. -/
def missing (symbols : Symbols) (symbol : Nat) : Tree :=
  mk ⟨symbol, .zero, .zero, 0, 0, 0, 0, [], symbols.isVisible symbol, false, true, false, symbol,
    none, false⟩ []

/-- What the children of a node add up to. -/
structure Sums where
  padding : Extent
  size : Extent
  errorCost : Nat
  weight : Int
  shownChildren : Nat
  shownBelow : Nat
  changesMemory : Bool

def Sums.first : Sums := ⟨.zero, .zero, 0, 0, 0, 0, false⟩

/-- What a child costs for being skipped, beside its own errors. -/
def skippingCost (child : Tree) : Nat :=
  if child.isExtra || (child.isError && child.children.isEmpty) then 0
  else if child.info.isVisible then cost.skippedTree
  else if child.children.isEmpty then 0
  else cost.skippedTree * child.info.shownChildren

def addChild (inError : Bool) (isFirst : Bool) (label : Option Label) (s : Sums) (child : Tree) :
    Sums :=
  let errors := if child.symbol = Symbols.errorPiece then 0 else child.errorCost
  let shown := label.isSome || child.info.isVisible
  { padding := if isFirst then child.info.padding else s.padding
    size := if isFirst then child.info.size else s.size + child.extent
    errorCost := s.errorCost + errors + if inError then child.skippingCost else 0
    weight := s.weight + child.info.weight
    shownChildren := s.shownChildren + if shown then 1 else child.info.shownChildren
    shownBelow := s.shownBelow + child.info.shownBelow + if shown then 1 else 0
    changesMemory := s.changesMemory || child.info.changesMemory }

/-- Adds up children. Only those that are no extras take names. -/
def addChildren (inError : Bool) : Bool → List (Option Label) → List Tree → Sums → Sums
  | _, _, [], s => s
  | isFirst, labels, child :: rest, s =>
    if child.isExtra then
      addChildren inError false labels rest (addChild inError isFirst none s child)
    else
      addChildren inError false (labels.drop 1) rest
        (addChild inError isFirst labels.head?.join s child)

def node (symbols : Symbols) (symbol : Nat) (labels : List (Option Label)) (children : List Tree) :
    Tree :=
  let inError := symbol = Symbols.error || symbol = Symbols.errorPiece
  let s := addChildren inError true labels children .first
  let skipped := if inError then
      cost.recovery + cost.skippedByte * s.size.bytes + cost.skippedLine * s.size.lines
    else 0
  mk ⟨symbol, s.padding, s.size, s.errorCost + skipped, s.weight, s.shownChildren, s.shownBelow,
    labels, symbols.isVisible symbol, false, false, false,
    ((children.head?).map (·.info.firstToken)).getD 0, none, s.changesMemory⟩ children

def errorNode (symbols : Symbols) (isExtra : Bool) (children : List Tree) : Tree :=
  (node symbols Symbols.error [] children).withExtra isExtra

/-- The children without the extras at their end, and those. -/
def splitExtras (trees : List Tree) : List Tree × List Tree :=
  let back := trees.reverse
  ((back.dropWhile isExtra).reverse, (back.takeWhile isExtra).reverse)

mutual

/-- Orders trees by their symbols and shapes, from the left. -/
def compare : Tree → Tree → Ordering
  | mk a as, mk b bs =>
    if a.symbol < b.symbol then .lt
    else if b.symbol < a.symbol then .gt
    else if as.length < bs.length then .lt
    else if bs.length < as.length then .gt
    else compareAll as bs

def compareAll : List Tree → List Tree → Ordering
  | a :: as, b :: bs =>
    match compare a b with
    | .eq => compareAll as bs
    | o => o
  | _, _ => .eq

end

/-- Whether the second of two trees for the same text is to be preferred: the one with cheaper errors,
else the weightier one. -/
def prefersSecond (a b : Tree) : Bool :=
  if b.errorCost < a.errorCost then true
  else if a.errorCost < b.errorCost then false
  else if a.info.weight < b.info.weight then true
  else if b.info.weight < a.info.weight then false
  else if a.errorCost > 0 then true
  else compare a b = .gt

/-- Whether two trees differ in nothing that the rest of a parse can see. -/
def isLike (a b : Tree) : Bool :=
  a.symbol = b.symbol &&
    ((a.errorCost > 0 && b.errorCost > 0) ||
      (a.info.padding.bytes = b.info.padding.bytes && a.info.size.bytes = b.info.size.bytes &&
        a.children.length = b.children.length && a.isExtra = b.isExtra && a.memory = b.memory))

end Tree

end SourceSurvey.Parsing
