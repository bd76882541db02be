import SourceSurvey.Encoding.Utf8
import SourceSurvey.Location
import SourceSurvey.Parsing.Parser

/-!
Syntax trees. A node covers a stretch of a text, and its children cover parts of it, one after the
other. Where a node begins and ends comes from the tree that a parse has made, which carries the extents
of its tokens and of what is passed over before them.
-/

namespace SourceSurvey

open Grammar Parsing

/-- A place in a text: the bytes before it, the line that it is in, and the bytes before it there. -/
structure TextPlace where
  byte : Nat
  line : Nat
  column : Nat
deriving DecidableEq, Repr, Inhabited

/-- The place behind so much text. -/
def Parsing.Extent.place (e : Extent) : TextPlace := ⟨e.bytes, e.lines, e.column⟩

structure SyntaxNode.Info where
  kind : String
  isNamed : Bool
  isError : Bool
  isMissing : Bool
  isExtra : Bool
  /-- Whether there are errors in it, shown or not. -/
  hasError : Bool
  start : TextPlace
  stop : TextPlace
deriving DecidableEq, Repr, Inhabited

inductive SyntaxNode where
  | mk (info : SyntaxNode.Info) (children : List SyntaxNode)
deriving Inhabited

namespace SyntaxNode

def info : SyntaxNode → Info
  | mk info _ => info

def children : SyntaxNode → List SyntaxNode
  | mk _ children => children

mutual

/-- A node, then what is in it. -/
def nodes : SyntaxNode → List SyntaxNode
  | mk info children => mk info children :: nodesOfAll children

def nodesOfAll : List SyntaxNode → List SyntaxNode
  | [] => []
  | n :: rest => nodes n ++ nodesOfAll rest

end

/-- Whether something in the text could not be read as it stands. -/
def hasErrors (root : SyntaxNode) : Bool := root.info.hasError

def range (n : SyntaxNode) : TextRange :=
  ⟨UInt32.ofNat n.info.start.line, UInt32.ofNat n.info.start.column,
    UInt32.ofNat n.info.stop.line, UInt32.ofNat n.info.stop.column⟩

/-- The bytes of a text that a node covers, as text; nothing if they are none. -/
def textIn (content : String) (n : SyntaxNode) : String :=
  let bytes := content.toUTF8.extract n.info.start.byte n.info.stop.byte
  (Encoding.Utf8.strict? bytes.toList).getD ""

/-! ## The nodes of a tree -/

def infoOf (symbols : Symbols) (label : Option Label) (start : Extent) (t : Tree) : Info :=
  let label := label.getD (symbols.label t.symbol)
  ⟨label.text, label.isNamed, t.isError, t.info.isMissing, t.isExtra, 0 < t.errorCost, start.place,
    (start + t.info.size).place⟩

mutual

/-- The nodes that a tree shows, behind those before it. The tree begins at a place, with nothing left
to be passed over before it. -/
def lay (symbols : Symbols) (label : Option Label) (start : Extent) (shown : Array SyntaxNode) :
    Tree → Array SyntaxNode
  | .mk info children =>
    if label.isSome || info.isVisible then
      shown.push (mk (infoOf symbols label start (.mk info children))
        (layAll symbols info.labels start #[] children).toList)
    else layAll symbols info.labels start shown children

/-- The nodes of trees one after the other, of which the first begins at a place. Those that are no
extras take labels in turn. -/
def layAll (symbols : Symbols) (labels : List (Option Label)) (start : Extent)
    (shown : Array SyntaxNode) : List Tree → Array SyntaxNode
  | [] => shown
  | t :: rest =>
    layAll symbols (if t.isExtra then labels else labels.drop 1)
      (start + t.info.size + Tree.paddingOf rest)
      (lay symbols (if t.isExtra then none else labels.head?.join) start shown t) rest

end

/-- The tree of a text. Its root shows in any case. -/
def ofTree (symbols : Symbols) (t : Tree) : SyntaxNode :=
  mk (infoOf symbols none t.info.padding t)
    (layAll symbols t.info.labels t.info.padding #[] t.children).toList

end SyntaxNode

/-- The syntax tree of a text in a language. -/
def Parsing.Machine.syntaxTree (m : Machine) (content : String) : Option SyntaxNode :=
  (m.parse content).map (.ofTree m.symbols)

end SourceSurvey
