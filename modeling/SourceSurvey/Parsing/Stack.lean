import SourceSurvey.Parsing.Tree

/-!
The stacks of a parse. Several versions of a parse go on side by side; they share what they have in
common, and a version may have several ways back where versions have merged.
-/

namespace SourceSurvey.Parsing

/-- A way back from a node. Without a tree it is the start of an error. -/
structure Link where
  node : Nat
  tree : Option Tree
deriving Inhabited

structure StackNode where
  state : Nat
  position : Extent
  links : Array Link
  errorCost : Nat
  nodeCount : Nat
  weight : Int
deriving Inhabited

inductive Status where
  | active
  /-- Stuck at a token. -/
  | paused (token : Tree)
  | halted
deriving Inhabited

/-- A place that a version in error may go back to. -/
structure Retreat where
  position : Extent
  depth : Nat
  state : Nat

structure Version where
  node : Nat
  memory : Memory
  nodeCountAtError : Nat
  status : Status
  retreats : Option (Array Retreat)
deriving Inhabited

structure Stack where
  nodes : Array StackNode
  versions : Array Version

namespace Stack

def maxLinks : Nat := 8

def maxWays : Nat := 64

/-- The node with a number. -/
def nodeIn (nodes : Array StackNode) (i : Nat) : StackNode := nodes.getD i default

variable (s : Stack)

def node (i : Nat) : StackNode := nodeIn s.nodes i

def version (v : Nat) : Version := s.versions.getD v default

def top (v : Nat) : StackNode := s.node (s.version v).node

def stateOf (v : Nat) : Nat := (s.top v).state

def positionOf (v : Nat) : Extent := (s.top v).position

def isActive (v : Nat) : Bool :=
  match s.versions[v]? with
  | some ⟨_, _, _, .active, _⟩ => true
  | _ => false

def isHalted (v : Nat) : Bool :=
  match (s.version v).status with
  | .halted => true
  | _ => false

def isPaused (v : Nat) : Bool :=
  match (s.version v).status with
  | .paused _ => true
  | _ => false

def haltedCount : Nat := ((List.range s.versions.size).filter s.isHalted).length

def modifyVersion (v : Nat) (f : Version → Version) : Stack :=
  { s with versions := s.versions.modify v f }

def removeVersion (v : Nat) : Stack :=
  { s with versions := s.versions.eraseIdxIfInBounds v }

/-- Drops all versions but so many. -/
def takeVersions (count : Nat) : Stack := { s with versions := s.versions.take count }

/-- Puts a version in the place of another one, which ends. -/
def renumberVersion (source target : Nat) : Stack :=
  if source = target then s
  else
    let moved := s.version source
    let moved := if moved.retreats.isNone then
        { moved with retreats := (s.version target).retreats }
      else moved
    ({ s with versions := s.versions.setIfInBounds target moved }).removeVersion source

def swapVersions (a b : Nat) : Stack :=
  let x := s.version a
  let y := s.version b
  { s with versions := (s.versions.setIfInBounds a y).setIfInBounds b x }

/-- Adds a version like another one, with fewer memories of its past. -/
def copyVersion (v : Nat) : Stack :=
  { s with versions := s.versions.push { s.version v with retreats := none } }

def halt (v : Nat) : Stack := s.modifyVersion v fun version ↦ { version with status := .halted }

def pause (v : Nat) (token : Tree) : Stack :=
  let count := (s.top v).nodeCount
  s.modifyVersion v fun version ↦
    { version with status := .paused token, nodeCountAtError := count }

/-- The node for a state behind another node. -/
def nodeBehind (below : Nat) (old : StackNode) (state : Nat) : Option Tree → StackNode
  | some t =>
    ⟨state, old.position + t.extent, #[⟨below, some t⟩], old.errorCost + t.errorCost,
      old.nodeCount + t.nodeCount, old.weight + t.info.weight⟩
  | none => ⟨state, old.position, #[⟨below, none⟩], old.errorCost, old.nodeCount, old.weight⟩

/-- Lets a version go on to a state, behind a tree or behind the start of an error. -/
def push (v : Nat) (tree : Option Tree) (state : Nat) : Stack :=
  let below := (s.version v).node
  let new := nodeBehind below (s.node below) state tree
  let i := s.nodes.size
  { s with nodes := s.nodes.push new }.modifyVersion v fun version ↦
    { version with
      node := i
      nodeCountAtError := if tree.isNone then new.nodeCount else version.nodeCountAtError }

def errorCostOf (v : Nat) : Nat :=
  let top := s.top v
  let isStart := top.state = 0 && (top.links[0]?.any fun link ↦ link.tree.isNone)
  if s.isPaused v || isStart then top.errorCost + cost.recovery else top.errorCost

/-- How many nodes a version has made since its last error. -/
def nodesSinceError (v : Nat) : Nat := (s.top v).nodeCount - (s.version v).nodeCountAtError

/-- Lowers the mark of the last error to where the version stands. -/
def lowerMark (v : Nat) : Stack :=
  let count := (s.top v).nodeCount
  s.modifyVersion v fun version ↦
    { version with nodeCountAtError := min version.nodeCountAtError count }

/-- Whether a version has moved on in the text since its last error, looking back along the first
ways. -/
def hasAdvanced (v : Nat) : Bool :=
  (s.top v).errorCost = 0 || look s.nodes.size (s.version v).node
where
  look : Nat → Nat → Bool
    | 0, _ => false
    | fuel + 1, i =>
      let node : StackNode := s.node i
      let first := node.links.getD 0 ⟨0, none⟩
      match first.tree with
      | some tree =>
        if tree.extent.bytes > 0 then true
        else if node.nodeCount > (s.version v).nodeCountAtError && tree.errorCost = 0 then
          look fuel first.node
        else false
      | none => false

/-! ## Merging -/

def canMerge (a b : Nat) : Bool :=
  s.isActive a && s.isActive b &&
    (s.top a).state = (s.top b).state &&
    (s.top a).position.bytes = (s.top b).position.bytes &&
    (s.top a).errorCost = (s.top b).errorCost &&
    (s.version a).memory = (s.version b).memory

def isLike : Option Tree → Option Tree → Bool
  | none, none => true
  | some a, some b => a.isLike b
  | _, _ => false

def weightOf (tree : Option Tree) : Int := (tree.map (·.info.weight)).getD 0

/-- Whether a way back and another one go by like trees to the same node, or to two that could be
merged. -/
def isAlike (nodes : Array StackNode) (old new : Link) : Bool :=
  isLike old.tree new.tree &&
    (old.node = new.node ||
      (let other := nodeIn nodes old.node
       let below := nodeIn nodes new.node
       other.state = below.state && other.position.bytes = below.position.bytes &&
         other.errorCost = below.errorCost))

/-- Adds a way back to a node. Where the node has a way with a tree of the same kind, the two are made
one: the weightier tree is kept, or the ways are merged further back. -/
def addLink : Nat → Nat → Link → Array StackNode → Array StackNode
  | 0, _, _, nodes => nodes
  | fuel + 1, target, link, nodes =>
    if link.node = target then nodes
    else
      let node := nodeIn nodes target
      let below := nodeIn nodes link.node
      match node.links.find? fun old ↦ isAlike nodes old link with
      | some old =>
        if old.node = link.node then
          if weightOf link.tree > weightOf old.tree then
            let i := node.links.findIdx fun old ↦ isAlike nodes old link
            nodes.modify target fun n ↦
              { n with
                links := n.links.setIfInBounds i link
                weight := below.weight + weightOf link.tree }
          else nodes
        else
          let nodes := below.links.foldl (fun nodes l ↦ addLink fuel old.node l nodes) nodes
          let weight := below.weight + weightOf link.tree
          nodes.modify target fun n ↦ { n with weight := max n.weight weight }
      | none =>
        if node.links.size = maxLinks then nodes
        else
          let count := below.nodeCount + ((link.tree.map Tree.nodeCount).getD 0)
          let weight := below.weight + weightOf link.tree
          nodes.modify target fun n ↦
            { n with
              links := n.links.push link
              nodeCount := max n.nodeCount count
              weight := max n.weight weight }

/-- Merges the second version into the first, which stands at the same place in the same state. -/
def merge (a b : Nat) : Stack → Stack
  | ⟨nodes, versions⟩ =>
    let target := (versions.getD a default).node
    let links := (nodeIn nodes (versions.getD b default).node).links
    let size := nodes.size
    let nodes := links.foldl (fun nodes link ↦ addLink size target link nodes) nodes
    let top := nodeIn nodes target
    let versions := if top.state = 0 then
        versions.modify a fun version ↦ { version with nodeCountAtError := top.nodeCount }
      else versions
    ⟨nodes, versions.eraseIdxIfInBounds b⟩

/-! ## Going back -/

/-- A way back under way: where it has come, the trees passed, and how many of them are no extras. -/
structure Way where
  node : Nat
  trees : List Tree
  count : Nat

/-- What to do with a way: keep it as found, and end it. -/
structure Verdict where
  isFound : Bool
  isEnd : Bool

def Way.along (w : Way) (link : Link) : Way :=
  ⟨link.node,
    match link.tree with
    | some t => t :: w.trees
    | none => w.trees,
    match link.tree with
    | some t => if t.isExtra then w.count else w.count + 1
    | none => w.count + 1⟩

/-- One round: every way goes one link back, and forks where there are several. -/
def stepWays {σ : Type} (judge : Way → σ → Verdict × σ) :
    List Way → List Way → List Way → List Way → σ → List Way × List Way × σ
  | [], kept, forked, found, state => (kept.reverse ++ forked.reverse, found, state)
  | w :: rest, kept, forked, found, state =>
    let (verdict, state) := judge w state
    let links := (s.node w.node).links
    let found := if verdict.isFound then w :: found else found
    if verdict.isEnd || links.isEmpty then stepWays judge rest kept forked found state
    else
      let room := maxWays - (kept.length + rest.length + 1 + forked.length)
      let others := (links.toList.drop 1).take room
      let forked := (others.map w.along).reverse ++ forked
      stepWays judge rest (w.along (links.getD 0 default) :: kept) forked found state

def walkBack {σ : Type} (judge : Way → σ → Verdict × σ) :
    Nat → List Way → List Way → σ → List Way × σ
  | 0, _, found, state => (found.reverse, state)
  | _, [], found, state => (found.reverse, state)
  | fuel + 1, ways, found, state =>
    let (ways, found, state) := s.stepWays judge ways [] [] found state
    walkBack judge fuel ways found state

def waysFrom {σ : Type} (v : Nat) (judge : Way → σ → Verdict × σ) (state : σ) : List Way × σ :=
  s.walkBack judge (s.nodes.size + 1) [⟨(s.version v).node, [], 0⟩] [] state

/-- A version that is left where trees have been taken off, and the trees of each way there. -/
structure Slice where
  version : Nat
  choices : List (List Tree)

/-- Adds a way to the slice of the node that it has come to, with a version for it if there is none. -/
def addWay (v : Nat) (w : Way) (slices : List Slice) : List Slice × Stack :=
  let isHere (slice : Slice) : Bool := (s.version slice.version).node = w.node
  if slices.any isHere then
    (slices.map fun slice ↦
      if isHere slice then { slice with choices := slice.choices ++ [w.trees] } else slice, s)
  else
    let old := s.version v
    let new : Version := ⟨w.node, old.memory, old.nodeCountAtError, .active, none⟩
    (slices ++ [⟨s.versions.size, [w.trees]⟩], { s with versions := s.versions.push new })

/-- Makes a version for each node that ways have come to. -/
def addWays (v : Nat) : List Way → List Slice → Stack → List Slice × Stack
  | [], slices, s => (slices, s)
  | w :: rest, slices, s =>
    let (slices, s) := s.addWay v w slices
    addWays v rest slices s

/-- The ways back over so many trees that are no extras. -/
def waysOver (v count : Nat) : List Way :=
  (s.waysFrom v (fun w () ↦ (⟨w.count = count, w.count = count⟩, ())) ()).1

/-- Takes trees from the top of a version until so many are no extras. -/
def pop (v count : Nat) : List Slice × Stack := addWays v (s.waysOver v count) [] s

/-- All trees of a version, for each way back to the beginning of the text. -/
def wholesOf (v : Nat) : List (List Tree) :=
  (s.waysFrom v (fun w () ↦ (⟨(s.node w.node).links.isEmpty, false⟩, ())) ()).1.map (·.trees)

/-- Ends a version behind some last trees, with nothing left on it. -/
def close (v : Nat) (trees : List Tree) (state : Nat) : Stack :=
  let old := s.top v
  let new : StackNode :=
    ⟨state, trees.foldl (fun position t ↦ position + t.extent) old.position, #[], old.errorCost,
      old.nodeCount, old.weight⟩
  let i := s.nodes.size
  { s with nodes := s.nodes.push new }.modifyVersion v fun version ↦
    { version with node := i, status := .halted }

/-- Takes the tree of skipped text from the top of a version, if there is one. -/
def popError (v : Nat) : Option Tree × Stack :=
  let link := (s.top v).links.find? fun link ↦
    match link.tree with
    | some t => t.isError
    | none => false
  match link with
  | some ⟨below, some t⟩ =>
    (some t, s.modifyVersion v fun version ↦ { version with node := below, status := .active })
  | _ => (none, s)

/-- The states below a version, down to a depth, each with the depth where it was first met. -/
def retreatsOf (v depth : Nat) : Array Retreat :=
  (s.waysFrom v (fun w (found : Array Retreat) ↦
    let node := s.node w.node
    if w.count > depth then (⟨false, true⟩, found)
    else if (found.toList.reverse.takeWhile fun r ↦ w.count ≤ r.depth).any fun r ↦
        r.depth = w.count && r.state = node.state then (⟨false, false⟩, found)
    else (⟨false, false⟩, found.push ⟨node.position, w.count, node.state⟩)) #[]).2

def recordRetreats (v depth : Nat) : Stack :=
  let retreats := s.retreatsOf v depth
  s.modifyVersion v fun version ↦ { version with retreats := some retreats }

end Stack

end SourceSurvey.Parsing
