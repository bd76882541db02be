import SourceSurvey.SyntaxTree

/-!
Visits of a syntax tree. A cursor stands on a node and knows the way down to it. A visit moves it from
node to node: to the first child, or else up to the nearest node with a sibling to its right, and on to
that sibling; it is over when the cursor is back on the root.
-/

namespace SourceSurvey.SyntaxNode

/-- A step down a tree, from a node to one of its children. -/
structure Descent where
  parent : SyntaxNode
  /-- The siblings to the right of the child. -/
  after : List SyntaxNode

/-- A place in a tree: a node, and the steps down to it from the root, the last one first. -/
structure Cursor where
  node : SyntaxNode
  way : List Descent

namespace Cursor

def ofRoot (root : SyntaxNode) : Cursor := ⟨root, []⟩

def firstChild? (c : Cursor) : Option Cursor :=
  match c.node.children with
  | [] => none
  | n :: after => some ⟨n, ⟨c.node, after⟩ :: c.way⟩

def nextSibling? (c : Cursor) : Option Cursor :=
  match c.way with
  | ⟨parent, n :: after⟩ :: way => some ⟨n, ⟨parent, after⟩ :: way⟩
  | _ => none

def parent? (c : Cursor) : Option Cursor :=
  match c.way with
  | [] => none
  | d :: way => some ⟨d.parent, way⟩

theorem length_way_of_parent? {c c' : Cursor} (h : c.parent? = some c') :
    c'.way.length < c.way.length := by
  obtain ⟨n, _ | ⟨d, way⟩⟩ := c
  · cases h
  · cases h
    exact Nat.lt_succ_self _

/-- Goes up until there is a sibling to the right, and on to that; nowhere if there is none up to the
root. -/
def climb? (c : Cursor) : Option Cursor :=
  match c.nextSibling? with
  | some c' => some c'
  | none =>
    match _h : c.parent? with
    | some c' => c'.climb?
    | none => none
termination_by c.way.length
decreasing_by exact length_way_of_parent? _h

/-- Where a visit goes on. -/
def advance? (c : Cursor) : Option Cursor :=
  match c.firstChild? with
  | some c' => some c'
  | none => c.climb?

/-! ## What is still ahead -/

/-- The nodes that a visit has still to come to, the one under the cursor included. -/
def ahead (c : Cursor) : List SyntaxNode :=
  c.node.nodes ++ c.way.flatMap fun d ↦ nodesOfAll d.after

theorem ahead_climb? (c : Cursor) :
    (c.way.flatMap fun d ↦ nodesOfAll d.after) = c.climb?.elim [] ahead := by
  fun_induction climb? c with
  | case1 c c' hsibling =>
    obtain ⟨n, _ | ⟨⟨parent, _ | ⟨n', after⟩⟩, way⟩⟩ := c <;> cases hsibling
    simp [ahead, nodesOfAll]
  | case2 c hsibling c' hparent ih =>
    obtain ⟨n, _ | ⟨⟨parent, _ | ⟨n', after⟩⟩, way⟩⟩ := c <;> cases hsibling <;> cases hparent
    rw [← ih, List.flatMap_cons, nodesOfAll, List.nil_append]
  | case3 c hsibling hparent =>
    obtain ⟨n, _ | ⟨d, way⟩⟩ := c <;> cases hparent
    rfl

/-- A visit goes on to the nodes behind the one under the cursor. -/
theorem ahead_advance? (c : Cursor) : c.ahead = c.node :: c.advance?.elim [] ahead := by
  obtain ⟨⟨info, children⟩, way⟩ := c
  cases children with
  | nil =>
    rw [advance?, firstChild?, children]
    simp only []
    rw [← ahead_climb?, ahead, nodes, nodesOfAll, List.singleton_append]
  | cons n after =>
    rw [advance?, firstChild?, children]
    simp [ahead, nodes, nodesOfAll]

theorem length_ahead_of_advance? {c c' : Cursor} (h : c.advance? = some c') :
    c'.ahead.length < c.ahead.length := by
  rw [c.ahead_advance?, h]
  exact Nat.lt_succ_self _

end Cursor

variable {σ : Type}

/-- Shows the nodes from a cursor on. Gives back what the handler has made of what it keeps, and how
many nodes it was shown. -/
def visitFrom (namedOnly : Bool) (onNode : SyntaxNode → σ → σ) (c : Cursor) (kept : σ) (count : Nat) :
    σ × Nat :=
  let shows := !namedOnly || c.node.info.isNamed
  let kept := if shows then onNode c.node kept else kept
  let count := if shows then count + 1 else count
  match _h : c.advance? with
  | some c' => visitFrom namedOnly onNode c' kept count
  | none => (kept, count)
termination_by c.ahead.length
decreasing_by exact Cursor.length_ahead_of_advance? _h

/-- Shows the nodes of a tree to a handler, all of them or only the named ones. -/
def visit (root : SyntaxNode) (namedOnly : Bool) (onNode : SyntaxNode → σ → σ) (kept : σ) : σ × Nat :=
  visitFrom namedOnly onNode (.ofRoot root) kept 0

/-- The nodes that a visit shows, in order. -/
def visited (root : SyntaxNode) (namedOnly : Bool) : List SyntaxNode :=
  (root.visit namedOnly (fun n (shown : Array SyntaxNode) ↦ shown.push n) #[]).1.toList

end SourceSurvey.SyntaxNode
