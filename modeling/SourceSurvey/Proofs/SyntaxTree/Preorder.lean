import Mathlib
import SourceSurvey.ParsedFile
import SourceSurvey.Visit

/-!
# The order of a visit

A visit moves a cursor through a tree, down, to the right and up again. What it shows is the listing of
the tree in which each node stands before what is in it: at every moment the nodes still ahead of the
cursor are what is left of this listing. The listing has one entry for each place of the tree, and the
places stand in it by the numbers of the children that lead to them.
-/

namespace SourceSurvey

namespace SyntaxNode

/-! ## What a visit shows -/

section

variable {σ : Type}

/-- From a cursor on, the nodes ahead of it are shown and counted. -/
theorem visitFrom_eq (namedOnly : Bool) (onNode : SyntaxNode → σ → σ) (c : Cursor) (kept : σ)
    (count : Nat) :
    let shown := c.ahead.filter fun n ↦ !namedOnly || n.info.isNamed
    visitFrom namedOnly onNode c kept count =
      (shown.foldl (fun kept n ↦ onNode n kept) kept, count + shown.length) := by
  simp only [List.foldl_filter, ← List.countP_eq_length_filter]
  -- a step of the loop takes the node under the cursor off the nodes ahead
  fun_induction visitFrom namedOnly onNode c kept count with
  | case1 c kept count shows kept' count' c' hadvance ih =>
    have hahead : c.ahead = c.node :: c'.ahead := by rw [c.ahead_advance?, hadvance, Option.elim_some]
    rw [ih, hahead, List.foldl_cons, List.countP_cons]
    by_cases hshows : shows <;> simp_all [shows, kept', count', Nat.add_assoc, Nat.add_comm 1]
  | case2 c kept count shows kept' count' hadvance =>
    have hahead : c.ahead = [c.node] := by rw [c.ahead_advance?, hadvance, Option.elim_none]
    rw [hahead, List.foldl_cons, List.countP_cons]
    by_cases hshows : shows <;> simp_all [shows, kept', count']

theorem visit_eq (root : SyntaxNode) (namedOnly : Bool) (onNode : SyntaxNode → σ → σ) (kept : σ) :
    let shown := root.nodes.filter fun n ↦ !namedOnly || n.info.isNamed
    root.visit namedOnly onNode kept =
      (shown.foldl (fun kept n ↦ onNode n kept) kept, shown.length) := by
  have hahead : (Cursor.ofRoot root).ahead = root.nodes := List.append_nil _
  rw [visit, visitFrom_eq, hahead, Nat.zero_add]

theorem visited_eq_filter (root : SyntaxNode) (namedOnly : Bool) :
    root.visited namedOnly = root.nodes.filter fun n ↦ !namedOnly || n.info.isNamed := by
  rw [visited, visit_eq]
  simp

theorem visited_all (n : SyntaxNode) : n.visited false = n.nodes := by
  rw [visited_eq_filter]
  exact List.filter_true _

end

/-! ## Places in a tree -/

/-- The node that the numbers of children lead to. -/
def at? (n : SyntaxNode) : List Nat → Option SyntaxNode
  | [] => some n
  | i :: p => (n.children[i]?).bind (·.at? p)

mutual

/-- The listing of a tree, each node with the numbers of the children that lead to it. -/
def placed : SyntaxNode → List (List Nat × SyntaxNode)
  | mk info children => ([], mk info children) :: placedFrom 0 children

def placedFrom (i : Nat) : List SyntaxNode → List (List Nat × SyntaxNode)
  | [] => []
  | n :: rest => (placed n).map (Prod.map (i :: ·) id) ++ placedFrom (i + 1) rest

end

mutual

theorem map_snd_placed (n : SyntaxNode) : n.placed.map Prod.snd = n.nodes :=
  match n with
  | mk info children => by rw [placed, nodes, List.map_cons, map_snd_placedFrom 0 children]

theorem map_snd_placedFrom (i : Nat) (ns : List SyntaxNode) :
    (placedFrom i ns).map Prod.snd = nodesOfAll ns :=
  match ns with
  | [] => rfl
  | n :: rest => by
    have hsnd : Prod.snd ∘ Prod.map (i :: ·) id = (Prod.snd : List Nat × SyntaxNode → SyntaxNode) := rfl
    rw [placedFrom, nodesOfAll, List.map_append, List.map_map, hsnd, map_snd_placed n,
      map_snd_placedFrom (i + 1) rest]

end

theorem mem_placedFrom {i : Nat} {ns : List SyntaxNode} {x : List Nat × SyntaxNode} :
    x ∈ placedFrom i ns ↔
      ∃ k n p, ns[k]? = some n ∧ (p, x.2) ∈ n.placed ∧ x.1 = (i + k) :: p := by
  induction ns generalizing i with
  | nil => simp [placedFrom]
  | cons n rest ih =>
    rw [placedFrom, List.mem_append, List.mem_map, ih]
    constructor
    · rintro (⟨y, hy, rfl⟩ | ⟨k, n', p, hn', hp, hx⟩)
      · exact ⟨0, n, y.1, rfl, hy, rfl⟩
      · exact ⟨k + 1, n', p, hn', hp, by rw [hx, Nat.add_assoc, Nat.add_comm 1]⟩
    · rintro ⟨k, n', p, hn', hp, hx⟩
      cases k with
      | zero =>
        cases hn'
        exact .inl ⟨(p, x.2), hp, Prod.ext hx.symm rfl⟩
      | succ k => exact .inr ⟨k, n', p, hn', hp, by rw [hx, Nat.add_assoc, Nat.add_comm 1]⟩

/-- The listing has every node with its place, and nothing else. -/
theorem mem_placed {n n' : SyntaxNode} {p : List Nat} : (p, n') ∈ n.placed ↔ n.at? p = some n' := by
  induction p generalizing n with
  | nil =>
    obtain ⟨info, children⟩ := n
    rw [placed, List.mem_cons, at?, Prod.mk.injEq, Option.some.injEq]
    constructor
    · rintro (⟨-, rfl⟩ | h)
      · rfl
      · obtain ⟨k, m, p, -, -, hp⟩ := mem_placedFrom.1 h
        cases hp
    · rintro rfl
      exact .inl ⟨rfl, rfl⟩
  | cons i p ih =>
    obtain ⟨info, children⟩ := n
    rw [placed, List.mem_cons, at?, Option.bind_eq_some_iff, mem_placedFrom]
    constructor
    · rintro (h | ⟨k, m, q, hm, hq, hp⟩)
      · cases h
      · obtain ⟨rfl, rfl⟩ : i = k ∧ p = q := by simpa using hp
        exact ⟨m, hm, ih.1 hq⟩
    · rintro ⟨m, hm, hp⟩
      exact .inr ⟨i, m, p, hm, ih.2 hp, by rw [Nat.zero_add]⟩

mutual

/-- The places of a tree stand in the listing by the numbers of the children that lead to them. -/
theorem pairwise_lt_placed (n : SyntaxNode) : n.placed.Pairwise fun x y ↦ x.1 < y.1 :=
  match n with
  | mk info children => by
    rw [placed, List.pairwise_cons]
    refine ⟨fun x hx ↦ ?_, pairwise_lt_placedFrom 0 children⟩
    obtain ⟨k, m, p, -, -, hp⟩ := mem_placedFrom.1 hx
    rw [hp]
    exact List.nil_lt_cons _ _

theorem pairwise_lt_placedFrom (i : Nat) (ns : List SyntaxNode) :
    (placedFrom i ns).Pairwise fun x y ↦ x.1 < y.1 :=
  match ns with
  | [] => .nil
  | n :: rest => by
    rw [placedFrom, List.pairwise_append, List.pairwise_map]
    refine ⟨(pairwise_lt_placed n).imp fun h ↦ List.cons_lt_cons_self.2 h,
      pairwise_lt_placedFrom (i + 1) rest, fun x hx y hy ↦ ?_⟩
    obtain ⟨x', -, rfl⟩ := List.mem_map.1 hx
    obtain ⟨k, m, p, -, -, hp⟩ := mem_placedFrom.1 hy
    rw [hp]
    exact List.cons_lt_cons_iff.2 (.inl (by omega))

end

end SyntaxNode

open SyntaxNode in
/-- A visit of a file's tree ends. Its handler is called for each node once, with each before what is
in it and with siblings from the left to the right, but only for those that show; what comes back is what
the calls have made of what the handler keeps, and their number. -/
theorem ParsedFile.visit_preorder (f : ParsedFile) (namedOnly : Bool) {σ : Type}
    (onNode : SyntaxNode → σ → σ) (kept : σ) :
    let shown := f.root.nodes.filter fun n ↦ !namedOnly || n.info.isNamed
    f.root.visit namedOnly onNode kept =
        (shown.foldl (fun kept n ↦ onNode n kept) kept, shown.length) ∧
      ∃ places : List (List Nat), places.Pairwise (· < ·) ∧
        (∀ p, p ∈ places ↔ (f.root.at? p).isSome) ∧
        places.map f.root.at? = f.root.nodes.map some := by
  refine ⟨f.root.visit_eq namedOnly onNode kept, f.root.placed.map Prod.fst, ?_, fun p ↦ ?_, ?_⟩
  · exact List.pairwise_map.2 f.root.pairwise_lt_placed
  · rw [Option.isSome_iff_exists, List.mem_map]
    constructor
    · rintro ⟨⟨p, n⟩, hn, rfl⟩
      exact ⟨n, mem_placed.1 hn⟩
    · rintro ⟨n, hn⟩
      exact ⟨(p, n), mem_placed.2 hn, rfl⟩
  · rw [← map_snd_placed, List.map_map, List.map_map]
    exact List.map_congr_left fun x hx ↦ mem_placed.1 hx

end SourceSurvey
