import SourceSurvey.Proofs.SyntaxTree.Positions

/-!
# Source order

Nodes are shown in the order in which they stand in the text. A node lies within each node that it is in;
of two nodes that are not in each other, the one shown first ends before the other one begins, or just
where it begins.
-/

namespace SourceSurvey

open Parsing

/-! ## The order of places -/

namespace TextPlace

/-- A place by its line, and within its line by its column. -/
def point (p : TextPlace) : Nat ×ₗ Nat := toLex (p.line, p.column)

theorem point_le_add (a b : Extent) : a.place.point ≤ (a + b).place.point := by
  rw [point, point, Prod.Lex.toLex_le_toLex, Extent.add_def, Extent.place, Extent.place]
  grind

/-- The place behind a text is no earlier than that behind its beginning. -/
theorem point_after_le {s t : List Char} (h : s <+: t) : (after s).point ≤ (after t).point := by
  obtain ⟨rest, rfl⟩ := h
  rw [after, after, Extent.of_append]
  exact point_le_add _ _

end TextPlace

namespace TextRange

def start (r : TextRange) : Nat ×ₗ Nat := toLex (r.startLine.toNat, r.startColumn.toNat)

def stop (r : TextRange) : Nat ×ₗ Nat := toLex (r.endLine.toNat, r.endColumn.toNat)

end TextRange

namespace SyntaxNode

/-! ## Nodes in each other -/

theorem at?_append (n : SyntaxNode) (p q : List Nat) :
    n.at? (p ++ q) = (n.at? p).bind (·.at? q) := by
  induction p generalizing n with
  | nil => rfl
  | cons i p ih =>
    rw [List.cons_append, at?, at?, Option.bind_assoc]
    exact congrArg _ (funext fun c ↦ ih c)

theorem mem_nodes_of_mem_placed {n : SyntaxNode} {x : List Nat × SyntaxNode} (h : x ∈ n.placed) :
    x.2 ∈ n.nodes := by
  rw [← map_snd_placed]
  exact List.mem_map_of_mem h

theorem mem_nodesOfAll_of_mem_placedFrom {i : Nat} {ns : List SyntaxNode} {x : List Nat × SyntaxNode}
    (h : x ∈ placedFrom i ns) : x.2 ∈ nodesOfAll ns := by
  rw [← map_snd_placedFrom i]
  exact List.mem_map_of_mem h

/-- A node whose place goes on from the place of another is in it. -/
theorem mem_nodes_of_isPrefix {n : SyntaxNode} {x y : List Nat × SyntaxNode} (hx : x ∈ n.placed)
    (hy : y ∈ n.placed) (h : x.1 <+: y.1) : y.2 ∈ x.2.nodes := by
  obtain ⟨q, hq⟩ := h
  have hat : x.2.at? q = some y.2 := by
    rw [← mem_placed.1 hy, ← hq, at?_append, mem_placed.1 hx, Option.bind_some]
  exact mem_nodes_of_mem_placed (x := (q, y.2)) (mem_placed.2 hat)

section

open TextPlace

variable {start stop : List Char} {n m : SyntaxNode} {ns : List SyntaxNode}

/-- What is in a node lies within it. -/
theorem Laid.within (h : n.Laid start stop) (hm : m ∈ n.nodes) :
    (after start).point ≤ m.info.start.point ∧ m.info.start.point ≤ m.info.stop.point ∧
      m.info.stop.point ≤ (after stop).point := by
  obtain ⟨first, last, hfirst, hlaid, hlast⟩ := h.of_mem_nodes hm
  rw [hlaid.start_eq, hlaid.stop_eq]
  exact ⟨point_after_le hfirst, point_after_le hlaid.isPrefix, point_after_le hlast⟩

/-- What is in nodes one behind the other lies between where these begin and end. -/
theorem LaidAll.within (h : LaidAll start stop ns) (hm : m ∈ nodesOfAll ns) :
    (after start).point ≤ m.info.start.point ∧ m.info.stop.point ≤ (after stop).point := by
  obtain ⟨first, last, hfirst, hlaid, hlast⟩ := h.of_mem_nodes hm
  rw [hlaid.start_eq, hlaid.stop_eq]
  exact ⟨point_after_le hfirst, point_after_le hlast⟩

end

/-! ## Nodes beside each other -/

/-- Of two nodes, the second one is in the first one, or begins where that ends or later. -/
def EndsBefore (x y : List Nat × SyntaxNode) : Prop :=
  ¬x.1 <+: y.1 → x.2.info.stop.point ≤ y.2.info.start.point

mutual

theorem Laid.pairwise_endsBefore {start stop : List Char} {n : SyntaxNode} (h : n.Laid start stop) :
    n.placed.Pairwise EndsBefore :=
  match n, h with
  | mk info children, h => by
    -- nothing is asked of a node and what is in it
    rw [placed, List.pairwise_cons]
    exact ⟨fun y _ hy ↦ absurd List.nil_prefix hy, LaidAll.pairwise_endsBefore h.2.2 0⟩

theorem LaidAll.pairwise_endsBefore {start stop : List Char} {ns : List SyntaxNode}
    (h : LaidAll start stop ns) (i : Nat) : (placedFrom i ns).Pairwise EndsBefore :=
  match ns, h with
  | [], _ => .nil
  | n :: rest, ⟨first, last, _, hn, hrest⟩ => by
    rw [placedFrom, List.pairwise_append, List.pairwise_map]
    refine ⟨?_, LaidAll.pairwise_endsBefore hrest (i + 1), fun x hx y hy _ ↦ ?_⟩
    · refine (Laid.pairwise_endsBefore hn).imp fun h hne ↦ h fun hp ↦ hne ?_
      exact List.cons_prefix_cons.2 ⟨rfl, hp⟩
    · -- one of them is in the first node and the other in a later one
      obtain ⟨x', hx', rfl⟩ := List.mem_map.1 hx
      obtain ⟨-, -, hstop⟩ := hn.within (mem_nodes_of_mem_placed hx')
      obtain ⟨hstart, -⟩ := hrest.within (mem_nodesOfAll_of_mem_placedFrom hy)
      exact hstop.trans hstart

end

end SyntaxNode

namespace ParsedFile

/-- Where a location begins and ends is where its node does. -/
theorem range_points {id : FileId} {source : SourceFile} {file : ParsedFile}
    (h : ParsedFile.parse id source = .ok file) {n : SyntaxNode} (hn : n ∈ file.root.nodes) :
    n.range.start = n.info.start.point ∧ n.range.stop = n.info.stop.point := by
  obtain ⟨before, covered, hcovers⟩ := exists_covers h hn
  obtain ⟨hstartLine, hstartColumn, hendLine, hendColumn⟩ := hcovers.toNat_range
  rw [TextRange.start, TextRange.stop, hstartLine, hstartColumn, hendLine, hendColumn]
  exact ⟨rfl, rfl⟩

open SyntaxNode in
/-- A parse fails only for want of a tree. If there is one, the nodes that a visit shows, with their places
in the tree, come in source order. They begin one after the other; a node lies within every node that it
is in; and of two nodes of which the later is not in the earlier, the earlier ends where the later begins
or before that. -/
theorem visited_in_source_order (id : FileId) (source : SourceFile) (namedOnly : Bool) :
    match ParsedFile.parse id source with
    | .error e => e = .parseFailed source.path
    | .ok file =>
      let shown := file.root.placed.filter fun x ↦ !namedOnly || x.2.info.isNamed
      let range (x : List Nat × SyntaxNode) := (file.locationOf x.2).range
      shown.map Prod.snd = file.root.visited namedOnly ∧
        (∀ x ∈ shown, file.root.at? x.1 = some x.2 ∧ (range x).start ≤ (range x).stop) ∧
        (∀ x ∈ shown, ∀ y ∈ shown, x.1 <+: y.1 →
          (range x).start ≤ (range y).start ∧ (range y).stop ≤ (range x).stop) ∧
        shown.Pairwise fun x y ↦ (range x).start ≤ (range y).start ∧
          (¬x.1 <+: y.1 → (range x).stop ≤ (range y).start) := by
  split
  next e hparse => exact (parse_eq_error_iff.1 hparse).2
  next file hparse =>
    intro shown range
    obtain ⟨start, stop, -, hlaid⟩ := exists_laid hparse
    have hplaced {x : List Nat × SyntaxNode} (hx : x ∈ shown) : x ∈ file.root.placed :=
      (List.mem_filter.1 hx).1
    have hpoints {x : List Nat × SyntaxNode} (hx : x ∈ shown) :
        (range x).start = x.2.info.start.point ∧ (range x).stop = x.2.info.stop.point :=
      range_points hparse (mem_nodes_of_mem_placed (hplaced hx))
    have hwithin {x : List Nat × SyntaxNode} (hx : x ∈ shown) {y : List Nat × SyntaxNode}
        (hy : y ∈ shown) (h : x.1 <+: y.1) :
        (range x).start ≤ (range y).start ∧ (range y).start ≤ (range y).stop ∧
          (range y).stop ≤ (range x).stop := by
      obtain ⟨first, last, -, hx', -⟩ := hlaid.of_mem_nodes (mem_nodes_of_mem_placed (hplaced hx))
      have h := hx'.within (mem_nodes_of_isPrefix (hplaced hx) (hplaced hy) h)
      rwa [← hx'.start_eq, ← hx'.stop_eq, ← (hpoints hx).1, ← (hpoints hx).2, ← (hpoints hy).1,
        ← (hpoints hy).2] at h
    have hends : shown.Pairwise EndsBefore := hlaid.pairwise_endsBefore.filter _
    refine ⟨?_, fun x hx ↦ ⟨mem_placed.1 (hplaced hx), (hwithin hx hx List.prefix_rfl).2.1⟩,
      fun x hx y hy h ↦ ⟨(hwithin hx hy h).1, (hwithin hx hy h).2.2⟩, ?_⟩
    · rw [visited_eq_filter, ← map_snd_placed, List.filter_map]
      rfl
    · refine hends.imp_of_mem fun {x y} hx hy h ↦ ?_
      have hstop (hne : ¬x.1 <+: y.1) : (range x).stop ≤ (range y).start := by
        rw [(hpoints hx).2, (hpoints hy).1]
        exact h hne
      refine ⟨?_, hstop⟩
      -- a later node begins within an earlier one or behind it
      by_cases hin : x.1 <+: y.1
      · exact (hwithin hx hy hin).1
      · exact (hwithin hx hx List.prefix_rfl).2.1.trans (hstop hin)

end ParsedFile

end SourceSurvey
