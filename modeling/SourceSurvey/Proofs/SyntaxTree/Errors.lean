import SourceSurvey.Proofs.SyntaxTree.Layout
import SourceSurvey.Proofs.SyntaxTree.Preorder

/-!
# Errors in a syntax tree

Whether a file has errors is read off what its tree costs. The cost takes in all that is in the tree, but
nodes stand only for what shows. What was skipped shows always; a token that was put in does not where a
token of its kind would not. So a file has errors if a visit is shown some, or if a token that was put in
is hidden.
-/

namespace SourceSurvey

open Grammar Parsing

/-! ## Nodes and what they stand for -/

/-- What a tree, or the node that stands for it, tells of errors. -/
structure Faults where
  isError : Bool
  isMissing : Bool
  hasError : Bool

def Parsing.Tree.faults (t : Tree) : Faults := ⟨t.isError, t.info.isMissing, 0 < t.errorCost⟩

namespace SyntaxNode

def faults (n : SyntaxNode) : Faults := ⟨n.info.isError, n.info.isMissing, n.info.hasError⟩

/-- What the parts that show tell of errors. -/
def faultsShown (parts : List (Tree × Bool)) : List Faults :=
  (parts.filter (·.2)).map (·.1.faults)

theorem mem_faultsShown {f : Faults} {parts : List (Tree × Bool)} :
    f ∈ faultsShown parts ↔ ∃ part ∈ parts, part.2 = true ∧ part.1.faults = f := by
  simp only [faultsShown, List.mem_map, List.mem_filter, and_assoc]

theorem faultsShown_cons (t : Tree) (shows : Bool) (parts : List (Tree × Bool)) :
    faultsShown ((t, shows) :: parts) =
      if shows then t.faults :: faultsShown parts else faultsShown parts := by
  cases shows <;> rfl

theorem faultsShown_append (parts parts' : List (Tree × Bool)) :
    faultsShown (parts ++ parts') = faultsShown parts ++ faultsShown parts' := by
  simp [faultsShown]

theorem nodesOfAll_append (ns ns' : List SyntaxNode) :
    nodesOfAll (ns ++ ns') = nodesOfAll ns ++ nodesOfAll ns' := by
  induction ns with
  | nil => rfl
  | cons n rest ih => rw [List.cons_append, nodesOfAll, nodesOfAll, ih, List.append_assoc]

variable (symbols : Symbols)

/-- What a node and the nodes in it tell of errors. -/
theorem map_faults_nodes {info : TreeInfo} {children : List Tree} {ns : List SyntaxNode}
    (label : Option Label) (start : Extent)
    (hns : (nodesOfAll ns).map faults = faultsShown (Tree.partsOfAll info.labels children)) :
    (mk (infoOf symbols label start (.mk info children)) ns).nodes.map faults =
      (Tree.mk info children).faults :: faultsShown (Tree.partsOfAll info.labels children) := by
  rw [nodes, List.map_cons, hns]
  rfl

mutual

/-- The nodes for a tree tell what its parts tell that show, in their order. -/
theorem exists_lay (t : Tree) (label : Option Label) (start : Extent) (shown : Array SyntaxNode) :
    ∃ ns, (lay symbols label start shown t).toList = shown.toList ++ ns ∧
      (nodesOfAll ns).map faults = faultsShown (t.parts label) :=
  match t with
  | .mk info children => by
    rw [Tree.parts, faultsShown_cons, lay]
    split_ifs with h
    · obtain ⟨ns, hns, hfaults⟩ := exists_layAll children info.labels start #[]
      refine ⟨_, Array.toList_push, ?_⟩
      rw [nodesOfAll, nodesOfAll, List.append_nil, hns]
      exact map_faults_nodes symbols label start hfaults
    · exact exists_layAll children info.labels start shown

theorem exists_layAll (trees : List Tree) (labels : List (Option Label)) (start : Extent)
    (shown : Array SyntaxNode) :
    ∃ ns, (layAll symbols labels start shown trees).toList = shown.toList ++ ns ∧
      (nodesOfAll ns).map faults = faultsShown (Tree.partsOfAll labels trees) :=
  match trees with
  | [] => ⟨[], by simp [layAll], rfl⟩
  | t :: rest => by
    rw [layAll, Tree.partsOfAll, faultsShown_append]
    obtain ⟨ns, hns, hfaults⟩ := exists_lay t (if t.isExtra then none else labels.head?.join) start
      shown
    obtain ⟨ns', hns', hfaults'⟩ := exists_layAll rest (if t.isExtra then labels else labels.drop 1)
      (start + t.info.size + Tree.paddingOf rest)
      (lay symbols (if t.isExtra then none else labels.head?.join) start shown t)
    refine ⟨ns ++ ns', ?_, ?_⟩
    · rw [hns', hns, List.append_assoc]
    · rw [nodesOfAll_append, List.map_append, hfaults, hfaults']

end

/-- The nodes of a tree tell what the parts of the tree tell that show, in their order. The root shows in
any case. -/
theorem map_faults_nodes_ofTree (t : Tree) :
    (ofTree symbols t).nodes.map faults = faultsShown (t.parts (some (symbols.label t.symbol))) := by
  obtain ⟨info, children⟩ := t
  obtain ⟨ns, hns, hfaults⟩ := exists_layAll symbols children info.labels info.padding #[]
  rw [Tree.parts, faultsShown_cons, Option.isSome_some, Bool.true_or, if_pos rfl,
    ← map_faults_nodes symbols none info.padding hfaults]
  exact congrArg (fun ns ↦ (mk _ ns).nodes.map faults) hns

/-- There are errors in the tree of a text if it costs something. -/
theorem hasErrors_ofTree (t : Tree) : (ofTree symbols t).hasErrors = decide (0 < t.errorCost) := rfl

end SyntaxNode

/-- Whether a token was put in where it does not show. -/
def Parsing.Tree.hidesMissing (label : Option Label) (t : Tree) : Bool :=
  (t.parts label).any fun part ↦ !part.2 && part.1.info.isMissing

namespace Parsing.Tree

open SyntaxNode

/-- A sound tree costs something exactly if a node of it is an error or a missing token, or if a missing
token is hidden. -/
theorem Sound.errorCost_pos_iff {t : Tree} (h : t.Sound) (symbols : Symbols) :
    0 < t.errorCost ↔
      (∃ n ∈ (ofTree symbols t).nodes, n.info.isError ∨ n.info.isMissing) ∨
        t.hidesMissing (some (symbols.label t.symbol)) := by
  let label := some (symbols.label t.symbol)
  have hfaults := map_faults_nodes_ofTree symbols t
  constructor
  · intro hcost
    obtain ⟨⟨part, shows⟩, hpart, hfault⟩ := h.exists_part hcost label
    cases shows with
    | true =>
      have hmem : part.faults ∈ (ofTree symbols t).nodes.map SyntaxNode.faults := by
        rw [hfaults]
        exact mem_faultsShown.2 ⟨_, hpart, rfl, rfl⟩
      obtain ⟨n, hn, heq⟩ := List.mem_map.1 hmem
      refine Or.inl ⟨n, hn, hfault.symm.imp (fun herror ↦ ?_) fun hmissing ↦ ?_⟩
      · exact (congrArg Faults.isError heq).trans herror.1
      · exact (congrArg Faults.isMissing heq).trans hmissing
    | false =>
      have hmissing : part.info.isMissing = true := hfault.resolve_right fun herror ↦ nomatch herror.2
      exact Or.inr (List.any_eq_true.2 ⟨_, hpart, by simp [hmissing]⟩)
  · rintro (⟨n, hn, hfault⟩ | hhidden)
    · have hmem := List.mem_map_of_mem (f := SyntaxNode.faults) hn
      rw [hfaults] at hmem
      obtain ⟨part, hpart, -, heq⟩ := mem_faultsShown.1 hmem
      refine h.errorCost_pos hpart (hfault.symm.imp (fun hmissing ↦ ?_) fun herror ↦ ?_)
      · exact (congrArg Faults.isMissing heq).trans hmissing
      · exact (congrArg Faults.isError heq).trans herror
    · obtain ⟨part, hpart, hmissing⟩ := List.any_eq_true.1 hhidden
      exact h.errorCost_pos hpart (Or.inl (Bool.and_elim_right hmissing))

/-- A node over nothing but a missing token of a kind that does not show is sound and costs something, but
no node of it tells of that. -/
theorem faultless_of_missing_hidden (symbols : Symbols) {symbol token : Nat}
    (hsymbol : symbol < Symbols.errorPiece) (htoken : token < Symbols.errorPiece)
    (hhidden : symbols.isVisible token = false) :
    let t := node symbols symbol [] [missing symbols token]
    t.Sound ∧ 0 < t.errorCost ∧ t.hidesMissing (some (symbols.label symbol)) ∧
      ∀ n ∈ (ofTree symbols t).nodes, n.info.isError = false ∧ n.info.isMissing = false := by
  intro t
  have hsound : t.Sound := sound_node hsymbol (by simpa using sound_missing htoken)
  have herror : symbol ≠ Symbols.error := (hsymbol.trans (by decide)).ne
  have hparts : t.parts (some (symbols.label symbol)) = [(t, true), (missing symbols token, false)] := by
    simp [t, node, missing, parts, partsOfAll, hhidden]
  have hhides : t.hidesMissing (some (symbols.label symbol)) := by
    rw [hidesMissing, hparts]
    rfl
  refine ⟨hsound, (hsound.errorCost_pos_iff symbols).2 (Or.inr hhides), hhides, fun n hn ↦ ?_⟩
  have hmem := List.mem_map_of_mem (f := SyntaxNode.faults) hn
  rw [map_faults_nodes_ofTree, mem_faultsShown, symbol_node, hparts] at hmem
  -- the root is the only part that shows
  obtain ⟨part, hpart, hshows, heq⟩ := hmem
  obtain rfl : part = (t, true) := by grind
  exact ⟨(congrArg Faults.isError heq).symm.trans (decide_eq_false herror),
    (congrArg Faults.isMissing heq).symm⟩

end Parsing.Tree

/-- A parse fails only for want of a tree. If there is one, the file has errors exactly if a visit of the
tree is shown an error or a missing token, or if a token was put in where it does not show. -/
theorem ParsedFile.hasErrors_parse_iff (id : FileId) (source : SourceFile) :
    match ParsedFile.parse id source with
    | .error e => e = .parseFailed source.path
    | .ok file => file.hasErrors ↔
      (∃ n ∈ file.root.visited false, n.info.isError ∨ n.info.isMissing) ∨
        ∃ t, source.language.machine.parse source.content = some t ∧
          t.hidesMissing (some (source.language.machine.symbols.label t.symbol)) := by
  split
  next e hparse => exact (parse_eq_error_iff.1 hparse).2
  next file hparse =>
    obtain ⟨t, ht, rfl⟩ := parse_eq_ok_iff.1 hparse
    have hsound := (source.language.standsFor_of_parse ht).sound
    let symbols := source.language.machine.symbols
    rw [SyntaxNode.visited_all]
    calc (SyntaxNode.ofTree symbols t).hasErrors = true
        ↔ 0 < t.errorCost := by rw [SyntaxNode.hasErrors_ofTree, decide_eq_true_iff]
      _ ↔ (∃ n ∈ (SyntaxNode.ofTree symbols t).nodes, n.info.isError ∨ n.info.isMissing) ∨
            t.hidesMissing (some (symbols.label t.symbol)) := hsound.errorCost_pos_iff symbols
      _ ↔ _ := by simp only [ht, Option.some.injEq, exists_eq_left', symbols]

end SourceSurvey
