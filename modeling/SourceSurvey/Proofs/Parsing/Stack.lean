import Mathlib
import SourceSurvey.Parsing.Stack
import SourceSurvey.Proofs.Parsing.Automaton
import SourceSurvey.Proofs.Parsing.Spans

/-!
# Sane stacks

On the stack of a parse every tree lies between two states that it may stand between, and between the
places in the text at which these are. Skipped text ends in the error state and nowhere else; and an
error that has come to its end is an extra, so that it leads from a state to the same one. Pushing trees
and merging versions keeps this, and what goes back on the stack can rely on it.

Of a version, its state, its place and whether it goes on are looked at from outside; what is done to a
stack changes a list of these.
-/

namespace SourceSurvey.Parsing

def Status.isActive : Status → Bool
  | .active => true
  | _ => false

namespace Stack

/-- A tree in which no text is left open leads from a state to the next one. -/
structure Leads (a : Automaton) (below above : Nat) (t : Tree) : Prop where
  sound : t.Sound
  isExtra : t.isError → t.isExtra
  same : t.isExtra → below = above
  follows : a.mayFollow below above
  /-- Text of its own has only a token, or what is an extra, and no token makes a whole text. -/
  inner : t.IsInner ∨ t.isExtra ∨ a.isClean above = false

/-- What may stand between two states that follow each other. -/
def Joins (a : Automaton) (below above : Nat) : Option Tree → Prop
  | none => above = Automaton.errorState
  | some t => t.IsPiece ∧ above = Automaton.errorState ∨ Leads a below above t

/-- A node is at a place in the text, at the start if nothing is behind it. -/
structure Grounded (text : List Char) (n : StackNode) : Prop where
  reached : Reached text n.position
  bottom : n.links = #[] → n.position = .zero

/-- A way back from a node leads to another one, by a tree that may stand there and lies between them. -/
structure Linked (a : Automaton) (text : List Char) (nodes : Array StackNode) (above : StackNode)
    (l : Link) : Prop where
  node : l.node < nodes.size
  grounded : Grounded text (nodeIn nodes l.node)
  joins : Joins a (nodeIn nodes l.node).state above.state l.tree
  lie : Lie text (nodeIn nodes l.node).position l.tree.toList above.position

def Wired (a : Automaton) (text : List Char) (nodes : Array StackNode) : Prop :=
  ∀ i, ∀ l ∈ (nodeIn nodes i).links, Linked a text nodes (nodeIn nodes i) l

/-- A version stands on a node. If it is still to go on, the node is in the text, and a token that the
version waits for lies there. -/
structure Fits (text : List Char) (nodes : Array StackNode) (x : Version) : Prop where
  node : x.node < nodes.size
  grounded : x.status ≠ .halted → Grounded text (nodeIn nodes x.node)
  token : ∀ t, x.status = .paused t →
    t.IsToken ∧ ∃ stop, Lie text (nodeIn nodes x.node).position [t] stop

structure Sane (a : Automaton) (text : List Char) (s : Stack) : Prop where
  wired : Wired a text s.nodes
  nonempty : 0 < s.nodes.size
  bottom : Grounded text (s.node 0)
  fits : ∀ x ∈ s.versions, Fits text s.nodes x

/-- Where a version stands, and whether it goes on. -/
structure Stand where
  state : Nat
  position : Extent
  isActive : Bool

def standOf (s : Stack) (x : Version) : Stand :=
  ⟨(s.node x.node).state, (s.node x.node).position, x.status.isActive⟩

def stands (s : Stack) : List Stand := s.versions.toList.map s.standOf

/-- A version that goes on is at a place. -/
def IsAt (stands : List Stand) (v : Nat) (place : Extent) : Prop :=
  ∃ state, stands[v]? = some ⟨state, place, true⟩

variable {a : Automaton} {text : List Char}

/-! ## Joining -/

section

variable {below above : Nat} {t : Tree}

theorem Joins.isPiece_or_sound (h : Joins a below above (some t)) : t.IsPiece ∨ t.Sound :=
  h.imp And.left Leads.sound

/-- What leads to a state other than the error state is a tree in which no text is left open. -/
theorem Joins.exists_tree {tree : Option Tree} (h : Joins a below above tree)
    (habove : above ≠ Automaton.errorState) : ∃ t, tree = some t ∧ Leads a below above t := by
  cases tree with
  | none => exact absurd h habove
  | some t => exact ⟨t, rfl, h.resolve_left fun hpiece ↦ habove hpiece.2⟩

theorem joins_piece (h : t.IsPiece) : Joins a below Automaton.errorState (some t) := Or.inl ⟨h, rfl⟩

theorem joins_extra (h : t.Sound) (hextra : t.isExtra) : Joins a above above (some t) :=
  Or.inr ⟨h, fun _ ↦ hextra, fun _ ↦ rfl, a.mayFollow_self above, Or.inr (Or.inl hextra)⟩

theorem joins_inner (h : t.Sound) (herror : t.isError = false) (hextra : t.isExtra = false)
    (hfollow : a.mayFollow below above) (hinner : t.IsInner ∨ a.isClean above = false) :
    Joins a below above (some t) :=
  Or.inr ⟨h, by simp [herror], by simp [hextra], hfollow, hinner.imp_right Or.inr⟩

end

/-! ## Nodes -/

theorem nodeIn_modify (nodes : Array StackNode) (i j : Nat) (f : StackNode → StackNode) :
    nodeIn (nodes.modify i f) j =
      if i = j ∧ j < nodes.size then f (nodeIn nodes j) else nodeIn nodes j := by
  simp only [nodeIn, Array.getD_eq_getD_getElem?, Array.getElem?_modify]
  grind

theorem nodeIn_push (nodes : Array StackNode) (i : Nat) (new : StackNode) :
    nodeIn (nodes.push new) i = if i = nodes.size then new else nodeIn nodes i := by
  simp only [nodeIn, Array.getD_eq_getD_getElem?, Array.getElem?_push]
  grind

/-- Of a node, what others rely on: merging leaves this as it is. -/
structure Stays (n n' : StackNode) : Prop where
  state : n'.state = n.state
  position : n'.position = n.position
  links : n'.links = #[] → n.links = #[]

theorem Stays.refl (n : StackNode) : Stays n n := ⟨rfl, rfl, id⟩

theorem Stays.trans {n n' n'' : StackNode} (h : Stays n n') (h' : Stays n' n'') : Stays n n'' :=
  ⟨h'.state.trans h.state, h'.position.trans h.position, fun hnone ↦ h.links (h'.links hnone)⟩

theorem Grounded.stays {n n' : StackNode} (h : Grounded text n) (hn : Stays n n') : Grounded text n' :=
  ⟨hn.position ▸ h.reached, fun hnone ↦ hn.position.trans (h.bottom (hn.links hnone))⟩

section

variable {nodes nodes' : Array StackNode} {n n' : StackNode} {l : Link}

theorem Linked.stays (h : Linked a text nodes n l) (hsize : nodes.size ≤ nodes'.size)
    (hbelow : Stays (nodeIn nodes l.node) (nodeIn nodes' l.node)) (hn : n'.state = n.state)
    (hposition : n'.position = n.position) : Linked a text nodes' n' l where
  node := h.node.trans_le hsize
  grounded := h.grounded.stays hbelow
  joins := by rw [hbelow.state, hn]; exact h.joins
  lie := by rw [hbelow.position, hposition]; exact h.lie

theorem Fits.stays {x : Version} (h : Fits text nodes x) (hsize : nodes.size ≤ nodes'.size)
    (hnode : Stays (nodeIn nodes x.node) (nodeIn nodes' x.node)) : Fits text nodes' x where
  node := h.node.trans_le hsize
  grounded hstatus := (h.grounded hstatus).stays hnode
  token t ht := by rw [hnode.position]; exact h.token t ht

end

/-! ## Merging -/

/-- Ways back may have come up, but all nodes are there, in the same states and places. -/
structure Rewired (a : Automaton) (text : List Char) (nodes nodes' : Array StackNode) : Prop where
  wired : Wired a text nodes'
  size : nodes'.size = nodes.size
  stays : ∀ i, Stays (nodeIn nodes i) (nodeIn nodes' i)

namespace Rewired

variable {nodes nodes' nodes'' : Array StackNode}

theorem refl (h : Wired a text nodes) : Rewired a text nodes nodes := ⟨h, rfl, fun _ ↦ .refl _⟩

theorem trans (h : Rewired a text nodes nodes') (h' : Rewired a text nodes' nodes'') :
    Rewired a text nodes nodes'' :=
  ⟨h'.wired, h'.size.trans h.size, fun i ↦ (h.stays i).trans (h'.stays i)⟩

theorem linked (h : Rewired a text nodes nodes') {i : Nat} {l : Link}
    (hl : Linked a text nodes (nodeIn nodes i) l) : Linked a text nodes' (nodeIn nodes' i) l :=
  hl.stays h.size.ge (h.stays _) (h.stays i).state (h.stays i).position

theorem foldl {f : Array StackNode → Link → Array StackNode} {links : List Link}
    (h : Wired a text nodes)
    (hf : ∀ l ∈ links, ∀ nodes', Rewired a text nodes nodes' → Rewired a text nodes' (f nodes' l)) :
    Rewired a text nodes (links.foldl f nodes) := by
  induction links generalizing nodes with
  | nil => exact refl h
  | cons l rest ih =>
    have hfirst := hf l List.mem_cons_self nodes (refl h)
    refine hfirst.trans (ih hfirst.wired fun l' hl' nodes' h' ↦ ?_)
    exact hf l' (List.mem_cons_of_mem l hl') nodes' (hfirst.trans h')

/-- Changes a node so that its ways back still lead where ways from it may lead. -/
theorem modify {target : Nat} {f : StackNode → StackNode} (h : Wired a text nodes)
    (hstays : ∀ n, Stays n (f n))
    (hlinks : ∀ l ∈ (f (nodeIn nodes target)).links,
      l ∈ (nodeIn nodes target).links ∨ Linked a text nodes (nodeIn nodes target) l) :
    Rewired a text nodes (nodes.modify target f) := by
  have hstays' (i : Nat) : Stays (nodeIn nodes i) (nodeIn (nodes.modify target f) i) := by
    rw [nodeIn_modify]
    split
    · exact hstays _
    · exact .refl _
  refine ⟨fun i l hl ↦ ?_, Array.size_modify, hstays'⟩
  have hlinked : Linked a text nodes (nodeIn nodes i) l := by
    rw [nodeIn_modify] at hl
    split at hl
    · rename_i hi
      obtain ⟨rfl, -⟩ := hi
      exact (hlinks l hl).elim (h _ l) id
    · exact h i l hl
  exact hlinked.stays (by rw [Array.size_modify]) (hstays' _) (hstays' i).state (hstays' i).position

end Rewired

/-- A way back may be added where its tree may stand. -/
theorem rewired_addLink (fuel : Nat) {target : Nat} {link : Link} {nodes : Array StackNode}
    (h : Wired a text nodes) (hlink : Linked a text nodes (nodeIn nodes target) link) :
    Rewired a text nodes (addLink fuel target link nodes) := by
  induction fuel generalizing target link nodes with
  | zero => exact .refl h
  | succ fuel ih =>
    rw [addLink]
    split
    · exact .refl h
    dsimp only
    split
    · rename_i old hfound
      have hold := h target old (Array.mem_of_find?_eq_some hfound)
      split
      · split
        · refine .modify h (fun n ↦ ⟨rfl, rfl, fun hnone ↦ by simpa using hnone⟩) fun l hl ↦ ?_
          rcases Array.mem_or_eq_of_mem_setIfInBounds hl with hl | rfl
          · exact Or.inl hl
          · exact Or.inr hlink
        · exact .refl h
      · rename_i hother
        -- The two nodes stand alike, so what leads to the one may lead to the other.
        have halike := Array.find?_some hfound
        simp only [isAlike, hother, decide_false, Bool.false_or, Bool.and_eq_true,
          decide_eq_true_eq] at halike
        have hposition := hold.grounded.reached.eq_of_bytes hlink.grounded.reached halike.2.1.2
        rw [← Array.foldl_toList]
        have hbehind : Rewired a text nodes ((nodeIn nodes link.node).links.toList.foldl
            (fun nodes l ↦ addLink fuel old.node l nodes) nodes) := by
          refine .foldl h fun l hl nodes' h' ↦ ih h'.wired (h'.linked ?_)
          exact (h link.node l (Array.mem_toList_iff.1 hl)).stays le_rfl (.refl _) halike.2.1.1
            hposition
        exact hbehind.trans (.modify hbehind.wired (fun n ↦ ⟨rfl, rfl, id⟩) fun l hl ↦ Or.inl hl)
    · split
      · exact .refl h
      · refine .modify h (fun n ↦ ⟨rfl, rfl, fun hnone ↦ ?_⟩) fun l hl ↦ ?_
        · exact absurd hnone (Array.push_ne_empty)
        · rcases Array.mem_push.1 hl with hl | rfl
          · exact Or.inl hl
          · exact Or.inr hlink

/-! ## Versions -/

section

variable (s : Stack)

@[simp] theorem nodes_modifyVersion (v : Nat) (f : Version → Version) :
    (s.modifyVersion v f).nodes = s.nodes := rfl

theorem versions_modifyVersion (v : Nat) (f : Version → Version) :
    (s.modifyVersion v f).versions = s.versions.setIfInBounds v (f (s.version v)) := by
  refine Array.ext_getElem? fun i ↦ ?_
  simp only [modifyVersion, version, Array.getElem?_modify, Array.getElem?_setIfInBounds,
    Array.getD_eq_getD_getElem?]
  grind

@[simp] theorem size_modifyVersion (v : Nat) (f : Version → Version) :
    (s.modifyVersion v f).versions.size = s.versions.size := Array.size_modify

@[simp] theorem length_stands : s.stands.length = s.versions.size := by
  simp [stands]

theorem getElem?_stands (v : Nat) : s.stands[v]? = s.versions[v]?.map s.standOf := by
  simp [stands]

variable {s}

/-- Versions that stand on nodes that stay stand as before. -/
theorem stands_eq_of_stays {nodes : Array StackNode}
    (h : ∀ x ∈ s.versions, Stays (s.node x.node) (nodeIn nodes x.node)) :
    ({ s with nodes := nodes } : Stack).stands = s.stands := by
  refine List.map_congr_left fun x hx ↦ ?_
  have hx := h x (Array.mem_toList_iff.1 hx)
  exact congrArg₂ (fun state position ↦ (⟨state, position, x.status.isActive⟩ : Stand)) hx.state
    hx.position

theorem standOf_version {v : Nat} {x : Stand} (h : s.stands[v]? = some x) :
    s.standOf (s.version v) = x := by
  rw [getElem?_stands] at h
  obtain ⟨y, hy, rfl⟩ := Option.map_eq_some_iff.1 h
  rw [version, Array.getD_eq_getD_getElem?, hy, Option.getD_some]

theorem stateOf_eq_of_stands {v : Nat} {x : Stand} (h : s.stands[v]? = some x) :
    s.stateOf v = x.state := congrArg Stand.state (standOf_version h)

theorem lt_size_of_stands {v : Nat} {x : Stand} (h : s.stands[v]? = some x) :
    v < s.versions.size := by
  rw [← length_stands]
  exact (List.getElem?_eq_some_iff.1 h).1

namespace IsAt

variable {v : Nat} {place : Extent}

theorem lt_size (h : IsAt s.stands v place) : v < s.versions.size :=
  lt_size_of_stands h.choose_spec

theorem positionOf_eq (h : IsAt s.stands v place) : s.positionOf v = place := by
  obtain ⟨state, hv⟩ := h
  exact congrArg Stand.position (standOf_version hv)

theorem status_eq (h : IsAt s.stands v place) : (s.version v).status = .active := by
  obtain ⟨state, hv⟩ := h
  have hactive : (s.version v).status.isActive = true :=
    congrArg Stand.isActive (standOf_version hv)
  cases hstatus : (s.version v).status with
  | active => rfl
  | _ => simp [hstatus, Status.isActive] at hactive

theorem getElem?_eq (h : IsAt s.stands v place) :
    s.stands[v]? = some ⟨s.stateOf v, place, true⟩ := by
  obtain ⟨state, hv⟩ := h
  rw [hv, stateOf_eq_of_stands hv]

end IsAt

section

variable {stands stands' : List Stand} {v w : Nat} {place : Extent}

theorem getElem?_of_isPrefix {x : Stand} (h : stands[v]? = some x) (hinit : stands <+: stands') :
    stands'[v]? = some x := by
  obtain ⟨hlt, -⟩ := List.getElem?_eq_some_iff.1 h
  obtain ⟨rest, rfl⟩ := hinit
  exact (List.getElem?_append_left hlt).trans h

theorem IsAt.of_isPrefix (h : IsAt stands v place) (hinit : stands <+: stands') :
    IsAt stands' v place :=
  h.imp fun _ hv ↦ getElem?_of_isPrefix hv hinit

theorem isAt_set_self (state : Nat) (place : Extent) (hv : v < stands.length) :
    IsAt (stands.set v ⟨state, place, true⟩) v place :=
  ⟨state, List.getElem?_set_self hv⟩

/-- Versions at a place are there still when others have come to it. -/
theorem IsAt.set (h : IsAt stands w place) (v state : Nat) :
    IsAt (stands.set v ⟨state, place, true⟩) w place := by
  obtain ⟨old, hw⟩ := h
  by_cases hvw : v = w
  · subst hvw
    exact isAt_set_self state place (List.getElem?_eq_some_iff.1 hw).1
  · exact ⟨old, (List.getElem?_set_ne hvw).trans hw⟩

theorem IsAt.eraseIdx_of_lt (h : IsAt stands w place) (hwv : w < v) :
    IsAt (stands.eraseIdx v) w place :=
  h.imp fun _ hw ↦ (List.getElem?_eraseIdx_of_lt hwv).trans hw

theorem IsAt.eraseIdx_of_le (h : IsAt stands (w + 1) place) (hvw : v ≤ w) :
    IsAt (stands.eraseIdx v) w place :=
  h.imp fun _ hw ↦ (List.getElem?_eraseIdx_of_ge hvw).trans hw

end

/-! ## What is done to versions -/

theorem stands_modifyVersion (v : Nat) (f : Version → Version) :
    (s.modifyVersion v f).stands = s.stands.set v (s.standOf (f (s.version v))) := by
  rw [stands, versions_modifyVersion, Array.toList_setIfInBounds, List.map_set]
  rfl

/-- A version stands as before if it is on its node and has its status. -/
theorem stands_modifyVersion_of_eq {v : Nat} {f : Version → Version}
    (hnode : ∀ x, (f x).node = x.node) (hstatus : ∀ x, (f x).status = x.status) :
    (s.modifyVersion v f).stands = s.stands := by
  have hstand : s.standOf (f (s.version v)) = s.standOf (s.version v) := by
    rw [standOf, hnode, hstatus, standOf]
  rw [stands_modifyVersion, hstand]
  cases hv : s.stands[v]? with
  | none => exact List.set_eq_of_length_le (List.getElem?_eq_none_iff.1 hv)
  | some x =>
    obtain ⟨hlt, rfl⟩ := List.getElem?_eq_some_iff.1 hv
    rw [standOf_version hv, List.set_getElem_self]

@[simp] theorem stands_lowerMark (v : Nat) : (s.lowerMark v).stands = s.stands :=
  stands_modifyVersion_of_eq (fun _ ↦ rfl) fun _ ↦ rfl

@[simp] theorem stands_recordRetreats (v depth : Nat) :
    (s.recordRetreats v depth).stands = s.stands := stands_modifyVersion_of_eq (fun _ ↦ rfl) fun _ ↦ rfl

@[simp] theorem stands_remember (v : Nat) (memory : Memory) :
    (s.modifyVersion v fun x ↦ { x with memory := memory }).stands = s.stands :=
  stands_modifyVersion_of_eq (fun _ ↦ rfl) fun _ ↦ rfl

@[simp] theorem stands_removeVersion (v : Nat) :
    (s.removeVersion v).stands = s.stands.eraseIdx v := by
  rw [stands, removeVersion, Array.eraseIdxIfInBounds_eq]
  split
  · rw [Array.toList_eraseIdx, ← List.eraseIdx_map]
    rfl
  · rw [List.eraseIdx_of_length_le (by simpa using Nat.le_of_not_lt ‹_›), stands]

@[simp] theorem stands_takeVersions (k : Nat) : (s.takeVersions k).stands = s.stands.take k := by
  simp only [stands, takeVersions, Array.take_eq_extract, Array.toList_extract,
    List.extract_eq_take_drop, List.map_take, List.drop_zero, Nat.sub_zero]
  rfl

theorem stands_pushVersion (x : Version) :
    ({ s with versions := s.versions.push x } : Stack).stands = s.stands ++ [s.standOf x] := by
  rw [stands, Array.toList_push, List.map_append]
  rfl

theorem stands_copyVersion {v : Nat} {x : Stand} (h : s.stands[v]? = some x) :
    (s.copyVersion v).stands = s.stands ++ [x] := by
  rw [← standOf_version h]
  exact stands_pushVersion _

theorem stands_renumberVersion {v w : Nat} {x : Stand} (h : s.stands[v]? = some x) (hne : v ≠ w) :
    (s.renumberVersion v w).stands = (s.stands.set w x).eraseIdx v := by
  rw [renumberVersion, if_neg hne, stands_removeVersion, ← standOf_version h]
  congr 1
  rw [stands, Array.toList_setIfInBounds, List.map_set]
  split <;> rfl

end

/-! ## Merging versions -/

section

variable {s : Stack} {v w : Nat}

theorem isActive_iff : s.isActive v ↔ ∃ x, s.versions[v]? = some x ∧ x.status = .active := by
  rw [isActive]
  rcases s.versions[v]? with _ | ⟨node, memory, count, status, retreats⟩
  · simp
  · cases status <;> simp

theorem isAt_of_isActive (h : s.isActive v) : IsAt s.stands v (s.positionOf v) := by
  obtain ⟨x, hx, hstatus⟩ := isActive_iff.1 h
  have hversion : s.version v = x := by
    rw [version, Array.getD_eq_getD_getElem?, hx, Option.getD_some]
  refine ⟨s.stateOf v, ?_⟩
  rw [getElem?_stands, hx, Option.map_some, standOf, hstatus, ← hversion]
  rfl

/-- What is known of versions that can be merged. -/
theorem canMerge_iff : s.canMerge v w ↔ s.isActive v ∧ s.isActive w ∧ s.stateOf v = s.stateOf w ∧
    (s.positionOf v).bytes = (s.positionOf w).bytes ∧ (s.top v).errorCost = (s.top w).errorCost ∧
    (s.version v).memory = (s.version w).memory := by
  simp [canMerge, stateOf, positionOf, and_assoc]

/-- The nodes of a stack once the second version is merged into the first. -/
def mergedNodes (s : Stack) (v w : Nat) : Array StackNode :=
  (s.top w).links.foldl (fun nodes link ↦ addLink s.nodes.size (s.version v).node link nodes) s.nodes

theorem merge_eq (s : Stack) (v w : Nat) :
    Stack.merge v w s =
      Stack.removeVersion
        (if (nodeIn (s.mergedNodes v w) (s.version v).node).state = 0 then
          Stack.modifyVersion { s with nodes := s.mergedNodes v w } v fun x ↦
            { x with nodeCountAtError := (nodeIn (s.mergedNodes v w) (s.version v).node).nodeCount }
        else { s with nodes := s.mergedNodes v w }) w := by
  by_cases hstate : (nodeIn (s.mergedNodes v w) (s.version v).node).state = 0
  · rw [if_pos hstate]
    cases s
    exact congrArg (fun x : Array Version ↦ mk _ (x.eraseIdxIfInBounds w)) (if_pos hstate)
  · rw [if_neg hstate]
    cases s
    exact congrArg (fun x : Array Version ↦ mk _ (x.eraseIdxIfInBounds w)) (if_neg hstate)

end

/-- The node that is pushed on a version. -/
theorem nodeBehind_eq {s : Stack} {v : Nat} (state : Nat) {tree : Option Tree} {place stop : Extent}
    (hv : IsAt s.stands v place) (hlie : Lie text place tree.toList stop) :
    let new := nodeBehind (s.version v).node (s.node (s.version v).node) state tree
    new.state = state ∧ new.position = stop ∧ new.links = #[⟨(s.version v).node, tree⟩] := by
  have hplace : (s.node (s.version v).node).position = place := hv.positionOf_eq
  cases tree with
  | none => exact ⟨rfl, hplace.trans (lie_nil_iff.1 hlie).2.symm, rfl⟩
  | some t => exact ⟨rfl, (congrArg (· + t.extent) hplace).trans hlie.stop_eq.symm, rfl⟩

namespace Sane

variable {s : Stack} (h : s.Sane a text)

include h

theorem version (v : Nat) : Fits text s.nodes (s.version v) := by
  rw [Stack.version, Array.getD_eq_getD_getElem?]
  cases hv : s.versions[v]? with
  | none => exact ⟨h.nonempty, fun _ ↦ h.bottom, nofun⟩
  | some x => exact h.fits x (Array.mem_of_getElem? hv)

theorem grounded {v : Nat} {place : Extent} (hv : IsAt s.stands v place) :
    Grounded text (s.top v) :=
  (h.version v).grounded (hv.status_eq ▸ nofun)

theorem reached {v : Nat} {place : Extent} (hv : IsAt s.stands v place) : Reached text place :=
  hv.positionOf_eq ▸ (h.grounded hv).reached

theorem set (v : Nat) {x : Version} (hx : Fits text s.nodes x) :
    Sane a text { s with versions := s.versions.setIfInBounds v x } :=
  ⟨h.wired, h.nonempty, h.bottom, fun y hy ↦
    (Array.mem_or_eq_of_mem_setIfInBounds hy).elim (h.fits y) fun hy ↦ hy ▸ hx⟩

theorem modifyVersion {v : Nat} {f : Version → Version} (hf : Fits text s.nodes (f (s.version v))) :
    Sane a text (s.modifyVersion v f) := by
  have hset := h.set v hf
  rwa [← versions_modifyVersion] at hset

theorem halt (v : Nat) : Sane a text (s.halt v) :=
  h.modifyVersion ⟨(h.version v).node, fun hne ↦ absurd rfl hne, nofun⟩

theorem pause {v : Nat} {place stop : Extent} (hv : IsAt s.stands v place) {token : Tree}
    (htoken : token.IsToken) (hlie : Lie text place [token] stop) : Sane a text (s.pause v token) := by
  refine h.modifyVersion ⟨(h.version v).node, fun _ ↦ h.grounded hv, fun t ht ↦ ?_⟩
  obtain rfl := Status.paused.inj ht
  refine ⟨htoken, stop, ?_⟩
  change Lie text (s.positionOf v) _ _
  rwa [hv.positionOf_eq]

theorem lowerMark (v : Nat) : Sane a text (s.lowerMark v) :=
  h.modifyVersion ⟨(h.version v).node, (h.version v).grounded, (h.version v).token⟩

theorem recordRetreats (v depth : Nat) : Sane a text (s.recordRetreats v depth) :=
  h.modifyVersion ⟨(h.version v).node, (h.version v).grounded, (h.version v).token⟩

theorem remember (v : Nat) (memory : Memory) :
    Sane a text (s.modifyVersion v fun x ↦ { x with memory := memory }) :=
  h.modifyVersion ⟨(h.version v).node, (h.version v).grounded, (h.version v).token⟩

theorem removeVersion (v : Nat) : Sane a text (s.removeVersion v) := by
  refine ⟨h.wired, h.nonempty, h.bottom, fun x hx ↦ h.fits x ?_⟩
  rw [Stack.removeVersion, Array.eraseIdxIfInBounds_eq] at hx
  split at hx
  · exact Array.mem_of_mem_eraseIdx hx
  · exact hx

theorem takeVersions (k : Nat) : Sane a text (s.takeVersions k) := by
  refine ⟨h.wired, h.nonempty, h.bottom, fun x hx ↦ h.fits x ?_⟩
  have hx : x ∈ s.versions.toList.take k := by
    simpa [Stack.takeVersions] using Array.mem_toList_iff.2 hx
  exact Array.mem_toList_iff.1 (List.mem_of_mem_take hx)

theorem pushVersion {x : Version} (hx : Fits text s.nodes x) :
    Sane a text { s with versions := s.versions.push x } :=
  ⟨h.wired, h.nonempty, h.bottom, fun y hy ↦
    (Array.mem_push.1 hy).elim (h.fits y) fun hy ↦ hy ▸ hx⟩

theorem copyVersion (v : Nat) : Sane a text (s.copyVersion v) :=
  h.pushVersion ⟨(h.version v).node, (h.version v).grounded, (h.version v).token⟩

theorem swapVersions (v w : Nat) : Sane a text (s.swapVersions v w) :=
  (h.set v (h.version w)).set w (h.version v)

theorem renumberVersion (v w : Nat) : Sane a text (s.renumberVersion v w) := by
  rw [Stack.renumberVersion]
  split
  · exact h
  · refine removeVersion (h.set w ?_) v
    split
    · exact ⟨(h.version v).node, (h.version v).grounded, (h.version v).token⟩
    · exact h.version v

/-! ## Pushing -/

omit h in
theorem stays_push {nodes : Array StackNode} {i : Nat} (hi : i < nodes.size) (new : StackNode) :
    Stays (nodeIn nodes i) (nodeIn (nodes.push new) i) := by
  rw [nodeIn_push, if_neg hi.ne]
  exact .refl _

theorem pushNode {new : StackNode} (hlinks : ∀ l ∈ new.links, Linked a text s.nodes new l) :
    Sane a text { s with nodes := s.nodes.push new } := by
  refine ⟨fun i l hl ↦ ?_, by simp, h.bottom.stays (stays_push h.nonempty new), fun x hx ↦ ?_⟩
  · have hlinked : Linked a text s.nodes (nodeIn (s.nodes.push new) i) l := by
      rw [nodeIn_push] at hl ⊢
      split at hl
      · rw [if_pos ‹_›]
        exact hlinks l hl
      · rw [if_neg ‹_›]
        exact h.wired i l hl
    exact hlinked.stays (by simp) (stays_push hlinked.node new) rfl rfl
  · exact (h.fits x hx).stays (by simp) (stays_push (h.fits x hx).node new)

section

variable {v state : Nat} {tree : Option Tree} {place stop : Extent} (hv : IsAt s.stands v place)
  (hlie : Lie text place tree.toList stop)

include hv hlie

theorem push (hjoins : Joins a (s.stateOf v) state tree) : Sane a text (s.push v tree state) := by
  obtain ⟨hstate, hposition, hlinks⟩ := nodeBehind_eq state hv hlie
  refine (h.pushNode fun l hl ↦ ?_).modifyVersion ⟨by simp, fun _ ↦ ?_, fun t ht ↦ ?_⟩
  · rw [hlinks, Array.mem_singleton] at hl
    obtain rfl := hl
    refine ⟨(h.version v).node, h.grounded hv, hstate.symm ▸ hjoins, ?_⟩
    rw [hposition]
    change Lie text (s.positionOf v) _ _
    rwa [hv.positionOf_eq]
  · rw [nodeIn_push, if_pos rfl]
    refine ⟨hposition.symm ▸ hlie.reached_stop, fun hnone ↦ ?_⟩
    exact absurd (hlinks.symm.trans hnone) (by simp)
  · exact absurd (hv.status_eq.symm.trans ht) nofun

/-- A version that goes on stands behind what is pushed on it. -/
theorem stands_push : (s.push v tree state).stands = s.stands.set v ⟨state, stop, true⟩ := by
  obtain ⟨hstate, hposition, -⟩ := nodeBehind_eq state hv hlie
  have hstays := stands_eq_of_stays fun x hx ↦ stays_push (h.fits x hx).node
    (nodeBehind (s.version v).node (s.node (s.version v).node) state tree)
  rw [Stack.push, stands_modifyVersion, hstays, standOf]
  congr 2
  · rw [node, nodeIn_push, if_pos rfl, hstate]
  · rw [node, nodeIn_push, if_pos rfl, hposition]
  · exact congrArg Status.isActive hv.status_eq

end

theorem close (v : Nat) (trees : List Tree) (state : Nat) : Sane a text (s.close v trees state) :=
  (h.pushNode (by simp)).modifyVersion ⟨by simp, fun hne ↦ absurd rfl hne, nofun⟩

/-! ## Merging versions -/

theorem rewire {nodes : Array StackNode} (hnodes : Rewired a text s.nodes nodes) :
    Sane a text { s with nodes := nodes } :=
  ⟨hnodes.wired, hnodes.size ▸ h.nonempty, h.bottom.stays (hnodes.stays 0), fun x hx ↦
    (h.fits x hx).stays hnodes.size.ge (hnodes.stays _)⟩

/-- The links of a version may be added to another one that stands like it. -/
theorem rewired_merge {v w : Nat} (hmerge : s.canMerge v w) :
    Rewired a text s.nodes (s.mergedNodes v w) := by
  obtain ⟨hv, hw, hstate, hbytes, -, -⟩ := canMerge_iff.1 hmerge
  have hposition : s.positionOf v = s.positionOf w :=
    (h.reached (isAt_of_isActive hv)).eq_of_bytes (h.reached (isAt_of_isActive hw)) hbytes
  rw [mergedNodes, ← Array.foldl_toList]
  refine .foldl h.wired fun l hl nodes hnodes ↦ rewired_addLink _ hnodes.wired (hnodes.linked ?_)
  exact (h.wired _ l (Array.mem_toList_iff.1 hl)).stays le_rfl (.refl _) hstate hposition

theorem merge {v w : Nat} (hmerge : s.canMerge v w) : Sane a text (Stack.merge v w s) := by
  have hnodes := h.rewire (h.rewired_merge hmerge)
  rw [merge_eq]
  refine removeVersion ?_ w
  split
  · have hfits := hnodes.version v
    exact hnodes.modifyVersion ⟨hfits.node, hfits.grounded, hfits.token⟩
  · exact hnodes

theorem stands_merge {v w : Nat} (hmerge : s.canMerge v w) :
    (Stack.merge v w s).stands = s.stands.eraseIdx w := by
  have hstands := stands_eq_of_stays fun x _ ↦ (h.rewired_merge hmerge).stays x.node
  rw [merge_eq, stands_removeVersion, ← hstands]
  refine congrArg (List.eraseIdx · w) ?_
  split
  · exact stands_modifyVersion_of_eq (fun _ ↦ rfl) fun _ ↦ rfl
  · rfl

end Sane

end SourceSurvey.Parsing.Stack
