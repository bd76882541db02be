import Mathlib
import SourceSurvey.Proofs.Parsing.Stack

/-!
# Going back on a sane stack

What is found on every way back from a version. The trees of a way lie one behind the other, from the
place where the way has come to up to the place of the version. Where no more trees are taken than the
automaton answers for, all of them are sound; and so are the trees behind a state where a whole text may
end.
-/

namespace SourceSurvey.Parsing.Stack

variable {a : Automaton} {text : List Char} {s : Stack}

/-! ## Ways -/

section

variable {σ : Type} {P : Way → Prop} {judge : Way → σ → Verdict × σ}
  (hstep : ∀ w state, P w → (judge w state).1.isEnd = false →
    ∀ l ∈ (s.node w.node).links, P (w.along l))

include hstep

/-- What every way has that goes on, every way has after a round; and those found are to be kept. -/
theorem of_mem_stepWays {ways kept forked found : List Way} (state : σ)
    (hways : ∀ w ∈ ways, P w) (hkept : ∀ w ∈ kept, P w) (hforked : ∀ w ∈ forked, P w)
    (hfound : ∀ w ∈ found, P w ∧ ∃ state, (judge w state).1.isFound) :
    (∀ w ∈ (s.stepWays judge ways kept forked found state).1, P w) ∧
      ∀ w ∈ (s.stepWays judge ways kept forked found state).2.1,
        P w ∧ ∃ state, (judge w state).1.isFound := by
  induction ways generalizing kept forked found state with
  | nil =>
    refine ⟨fun w hw ↦ ?_, hfound⟩
    rw [stepWays, List.mem_append, List.mem_reverse, List.mem_reverse] at hw
    exact hw.elim (hkept w) (hforked w)
  | cons w rest ih =>
    have hw := hways w List.mem_cons_self
    have hrest : ∀ w ∈ rest, P w := fun w hw ↦ hways w (List.mem_cons_of_mem _ hw)
    have hfound' : ∀ w' ∈ (if (judge w state).1.isFound then w :: found else found),
        P w' ∧ ∃ state, (judge w' state).1.isFound := by
      split
      · exact List.forall_mem_cons.2 ⟨⟨hw, state, ‹_›⟩, hfound⟩
      · exact hfound
    rw [stepWays]
    dsimp only
    split
    · exact ih _ hrest hkept hforked hfound'
    · rename_i hend
      rw [Bool.or_eq_true, not_or, Bool.not_eq_true, Bool.not_eq_true] at hend
      have halong := hstep w state hw hend.1
      refine ih _ hrest ?_ ?_ hfound'
      · refine List.forall_mem_cons.2 ⟨halong _ ?_, hkept⟩
        have hsize : 0 < (s.node w.node).links.size := by
          simpa [Nat.pos_iff_ne_zero] using hend.2
        simp [hsize]
      · intro w' hw'
        rcases List.mem_append.1 hw' with hw' | hw'
        · obtain ⟨l, hl, rfl⟩ := List.mem_map.1 (List.mem_reverse.1 hw')
          exact halong l (Array.mem_toList_iff.1 (List.mem_of_mem_drop (List.mem_of_mem_take hl)))
        · exact hforked w' hw'

theorem of_mem_walkBack {fuel : Nat} {ways found : List Way} {state : σ} (hways : ∀ w ∈ ways, P w)
    (hfound : ∀ w ∈ found, P w ∧ ∃ state, (judge w state).1.isFound) :
    ∀ w ∈ (s.walkBack judge fuel ways found state).1,
      P w ∧ ∃ state, (judge w state).1.isFound := by
  induction fuel generalizing ways found state with
  | zero => simpa [walkBack] using hfound
  | succ fuel ih =>
    cases ways with
    | nil => simpa [walkBack] using hfound
    | cons w rest =>
      have hround := of_mem_stepWays hstep state hways (List.forall_mem_nil P)
        (List.forall_mem_nil P) hfound
      exact ih hround.1 hround.2

theorem of_mem_waysFrom {v : Nat} {state : σ} (hstart : P ⟨(s.version v).node, [], 0⟩) :
    ∀ w ∈ (s.waysFrom v judge state).1, P w ∧ ∃ state, (judge w state).1.isFound :=
  of_mem_walkBack hstep (List.forall_mem_singleton.2 hstart) (List.forall_mem_nil _)

end

/-! ## What is passed on the way -/

/-- A way that stands on a node, with trees of some kind from there up to a place. -/
structure Passes (text : List Char) (s : Stack) (stop : Extent) (P : Tree → Prop) (w : Way) :
    Prop where
  node : w.node < s.nodes.size
  grounded : Grounded text (s.node w.node)
  lie : Lie text (s.node w.node).position w.trees stop
  trees : ∀ t ∈ w.trees, P t

theorem trees_along (w : Way) (l : Link) : (w.along l).trees = l.tree.toList ++ w.trees := by
  rw [Way.along]
  cases l.tree <;> rfl

section

variable (h : s.Sane a text) {place : Extent}

include h

theorem Passes.along {P : Tree → Prop} {w : Way} {l : Link} (hw : Passes text s place P w)
    (hl : l ∈ (s.node w.node).links) (htree : ∀ t, l.tree = some t → P t) :
    Passes text s place P (w.along l) := by
  have hlinked := h.wired w.node l hl
  refine ⟨hlinked.node, hlinked.grounded, ?_, ?_⟩
  · rw [trees_along]
    exact hlinked.lie.append hw.lie
  · rw [trees_along]
    exact List.forall_mem_append.2 ⟨fun t ht ↦ htree t (Option.mem_toList.1 ht), hw.trees⟩

theorem passes_start {v : Nat} (hv : IsAt s.stands v place) (P : Tree → Prop) :
    Passes text s place P ⟨(s.version v).node, [], 0⟩ where
  node := (h.version v).node
  grounded := h.grounded hv
  lie := lie_nil_iff.2 ⟨(h.grounded hv).reached, hv.positionOf_eq.symm⟩
  trees := List.forall_mem_nil P

/-- All that is on a stack is a piece of skipped text or sound. -/
theorem Passes.along_of_wired {w : Way} (hw : Passes text s place (fun t ↦ t.IsPiece ∨ t.Sound) w)
    {l : Link} (hl : l ∈ (s.node w.node).links) :
    Passes text s place (fun t ↦ t.IsPiece ∨ t.Sound) (w.along l) :=
  hw.along h hl fun _ ht ↦ Joins.isPiece_or_sound (ht ▸ (h.wired w.node l hl).joins)

theorem passes_waysOver {v : Nat} (hv : IsAt s.stands v place) (count : Nat) :
    ∀ w ∈ s.waysOver v count, Passes text s place (fun t ↦ t.IsPiece ∨ t.Sound) w := fun w hw ↦
  (of_mem_waysFrom (fun _ _ hw _ _ ↦ hw.along_of_wired h) (passes_start h hv _) w hw).1

/-- No text is skipped in the part of a stack that the automaton answers for. -/
theorem sound_waysOver (ha : a.isSound) {v count : Nat} (hv : IsAt s.stands v place)
    (hcount : count ≤ a.depth (s.stateOf v)) :
    ∀ w ∈ s.waysOver v count, Passes text s place Tree.Sound w := by
  -- What is still to be taken is never more than the automaton answers for where the way stands.
  refine fun w hw ↦ (of_mem_waysFrom (P := fun w ↦ Passes text s place Tree.Sound w ∧
    w.count ≤ count ∧ count ≤ a.depth (s.node w.node).state + w.count) (fun w _ hw hend l hl ↦ ?_)
    ⟨passes_start h hv _, Nat.zero_le _, hcount⟩ w hw).1.1
  obtain ⟨hpasses, hle, hleft⟩ := hw
  have hlt : w.count < count := lt_of_le_of_ne hle (of_decide_eq_false hend)
  have hstate : (s.node w.node).state ≠ Automaton.errorState := fun hstate ↦ by
    rw [hstate, Automaton.depth_errorState ha] at hleft
    omega
  obtain ⟨t, ht, hleads⟩ := (h.wired w.node l hl).joins.exists_tree hstate
  refine ⟨hpasses.along h hl fun t' ht' ↦ Option.some.inj (ht.symm.trans ht') ▸ hleads.sound, ?_⟩
  simp only [Way.along, ht]
  split
  · rename_i hisExtra
    exact ⟨hle, (hleads.same hisExtra).symm ▸ hleft⟩
  · have hdepth : a.depth (s.node w.node).state ≤ a.depth (s.node l.node).state + 1 :=
      (Automaton.mayFollow_iff.1 hleads.follows).1
    exact ⟨hlt, by omega⟩

omit h in
/-- What is taken for a whole text begins where the text does. -/
theorem lie_zero_of_isEmpty {P : Tree → Prop} {w : Way} (hw : Passes text s place P w)
    (hempty : (s.node w.node).links.isEmpty) : Lie text .zero w.trees place := by
  rw [← hw.grounded.bottom (Array.isEmpty_iff.1 hempty)]
  exact hw.lie

/-- Behind a state where a whole text may end there is a whole text, and no error but as an extra. -/
theorem sound_wholesOf (ha : a.isSound) {v : Nat} (hv : IsAt s.stands v place)
    (hclean : a.isClean (s.stateOf v)) :
    ∀ trees ∈ s.wholesOf v, Lie text .zero trees place ∧
      ∀ t ∈ trees, t.Sound ∧ (t.isError → t.isExtra) ∧ (t.isExtra ∨ t.IsInner) := by
  have hstep (w : Way) (hw : Passes text s place
      (fun t ↦ t.Sound ∧ (t.isError → t.isExtra) ∧ (t.isExtra ∨ t.IsInner)) w ∧
      a.isClean (s.node w.node).state) (l : Link) (hl : l ∈ (s.node w.node).links) :
      Passes text s place (fun t ↦ t.Sound ∧ (t.isError → t.isExtra) ∧ (t.isExtra ∨ t.IsInner))
        (w.along l) ∧ a.isClean (s.node (w.along l).node).state := by
    obtain ⟨hpasses, hclean⟩ := hw
    have hstate : (s.node w.node).state ≠ Automaton.errorState := fun hstate ↦ by
      rw [hstate, Automaton.isClean_errorState ha] at hclean
      cases hclean
    obtain ⟨t, ht, hleads⟩ := (h.wired w.node l hl).joins.exists_tree hstate
    have hinner : t.isExtra ∨ t.IsInner := by
      rcases hleads.inner with hinner | hextra | hunclean
      · exact Or.inr hinner
      · exact Or.inl hextra
      · exact absurd (hclean.symm.trans hunclean) nofun
    refine ⟨hpasses.along h hl fun t' ht' ↦ ?_, (Automaton.mayFollow_iff.1 hleads.follows).2 hclean⟩
    exact Option.some.inj (ht.symm.trans ht') ▸ ⟨hleads.sound, hleads.isExtra, hinner⟩
  intro trees htrees
  obtain ⟨w, hw, rfl⟩ := List.mem_map.1 htrees
  obtain ⟨⟨hpasses, -⟩, -, hempty⟩ :=
    of_mem_waysFrom (fun w _ hw _ ↦ hstep w hw) ⟨passes_start h hv _, hclean⟩ w hw
  exact ⟨lie_zero_of_isEmpty hpasses hempty, hpasses.trees⟩

theorem isPiece_or_sound_wholesOf {v : Nat} (hv : IsAt s.stands v place) :
    ∀ trees ∈ s.wholesOf v, Lie text .zero trees place ∧ ∀ t ∈ trees, t.IsPiece ∨ t.Sound := by
  intro trees htrees
  obtain ⟨w, hw, rfl⟩ := List.mem_map.1 htrees
  obtain ⟨hpasses, -, hempty⟩ :=
    of_mem_waysFrom (fun _ _ hw _ _ ↦ hw.along_of_wired h) (passes_start h hv _) w hw
  exact ⟨lie_zero_of_isEmpty hpasses hempty, hpasses.trees⟩

/-! ## Errors on top -/

/-- An error that is taken from the top of a version leaves it in the same state, where what was skipped
begins. -/
theorem popError_spec {v : Nat} (hv : IsAt s.stands v place) :
    let skipped := ((s.popError v).1.map Tree.children).getD []
    (s.popError v).2.Sane a text ∧ (∀ t ∈ skipped, t.IsPiece ∨ t.Sound) ∧
      ∃ start, (s.popError v).2.stands = s.stands.set v ⟨s.stateOf v, start, true⟩ ∧
        Lie text start skipped place := by
  rw [popError]
  split
  · rename_i below t hfound
    have hlinked := h.wired _ _ (Array.mem_of_find?_eq_some hfound)
    have herror : t.isError := by simpa using Array.find?_some hfound
    have hpiece : ¬t.IsPiece := fun hpiece ↦
      absurd (hpiece.1.symm.trans (of_decide_eq_true herror)) (by decide)
    have hleads := hlinked.joins.resolve_left fun h ↦ hpiece h.1
    have hlie : Lie text (s.node below).position [t] place := hv.positionOf_eq ▸ hlinked.lie
    refine ⟨h.modifyVersion ⟨hlinked.node, fun _ ↦ hlinked.grounded, nofun⟩, fun c hc ↦ ?_,
      (s.node below).position, ?_, hlie.children (hleads.sound.isInner herror)⟩
    · exact or_iff_not_imp_left.2 (hleads.sound.of_mem_children c hc)
    · rw [stands_modifyVersion, standOf]
      congr 2
      exact hleads.same (hleads.isExtra herror)
  · refine ⟨h, List.forall_mem_nil _, place, ?_, lie_nil_iff.2 ⟨h.reached hv, rfl⟩⟩
    obtain ⟨hlt, hget⟩ := List.getElem?_eq_some_iff.1 hv.getElem?_eq
    exact (hget ▸ List.set_getElem_self hlt).symm

end

/-! ## Slices -/

/-- A version goes on from where some choices of trees begin that all end at a place. -/
structure Begins (text : List Char) (stop : Extent) (P : Tree → Prop) (choices : List (List Tree))
    (x : Stand) : Prop where
  isActive : x.isActive
  nonempty : choices ≠ []
  lie : ∀ trees ∈ choices, Lie text x.position trees stop
  trees : ∀ trees ∈ choices, ∀ t ∈ trees, P t

/-- Slices of a stack, and the stack with the new versions that they are for, one after the other. -/
structure Sliced (a : Automaton) (text : List Char) (s : Stack) (stop : Extent) (P : Tree → Prop)
    (slices : List Slice) (s' : Stack) : Prop where
  nodes : s'.nodes = s.nodes
  sane : s'.Sane a text
  isPrefix : s.stands <+: s'.stands
  size : s'.stands.length = s.stands.length + slices.length
  versions : slices.map Slice.version = List.range' s.stands.length slices.length
  begins : ∀ slice ∈ slices, ∃ x, s'.stands[slice.version]? = some x ∧
    Begins text stop P slice.choices x

namespace Sliced

variable {stop : Extent} {P : Tree → Prop} {slices : List Slice} {s' : Stack}

theorem nil (h : s.Sane a text) : Sliced a text s stop P [] s :=
  ⟨rfl, h, List.prefix_rfl, rfl, rfl, List.forall_mem_nil _⟩

/-- A way that comes to where a slice begins is another choice for it. -/
theorem addChoice (h : Sliced a text s stop P slices s') {w : Way} (hw : Passes text s stop P w) :
    Sliced a text s stop P (slices.map fun slice ↦
      if (s'.version slice.version).node = w.node then
        { slice with choices := slice.choices ++ [w.trees] } else slice) s' := by
  refine ⟨h.nodes, h.sane, h.isPrefix, by simpa using h.size, ?_, fun new hnew ↦ ?_⟩
  · rw [List.length_map, ← h.versions, List.map_map]
    refine List.map_congr_left fun slice _ ↦ ?_
    rw [Function.comp_apply]
    split <;> rfl
  obtain ⟨slice, hslice, rfl⟩ := List.mem_map.1 hnew
  obtain ⟨x, hx, hbegins⟩ := h.begins slice hslice
  split
  · rename_i hhere
    have hposition : (s.node w.node).position = x.position := by
      rw [node, ← h.nodes, ← hhere]
      exact congrArg Stand.position (standOf_version hx)
    exact ⟨x, hx, hbegins.isActive, by simp,
      List.forall_mem_append.2 ⟨hbegins.lie, List.forall_mem_singleton.2 (hposition ▸ hw.lie)⟩,
      List.forall_mem_append.2 ⟨hbegins.trees, List.forall_mem_singleton.2 hw.trees⟩⟩
  · exact ⟨x, hx, hbegins⟩

/-- A way that comes to another node begins a slice there. -/
theorem addVersion (h : Sliced a text s stop P slices s') {w : Way} (hw : Passes text s stop P w)
    {new : Version} (hnode : new.node = w.node) (hstatus : new.status = .active) :
    Sliced a text s stop P (slices ++ [⟨s'.versions.size, [w.trees]⟩])
      { s' with versions := s'.versions.push new } := by
  have hstands := stands_pushVersion (s := s') new
  have hinit : s'.stands <+: _ := hstands ▸ List.prefix_append _ _
  have hnew : nodeIn s'.nodes new.node = s.node w.node := by rw [h.nodes, hnode, node]
  refine ⟨h.nodes, h.sane.pushVersion ⟨?_, fun _ ↦ hnew ▸ hw.grounded, ?_⟩,
    h.isPrefix.trans hinit, ?_, ?_, List.forall_mem_append.2 ⟨fun slice hslice ↦ ?_,
      List.forall_mem_singleton.2 ⟨s'.standOf new, ?_, ?_, by simp, ?_, ?_⟩⟩⟩
  · exact h.nodes ▸ hnode ▸ hw.node
  · intro t ht
    cases hstatus.symm.trans ht
  · rw [hstands, List.length_append, h.size, List.length_append, List.length_singleton,
      List.length_singleton, Nat.add_assoc]
  · rw [List.map_append, h.versions, List.length_append, List.length_singleton,
      List.range'_concat, ← length_stands, h.size]
    simp
  · obtain ⟨x, hx, hbegins⟩ := h.begins slice hslice
    exact ⟨x, getElem?_of_isPrefix hx hinit, hbegins⟩
  · rw [hstands, ← length_stands, List.getElem?_concat_length]
  · rw [standOf, hstatus]
    rfl
  · refine List.forall_mem_singleton.2 ?_
    rw [standOf, node, hnew]
    exact hw.lie
  · exact List.forall_mem_singleton.2 hw.trees

theorem addWay (h : Sliced a text s stop P slices s') {w : Way} (hw : Passes text s stop P w)
    (v : Nat) : Sliced a text s stop P (s'.addWay v w slices).1 (s'.addWay v w slices).2 := by
  rw [Stack.addWay]
  simp only [decide_eq_true_eq]
  split
  · exact h.addChoice hw
  · exact h.addVersion hw rfl rfl

theorem addWays (h : Sliced a text s stop P slices s') {ways : List Way}
    (hways : ∀ w ∈ ways, Passes text s stop P w) (v : Nat) :
    Sliced a text s stop P (Stack.addWays v ways slices s').1 (Stack.addWays v ways slices s').2 := by
  induction ways generalizing slices s' with
  | nil => exact h
  | cons w rest ih =>
    exact ih (h.addWay (hways w List.mem_cons_self) v)
      fun w hw ↦ hways w (List.mem_cons_of_mem _ hw)

/-- The new versions, each with its slice. -/
theorem exists_stands (h : Sliced a text s stop P slices s') :
    ∃ new, s'.stands = s.stands ++ new ∧
      List.Forall₂ (fun slice x ↦ Begins text stop P slice.choices x) slices new := by
  obtain ⟨new, hnew⟩ := h.isPrefix
  have hlength : slices.length = new.length := by
    have hsize := h.size
    rw [← hnew, List.length_append] at hsize
    omega
  refine ⟨new, hnew.symm, List.forall₂_iff_get.2 ⟨hlength, fun i hi hi' ↦ ?_⟩⟩
  obtain ⟨x, hx, hbegins⟩ := h.begins (slices.get ⟨i, hi⟩) (List.get_mem _ _)
  have hversion : (slices.get ⟨i, hi⟩).version = s.stands.length + i := by
    have hget := congrArg (·[i]?) h.versions
    simpa [hi] using hget
  rw [hversion, ← hnew, List.getElem?_append_right (Nat.le_add_right _ _), Nat.add_sub_cancel_left,
    List.getElem?_eq_getElem hi'] at hx
  obtain rfl := Option.some.inj hx
  exact hbegins

end Sliced

variable {v count : Nat} {place : Extent} (h : s.Sane a text) (hv : IsAt s.stands v place)

include h hv

theorem sliced_pop (count : Nat) :
    Sliced a text s place (fun t ↦ t.IsPiece ∨ t.Sound) (s.pop v count).1 (s.pop v count).2 :=
  (Sliced.nil h).addWays (passes_waysOver h hv count) v

/-- Slices of the part of a stack that the automaton answers for. -/
theorem sliced_pop_of_le_depth (ha : a.isSound) (hcount : count ≤ a.depth (s.stateOf v)) :
    Sliced a text s place Tree.Sound (s.pop v count).1 (s.pop v count).2 :=
  (Sliced.nil h).addWays (sound_waysOver h ha hv hcount) v

end SourceSurvey.Parsing.Stack
