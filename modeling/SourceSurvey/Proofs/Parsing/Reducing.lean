import Mathlib
import SourceSurvey.Parsing.Parser
import SourceSurvey.Proofs.Parsing.Ways

/-!
# Reducing on a sane stack

A reduction takes no more than the automaton answers for, so that the trees it takes are sound and its
node is. The node lies where the trees did. The versions that were there before stand as they stood, and
those that come up stand where the reduced one does; so several reductions can be made from one version,
one after the other.
-/

open Std.Do

set_option mvcgen.warning false

namespace SourceSurvey.Parsing

/-- A sound tree that spans a text from its start on. -/
structure Tree.StandsFor (text : List Char) (t : Tree) : Prop where
  sound : t.Sound
  lie : ∃ stop, Lie text .zero [t] stop

theorem Tree.StandsFor.exists_spans {text : List Char} {t : Tree} (h : t.StandsFor text) :
    ∃ covered, covered <+: text ∧ t.Spans covered := by
  obtain ⟨stop, before, covered, hinit, hbefore, -, hspan⟩ := h.lie
  have hlength := congrArg Extent.chars hbefore
  rw [Extent.chars_of] at hlength
  obtain rfl := List.eq_nil_of_length_eq_zero hlength.symm
  exact ⟨covered, hinit, spanAll_singleton.1 hspan⟩

/-- A sane stack, and a tree that stands for the text if there is one. -/
structure ParseState.Sane (a : Automaton) (text : List Char) (p : ParseState) : Prop where
  stack : p.stack.Sane a text
  finished : ∀ t ∈ p.finished, t.StandsFor text

/-- A sane state, and where the versions stand. -/
structure ParseState.Stands (a : Automaton) (text : List Char) (stands : List Stack.Stand)
    (p : ParseState) : Prop extends p.Sane a text where
  stands_eq : p.stack.stands = stands

namespace Tree

variable {symbols : Symbols} {trees : List Tree} {t : Tree}

theorem mem_of_mem_splitExtras (h : t ∈ (splitExtras trees).1) : t ∈ trees := by
  rw [splitExtras, List.mem_reverse] at h
  exact List.mem_reverse.1 ((List.dropWhile_suffix isExtra).mem h)

theorem mem_and_isExtra_of_mem_splitExtras (h : t ∈ (splitExtras trees).2) :
    t ∈ trees ∧ t.isExtra := by
  rw [splitExtras, List.mem_reverse] at h
  exact ⟨List.mem_reverse.1 ((List.takeWhile_prefix isExtra).mem h), List.mem_takeWhile_imp h⟩

/-- The node of a rule with the extras behind it, between two places in a text. -/
structure IsReduced (text : List Char) (start stop : Extent) (symbol : Nat) (x : Tree × List Tree) :
    Prop where
  sound : x.1.Sound
  symbol_eq : x.1.symbol = symbol
  isExtra : x.1.isExtra = false
  isInner : x.1.IsInner
  extras : ∀ t ∈ x.2, t.Sound ∧ t.isExtra
  lie : Lie text start (x.1 :: x.2) stop

theorem isReduced_node {text : List Char} {start stop : Extent} {symbol : Nat}
    {labels : List (Option Grammar.Label)} (hsymbol : symbol < Symbols.errorPiece)
    (htrees : ∀ t ∈ trees, t.Sound) (hlie : Lie text start trees stop) :
    IsReduced text start stop symbol
      (node symbols symbol labels (splitExtras trees).1, (splitExtras trees).2) where
  sound := sound_node hsymbol fun t ht ↦ htrees t (mem_of_mem_splitExtras ht)
  symbol_eq := rfl
  isExtra := rfl
  isInner := isInner_node symbol labels
  extras t ht := (mem_and_isExtra_of_mem_splitExtras ht).imp_left (htrees t)
  lie := by
    rw [← splitExtras_append trees] at hlie
    obtain ⟨middle, hchildren, hextras⟩ := hlie.exists_middle
    exact (hchildren.node symbols symbol labels).append hextras

end Tree

namespace Machine

open Parsing.Tree Parsing.Stack

variable {m : Machine} {text : List Char}

/-- Of some choices of trees between two places, the best node lies there too. -/
theorem isReduced_bestNode {r : Reduction} (hr : r.symbol < Symbols.errorPiece) {start stop : Extent}
    {choices : List (List Tree)} {best : Option (Tree × List Tree)}
    (hchoices : ∀ trees ∈ choices, ∀ t ∈ trees, t.Sound)
    (hlie : ∀ trees ∈ choices, Lie text start trees stop)
    (hbest : ∀ x ∈ best, IsReduced text start stop r.symbol x) :
    ∀ x ∈ m.bestNode r choices best, IsReduced text start stop r.symbol x := by
  induction choices generalizing best with
  | nil => exact hbest
  | cons trees rest ih =>
    rw [List.forall_mem_cons] at hchoices hlie
    have hnew : ∀ x ∈ some (node m.symbols r.symbol r.labels (splitExtras trees).1,
        (splitExtras trees).2), IsReduced text start stop r.symbol x := by
      rintro x ⟨⟩
      exact isReduced_node hr hchoices.1 hlie.1
    rw [bestNode]
    dsimp only
    split
    · exact ih hchoices.2 hlie.2 hnew
    · split
      · exact ih hchoices.2 hlie.2 hnew
      · exact ih hchoices.2 hlie.2 hbest

/-- Where there is a choice there is a best node. -/
theorem bestNode_ne_none {r : Reduction} {choices : List (List Tree)}
    {best : Option (Tree × List Tree)} (h : choices ≠ [] ∨ best ≠ none) :
    m.bestNode r choices best ≠ none := by
  induction choices generalizing best with
  | nil => exact h.resolve_left (absurd rfl)
  | cons trees rest ih =>
    rw [bestNode]
    dsimp only
    split
    · exact ih (Or.inr nofun)
    · split <;> exact ih (Or.inr nofun)

/-- Where the node of a rule may stand: it is an extra where it leads to the state that it comes from. -/
theorem joins_reduced {a : Automaton} {symbol below above : Nat} {start stop : Extent}
    {x : Tree × List Tree} (h : IsReduced text start stop symbol x)
    (hsymbol : symbol < Symbols.errorPiece) (hfollow : a.mayFollow below above) (isExtra : Bool)
    (hextra : isExtra → above = below) (w : Int) :
    Joins a below above (some ((if isExtra then x.1.withExtra true else x.1).addWeight w)) := by
  have herror : x.1.symbol ≠ Symbols.error := h.symbol_eq ▸ (hsymbol.trans (by decide)).ne
  cases isExtra with
  | true =>
    obtain rfl := hextra rfl
    exact joins_extra ((h.sound.withExtra true).addWeight w) (by simp)
  | false =>
    exact joins_inner (h.sound.addWeight w) (by simp [isError, herror]) (by simp [h.isExtra]) hfollow
      (Or.inl (h.isInner.addWeight w))

theorem lie_reduced {symbol : Nat} {start stop : Extent} {x : Tree × List Tree}
    (h : IsReduced text start stop symbol x) (isExtra : Bool) (w : Int) :
    Lie text start ((if isExtra then x.1.withExtra true else x.1).addWeight w :: x.2) stop := by
  obtain ⟨middle, hfirst, hextras⟩ := h.lie.exists_middle_cons
  refine Lie.append (Lie.addWeight ?_ w) hextras
  split
  · exact hfirst.withExtra true
  · exact hfirst

/-! ## Computations on the stack -/

/-- A computation can be looked at from each state that it may begin with. -/
theorem triple_of_forall {α : Type} {P : ParseState → Prop} {x : Parse α}
    {Q : PostCond α (.arg ParseState .pure)} (h : ∀ p, P p → ⦃fun p' ↦ ⌜p' = p⌝⦄ x ⦃Q⦄) :
    ⦃fun p ↦ ⌜P p⌝⦄ x ⦃Q⦄ :=
  fun p hp ↦ h p hp p rfl

@[spec]
theorem getStack_spec {Q : PostCond Stack (.arg ParseState .pure)} :
    ⦃fun p ↦ Q.1 p.stack p⦄ getStack ⦃Q⦄ := by
  mvcgen [getStack]

@[spec]
theorem versionCount_spec {Q : PostCond Nat (.arg ParseState .pure)} :
    ⦃fun p ↦ Q.1 p.stack.versions.size p⦄ versionCount ⦃Q⦄ := by
  mvcgen [versionCount]

theorem onStack_spec {f : Stack → Stack} {Q : PostCond Unit (.arg ParseState .pure)} :
    ⦃fun p ↦ Q.1 () { p with stack := f p.stack }⦄ onStack f ⦃Q⦄ := by
  mvcgen [onStack]

variable (m text)

section

variable {stands : List Stand} {v : Nat} {place stop : Extent}

theorem push_spec {below state : Nat} {tree : Option Tree}
    (hv : stands[v]? = some ⟨below, place, true⟩) (hlie : Lie text place tree.toList stop)
    (hjoins : Joins m.automaton below state tree) :
    ⦃fun p ↦ ⌜p.Stands m.automaton text stands⌝⦄
    push v tree state
    ⦃⇓ _ p => ⌜p.Stands m.automaton text (stands.set v ⟨state, stop, true⟩)⌝⦄ := by
  mvcgen [push, onStack_spec]
  rename_i p h
  obtain ⟨h, rfl⟩ := h
  have hstate : p.stack.stateOf v = below := stateOf_eq_of_stands hv
  rw [← hstate] at hjoins
  exact ⟨⟨h.stack.push ⟨below, hv⟩ hlie hjoins, h.finished⟩, h.stack.stands_push ⟨below, hv⟩ hlie⟩

theorem pushTree_spec {below state : Nat} {t : Tree} (hv : stands[v]? = some ⟨below, place, true⟩)
    (hlie : Lie text place [t] stop) (hjoins : Joins m.automaton below state (some t)) :
    ⦃fun p ↦ ⌜p.Stands m.automaton text stands⌝⦄
    push v (some t) state
    ⦃⇓ _ p => ⌜p.Stands m.automaton text (stands.set v ⟨state, stop, true⟩)⌝⦄ :=
  push_spec m text hv hlie hjoins

theorem pushExtras_spec {state : Nat} {trees : List Tree}
    (hv : stands[v]? = some ⟨state, place, true⟩) (htrees : ∀ t ∈ trees, t.Sound ∧ t.isExtra)
    (hlie : Lie text place trees stop) :
    ⦃fun p ↦ ⌜p.Stands m.automaton text stands⌝⦄
    pushAll v state trees
    ⦃⇓ _ p => ⌜p.Stands m.automaton text (stands.set v ⟨state, stop, true⟩)⌝⦄ := by
  obtain ⟨hlt, hget⟩ := List.getElem?_eq_some_iff.1 hv
  induction trees generalizing stands place with
  | nil =>
    obtain ⟨-, rfl⟩ := lie_nil_iff.1 hlie
    mvcgen [pushAll]
    rw [← hget, List.set_getElem_self]
    assumption
  | cons t rest ih =>
    rw [List.forall_mem_cons] at htrees
    obtain ⟨middle, hfirst, hrest⟩ := hlie.exists_middle_cons
    have hpush := pushTree_spec m text hv hfirst (joins_extra htrees.1.1 htrees.1.2)
    have hpushRest := ih (List.getElem?_set_self hlt) htrees.2 hrest (by simpa using hlt) (by simp)
    rw [List.set_set] at hpushRest
    mvcgen [pushAll, hpush, hpushRest]

/-- Pushes a tree, and extras behind it. -/
theorem pushAll_spec {below state : Nat} {t : Tree} {extras : List Tree}
    (hv : stands[v]? = some ⟨below, place, true⟩) (hjoins : Joins m.automaton below state (some t))
    (hextras : ∀ t ∈ extras, t.Sound ∧ t.isExtra) (hlie : Lie text place (t :: extras) stop) :
    ⦃fun p ↦ ⌜p.Stands m.automaton text stands⌝⦄
    pushAll v state (t :: extras)
    ⦃⇓ _ p => ⌜p.Stands m.automaton text (stands.set v ⟨state, stop, true⟩)⌝⦄ := by
  obtain ⟨hlt, -⟩ := List.getElem?_eq_some_iff.1 hv
  obtain ⟨middle, hfirst, hrest⟩ := hlie.exists_middle_cons
  have hpush := pushTree_spec m text hv hfirst hjoins
  have hv' : (stands.set v ⟨state, middle, true⟩)[v]? = some ⟨state, middle, true⟩ :=
    List.getElem?_set_self hlt
  have hpushExtras := pushExtras_spec m text hv' hextras hrest
  rw [List.set_set] at hpushExtras
  mvcgen [pushAll, hpush, hpushExtras]

theorem merge_spec (v w : Nat) :
    ⦃fun p ↦ ⌜p.Stands m.automaton text stands⌝⦄
    merge v w
    ⦃⇓ merged p => ⌜p.Stands m.automaton text (if merged then stands.eraseIdx w else stands)⌝⦄ := by
  mvcgen [merge, onStack_spec]
  rename_i p h hmerge
  obtain ⟨h, rfl⟩ := h
  exact ⟨⟨h.stack.merge hmerge, h.finished⟩, h.stack.stands_merge hmerge⟩

theorem mergeInto_spec (v : Nat) (others : List Nat) :
    ⦃fun p ↦ ⌜p.Stands m.automaton text stands⌝⦄
    mergeInto v others
    ⦃⇓ merged p => ⌜p.Stands m.automaton text (if merged then stands.eraseIdx v else stands) ∧
      (merged → others ≠ [])⌝⦄ := by
  induction others with
  | nil => mvcgen [mergeInto]
  | cons other rest ih =>
    have hmerge := @merge_spec m text
    mvcgen [mergeInto, hmerge, ih] <;> simp_all

end

/-! ## Reductions -/

/-- There are further versions, which all stand at one place. -/
def Grows (place : Extent) (stands stands' : List Stand) : Prop :=
  ∃ new, stands' = stands ++ new ∧ ∀ x ∈ new, ∃ state, x = ⟨state, place, true⟩

namespace Grows

variable {place : Extent} {stands stands' stands'' : List Stand}

theorem refl (stands : List Stand) : Grows place stands stands :=
  ⟨[], (List.append_nil _).symm, List.forall_mem_nil _⟩

theorem trans (h : Grows place stands stands') (h' : Grows place stands' stands'') :
    Grows place stands stands'' := by
  obtain ⟨new, rfl, hnew⟩ := h
  obtain ⟨new', rfl, hnew'⟩ := h'
  exact ⟨new ++ new', List.append_assoc .., List.forall_mem_append.2 ⟨hnew, hnew'⟩⟩

theorem isPrefix (h : Grows place stands stands') : stands <+: stands' := by
  obtain ⟨new, rfl, -⟩ := h
  exact List.prefix_append _ _

theorem isAt (h : Grows place stands stands') {v : Nat} (hv : stands.length ≤ v)
    (hlt : v < stands'.length) : IsAt stands' v place := by
  obtain ⟨new, rfl, hnew⟩ := h
  rw [IsAt, List.getElem?_append_right hv]
  have hlt : v - stands.length < new.length := by
    rw [List.length_append] at hlt
    omega
  obtain ⟨state, hstate⟩ := hnew _ (List.getElem_mem hlt)
  exact ⟨state, hstate ▸ List.getElem?_eq_getElem hlt⟩

theorem append (h : Grows place stands stands') (state : Nat) :
    Grows place stands (stands' ++ [⟨state, place, true⟩]) :=
  h.trans ⟨_, rfl, List.forall_mem_singleton.2 ⟨state, rfl⟩⟩

end Grows

theorem pushNode_spec (ha : m.automaton.isSound) (version halted : Nat) {r : Reduction}
    (hr : r.symbol < Symbols.errorPiece) (endsExtra : Bool) {stands : List Stand} {v : Nat}
    {x : Stand} (hv : stands[v]? = some x) {place : Extent} {choices : List (List Tree)}
    (hbegins : Begins text place Tree.Sound choices x) :
    ⦃fun p ↦ ⌜p.Stands m.automaton text stands⌝⦄
    m.pushNode version halted r endsExtra v choices
    ⦃⇓ isGone p => ⌜∃ state, p.Stands m.automaton text
      (if isGone then stands.eraseIdx v else stands.set v ⟨state, place, true⟩)⌝⦄ := by
  obtain ⟨state, start, isActive⟩ := x
  obtain rfl : isActive = true := hbegins.isActive
  have hpushAll := @pushAll_spec m text stands v start place state
  have hmergeInto := @mergeInto_spec m text
  have hbest : ∀ x ∈ m.bestNode r choices none, IsReduced text start place r.symbol x :=
    isReduced_bestNode hr hbegins.trees hbegins.lie nofun
  mvcgen [pushNode, hpushAll, hmergeInto, onStack_spec]
  · rename_i p h
    obtain ⟨h, rfl⟩ := h
    exact ⟨state, ⟨h.stack.removeVersion v, h.finished⟩, stands_removeVersion v⟩
  · exact absurd ‹m.bestNode r choices none = none› (bestNode_ne_none (Or.inl hbegins.nonempty))
  · rename_i node extras hnode p h _ target _
    have hstate : p.stack.stateOf v = state := stateOf_eq_of_stands (h.stands_eq ▸ hv)
    refine joins_reduced (hbest _ hnode) hr ?_ _ (fun hextra ↦ ?_) _
    · exact hstate ▸ Automaton.mayFollow_next ha _
    · exact (of_decide_eq_true (Bool.and_elim_right hextra)).trans hstate
  · exact (hbest _ ‹_›).extras
  · exact lie_reduced (hbest _ ‹_›) _ _
  · intro h _
    rw [List.eraseIdx_set_eq] at h
    exact ⟨_, h⟩

theorem pushNodes_spec (ha : m.automaton.isSound) (version halted : Nat) {r : Reduction}
    (hr : r.symbol < Symbols.errorPiece) (endsExtra : Bool) {place : Extent}
    {stands rest : List Stand} {slices : List Slice} {n removed : Nat}
    (hbegins : List.Forall₂ (fun slice x ↦ Begins text place Tree.Sound slice.choices x) slices rest)
    (hversions : slices.map Slice.version = List.range' n slices.length) :
    ⦃fun p ↦ ⌜∃ front, Grows place stands front ∧ front.length + removed = n ∧
      p.Stands m.automaton text (front ++ rest)⌝⦄
    m.pushNodes version halted r endsExtra slices removed
    ⦃⇓ _ p => ⌜p.Sane m.automaton text ∧ Grows place stands p.stack.stands⌝⦄ := by
  induction hbegins generalizing n removed with
  | nil =>
    mvcgen [pushNodes]
    rename_i h
    obtain ⟨front, hgrows, -, h⟩ := h
    rw [List.append_nil] at h
    exact ⟨h.toSane, h.stands_eq ▸ hgrows⟩
  | @cons slice x slices rest hslice _ ih =>
    rw [List.map_cons, List.length_cons, List.range'_succ, List.cons.injEq] at hversions
    obtain ⟨rfl, hversions⟩ := hversions
    refine triple_of_forall fun p ⟨front, hgrows, hn, h⟩ ↦ ?_
    have hversion : slice.version - removed = front.length := by omega
    have hv : (front ++ x :: rest)[slice.version - removed]? = some x := by simp [hversion]
    have hpushNode := pushNode_spec m text ha version halted hr endsExtra hv hslice
    have hrest (removed : Nat) := @ih (slice.version + 1) removed hversions
    mvcgen [pushNodes, hpushNode, hrest]
    · obtain rfl := ‹_ = p›
      exact h
    · rename_i isGone p' h'
      obtain ⟨state, h'⟩ := h'
      cases isGone with
      | true =>
        refine ⟨front, hgrows, by simp; omega, ?_⟩
        simpa [hversion, List.eraseIdx_append_of_length_le] using h'
      | false =>
        refine ⟨front ++ [⟨state, place, true⟩], hgrows.append state, by simp; omega, ?_⟩
        simpa [hversion] using h'

/-- A reduction that the automaton backs leaves the versions as they are and adds some at their place. -/
theorem reduce_spec (ha : m.automaton.isSound) {version state token : Nat} {r : Reduction}
    (hbacks : m.automaton.Backs state token (.reduce r)) (endsExtra : Bool) {place : Extent}
    {stands : List Stand} (hversion : stands[version]? = some ⟨state, place, true⟩) :
    ⦃fun p ↦ ⌜p.Stands m.automaton text stands⌝⦄
    m.reduce version r endsExtra
    ⦃⇓ made p => ⌜p.Sane m.automaton text ∧ Grows place stands p.stack.stands ∧
      ∀ v ∈ made, v = stands.length ∧ v < p.stack.stands.length⌝⦄ := by
  refine triple_of_forall fun p ⟨hsane, hstands⟩ ↦ ?_
  subst hstands
  have hstate : p.stack.stateOf version = state := stateOf_eq_of_stands hversion
  have hsliced := sliced_pop_of_le_depth hsane.stack ⟨state, hversion⟩ ha (hstate ▸ hbacks.1)
  obtain ⟨rest, hrest, hbegins⟩ := hsliced.exists_stands
  have hpushNodes (halted : Nat) (slices : List Slice) := @pushNodes_spec m text ha version halted r
    hbacks.2 endsExtra place p.stack.stands rest slices p.stack.stands.length 0
  mvcgen [reduce, hpushNodes]
  all_goals obtain rfl := ‹_ = p›
  · exact hbegins
  · exact hsliced.versions
  · exact ⟨_, .refl _, rfl, ⟨hsliced.sane, hsane.finished⟩, hrest⟩
  · rename_i hmade _ _ hpushed
    refine ⟨hpushed.1, hpushed.2, ?_⟩
    rintro v ⟨⟩
    rw [length_stands, length_stands]
    exact ⟨rfl, hmade⟩
  · rename_i hpushed
    exact ⟨hpushed.1, hpushed.2, nofun⟩

/-! ## Several reductions -/

theorem reduceEach_spec (ha : m.automaton.isSound) {version state : Nat} {rs : List Reduction}
    (hrs : ∀ r ∈ rs, ∃ token, m.automaton.Backs state token (.reduce r)) {place : Extent}
    {stands : List Stand} (hversion : stands[version]? = some ⟨state, place, true⟩)
    (made : Option Nat) :
    ⦃fun p ↦ ⌜p.Sane m.automaton text ∧ Grows place stands p.stack.stands ∧
      ∀ v ∈ made, stands.length ≤ v ∧ v < p.stack.stands.length⌝⦄
    m.reduceEach version rs made
    ⦃⇓ made p => ⌜p.Sane m.automaton text ∧ Grows place stands p.stack.stands ∧
      ∀ v ∈ made, stands.length ≤ v ∧ v < p.stack.stands.length⌝⦄ := by
  induction rs generalizing made with
  | nil => mvcgen [reduceEach]
  | cons r rest ih =>
    rw [List.forall_mem_cons] at hrs
    obtain ⟨⟨token, hbacks⟩, hrs⟩ := hrs
    refine triple_of_forall fun p ⟨hsane, hgrows, _⟩ ↦ ?_
    have hreduce := reduce_spec m text ha hbacks false
      (getElem?_of_isPrefix hversion hgrows.isPrefix)
    have hrest := ih hrs
    mvcgen [reduceEach, hreduce, hrest]
    · obtain rfl := ‹_ = p›
      exact ⟨hsane, rfl⟩
    · rename_i h
      obtain ⟨hsane', hgrows', hmade⟩ := h
      refine ⟨hsane', hgrows.trans hgrows', fun v hv ↦ ⟨?_, (hmade v hv).2⟩⟩
      exact (hmade v hv).1 ▸ hgrows.isPrefix.length_le

/-- What can be done with a token is backed by the automaton, and the token is none that stands for
skipped text. -/
theorem backs_of_mem_actions (ha : m.automaton.isSound) {state token : Nat} {action : Action}
    (h : action ∈ m.actions state token) :
    m.automaton.Backs state token action ∧ token < Symbols.errorPiece := by
  rw [actions] at h
  split at h
  · cases h
  · rename_i htoken
    have hcount := (Automaton.isSound_iff.1 ha).1
    exact ⟨Automaton.backs_of_mem_actions ha (Nat.le_of_not_lt htoken) h,
      (Nat.le_of_not_lt htoken).trans_lt hcount⟩

theorem backs_of_mem_possibleReductions (ha : m.automaton.isSound) {state lookahead : Nat} :
    ∀ r ∈ (m.possibleReductions state lookahead).1,
      ∃ token, m.automaton.Backs state token (.reduce r) := by
  rw [possibleReductions]
  dsimp only
  refine List.foldlRecOn (motive := fun x : List Reduction × Bool ↦
    ∀ r ∈ x.1, ∃ token, m.automaton.Backs state token (.reduce r)) _ _ nofun fun x hx token _ ↦ ?_
  refine List.foldlRecOn (motive := fun x : List Reduction × Bool ↦
    ∀ r ∈ x.1, ∃ token, m.automaton.Backs state token (.reduce r)) _ _ hx fun x hx action haction ↦ ?_
  cases action with
  | reduce r =>
    dsimp only
    split
    · exact hx
    · exact List.forall_mem_append.2
        ⟨hx, List.forall_mem_singleton.2 ⟨token, (backs_of_mem_actions m ha haction).1⟩⟩
  | _ => exact hx

/-! ## All reductions -/

section

variable {stands stands' : List Stand} {v : Nat}

theorem isPrefix_set (h : stands <+: stands') (hv : stands.length ≤ v) (x : Stand) :
    stands <+: stands'.set v x := by
  obtain ⟨rest, rfl⟩ := h
  rw [List.set_append_right _ _ hv]
  exact List.prefix_append _ _

theorem isPrefix_eraseIdx (h : stands <+: stands') (hv : stands.length ≤ v) :
    stands <+: stands'.eraseIdx v := by
  obtain ⟨rest, rfl⟩ := h
  rw [List.eraseIdx_append_of_length_le hv]
  exact List.prefix_append _ _

end

/-- What is made from a version that stood at a place stands there too, and so does the version itself
where it is not to be dropped; those before it stand as they did. -/
structure Spreads (start lookahead before : Nat) (place : Extent) (old stands : List Stand) : Prop where
  isPrefix : old.take start <+: stands
  start : lookahead = Symbols.endOfText → IsAt stands start place
  behind : ∀ v, before ≤ v → v < stands.length → IsAt stands v place

/-- The version to go on from: the first one, if it is there still, or one that has come up. -/
def IsDue (start before : Nat) (place : Extent) (stands : List Stand) (version : Nat) : Prop :=
  version = start ∧ IsAt stands start place ∧ before ≤ stands.length ∨ before ≤ version

namespace IsDue

variable {start before version : Nat} {place : Extent} {stands : List Stand}
  (h : IsDue start before place stands version) (hstart : start < before)

include h hstart

theorem start_le : start ≤ version := by
  rcases h with ⟨rfl, -⟩ | hbefore
  · exact le_rfl
  · exact hstart.le.trans hbefore

theorem le_onward : before ≤ if version = start then stands.length else version + 1 := by
  rcases h with ⟨hversion, -, hbefore⟩ | hbefore
  · rwa [if_pos hversion]
  · rw [if_neg (by omega)]
    omega

end IsDue

namespace Spreads

variable {start lookahead before version : Nat} {place : Extent} {old stands stands' : List Stand}
  (h : Spreads start lookahead before place old stands)

include h

theorem isAt (hdue : IsDue start before place stands version) (hlt : version < stands.length) :
    IsAt stands version place := by
  rcases hdue with ⟨rfl, hversion, -⟩ | hversion
  · exact hversion
  · exact h.behind version hversion hlt

theorem grows (hgrows : Grows place stands stands') :
    Spreads start lookahead before place old stands' := by
  refine ⟨h.isPrefix.trans hgrows.isPrefix, fun hend ↦ (h.start hend).of_isPrefix hgrows.isPrefix,
    fun v hv hlt ↦ ?_⟩
  rcases lt_or_ge v stands.length with hold | hnew
  · exact (h.behind v hv hold).of_isPrefix hgrows.isPrefix
  · exact hgrows.isAt hnew hlt

theorem set (hv : start ≤ version) (state : Nat) :
    Spreads start lookahead before place old (stands.set version ⟨state, place, true⟩) := by
  refine ⟨isPrefix_set h.isPrefix ((List.length_take_le _ _).trans hv) _,
    fun hend ↦ (h.start hend).set version state, fun w hw hlt ↦ (h.behind w hw ?_).set version state⟩
  rwa [List.length_set] at hlt

theorem eraseIdx (hv : start ≤ version) (hkept : lookahead = Symbols.endOfText → start < version) :
    Spreads start lookahead before place old (stands.eraseIdx version) := by
  refine ⟨isPrefix_eraseIdx h.isPrefix ((List.length_take_le _ _).trans hv),
    fun hend ↦ (h.start hend).eraseIdx_of_lt (hkept hend), fun w hw hlt ↦ ?_⟩
  rw [List.length_eraseIdx] at hlt
  rcases lt_or_ge w version with hbefore | hbehind
  · exact (h.behind w hw (by split at hlt <;> omega)).eraseIdx_of_lt hbefore
  · exact (h.behind (w + 1) (by omega) (by split at hlt <;> omega)).eraseIdx_of_le hbehind

/-- A version that has come up takes the place of the one that it was made from. -/
theorem replace {v state : Nat} (hversion : start ≤ version) (hv : version < v) :
    Spreads start lookahead before place old
      ((stands.set version ⟨state, place, true⟩).eraseIdx v) :=
  (h.set hversion state).eraseIdx (hversion.trans hv.le) fun _ ↦ hversion.trans_lt hv

end Spreads

theorem IsDue.replace {start before version v : Nat} {place : Extent} {stands stands' : List Stand}
    (h : IsDue start before place stands version) (hversion : version < stands.length)
    (hv : stands.length ≤ v) (hlt : v < stands'.length) (state : Nat) :
    IsDue start before place ((stands'.set version ⟨state, place, true⟩).eraseIdx v) version := by
  refine h.imp_left fun ⟨heq, _, hbefore⟩ ↦ ⟨heq, ?_, ?_⟩
  · subst heq
    exact (isAt_set_self state place (by omega)).eraseIdx_of_lt (by omega)
  · rw [List.length_eraseIdx_of_lt (by simpa using hlt), List.length_set]
    omega

theorem reduceAll_spec (ha : m.automaton.isSound) {start lookahead before : Nat}
    (hstart : start < before) {place : Extent} {old : List Stand} (fuel round version : Nat)
    (canShift : Bool) :
    ⦃fun p ↦ ⌜p.Sane m.automaton text ∧ Spreads start lookahead before place old p.stack.stands ∧
      IsDue start before place p.stack.stands version⌝⦄
    m.reduceAll start lookahead before fuel round version canShift
    ⦃⇓ _ p => ⌜p.Sane m.automaton text ∧
      Spreads start lookahead before place old p.stack.stands⌝⦄ := by
  induction fuel generalizing round version canShift with
  | zero =>
    mvcgen [reduceAll]
    rename_i h
    exact ⟨h.1, h.2.1⟩
  | succ fuel ih =>
    refine triple_of_forall fun p ⟨hsane, hspreads, hdue⟩ ↦ ?_
    have hmergeInto := @mergeInto_spec m text p.stack.stands version
    have hreduceEach (rs : List Reduction)
        (hrs : ∀ r ∈ rs, ∃ token, m.automaton.Backs (p.stack.stateOf version) token (.reduce r))
        (hlt : version < p.stack.stands.length) :=
      reduceEach_spec m text ha hrs (hspreads.isAt hdue hlt).getElem?_eq none
    mvcgen [reduceAll, hmergeInto, hreduceEach, onStack_spec, ih]
    · obtain rfl := ‹_ = p›
      exact ⟨hsane, hspreads⟩
    · obtain rfl := ‹_ = p›
      exact ⟨hsane, rfl⟩
    · rename_i hmerged p' h
      obtain ⟨h, hothers⟩ := h
      rw [if_pos hmerged] at h
      obtain ⟨j, hj⟩ := List.exists_mem_of_ne_nil _ (hothers hmerged)
      simp only [List.mem_filter, List.mem_range, decide_eq_true_eq] at hj
      have hversion : before ≤ version := hj.2.trans hj.1.le
      exact ⟨h.toSane, h.stands_eq ▸ hspreads.eraseIdx (hstart.le.trans hversion) fun _ ↦
        hstart.trans_le hversion, Or.inr hversion⟩
    all_goals
      have hlt : version < p.stack.stands.length := by
        rw [length_stands, ← ‹_ = p›]
        exact Nat.lt_of_not_le ‹_›
      have hversion := hspreads.isAt hdue hlt
      have hle := hdue.start_le hstart
    · rename_i hmerged p' h _
      rw [if_neg hmerged] at h
      have hstate : p'.stack.stateOf version = p.stack.stateOf version :=
        stateOf_eq_of_stands (h.1.stands_eq.symm ▸ hversion.getElem?_eq)
      exact hstate ▸ backs_of_mem_possibleReductions m ha
    · exact hlt
    · rename_i hmerged p' h _
      rw [if_neg hmerged] at h
      exact ⟨h.1.toSane, h.1.stands_eq ▸ .refl _, nofun⟩
    · rename_i h
      obtain ⟨hsane', hgrows, hmade⟩ := h
      obtain ⟨hnew, hlt'⟩ := hmade _ rfl
      have hstands := stands_renumberVersion (hgrows.isAt hnew hlt').getElem?_eq
        (hlt.trans_le hnew).ne'
      refine ⟨⟨hsane'.stack.renumberVersion _ _, hsane'.finished⟩, ?_, ?_⟩
      · exact hstands ▸ (hspreads.grows hgrows).replace hle (hlt.trans_le hnew)
      · exact hstands ▸ hdue.replace hlt hnew hlt' _
    all_goals
      rename_i h
      obtain ⟨hsane', hgrows, -⟩ := h
      have hspreads := hspreads.grows hgrows
      have honward := hdue.le_onward hstart
      rw [length_stands, ← ‹_ = p›] at honward
    -- The version is dropped if nothing can be done with the token in it.
    case vc8 | vc10 =>
      have hdrop : lookahead ≠ Symbols.endOfText := of_decide_eq_true (Bool.and_elim_right ‹_›)
      refine ⟨⟨hsane'.stack.removeVersion _, hsane'.finished⟩, ?_, Or.inr honward⟩
      rw [stands_removeVersion]
      exact hspreads.eraseIdx hle fun hend ↦ absurd hend hdrop
    all_goals exact ⟨hsane', hspreads, Or.inr honward⟩

theorem reduceAllFrom_spec (ha : m.automaton.isSound) (version lookahead : Nat) {place : Extent}
    {stands : List Stand} (hversion : IsAt stands version place) :
    ⦃fun p ↦ ⌜p.Stands m.automaton text stands⌝⦄
    m.reduceAllFrom version lookahead
    ⦃⇓ _ p => ⌜p.Sane m.automaton text ∧
      Spreads version lookahead stands.length place stands p.stack.stands⌝⦄ := by
  obtain ⟨hlt, -⟩ := List.getElem?_eq_some_iff.1 hversion.choose_spec
  have hreduceAll (before : Nat) (hbefore : before = stands.length) :=
    @reduceAll_spec m text ha version lookahead before (hbefore ▸ hlt) place stands
  mvcgen [reduceAllFrom, hreduceAll]
  · rename_i h
    exact (length_stands _).symm.trans (congrArg _ h.stands_eq)
  · rename_i h
    obtain ⟨hsane, rfl⟩ := h
    rw [← length_stands]
    exact ⟨hsane, ⟨List.take_prefix _ _, fun _ ↦ hversion, fun v hv hlt ↦ absurd hlt hv.not_gt⟩,
      Or.inl ⟨rfl, hversion, le_rfl⟩⟩
  · rename_i h _ _
    obtain ⟨-, rfl⟩ := h
    rw [length_stands]
    exact And.intro

end Machine

end SourceSurvey.Parsing
