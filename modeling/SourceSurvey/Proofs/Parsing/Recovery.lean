import Mathlib
import SourceSurvey.Proofs.Parsing.Reducing

/-!
# Recovering on a sane stack

Whatever a parse does about a token that it cannot deal with, its stack stays sane. Text that is skipped
stays in pieces under the error state. Where a version goes back, the pieces go into an error, which is
an extra; where the text ends, into an error that takes in all that is there. No text is lost on the way:
a piece lies where the token and what was skipped before it did. So the tree of a text is sound and spans
the text in any case.
-/

open Std.Do

set_option mvcgen.warning false

namespace SourceSurvey.Parsing

namespace Tree

variable {symbols : Symbols} {t : Tree} {trees : List Tree}

/-- What is no error has no pieces of skipped text right in it. -/
theorem Sound.plain_of_not_isError (h : t.Sound) (herror : ¬t.isError) :
    t.symbol < Symbols.errorPiece ∧ ∀ c ∈ t.children, c.Sound := by
  cases h with
  | error hsymbol => exact absurd (decide_eq_true hsymbol) herror
  | plain hsymbol _ hchildren => exact ⟨hsymbol, hchildren⟩

theorem sound_errorNode (isExtra : Bool) (h : ∀ t ∈ trees, t.IsPiece ∨ t.Sound) :
    (errorNode symbols isExtra trees).Sound :=
  (sound_error fun t ht hpiece ↦ (h t ht).resolve_left hpiece).withExtra isExtra

theorem sound_of_isExtra (h : t.IsPiece ∨ t.Sound) (hextra : t.isExtra) : t.Sound :=
  h.resolve_left fun hpiece ↦ by
    rw [hpiece.2] at hextra
    cases hextra

theorem lie_errorNode {text : List Char} {start stop : Extent} (isExtra : Bool)
    (h : Lie text start trees stop) : Lie text start [errorNode symbols isExtra trees] stop :=
  (h.node symbols Symbols.error []).withExtra isExtra

end Tree

/-- A sane state in which the versions that were there stand as they did. -/
structure ParseState.Keeps (a : Automaton) (text : List Char) (old : List Stack.Stand)
    (p : ParseState) : Prop extends p.Sane a text where
  isPrefix : old <+: p.stack.stands

/-- A sane state in which a version that goes on is at a place. -/
structure ParseState.IsAt (a : Automaton) (text : List Char) (version : Nat) (place : Extent)
    (p : ParseState) : Prop extends p.Sane a text where
  isAt : Stack.IsAt p.stack.stands version place

/-- A sane state in which some versions that go on are at one place. -/
structure ParseState.AreAt (a : Automaton) (text : List Char) (versions : List Nat) (place : Extent)
    (p : ParseState) : Prop extends p.Sane a text where
  areAt : ∀ v ∈ versions, Stack.IsAt p.stack.stands v place

theorem ParseState.Keeps.trans {a : Automaton} {text : List Char} {old old' : List Stack.Stand}
    {p : ParseState} (h : p.Keeps a text old') (hinit : old <+: old') : p.Keeps a text old :=
  ⟨h.toSane, hinit.trans h.isPrefix⟩

theorem ParseState.Keeps.isAt {a : Automaton} {text : List Char} {old : List Stack.Stand}
    {p : ParseState} (h : p.Keeps a text old) {version : Nat} {place : Extent}
    (hversion : Stack.IsAt old version place) : p.IsAt a text version place :=
  ⟨h.toSane, hversion.of_isPrefix h.isPrefix⟩

namespace Machine

open Parsing.Tree Parsing.Stack

variable {m : Machine} {text : List Char}

/-! ## The end of the text -/

/-- The root is made of the last tree that is no extra, with what is before and behind it. -/
theorem rootOf_cases (m : Machine) (trees : List Tree) :
    (∃ front root behind, trees = front ++ root :: behind ∧ ¬root.isExtra ∧
      m.rootOf trees =
        .node m.symbols root.symbol root.info.labels (front ++ root.children ++ behind)) ∨
      m.rootOf trees = .node m.symbols Symbols.error [] trees := by
  rw [rootOf]
  split
  · rename_i root others hroot
    refine Or.inl ⟨others.reverse, root, (trees.reverse.takeWhile Tree.isExtra).reverse, ?_, ?_, rfl⟩
    · rw [← List.singleton_append, ← List.append_assoc, ← List.reverse_cons, ← hroot,
        ← List.reverse_append, List.takeWhile_append_dropWhile, List.reverse_reverse]
    · have hhead := List.head?_dropWhile_not Tree.isExtra trees.reverse
      rw [hroot] at hhead
      exact Bool.not_eq_true _ ▸ hhead
  · exact Or.inr rfl

/-- The trees of a whole text make a sound tree where no text is skipped. -/
theorem sound_rootOf {trees : List Tree} (h : ∀ t ∈ trees, t.Sound ∧ (t.isError → t.isExtra)) :
    (m.rootOf trees).Sound := by
  rcases rootOf_cases m trees with ⟨front, root, behind, rfl, hextra, hroot⟩ | hroot
  · rw [List.forall_mem_append, List.forall_mem_cons] at h
    obtain ⟨hfront, ⟨hsound, herror⟩, hbehind⟩ := h
    obtain ⟨hsymbol, hchildren⟩ := hsound.plain_of_not_isError fun h ↦ hextra (herror h)
    rw [hroot]
    refine sound_node hsymbol (List.forall_mem_append.2 ⟨List.forall_mem_append.2 ⟨?_, hchildren⟩, ?_⟩)
    · exact fun t ht ↦ (hfront t ht).1
    · exact fun t ht ↦ (hbehind t ht).1
  · rw [hroot]
    exact sound_error fun t ht _ ↦ (h t ht).1

/-- The root lies where the trees do that it is made of. -/
theorem lie_rootOf {trees : List Tree} {start stop : Extent} (h : Lie text start trees stop)
    (hinner : ∀ t ∈ trees, t.isExtra ∨ t.IsInner) : Lie text start [m.rootOf trees] stop := by
  rcases rootOf_cases m trees with ⟨front, root, behind, rfl, hextra, hroot⟩ | hroot
  · have hroot' : root.IsInner := (hinner root (by simp)).resolve_left hextra
    obtain ⟨first, hfront, hrest⟩ := h.exists_middle
    obtain ⟨second, hmiddle, hbehind⟩ := hrest.exists_middle_cons
    rw [hroot]
    exact ((hfront.append (hmiddle.children hroot')).append hbehind).node ..
  · rw [hroot]
    exact h.node ..

/-- An error at the end takes in all that is there, skipped or not. -/
theorem rootOf_error (trees : List Tree) {last : Tree} (hextra : last.isExtra) :
    m.rootOf (trees ++ [.errorNode m.symbols false [], last]) =
      .node m.symbols Symbols.error [] (trees ++ [last]) := by
  have herror : (errorNode m.symbols false []).isExtra = false := rfl
  simp [rootOf, hextra, herror]
  rfl

theorem standsFor_rootOf_error {trees : List Tree} {last : Tree} {place stop : Extent}
    (h : ∀ t ∈ trees, t.IsPiece ∨ t.Sound) (hlie : Lie text .zero trees place) (hlast : last.Sound)
    (hextra : last.isExtra) (hliesLast : Lie text place [last] stop) :
    (m.rootOf (trees ++ [.errorNode m.symbols false [], last])).StandsFor text := by
  rw [rootOf_error trees hextra]
  refine ⟨sound_error fun t ht hpiece ↦ ?_, stop, (hlie.append hliesLast).node ..⟩
  rcases List.mem_append.1 ht with ht | ht
  · exact (h t ht).resolve_left hpiece
  · exact List.mem_singleton.1 ht ▸ hlast

theorem standsFor_better {old : Option Tree} {new : Tree} (hold : ∀ t ∈ old, t.StandsFor text)
    (hnew : new.StandsFor text) : (better new old).StandsFor text := by
  cases old with
  | none => exact hnew
  | some old =>
    rw [better]
    split
    · exact hnew
    · exact hold old rfl

variable (m text)

theorem onStack_sane {f : Stack → Stack}
    (hf : ∀ s : Stack, s.Sane m.automaton text → (f s).Sane m.automaton text) :
    ⦃fun p ↦ ⌜p.Sane m.automaton text⌝⦄ onStack f ⦃⇓ _ p => ⌜p.Sane m.automaton text⌝⦄ :=
  fun p hp ↦ ⟨hf p.stack hp.stack, hp.finished⟩

/-- What leaves all versions where they stand. -/
theorem onStack_stands {f : Stack → Stack} {stands : List Stand}
    (hf : ∀ s : Stack, s.Sane m.automaton text → (f s).Sane m.automaton text)
    (hstands : ∀ s, (f s).stands = s.stands) :
    ⦃fun p ↦ ⌜p.Stands m.automaton text stands⌝⦄
    onStack f
    ⦃⇓ _ p => ⌜p.Stands m.automaton text stands⌝⦄ :=
  fun p hp ↦ ⟨⟨hf p.stack hp.stack, hp.finished⟩, (hstands p.stack).trans hp.stands_eq⟩

theorem finishAll_spec {roots : List Tree} (hroots : ∀ t ∈ roots, t.StandsFor text) :
    ⦃fun p ↦ ⌜p.Sane m.automaton text⌝⦄ finishAll roots ⦃⇓ _ p => ⌜p.Sane m.automaton text⌝⦄ := by
  induction roots with
  | nil => mvcgen [finishAll]
  | cons root rest ih =>
    rw [List.forall_mem_cons] at hroots
    have hrest := ih hroots.2
    mvcgen [finishAll, finish, hrest]
    rename_i p h _
    exact ⟨h.stack, fun t ht ↦ Option.some.inj ht ▸ standsFor_better h.finished hroots.1⟩

theorem accept_spec (version : Nat) (ends : List Tree) :
    ⦃fun p ↦ ⌜p.Sane m.automaton text ∧
      ∀ trees ∈ p.stack.wholesOf version, (m.rootOf (trees ++ ends)).StandsFor text⌝⦄
    m.accept version ends
    ⦃⇓ _ p => ⌜p.Sane m.automaton text⌝⦄ := by
  have hfinishAll := @finishAll_spec m text
  have honStack := @onStack_sane m text
  mvcgen [accept, hfinishAll, honStack]
  · rename_i h
    exact List.forall_mem_map.2 h.2
  · rename_i h
    exact h.1
  · exact fun _ _ s hs ↦ hs.close version ends _

/-! ## Choosing between versions -/

section

variable {stands : List Stand}

theorem lowerMark_spec (version : Nat) :
    ⦃fun p ↦ ⌜p.Stands m.automaton text stands⌝⦄
    onStack fun s ↦ s.lowerMark version
    ⦃⇓ _ p => ⌜p.Stands m.automaton text stands⌝⦄ :=
  onStack_stands m text (fun _ hs ↦ hs.lowerMark version) fun _ ↦ stands_lowerMark version

theorem standing_spec (version : Nat) :
    ⦃fun p ↦ ⌜p.Stands m.automaton text stands⌝⦄
    standing version
    ⦃⇓ _ p => ⌜p.Stands m.automaton text stands⌝⦄ := by
  have hlowerMark := @lowerMark_spec m text stands
  mvcgen [standing, hlowerMark]

theorem anyBetter_spec (mine : Standing) (version : Nat) (others : List Nat) :
    ⦃fun p ↦ ⌜p.Stands m.automaton text stands⌝⦄
    anyBetter mine version others
    ⦃⇓ _ p => ⌜p.Stands m.automaton text stands⌝⦄ := by
  have hstanding := @standing_spec m text stands
  induction others with
  | nil => mvcgen [anyBetter]
  | cons v rest ih => mvcgen [anyBetter, isBetter, hstanding, ih]

theorem betterExists_spec (version cost : Nat) :
    ⦃fun p ↦ ⌜p.Stands m.automaton text stands⌝⦄
    betterExists version cost
    ⦃⇓ _ p => ⌜p.Stands m.automaton text stands⌝⦄ := by
  have hlowerMark := @lowerMark_spec m text stands
  have hanyBetter := @anyBetter_spec m text stands
  mvcgen [betterExists, hlowerMark, hanyBetter]

end

/-! ## Going back -/

variable {m text} in
theorem keeps_of_stands {α : Type} {x : Parse α} {old : List Stand}
    (h : ∀ stands, ⦃fun p ↦ ⌜p.Stands m.automaton text stands⌝⦄ x
      ⦃⇓ _ p => ⌜p.Stands m.automaton text stands⌝⦄) :
    ⦃fun p ↦ ⌜p.Keeps m.automaton text old⌝⦄ x ⦃⇓ _ p => ⌜p.Keeps m.automaton text old⌝⦄ := by
  intro p hp
  have hx := h p.stack.stands p ⟨hp.toSane, rfl⟩
  exact ⟨hx.toSane, hx.stands_eq ▸ hp.isPrefix⟩

variable {m text} in
/-- Skipped trees are stood for by extras, which lie where they did. -/
theorem skippedAs_spec {trees : List Tree} {start stop : Extent}
    (h : ∀ t ∈ trees, t.IsPiece ∨ t.Sound) (hlie : Lie text start trees stop) :
    (∀ t ∈ m.skippedAs trees, t.Sound ∧ t.isExtra) ∧ Lie text start (m.skippedAs trees) stop := by
  have hextras : ∀ t ∈ (splitExtras trees).2, t.Sound ∧ t.isExtra := fun t ht ↦
    have ⟨ht, hextra⟩ := mem_and_isExtra_of_mem_splitExtras ht
    ⟨sound_of_isExtra (h t ht) hextra, hextra⟩
  rw [← splitExtras_append trees] at hlie
  rw [skippedAs]
  dsimp only
  split
  · rename_i hnone
    rw [List.isEmpty_iff.1 hnone] at hlie
    exact ⟨hextras, hlie⟩
  · obtain ⟨middle, hchildren, hrest⟩ := hlie.exists_middle
    refine ⟨List.forall_mem_cons.2 ⟨⟨sound_errorNode true fun t ht ↦ ?_, ?_⟩, hextras⟩, ?_⟩
    · exact h t (mem_of_mem_splitExtras ht)
    · simp [errorNode]
    · exact (lie_errorNode true hchildren).append hrest

theorem headD_mem {choices : List (List Tree)} (h : choices ≠ []) : choices.headD [] ∈ choices := by
  cases choices with
  | nil => exact absurd rfl h
  | cons trees rest => exact List.mem_cons_self

theorem retreatIn_spec (state : Nat) {slice : Slice} {stands : List Stand} {x : Stand}
    (hv : stands[slice.version]? = some x) {place : Extent}
    (hbegins : Begins text place (fun t ↦ t.IsPiece ∨ t.Sound) slice.choices x) :
    ⦃fun p ↦ ⌜p.Stands m.automaton text stands⌝⦄
    m.retreatIn state slice
    ⦃⇓ _ p => ⌜∃ x, p.Stands m.automaton text (stands.set slice.version x)⌝⦄ := by
  refine triple_of_forall fun p ⟨hsane, hstands⟩ ↦ ?_
  subst hstands
  obtain ⟨below, middle, isActive⟩ := x
  obtain rfl : isActive = true := hbegins.isActive
  have hhead := headD_mem hbegins.nonempty
  obtain ⟨hpopped, hskipped, start, hstands, hlie⟩ := popError_spec hsane.stack ⟨below, hv⟩
  have hall := skippedAs_spec (m := m) (List.forall_mem_append.2 ⟨hskipped, hbegins.trees _ hhead⟩)
    (hlie.append (hbegins.lie _ hhead))
  have hv' : (p.stack.stands.set slice.version ⟨state, start, true⟩)[slice.version]? =
      some ⟨state, start, true⟩ :=
    List.getElem?_set_self (List.getElem?_eq_some_iff.1 hv).1
  have hpushExtras (trees : List Tree) := @pushExtras_spec m text _ _ start place state trees hv'
  rw [List.set_set] at hpushExtras
  mvcgen [retreatIn, onStack_spec, hpushExtras]
  · obtain rfl := ‹_ = p›
    exact ⟨_, ⟨hsane.stack.halt _, hsane.finished⟩, stands_modifyVersion _ _⟩
  · obtain rfl := ‹_ = p›
    exact hall.1
  · obtain rfl := ‹_ = p›
    exact hall.2
  · rename_i hp hstate _ _
    obtain rfl := hp
    rw [not_not.1 hstate] at hstands
    exact ⟨⟨hpopped, hsane.finished⟩, hstands⟩
  · rename_i h
    exact ⟨_, h⟩

theorem retreatInAll_spec (state : Nat) {slices : List Slice} {old rest : List Stand} {n : Nat}
    {place : Extent} (hbegins : List.Forall₂
      (fun slice x ↦ Begins text place (fun t ↦ t.IsPiece ∨ t.Sound) slice.choices x) slices rest)
    (hversions : slices.map Slice.version = List.range' n slices.length) :
    ⦃fun p ↦ ⌜∃ front, old <+: front ∧ front.length = n ∧
      p.Stands m.automaton text (front ++ rest)⌝⦄
    m.retreatInAll state slices
    ⦃⇓ _ p => ⌜p.Keeps m.automaton text old⌝⦄ := by
  induction hbegins generalizing n with
  | nil =>
    mvcgen [retreatInAll]
    rename_i h
    obtain ⟨front, hinit, -, h⟩ := h
    rw [List.append_nil] at h
    exact ⟨h.toSane, h.stands_eq ▸ hinit⟩
  | @cons slice x slices rest hslice _ ih =>
    rw [List.map_cons, List.length_cons, List.range'_succ, List.cons.injEq] at hversions
    obtain ⟨rfl, hversions⟩ := hversions
    refine triple_of_forall fun p ⟨front, hinit, hn, h⟩ ↦ ?_
    have hv : (front ++ x :: rest)[slice.version]? = some x := by simp [← hn]
    have hfirst := retreatIn_spec m text state hv hslice
    have hrest := ih hversions
    mvcgen [retreatInAll, hfirst, hrest]
    · obtain rfl := ‹_ = p›
      exact h
    · rename_i h'
      obtain ⟨y, h'⟩ := h'
      refine ⟨front ++ [y], hinit.trans (List.prefix_append _ _), by simp [hn], ?_⟩
      simpa [← hn] using h'

theorem retreatTo_spec {stands : List Stand} {version : Nat} {place : Extent}
    (hversion : IsAt stands version place) (depth state : Nat) :
    ⦃fun p ↦ ⌜p.Stands m.automaton text stands⌝⦄
    m.retreatTo version depth state
    ⦃⇓ _ p => ⌜p.Keeps m.automaton text stands⌝⦄ := by
  refine triple_of_forall fun p ⟨hsane, hstands⟩ ↦ ?_
  subst hstands
  have hsliced := sliced_pop hsane.stack hversion depth
  obtain ⟨rest, hrest, hbegins⟩ := hsliced.exists_stands
  have hretreatInAll (slices : List Slice) := @retreatInAll_spec m text state slices p.stack.stands
    rest p.stack.stands.length place
  mvcgen [retreatTo, hretreatInAll]
  all_goals obtain rfl := ‹_ = p›
  · exact hbegins
  · exact hsliced.versions
  · exact ⟨_, List.prefix_rfl, rfl, ⟨hsliced.sane, hsane.finished⟩, hrest⟩

section

variable {old : List Stand} {version : Nat} {place : Extent}

theorem retreatTo_keeps (hversion : IsAt old version place) (depth state : Nat) :
    ⦃fun p ↦ ⌜p.Keeps m.automaton text old⌝⦄
    m.retreatTo version depth state
    ⦃⇓ _ p => ⌜p.Keeps m.automaton text old⌝⦄ := by
  intro p hp
  have hkeeps := retreatTo_spec m text (hversion.of_isPrefix hp.isPrefix) depth state p ⟨hp.toSane, rfl⟩
  exact hkeeps.trans hp.isPrefix

theorem tryRetreats_spec (hversion : IsAt old version place) (before cost : Nat) (position : Extent)
    (hasNodes : Bool) (lookahead : Tree) (retreats : List Retreat) :
    ⦃fun p ↦ ⌜p.Keeps m.automaton text old⌝⦄
    m.tryRetreats version before cost position hasNodes lookahead retreats
    ⦃⇓ _ p => ⌜p.Keeps m.automaton text old⌝⦄ := by
  have hbetterExists (cost : Nat) := @keeps_of_stands m text _ _ old
    fun stands ↦ @betterExists_spec m text stands version cost
  have hretreatTo := retreatTo_keeps m text hversion
  induction retreats with
  | nil => mvcgen [tryRetreats]
  | cons r rest ih => mvcgen [tryRetreats, hbetterExists, hretreatTo, ih]

theorem dropInactive_spec {first : Nat} (hfirst : old.length ≤ first) :
    ⦃fun p ↦ ⌜p.Keeps m.automaton text old⌝⦄
    dropInactive first
    ⦃⇓ _ p => ⌜p.Keeps m.automaton text old⌝⦄ := by
  mvcgen [dropInactive, onStack_spec]
  rename_i p h
  have hdropped := List.foldlRecOn (motive := fun s : Stack ↦
    s.Sane m.automaton text ∧ old <+: s.stands) (List.range p.stack.versions.size).reverse
    (fun t v ↦ if first ≤ v && !t.isActive v then t.removeVersion v else t) ⟨h.stack, h.isPrefix⟩ ?_
  · exact ⟨⟨hdropped.1, h.finished⟩, hdropped.2⟩
  · intro t ht v _
    split
    · rename_i hdrop
      have hv : first ≤ v := of_decide_eq_true (Bool.and_elim_left hdrop)
      rw [stands_removeVersion]
      exact ⟨ht.1.removeVersion v, isPrefix_eraseIdx ht.2 (hfirst.trans hv)⟩
    · exact ht

end

/-! ## Skipping -/

theorem remember_spec (version : Nat) (token : Tree) :
    ⦃fun p ↦ ⌜p.Sane m.automaton text⌝⦄
    remember version token
    ⦃⇓ _ p => ⌜p.Sane m.automaton text⌝⦄ := by
  have honStack := @onStack_sane m text
  mvcgen [remember, honStack]
  exact fun _ _ s hs ↦ hs.remember version _

/-- Of the versions that have come up, the first one takes the place of an earlier one, and the others are
dropped. -/
theorem isAt_takeFirst {s : Stack} {old rest : List Stand} {x : Stand}
    (hstands : s.stands = old ++ x :: rest) (hactive : x.isActive) {version : Nat}
    (hversion : version < old.length) :
    IsAt ((s.takeVersions (old.length + 1)).renumberVersion old.length version).stands version
      x.position := by
  have htaken : (s.takeVersions (old.length + 1)).stands = old ++ [x] := by
    rw [stands_takeVersions, hstands, List.take_length_add_append]
    rfl
  have hlast : (s.takeVersions (old.length + 1)).stands[old.length]? = some x := by simp [htaken]
  obtain ⟨state, place, isActive⟩ := x
  obtain rfl : isActive = true := hactive
  rw [stands_renumberVersion hlast hversion.ne', htaken]
  exact (isAt_set_self state place (by simp; omega)).eraseIdx_of_lt hversion

section

variable {version : Nat} {place stop : Extent}

/-- What was skipped last goes with what is skipped now, from where it begins. -/
theorem joinPiece_spec {piece : Tree} (hpiece : piece.IsPiece) (hlie : Lie text place [piece] stop) :
    ⦃fun p ↦ ⌜p.IsAt m.automaton text version place⌝⦄
    m.joinPiece version piece
    ⦃⇓ joined p => ⌜joined.IsPiece ∧ ∃ start, Lie text start [joined] stop ∧
      p.IsAt m.automaton text version start⌝⦄ := by
  refine triple_of_forall fun p ⟨hsane, hversion⟩ ↦ ?_
  have hsliced := sliced_pop hsane.stack hversion 1
  obtain ⟨rest, hrest, hbegins⟩ := hsliced.exists_stands
  mvcgen [joinPiece, onStack_spec]
  · rename_i hp _ _ _ hslices
    obtain rfl := hp
    rw [hslices] at hbegins
    obtain ⟨x, rest, hslice, -, rfl⟩ := List.forall₂_cons_left_iff.1 hbegins
    have hfirst := congrArg List.head? hsliced.versions
    rw [hslices, List.map_cons, List.length_cons, List.range'_succ, List.head?_cons, List.head?_cons,
      Option.some.injEq] at hfirst
    refine ⟨⟨rfl, rfl⟩, x.position,
      ((hslice.lie _ (headD_mem hslice.nonempty)).append hlie).node _ _ _,
      ⟨(hsliced.sane.takeVersions _).renumberVersion _ _, hsane.finished⟩, ?_⟩
    rw [hfirst]
    exact isAt_takeFirst hrest hslice.isActive (by simpa using hversion.lt_size)
  · obtain rfl := ‹_ = p›
    exact ⟨hpiece, place, hlie, ⟨hsliced.sane, hsane.finished⟩,
      hversion.of_isPrefix hsliced.isPrefix⟩

theorem pushPiece_spec (version : Nat) (piece : Tree) (stop : Extent) :
    ⦃fun p ↦ ⌜piece.IsPiece ∧ ∃ start, Lie text start [piece] stop ∧
      p.IsAt m.automaton text version start⌝⦄
    push version (some piece) Automaton.errorState
    ⦃⇓ _ p => ⌜p.Sane m.automaton text⌝⦄ := by
  rintro p ⟨hpiece, start, hlie, hsane, state, hversion⟩
  exact (pushTree_spec m text hversion hlie (joins_piece hpiece) p ⟨hsane, rfl⟩).toSane

section

variable {lookahead : Tree} (hlie : Lie text place [lookahead] stop)

include hlie

theorem skip_spec (hasNodes : Bool) :
    ⦃fun p ↦ ⌜p.IsAt m.automaton text version place⌝⦄
    m.skip version lookahead hasNodes
    ⦃⇓ _ p => ⌜p.Sane m.automaton text⌝⦄ := by
  have hpiece : (Tree.node m.symbols Symbols.errorPiece [] [m.skippedToken lookahead]).IsPiece :=
    ⟨rfl, rfl⟩
  have hliePiece : Lie text place
      [.node m.symbols Symbols.errorPiece [] [m.skippedToken lookahead]] stop := by
    refine Lie.node ?_ _ _ _
    rw [skippedToken]
    split
    · exact hlie.withExtra true
    · exact hlie
  have hjoinPiece := @joinPiece_spec m text version place stop _ hpiece hliePiece
  have hpushPiece (piece : Tree) := pushPiece_spec m text version piece stop
  have hremember := remember_spec m text version lookahead
  mvcgen [skip, hjoinPiece, hpushPiece, hremember]
  rename_i h
  exact ⟨hpiece, place, hliePiece, h⟩

theorem acceptError_spec (hlookahead : lookahead.IsToken)
    (hend : lookahead.symbol = Symbols.endOfText) :
    ⦃fun p ↦ ⌜p.IsAt m.automaton text version place⌝⦄
    m.accept version [.errorNode m.symbols false [], lookahead]
    ⦃⇓ _ p => ⌜p.Sane m.automaton text⌝⦄ := by
  rintro p ⟨hsane, hversion⟩
  refine accept_spec m text version _ p ⟨hsane, fun trees htrees ↦ ?_⟩
  obtain ⟨hlieTrees, htrees⟩ := isPiece_or_sound_wholesOf hsane.stack hversion trees htrees
  exact standsFor_rootOf_error htrees hlieTrees (hlookahead.sound (hend ▸ by decide))
    (hlookahead.isExtra hend) hlie

theorem recover_spec (hlookahead : lookahead.IsToken) :
    ⦃fun p ↦ ⌜p.IsAt m.automaton text version place⌝⦄
    m.recover version lookahead
    ⦃⇓ _ p => ⌜p.Sane m.automaton text⌝⦄ := by
  refine triple_of_forall fun p ⟨hsane, hversion⟩ ↦ ?_
  have htryRetreats := tryRetreats_spec m text hversion
  have hdropInactive := @dropInactive_spec m text p.stack.stands
  have hacceptError := @acceptError_spec m text version place stop lookahead hlie hlookahead
  have hbetterExists (cost : Nat) := @keeps_of_stands m text _ _ p.stack.stands
    fun stands ↦ @betterExists_spec m text stands version cost
  have hskip := @skip_spec m text version place stop lookahead hlie
  mvcgen [recover, htryRetreats, hdropInactive, hacceptError, hbetterExists, hskip, onStack_spec]
  · obtain rfl := ‹_ = p›
    exact ⟨⟨hsane.stack.lowerMark version, hsane.finished⟩,
      (stands_lowerMark version).symm ▸ List.prefix_rfl⟩
  · obtain rfl := ‹_ = p›
    exact (length_stands _).le
  · rename_i h
    exact h.isAt hversion
  · exact fun _ _ ↦ ‹_›
  · rename_i h _
    exact ⟨h.stack.halt version, h.finished⟩
  · rename_i h
    exact ⟨h.stack.halt version, h.finished⟩
  · rename_i h
    exact h.isAt hversion

end

/-! ## Missing tokens -/

theorem copyVersion_spec {stands : List Stand} {x : Stand} (hversion : stands[version]? = some x) :
    ⦃fun p ↦ ⌜p.Stands m.automaton text stands⌝⦄
    onStack fun s ↦ s.copyVersion version
    ⦃⇓ _ p => ⌜p.Stands m.automaton text (stands ++ [x])⌝⦄ := by
  rintro p ⟨hsane, rfl⟩
  exact ⟨⟨hsane.stack.copyVersion version, hsane.finished⟩, stands_copyVersion hversion⟩

section

variable {stands : List Stand} {copy : Nat} (hcopy : copy = stands.length)

include hcopy

/-- A missing token takes no text. -/
theorem pushMissing_spec (ha : m.automaton.isSound) (hplace : Reached text place) {token : Nat}
    (htoken : token < Symbols.errorPiece) (state : Nat) :
    ⦃fun p ↦ ⌜p.Stands m.automaton text (stands ++ [⟨state, place, true⟩])⌝⦄
    push copy (some (.missing m.symbols token)) (m.next state token)
    ⦃⇓ _ p => ⌜p.Stands m.automaton text (stands ++ [⟨m.next state token, place, true⟩])⌝⦄ := by
  have herror : token ≠ Symbols.error := (htoken.trans (by decide)).ne
  have hlast : (stands ++ [⟨state, place, true⟩])[copy]? = some ⟨state, place, true⟩ := by simp [hcopy]
  have hpush := pushTree_spec m text hlast (lie_missing hplace m.symbols token)
    (joins_inner (sound_missing htoken) (decide_eq_false herror) rfl
      (Automaton.mayFollow_next ha token) (Or.inl fun _ ↦ rfl))
  rwa [hcopy, List.set_append_right _ _ le_rfl, Nat.sub_self, List.set_cons_zero, ← hcopy] at hpush

theorem reduceLast_spec (ha : m.automaton.isSound) (lookahead state : Nat) :
    ⦃fun p ↦ ⌜p.Stands m.automaton text (stands ++ [⟨state, place, true⟩])⌝⦄
    m.reduceAllFrom copy lookahead
    ⦃⇓ _ p => ⌜p.Keeps m.automaton text stands⌝⦄ := by
  have hlast : Stack.IsAt (stands ++ [⟨state, place, true⟩]) copy place := ⟨state, by simp [hcopy]⟩
  have hreduced := reduceAllFrom_spec m text ha copy lookahead hlast
  mvcgen [hreduced]
  intro hsane hspreads
  have hinit := hspreads.isPrefix
  rw [hcopy, List.take_left] at hinit
  exact ⟨hsane, hinit⟩

end

theorem tryMissing_spec (ha : m.automaton.isSound) {old : List Stand}
    (hversion : Stack.IsAt old version place) (lookahead : Nat) {tokens : List Nat}
    (htokens : ∀ token ∈ tokens, token < Symbols.errorPiece) :
    ⦃fun p ↦ ⌜p.Keeps m.automaton text old⌝⦄
    m.tryMissing version lookahead tokens
    ⦃⇓ _ p => ⌜p.Keeps m.automaton text old⌝⦄ := by
  induction tokens with
  | nil => mvcgen [tryMissing]
  | cons token rest ih =>
    rw [List.forall_mem_cons] at htokens
    have hrest := ih htokens.2
    refine triple_of_forall fun p ⟨hsane, hinit⟩ ↦ ?_
    have hversion := hversion.of_isPrefix hinit
    have hcopy := copyVersion_spec m text hversion.getElem?_eq
    have hpush (copy : Nat) (hcopy : copy = p.stack.stands.length) := pushMissing_spec m text hcopy ha
      (hsane.stack.reached hversion) htokens.1
    have hreduceLast (copy : Nat) (hcopy : copy = p.stack.stands.length) :=
      @reduceLast_spec m text place p.stack.stands copy hcopy ha lookahead
    mvcgen [tryMissing, hcopy, hpush, hreduceLast, hrest]
    · obtain rfl := ‹_ = p›
      exact ⟨hsane, hinit⟩
    · obtain rfl := ‹_ = p›
      exact ⟨hsane, rfl⟩
    · obtain rfl := ‹_ = p›
      exact (length_stands _).symm
    · rename_i hp _ _ _ _ _ h
      obtain rfl := hp
      exact h
    · obtain rfl := ‹_ = p›
      exact (length_stands _).symm
    all_goals
      rename_i h
      exact h.trans hinit

theorem tryMissing_areAt (ha : m.automaton.isSound) {all : List Nat} (hversion : version ∈ all)
    (lookahead : Nat) {tokens : List Nat} (htokens : ∀ token ∈ tokens, token < Symbols.errorPiece) :
    ⦃fun p ↦ ⌜p.AreAt m.automaton text all place⌝⦄
    m.tryMissing version lookahead tokens
    ⦃⇓ _ p => ⌜p.AreAt m.automaton text all place⌝⦄ := by
  intro p hp
  have hkeeps := tryMissing_spec m text ha (hp.areAt version hversion) lookahead htokens p
    ⟨hp.toSane, List.prefix_rfl⟩
  exact ⟨hkeeps.toSane, fun v hv ↦ (hp.areAt v hv).of_isPrefix hkeeps.isPrefix⟩

theorem pushError_spec {all : List Nat} (hversion : version ∈ all) :
    ⦃fun p ↦ ⌜p.AreAt m.automaton text all place⌝⦄
    push version none Automaton.errorState
    ⦃⇓ _ p => ⌜p.AreAt m.automaton text all place⌝⦄ := by
  intro p hp
  obtain ⟨state, hv⟩ := hp.areAt version hversion
  have hplace := hp.stack.reached ⟨state, hv⟩
  have hpushed := @push_spec m text _ version place place state _ none hv
    (lie_nil_iff.2 ⟨hplace, rfl⟩) rfl p ⟨hp.toSane, rfl⟩
  exact ⟨hpushed.toSane, fun w hw ↦ hpushed.stands_eq ▸ (hp.areAt w hw).set version _⟩

theorem beginError_spec (ha : m.automaton.isSound) (lookahead : Nat) {all versions : List Nat}
    (hversions : ∀ v ∈ versions, v ∈ all) (didInsert : Bool) :
    ⦃fun p ↦ ⌜p.AreAt m.automaton text all place⌝⦄
    m.beginError lookahead versions didInsert
    ⦃⇓ _ p => ⌜p.AreAt m.automaton text all place⌝⦄ := by
  induction versions generalizing didInsert with
  | nil => mvcgen [beginError]
  | cons version rest ih =>
    rw [List.forall_mem_cons] at hversions
    have hrest := ih hversions.2
    have htryMissing (tokens : List Nat) := @tryMissing_areAt m text version place ha all
      hversions.1 lookahead tokens
    have hpush := @pushError_spec m text version place all hversions.1
    mvcgen [beginError, htryMissing, hpush, hrest]
    intro token htoken
    have htoken := List.mem_range.1 (List.mem_of_mem_drop (List.mem_of_mem_filter htoken))
    exact htoken.trans (Automaton.isSound_iff.1 ha).1

theorem mergeAll_spec {first : Nat} (hfirst : version < first) (count : Nat) :
    ⦃fun p ↦ ⌜p.IsAt m.automaton text version place⌝⦄
    mergeAll version first count
    ⦃⇓ _ p => ⌜p.IsAt m.automaton text version place⌝⦄ := by
  induction count with
  | zero => mvcgen [mergeAll]
  | succ count ih =>
    refine triple_of_forall fun p ⟨hsane, hversion⟩ ↦ ?_
    have hmerge := @merge_spec m text p.stack.stands version first
    mvcgen [mergeAll, hmerge, ih]
    · obtain rfl := ‹_ = p›
      exact ⟨hsane, rfl⟩
    · rename_i merged p' h
      refine ⟨h.toSane, h.stands_eq ▸ ?_⟩
      split
      · exact hversion.eraseIdx_of_lt hfirst
      · exact hversion

/-- Recovering from a token that a version cannot deal with. -/
theorem handleError_spec (ha : m.automaton.isSound) {lookahead : Tree}
    (hlookahead : lookahead.IsToken) (hlie : Lie text place [lookahead] stop) :
    ⦃fun p ↦ ⌜p.IsAt m.automaton text version place⌝⦄
    m.handleError version lookahead
    ⦃⇓ _ p => ⌜p.Sane m.automaton text⌝⦄ := by
  refine triple_of_forall fun p ⟨hsane, hversion⟩ ↦ ?_
  have hreduceAllFrom := reduceAllFrom_spec m text ha version Symbols.endOfText hversion
  have hbeginError (lookahead : Nat) (others : List Nat) := @beginError_spec m text place ha
    lookahead (version :: others) (version :: others) fun _ ↦ id
  have hmergeAll := @mergeAll_spec m text version place
  have hrecover := @recover_spec m text version place stop lookahead hlie hlookahead
  mvcgen [handleError, hreduceAllFrom, hbeginError, hmergeAll, onStack_spec, hrecover]
  · obtain rfl := ‹_ = p›
    exact ⟨hsane, rfl⟩
  · rename_i hp _ _ h _
    obtain rfl := hp
    obtain ⟨hsane', hspreads⟩ := h
    refine ⟨hsane', List.forall_mem_cons.2 ⟨hspreads.start rfl, fun v hv ↦ ?_⟩⟩
    obtain ⟨hlt, hbehind⟩ := List.mem_filter.1 hv
    rw [List.mem_range, ← length_stands] at hlt
    rw [decide_eq_true_eq, ← length_stands] at hbehind
    exact hspreads.behind v hbehind hlt
  · obtain rfl := ‹_ = p›
    exact hversion.lt_size
  · rename_i h
    exact ⟨h.toSane, h.areAt version List.mem_cons_self⟩
  · rename_i h
    exact ⟨⟨h.stack.recordRetreats version _, h.finished⟩, (stands_recordRetreats _ _).symm ▸ h.isAt⟩

end

end Machine

end SourceSurvey.Parsing
