import Mathlib
import SourceSurvey.Proofs.Parsing.Recovery

/-!
# The tree of a text stands for it

All steps of a parse keep its stack sane, and what it gives back is sound and spans the text: wherever an
error or a missing token is in the tree, the tree costs something, and it costs nothing where there is
none; and the extents that its parts carry are those of pieces of the text, one behind the other.
-/

open Std.Do

set_option mvcgen.warning false

namespace SourceSurvey.Parsing.Machine

open Parsing.Tree Parsing.Stack

variable (m : Machine) (text : Array Char)

/-! ## Finding tokens -/

/-- A token that has been found in a text behind a place. -/
structure IsFound (text : List Char) (place : Extent) (t : Tree) : Prop where
  isToken : t.IsToken
  lie : ∃ stop, Lie text place [t] stop

theorem isFound_leafOf {place : Extent} (hplace : Reached text.toList place) (first last symbol : Nat)
    (isKeyword : Bool) (memory : Option Memory) (changesMemory : Bool) :
    IsFound text.toList place
      (m.leafOf text place first last symbol isKeyword memory changesMemory) := by
  refine ⟨isToken_leaf .., ?_⟩
  obtain ⟨before, hbefore, rfl⟩ := hplace
  obtain ⟨padding, hpadding, hstart⟩ := exists_upTo_eq hbefore first
  obtain ⟨covered, hcovered, hstop⟩ := exists_upTo_eq hpadding last
  rw [List.append_assoc] at hcovered
  refine ⟨_, before, padding ++ covered, hcovered, rfl, rfl, Tree.spanAll_singleton.2 ?_⟩
  refine Tree.spans_of_children_eq_nil ?_ ?_ rfl
  · change (Extent.of before).upTo text first - Extent.of before = Extent.of padding
    rw [hstart, Extent.of_append, Extent.add_sub_self]
  · change ((Extent.of before).upTo text first).upTo text last - (Extent.of before).upTo text first =
      Extent.of covered
    rw [hstart, hstop, Extent.of_append, Extent.add_sub_self]

theorem lexFrom_spec (P : ParseState → Prop) (version state : Nat) {begin : Extent}
    (hbegin : Reached text.toList begin) (fuel place : Nat) (inError : Bool)
    (skipped : Option (Nat × Nat)) :
    ⦃fun p ↦ ⌜P p⌝⦄
    m.lexFrom text version state begin fuel place inError skipped
    ⦃⇓ t p => ⌜P p ∧ IsFound text.toList begin t⌝⦄ := by
  have hleaf := isFound_leafOf m text hbegin
  induction fuel generalizing place inError skipped with
  | zero =>
    mvcgen [lexFrom]
    exact ⟨‹P _›, hleaf ..⟩
  | succ fuel ih =>
    mvcgen [lexFrom, scanAt, isIdle, ih]
    all_goals exact ⟨‹P _›, hleaf ..⟩

theorem lex_spec {p : ParseState} {version : Nat} {place : Extent}
    (hp : p.IsAt m.automaton text.toList version place) (state : Nat) :
    ⦃fun p' ↦ ⌜p' = p⌝⦄
    m.lex text version state
    ⦃⇓ t p' => ⌜p' = p ∧ ∀ x ∈ t, IsFound text.toList place x⌝⦄ := by
  have hlexFrom := @lexFrom_spec m text (· = p) version state
  mvcgen [lex, hlexFrom]
  · exact ⟨‹_ = p›, nofun⟩
  · obtain rfl := ‹_ = p›
    exact (hp.stack.grounded hp.isAt).reached
  · rename_i hp' _ _ _
    obtain rfl := hp'
    rintro rfl ht
    refine ⟨rfl, fun x hx ↦ Option.some.inj hx ▸ ?_⟩
    rw [← hp.isAt.positionOf_eq]
    exact ht

/-! ## Carrying out actions -/

section

variable {text : List Char} {version : Nat} {place stop : Extent}

theorem shift_spec {state target : Nat} {token : Tree} {isExtra : Bool}
    (hlie : Lie text place [token] stop)
    (hjoins : Joins m.automaton state target (some (token.withExtra isExtra))) :
    ⦃fun p ↦ ⌜p.IsAt m.automaton text version place ∧ p.stack.stateOf version = state⌝⦄
    shift version target token isExtra
    ⦃⇓ _ p => ⌜p.Sane m.automaton text⌝⦄ := by
  refine triple_of_forall fun p ⟨⟨hsane, hversion⟩, hstate⟩ ↦ ?_
  have hpush := @pushTree_spec m text p.stack.stands version place stop state target _
    (hstate ▸ hversion.getElem?_eq) (hlie.withExtra isExtra) hjoins
  have hremember := remember_spec m text
  mvcgen [shift, hpush, hremember]
  · obtain rfl := ‹_ = p›
    exact ⟨hsane, rfl⟩
  · rename_i h
    exact h.toSane

/-- What a token may do that an action is for. -/
theorem joins_token {a : Automaton} {state target : Nat} {token : Tree} (htoken : token.IsToken)
    (hsymbol : token.symbol < Symbols.errorPiece) (hfollow : a.mayFollow state target)
    (hclean : a.isClean target = false) :
    Joins a state target (some (token.withExtra false)) := by
  have herror : token.symbol ≠ Symbols.error := (hsymbol.trans (by decide)).ne
  exact joins_inner ((htoken.sound hsymbol).withExtra false) (by simp [isError, herror])
    (isExtra_withExtra false) hfollow (Or.inr hclean)

/-- Where a whole text may end, it stands for the text when it does. -/
theorem standsFor_rootOf_token (ha : m.automaton.isSound) {p : ParseState}
    (hp : p.IsAt m.automaton text version place)
    (hclean : m.automaton.isClean (p.stack.stateOf version)) {token : Tree}
    (htoken : token.IsToken) (hend : token.symbol = Symbols.endOfText)
    (hlie : Lie text place [token] stop) :
    ∀ trees ∈ p.stack.wholesOf version, (m.rootOf (trees ++ [token])).StandsFor text := by
  intro trees htrees
  obtain ⟨hlieTrees, hall⟩ := sound_wholesOf hp.stack ha hp.isAt hclean trees htrees
  have hextra := htoken.isExtra hend
  refine ⟨sound_rootOf (List.forall_mem_append.2 ⟨fun t ht ↦ ?_, List.forall_mem_singleton.2 ?_⟩),
    stop, lie_rootOf (hlieTrees.append hlie) (List.forall_mem_append.2 ⟨fun t ht ↦ ?_,
      List.forall_mem_singleton.2 (Or.inl hextra)⟩)⟩
  · exact ⟨(hall t ht).1, (hall t ht).2.1⟩
  · exact ⟨htoken.sound (hend ▸ by decide), fun _ ↦ hextra⟩
  · exact (hall t ht).2.2

theorem deal_spec (ha : m.automaton.isSound) {state : Nat} {token : Tree}
    (htoken : IsFound text place token) (hsymbol : token.symbol < Symbols.errorPiece)
    {action : Action} (hbacks : m.automaton.Backs state token.symbol action) :
    ⦃fun p ↦ ⌜p.IsAt m.automaton text version place ∧ p.stack.stateOf version = state⌝⦄
    m.deal version state token action
    ⦃⇓ _ p => ⌜p.Sane m.automaton text⌝⦄ := by
  obtain ⟨htoken, stop, hlie⟩ := htoken
  intro p hp
  cases action with
  | shift target isRepetition =>
    exact shift_spec m hlie (joins_token htoken hsymbol hbacks.1 hbacks.2) p hp
  | shiftExtra =>
    have hsound := (htoken.sound hsymbol).withExtra true
    exact shift_spec m hlie (joins_extra hsound (isExtra_withExtra true)) p hp
  | accept =>
    obtain ⟨hp, rfl⟩ := hp
    exact accept_spec m text version _ p
      ⟨hp.toSane, standsFor_rootOf_token m ha hp hbacks.1 htoken hbacks.2 hlie⟩
  | recover => exact recover_spec m text hlie htoken p hp.1
  | reduce r => exact hp.1.toSane

end

/-- What an outcome leaves of the versions: as long as the token is not dealt with, they stand as they
did, and what reductions have made stands at the same place. -/
structure Outcome.Leaves (place : Extent) (old : List Stand) (p : ParseState) (outcome : Outcome) :
    Prop where
  grows : outcome ≠ .dealtWith → Grows place old p.stack.stands
  made : ∀ v ∈ outcome.made, old.length ≤ v ∧ v < p.stack.stands.length

theorem leaves_dealtWith (place : Extent) (old : List Stand) (p : ParseState) :
    Outcome.dealtWith.Leaves place old p :=
  ⟨fun h ↦ absurd rfl h, nofun⟩

/-- An action that is no reduction deals with the token, if there is one. -/
theorem perform_cons_of_ne {version state : Nat} {lookahead : Option Tree} {action : Action}
    {rest : List Action} {outcome : Outcome} (hshift : ∀ target, action ≠ .shift target true)
    (hreduce : ∀ r, action ≠ .reduce r) :
    m.perform version state lookahead (action :: rest) outcome =
      lookahead.elim (m.perform version state lookahead rest outcome)
        (fun token ↦ do m.deal version state token action; pure .dealtWith) := by
  cases action with
  | shift target isRepetition =>
    cases isRepetition with
    | true => exact absurd rfl (hshift target)
    | false => cases lookahead <;> rfl
  | reduce r => exact absurd rfl (hreduce r)
  | _ => cases lookahead <;> rfl

section

variable {text : List Char} {version state : Nat} {place : Extent} {old : List Stand}
  (ha : m.automaton.isSound) (hversion : old[version]? = some ⟨state, place, true⟩)

include ha hversion

theorem reduce_leaves {token : Nat} {r : Reduction}
    (hbacks : m.automaton.Backs state token (.reduce r)) (endsExtra : Bool) {outcome : Outcome}
    (houtcome : outcome ≠ .dealtWith) :
    ⦃fun p ↦ ⌜p.Sane m.automaton text ∧ outcome.Leaves place old p⌝⦄
    m.reduce version r endsExtra
    ⦃⇓ made p => ⌜p.Sane m.automaton text ∧
      (Outcome.reduced (made <|> outcome.made)).Leaves place old p⌝⦄ := by
  refine triple_of_forall fun p ⟨hsane, hleaves⟩ ↦ ?_
  have hgrows := hleaves.grows houtcome
  have hreduce := reduce_spec m text ha hbacks endsExtra
    (getElem?_of_isPrefix hversion hgrows.isPrefix)
  mvcgen [hreduce]
  · obtain rfl := ‹_ = p›
    exact ⟨hsane, rfl⟩
  · rename_i made p'
    intro hsane' hgrows' hmade
    refine ⟨hsane', fun _ ↦ hgrows.trans hgrows', fun v hv ↦ ?_⟩
    cases made with
    | none =>
      obtain ⟨hnew, hlt⟩ := hleaves.made v hv
      exact ⟨hnew, hlt.trans_le hgrows'.isPrefix.length_le⟩
    | some last =>
      obtain ⟨rfl, hlt⟩ := hmade v hv
      exact ⟨hgrows.isPrefix.length_le, hlt⟩

theorem perform_spec {lookahead : Option Tree} {token : Nat} {actions : List Action}
    (hactions : ∀ action ∈ actions, m.automaton.Backs state token action ∧ token < Symbols.errorPiece)
    (hlookahead : ∀ t ∈ lookahead, IsFound text place t ∧ t.symbol = token) {outcome : Outcome}
    (houtcome : outcome ≠ .dealtWith) :
    ⦃fun p ↦ ⌜p.Sane m.automaton text ∧ outcome.Leaves place old p⌝⦄
    m.perform version state lookahead actions outcome
    ⦃⇓ outcome p => ⌜p.Sane m.automaton text ∧ outcome.Leaves place old p⌝⦄ := by
  induction actions generalizing outcome with
  | nil => mvcgen [perform]
  | cons action rest ih =>
    obtain ⟨⟨hbacks, hsymbol⟩, hrest⟩ := List.forall_mem_cons.1 hactions
    have hrest := @ih hrest
    have hdealt (hshift : ∀ target, action ≠ .shift target true) (hreduce : ∀ r, action ≠ .reduce r) :
        ⦃fun p ↦ ⌜p.Sane m.automaton text ∧ outcome.Leaves place old p⌝⦄
        m.perform version state lookahead (action :: rest) outcome
        ⦃⇓ outcome p => ⌜p.Sane m.automaton text ∧ outcome.Leaves place old p⌝⦄ := by
      rw [perform_cons_of_ne m hshift hreduce]
      cases lookahead with
      | none => exact hrest houtcome
      | some t =>
        obtain ⟨hfound, rfl⟩ := hlookahead t rfl
        have hdeal := @deal_spec m text version place ha state t hfound hsymbol action hbacks
        rw [Option.elim_some]
        mvcgen [hdeal]
        · rename_i p h
          have hv := getElem?_of_isPrefix hversion (h.2.grows houtcome).isPrefix
          exact ⟨⟨h.1, state, hv⟩, stateOf_eq_of_stands hv⟩
        · exact ⟨‹_›, leaves_dealtWith place old _⟩
    cases action with
    | shift target isRepetition =>
      cases isRepetition with
      | true => exact hrest houtcome
      | false => exact hdealt (by simp) (by simp)
    | reduce r =>
      have hreduce := @reduce_leaves m text version state place old ha hversion token r hbacks
        lookahead.isNone outcome houtcome
      have hrest (made : Option Nat) := @hrest (.reduced made) nofun
      mvcgen [perform, hreduce, hrest]
    | shiftExtra => exact hdealt (by simp) (by simp)
    | accept => exact hdealt (by simp) (by simp)
    | recover => exact hdealt (by simp) (by simp)

end

/-! ## Going on -/

variable {m} in
theorem numberFor_eq {t : Tree} (ht : t.IsToken) (mustLex : Bool) :
    m.numberFor mustLex (some t) = t.symbol := by
  rw [numberFor, ht.firstToken, ite_self]

/-- What there is to do about a token that has been found is backed by the automaton. -/
theorem performAll_spec (ha : m.automaton.isSound) {text : List Char} {version state : Nat}
    {place : Extent} {old : List Stand} (hversion : old[version]? = some ⟨state, place, true⟩)
    {lookahead : Option Tree} (hlookahead : ∀ t ∈ lookahead, IsFound text place t) (mustLex : Bool) :
    ⦃fun p ↦ ⌜p.Stands m.automaton text old⌝⦄
    m.perform version state lookahead (m.actions state (m.numberFor mustLex lookahead)) .nothing
    ⦃⇓ outcome p => ⌜p.Sane m.automaton text ∧ outcome.Leaves place old p⌝⦄ := by
  have hfound : ∀ t ∈ lookahead, IsFound text place t ∧ t.symbol = m.numberFor mustLex lookahead := by
    rintro t rfl
    exact ⟨hlookahead t rfl, (numberFor_eq (hlookahead t rfl).isToken mustLex).symm⟩
  have hperform := perform_spec m ha hversion (fun _ ↦ backs_of_mem_actions m ha) hfound
    (nofun : Outcome.nothing ≠ .dealtWith)
  exact fun p hp ↦ hperform p ⟨hp.toSane, fun _ ↦ hp.stands_eq ▸ .refl _, nofun⟩

variable {m} in
theorem isFound_of_asWord (hword : m.lexicon.word ≠ some Symbols.endOfText) {text : List Char}
    {place : Extent} {state : Nat} {t word : Tree} (ht : IsFound text place t)
    (h : m.asWord state t = some word) : IsFound text place word := by
  rw [asWord] at h
  split at h
  · rename_i symbol hsymbol
    split at h
    · obtain rfl := Option.some.inj h
      exact ⟨ht.isToken.asToken fun hend ↦ hword (hend ▸ hsymbol),
        ht.lie.imp fun _ hlie ↦ hlie.asToken m.symbols symbol⟩
    · cases h
  · cases h

theorem fetch_spec {p : ParseState} {version : Nat} {place : Extent}
    (hp : p.IsAt m.automaton text.toList version place) (state : Nat) {lookahead : Option Tree}
    (hlookahead : ∀ t ∈ lookahead, IsFound text.toList place t) (mustLex : Bool) :
    ⦃fun p' ↦ ⌜p' = p⌝⦄
    m.fetch text version state lookahead mustLex
    ⦃⇓ t p' => ⌜p' = p ∧ ∀ x ∈ t, IsFound text.toList place x⌝⦄ := by
  have hlex := lex_spec m text hp
  mvcgen [fetch, hlex]

section

variable {m} {text : List Char} {version : Nat} {place : Extent} {old : List Stand} {p : ParseState}
  {outcome : Outcome} (h : outcome.Leaves place old p) (hversion : Stack.IsAt old version place)

include h hversion

/-- A version that no token has been dealt with in is where it was. -/
theorem Outcome.Leaves.isAt (hp : p.Sane m.automaton text) (houtcome : outcome ≠ .dealtWith) :
    p.IsAt m.automaton text version place :=
  ⟨hp, hversion.of_isPrefix (h.grows houtcome).isPrefix⟩

/-- The version that the last reduction has made takes the place of the one that it was made from. -/
theorem Outcome.Leaves.renumberVersion (hp : p.Sane m.automaton text) {made : Nat}
    (hmade : outcome.made = some made) :
    ParseState.IsAt m.automaton text version place
      { p with stack := p.stack.renumberVersion made version } := by
  have houtcome : outcome ≠ .dealtWith := by
    rintro rfl
    cases hmade
  have hlt : version < old.length := (List.getElem?_eq_some_iff.1 hversion.choose_spec).1
  obtain ⟨hnew, hmade⟩ := h.made made hmade
  have hgrows := h.grows houtcome
  refine ⟨⟨hp.stack.renumberVersion _ _, hp.finished⟩, ?_⟩
  rw [stands_renumberVersion (hgrows.isAt hnew hmade).getElem?_eq (hlt.trans_le hnew).ne']
  exact (isAt_set_self _ place (hlt.trans_le hgrows.isPrefix.length_le)).eraseIdx_of_lt
    (hlt.trans_le hnew)

end

theorem advanceWith_spec (ha : m.automaton.isSound)
    (hword : m.lexicon.word ≠ some Symbols.endOfText) {version : Nat} {place : Extent} (fuel : Nat)
    {lookahead : Option Tree} (hlookahead : ∀ t ∈ lookahead, IsFound text.toList place t)
    (mustLex : Bool) :
    ⦃fun p ↦ ⌜p.IsAt m.automaton text.toList version place⌝⦄
    m.advanceWith text version fuel lookahead mustLex
    ⦃⇓ _ p => ⌜p.Sane m.automaton text.toList⌝⦄ := by
  induction fuel generalizing lookahead mustLex with
  | zero => exact fun p hp ↦ ⟨hp.stack.halt version, hp.finished⟩
  | succ fuel ih =>
    refine triple_of_forall fun p hp ↦ ?_
    have hfetch := @fetch_spec m text p version place hp
    have hperform (state : Nat) := @performAll_spec m ha text.toList version state place p.stack.stands
    have hrecover (t : Tree) (ht : IsFound text.toList place t) :=
      @recover_spec m text.toList version place _ t ht.lie.choose_spec ht.isToken
    mvcgen [advanceWith, hfetch, hperform, onStack_spec, ih, hrecover]
    · obtain rfl := ‹_ = p›
      exact hp.isAt.getElem?_eq
    · rename_i h
      exact h.2
    · rename_i h
      obtain rfl := h.1
      exact ⟨hp.toSane, rfl⟩
    · rename_i h
      exact h.1
    · rename_i h _ _ _ _ _
      exact h.2
    · rename_i h
      exact h.2.renumberVersion hp.isAt h.1 rfl
    · rename_i h
      exact ⟨h.1.stack.halt version, h.1.finished⟩
    · rename_i h
      exact ⟨h.1.stack.halt version, h.1.finished⟩
    · rename_i h
      exact h.2.isAt hp.isAt h.1 nofun
    · rename_i hfound _ _ t ht word hasWord
      exact fun _ _ _ x hx ↦ Option.some.inj hx ▸ isFound_of_asWord hword (hfound.2 t ht) hasWord
    · rename_i h
      exact h.2.isAt hp.isAt h.1 nofun
    · rename_i hfound _ _ t ht _ _
      exact fun _ _ _ ↦ hfound.2 t ht
    · rename_i hfound _ _ t ht _ _ _ h
      obtain ⟨htoken, stop, hlie⟩ := hfound.2 t ht
      exact ⟨h.1.stack.pause (h.2.isAt hp.isAt h.1 nofun).isAt htoken hlie, h.1.finished⟩

/-! ## All versions -/

theorem advanceFar_spec (ha : m.automaton.isSound) (hword : m.lexicon.word ≠ some Symbols.endOfText)
    (version fuel far : Nat) :
    ⦃fun p ↦ ⌜p.Sane m.automaton text.toList⌝⦄
    m.advanceFar text version fuel far
    ⦃⇓ _ p => ⌜p.Sane m.automaton text.toList⌝⦄ := by
  induction fuel with
  | zero => mvcgen [advanceFar]
  | succ fuel ih =>
    refine triple_of_forall fun p hp ↦ ?_
    have hadvanceWith := @advanceWith_spec m text ha hword version (p.stack.positionOf version)
    mvcgen [advanceFar, hadvanceWith, ih]
    · exact nofun
    · rename_i h hactive
      obtain rfl := h
      exact ⟨hp, isAt_of_isActive hactive⟩
    · obtain rfl := ‹_ = p›
      exact hp

theorem advanceAll_spec (ha : m.automaton.isSound) (hword : m.lexicon.word ≠ some Symbols.endOfText)
    (fuel version far : Nat) :
    ⦃fun p ↦ ⌜p.Sane m.automaton text.toList⌝⦄
    m.advanceAll text fuel version far
    ⦃⇓ _ p => ⌜p.Sane m.automaton text.toList⌝⦄ := by
  have hadvanceFar := advanceFar_spec m text ha hword
  induction fuel generalizing version far with
  | zero => mvcgen [advanceAll]
  | succ fuel ih => mvcgen [advanceAll, hadvanceFar, ih]

variable {m text} in
/-- What keeps a stack sane wherever its versions stand. -/
theorem sane_of_stands {α : Type} {text : List Char} {x : Parse α} {f : List Stand → α → List Stand}
    (h : ∀ stands, ⦃fun p ↦ ⌜p.Stands m.automaton text stands⌝⦄ x
      ⦃⇓ r p => ⌜p.Stands m.automaton text (f stands r)⌝⦄) :
    ⦃fun p ↦ ⌜p.Sane m.automaton text⌝⦄ x ⦃⇓ _ p => ⌜p.Sane m.automaton text⌝⦄ :=
  fun p hp ↦ (h p.stack.stands p ⟨hp, rfl⟩).toSane

section

variable (text : List Char)

theorem settlePair_spec (first second : Nat) (a b : Standing) :
    ⦃fun p ↦ ⌜p.Sane m.automaton text⌝⦄
    settlePair first second a b
    ⦃⇓ _ p => ⌜p.Sane m.automaton text⌝⦄ := by
  have honStack := @onStack_sane m text
  have hmerge := sane_of_stands fun stands ↦ @merge_spec m text stands first second
  mvcgen [settlePair, honStack, hmerge]
  · exact fun s hs ↦ hs.removeVersion second
  · exact fun s hs ↦ hs.swapVersions second first
  · exact fun s hs ↦ hs.removeVersion first

theorem standing_sane (version : Nat) :
    ⦃fun p ↦ ⌜p.Sane m.automaton text⌝⦄ standing version ⦃⇓ _ p => ⌜p.Sane m.automaton text⌝⦄ :=
  sane_of_stands (f := fun stands _ ↦ stands) fun stands ↦ @standing_spec m text stands version

theorem settleVersion_spec (mine : Standing) (fuel other version : Nat) :
    ⦃fun p ↦ ⌜p.Sane m.automaton text⌝⦄
    settleVersion mine fuel other version
    ⦃⇓ _ p => ⌜p.Sane m.automaton text⌝⦄ := by
  have hstanding := standing_sane m text
  have hsettlePair := settlePair_spec m text
  induction fuel generalizing other version with
  | zero => mvcgen [settleVersion]
  | succ fuel ih => mvcgen [settleVersion, hstanding, hsettlePair, ih]

theorem settleAll_spec (fuel version : Nat) (least : Option Nat) :
    ⦃fun p ↦ ⌜p.Sane m.automaton text⌝⦄
    settleAll fuel version least
    ⦃⇓ _ p => ⌜p.Sane m.automaton text⌝⦄ := by
  have honStack := @onStack_sane m text
  have hstanding := standing_sane m text
  have hsettleVersion := settleVersion_spec m text
  induction fuel generalizing version least with
  | zero => mvcgen [settleAll]
  | succ fuel ih =>
    mvcgen [settleAll, honStack, hstanding, hsettleVersion, ih]
    exact fun s hs ↦ hs.removeVersion version

/-- A version that waits for a token is where the token lies, and goes on from there. -/
theorem resume_spec {p : ParseState} (hp : p.Sane m.automaton text) {version : Nat} {token : Tree}
    (hpaused : (p.stack.version version).status = .paused token) :
    IsFound text (p.stack.positionOf version) token ∧
      ParseState.IsAt m.automaton text version (p.stack.positionOf version)
        { p with stack := p.stack.modifyVersion version fun v ↦ { v with status := .active } } := by
  have hfits := hp.stack.version version
  obtain ⟨htoken, hlie⟩ := hfits.token token hpaused
  have hlt : version < p.stack.versions.size := by
    by_contra hlast
    rw [Stack.version, Array.getD_eq_getD_getElem?, Array.getElem?_eq_none (Nat.le_of_not_lt hlast)]
      at hpaused
    cases hpaused
  refine ⟨⟨htoken, hlie⟩, ⟨hp.stack.modifyVersion ⟨hfits.node, fun _ ↦ hfits.grounded ?_, ?_⟩,
    hp.finished⟩, ?_⟩
  · rw [hpaused]
    intro hhalted
    cases hhalted
  · intro t hactive
    cases hactive
  · rw [stands_modifyVersion]
    exact isAt_set_self _ _ ((length_stands _).symm ▸ hlt)

theorem resumeFrom_spec (ha : m.automaton.isSound) (fuel version count : Nat) (hasActive : Bool)
    (least : Option Nat) :
    ⦃fun p ↦ ⌜p.Sane m.automaton text⌝⦄
    m.resumeFrom fuel version count hasActive least
    ⦃⇓ _ p => ⌜p.Sane m.automaton text⌝⦄ := by
  induction fuel generalizing version count hasActive least with
  | zero => mvcgen [resumeFrom]
  | succ fuel ih =>
    refine triple_of_forall fun p hp ↦ ?_
    have hhandleError (token : Tree) (htoken : IsFound text (p.stack.positionOf version) token) :=
      @handleError_spec m text version _ _ ha token htoken.isToken htoken.lie.choose_spec
    mvcgen [resumeFrom, onStack_spec, hhandleError, ih]
    · obtain rfl := ‹_ = p›
      exact hp
    · rename_i h _ hpaused _ _
      obtain rfl := h
      exact (resume_spec m text hp hpaused).1
    · rename_i h _ hpaused _ _
      obtain rfl := h
      exact (resume_spec m text hp hpaused).2
    · obtain rfl := ‹_ = p›
      exact ⟨hp.stack.removeVersion version, hp.finished⟩
    · obtain rfl := ‹_ = p›
      exact hp

theorem condense_spec (ha : m.automaton.isSound) :
    ⦃fun p ↦ ⌜p.Sane m.automaton text⌝⦄ m.condense ⦃⇓ _ p => ⌜p.Sane m.automaton text⌝⦄ := by
  have honStack := @onStack_sane m text
  have hsettleAll := settleAll_spec m text
  have hresumeFrom := resumeFrom_spec m text ha
  mvcgen [condense, honStack, hsettleAll, hresumeFrom]
  exact fun s hs ↦ hs.takeVersions maxVersions

end

theorem run_spec (ha : m.automaton.isSound) (hword : m.lexicon.word ≠ some Symbols.endOfText)
    (fuel far : Nat) :
    ⦃fun p ↦ ⌜p.Sane m.automaton text.toList⌝⦄
    m.run text fuel far
    ⦃⇓ _ p => ⌜p.Sane m.automaton text.toList⌝⦄ := by
  have hadvanceAll := advanceAll_spec m text ha hword
  have hcondense := condense_spec m text.toList ha
  induction fuel generalizing far with
  | zero => mvcgen [run]
  | succ fuel ih => mvcgen [run, hadvanceAll, hcondense, ih]

theorem grounded_initial (text : List Char) (i : Nat) :
    Grounded text (Stack.nodeIn initial.stack.nodes i) := by
  cases i <;> exact ⟨reached_zero text, fun _ ↦ rfl⟩

theorem sane_initial (text : List Char) : initial.Sane m.automaton text := by
  refine ⟨⟨fun i l hl ↦ ?_, Nat.one_pos, grounded_initial text 0, fun x hx ↦ ?_⟩, nofun⟩
  · cases i <;> exact absurd hl (Array.not_mem_empty l)
  · rw [Array.mem_singleton.1 hx]
    exact ⟨Nat.one_pos, fun _ ↦ grounded_initial text 0, nofun⟩

/-- The tree of a text stands for what is read of it. -/
theorem standsFor_of_parse (ha : m.automaton.isSound)
    (hword : m.lexicon.word ≠ some Symbols.endOfText) {source : String} {t : Tree}
    (h : m.parse source = some t) : t.StandsFor (readable source) :=
  (run_spec m _ ha hword _ 0 initial (sane_initial m _)).finished t h

/-! ## Machines of grammars -/

section

open Grammar

theorem numberOf_token_pos (g : Flat) (i : Nat) : 0 < numberOf g (.token i) := by
  rw [numberOf]
  split
  · split
    · exact Nat.one_pos
    · split <;> exact Nat.succ_pos _
  · exact Nat.succ_pos i

theorem word_ofGrammar (g : Flat) :
    (Lexicon.ofGrammar g).word = g.word.map fun w ↦ numberOf g (.token w) := by
  rw [Lexicon.ofGrammar]
  split
  dsimp only
  split <;> rfl

theorem word_ofGrammar_ne_endOfText (g : Flat) :
    (Lexicon.ofGrammar g).word ≠ some Symbols.endOfText := by
  rw [word_ofGrammar]
  intro h
  obtain ⟨w, -, hw⟩ := Option.map_eq_some_iff.1 h
  exact (numberOf_token_pos g w).ne' hw

theorem isSound_ofGrammar (g : Grammar) (flat : Flat) (l : Lexicon) :
    (Automaton.ofGrammar g flat l).isSound := by
  rw [Automaton.ofGrammar]
  exact Automaton.isSound_guarded _

/-- The trees that the machine of a grammar finds stand for what they are found in. -/
theorem standsFor_of_parse_ofGrammar (g : Grammar) (scanner : Scanner) {source : String} {t : Tree}
    (h : (Machine.ofGrammar g scanner).parse source = some t) : t.StandsFor (readable source) :=
  standsFor_of_parse (Machine.ofGrammar g scanner) (isSound_ofGrammar g _ _)
    (word_ofGrammar_ne_endOfText _) h

end

end SourceSurvey.Parsing.Machine
