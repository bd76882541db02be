import Mathlib
import SourceSurvey.Parsing.Tree

/-!
# Sound trees

A tree that a parse makes costs something if and only if there is an error in it: text that was skipped,
or a token that was put in. This does not hold of what stands on a stack while text is being skipped.
Such pieces cost something of their own, which is not counted again in what holds them; but nothing
other than the node of an error ever does.
-/

namespace SourceSurvey.Parsing.Tree

open Grammar (Label)

@[simp] theorem info_mk (info : TreeInfo) (children : List Tree) :
    (mk info children).info = info := rfl

@[simp] theorem children_mk (info : TreeInfo) (children : List Tree) :
    (mk info children).children = children := rfl

/-- A piece of skipped text that there may be more of. -/
def IsPiece (t : Tree) : Prop := t.symbol = Symbols.errorPiece ∧ t.isExtra = false

/-- Right in a tree there is no text but in its children. -/
def IsInner (t : Tree) : Prop := t.children = [] → t.extent = .zero

/-- A tree without pieces of skipped text but for those in an error, and with the cost of what is in
it. -/
inductive Sound : Tree → Prop
  | error {info : TreeInfo} {children : List Tree} (hsymbol : info.symbol = Symbols.error)
      (hvisible : info.isVisible = true) (hcost : 0 < info.errorCost)
      (hinner : (mk info children).IsInner) (hchildren : ∀ c ∈ children, ¬c.IsPiece → Sound c) :
      Sound (mk info children)
  | plain {info : TreeInfo} {children : List Tree} (hsymbol : info.symbol < Symbols.errorPiece)
      (hcost : 0 < info.errorCost ↔ ∃ c ∈ children, 0 < c.errorCost)
      (hchildren : ∀ c ∈ children, Sound c) : Sound (mk info children)

/-- A token that has been found in a text. -/
structure IsToken (t : Tree) : Prop where
  children : t.children = []
  errorCost : t.info.errorCost = 0
  firstToken : t.info.firstToken = t.symbol
  isExtra : t.symbol = Symbols.endOfText → t.isExtra = true

/-! ## Making trees -/

section

variable {t : Tree} {symbols : Symbols} {children : List Tree}

theorem Sound.symbol_ne (h : t.Sound) : t.symbol ≠ Symbols.errorPiece := by
  cases h with
  | error hsymbol => exact fun h ↦ absurd (hsymbol.symm.trans h) (by decide)
  | plain hsymbol => exact hsymbol.ne

theorem Sound.of_mem_children (h : t.Sound) : ∀ c ∈ t.children, ¬c.IsPiece → c.Sound := by
  cases h with
  | error _ _ _ _ hchildren => exact hchildren
  | plain _ _ hchildren => exact fun c hc _ ↦ hchildren c hc

/-- The text of an error is in what it holds. -/
theorem Sound.isInner (h : t.Sound) (herror : t.isError) : t.IsInner := by
  cases h with
  | error _ _ _ hinner => exact hinner
  | plain hsymbol =>
    exact absurd (hsymbol.trans (by decide : Symbols.errorPiece < Symbols.error))
      (of_decide_eq_true herror).ge.not_gt

theorem Sound.withExtra (h : t.Sound) (isExtra : Bool) : (t.withExtra isExtra).Sound := by
  cases h with
  | error hsymbol hvisible hcost hinner hchildren =>
    exact .error hsymbol hvisible hcost hinner hchildren
  | plain hsymbol hcost hchildren => exact .plain hsymbol hcost hchildren

theorem Sound.addWeight (h : t.Sound) (w : Int) : (t.addWeight w).Sound := by
  cases h with
  | error hsymbol hvisible hcost hinner hchildren =>
    exact .error hsymbol hvisible hcost hinner hchildren
  | plain hsymbol hcost hchildren => exact .plain hsymbol hcost hchildren

@[simp] theorem symbol_withExtra (isExtra : Bool) : (t.withExtra isExtra).symbol = t.symbol := by
  cases t
  rfl

@[simp] theorem isExtra_withExtra (isExtra : Bool) : (t.withExtra isExtra).isExtra = isExtra := by
  cases t
  rfl

@[simp] theorem symbol_addWeight (w : Int) : (t.addWeight w).symbol = t.symbol := by
  cases t
  rfl

@[simp] theorem isExtra_addWeight (w : Int) : (t.addWeight w).isExtra = t.isExtra := by
  cases t
  rfl

@[simp] theorem symbol_node (symbol : Nat) (labels : List (Option Label)) :
    (node symbols symbol labels children).symbol = symbol := rfl

@[simp] theorem isExtra_node (symbol : Nat) (labels : List (Option Label)) :
    (node symbols symbol labels children).isExtra = false := rfl

@[simp] theorem children_node (symbol : Nat) (labels : List (Option Label)) :
    (node symbols symbol labels children).children = children := rfl

theorem isInner_node (symbol : Nat) (labels : List (Option Label)) :
    (node symbols symbol labels children).IsInner := by
  rintro rfl
  rfl

theorem IsInner.addWeight (h : t.IsInner) (w : Int) : (t.addWeight w).IsInner := by
  cases t
  exact h

theorem IsInner.withExtra (h : t.IsInner) (isExtra : Bool) : (t.withExtra isExtra).IsInner := by
  cases t
  exact h

theorem sound_missing {symbol : Nat} (h : symbol < Symbols.errorPiece) :
    (missing symbols symbol).Sound :=
  .plain h (by simp) (by simp)

theorem IsToken.sound (h : t.IsToken) (hsymbol : t.symbol < Symbols.errorPiece) : t.Sound := by
  cases t with
  | mk info children =>
    obtain ⟨rfl, hcost, -, -⟩ := h
    exact .plain hsymbol (by simp [show info.errorCost = 0 from hcost]) (by simp)

theorem isToken_leaf (symbol : Nat) (padding size : Extent) (isKeyword : Bool)
    (memory : Option Memory) (changesMemory : Bool) :
    (leaf symbols symbol padding size isKeyword memory changesMemory).IsToken :=
  ⟨rfl, rfl, rfl, fun h ↦ decide_eq_true h⟩

theorem IsToken.asToken (h : t.IsToken) {symbol : Nat} (hsymbol : symbol ≠ Symbols.endOfText) :
    (t.asToken symbols symbol).IsToken := by
  cases t
  exact ⟨h.children, h.errorCost, rfl, fun h ↦ absurd h hsymbol⟩

/-- What children of a node that is no error cost. -/
theorem errorCost_addChildren {isFirst : Bool} {labels : List (Option Label)} {s : Sums}
    (h : ∀ c ∈ children, c.symbol ≠ Symbols.errorPiece) :
    (addChildren false isFirst labels children s).errorCost =
      s.errorCost + (children.map Tree.errorCost).sum := by
  induction children generalizing isFirst labels s with
  | nil => simp [addChildren]
  | cons c rest ih =>
    have hc := h c List.mem_cons_self
    have hrest : ∀ c ∈ rest, c.symbol ≠ Symbols.errorPiece := fun c hc ↦
      h c (List.mem_cons_of_mem _ hc)
    have hadd (label : Option Label) :
        (addChild false isFirst label s c).errorCost = s.errorCost + c.errorCost := by
      simp [addChild, hc]
    rw [addChildren]
    split <;> simp [ih hrest, hadd, Nat.add_assoc]

theorem sound_node {symbol : Nat} {labels : List (Option Label)}
    (hsymbol : symbol < Symbols.errorPiece) (hchildren : ∀ c ∈ children, c.Sound) :
    (node symbols symbol labels children).Sound := by
  have hplain : (symbol = Symbols.error || symbol = Symbols.errorPiece) = false := by
    have herror : symbol ≠ Symbols.error := (hsymbol.trans (by decide)).ne
    simp [herror, hsymbol.ne]
  have hcost : (addChildren false true labels children .first).errorCost =
      (children.map Tree.errorCost).sum := by
    rw [errorCost_addChildren fun c hc ↦ (hchildren c hc).symbol_ne]
    exact Nat.zero_add _
  refine .plain hsymbol ?_ hchildren
  simp only [hplain, hcost, Bool.false_eq_true, if_false, Nat.add_zero]
  rw [Nat.pos_iff_ne_zero, ne_eq, List.sum_eq_zero_iff]
  simp [Nat.pos_iff_ne_zero]

/-- The node of an error may hold pieces of skipped text. -/
theorem sound_error {labels : List (Option Label)}
    (hchildren : ∀ c ∈ children, ¬c.IsPiece → c.Sound) :
    (node symbols Symbols.error labels children).Sound := by
  refine .error rfl ?_ ?_ (isInner_node _ labels) hchildren
  · simp [Symbols.isVisible]
  · simp only [cost, decide_true, Bool.true_or, if_true]
    omega

end

/-! ## What is in a tree -/

mutual

/-- A tree and all trees in it, each with whether it shows. -/
def parts (label : Option Label) : Tree → List (Tree × Bool)
  | mk info children =>
    (mk info children, label.isSome || info.isVisible) :: partsOfAll info.labels children

def partsOfAll (labels : List (Option Label)) : List Tree → List (Tree × Bool)
  | [] => []
  | t :: rest =>
    parts (if t.isExtra then none else labels.head?.join) t ++
      partsOfAll (if t.isExtra then labels else labels.drop 1) rest

end

theorem mem_partsOfAll {part : Tree × Bool} {labels : List (Option Label)} {children : List Tree}
    (h : part ∈ partsOfAll labels children) : ∃ c ∈ children, ∃ label, part ∈ c.parts label := by
  induction children generalizing labels with
  | nil => simp [partsOfAll] at h
  | cons t rest ih =>
    rw [partsOfAll, List.mem_append] at h
    rcases h with h | h
    · exact ⟨t, List.mem_cons_self, _, h⟩
    · obtain ⟨c, hc, label, hpart⟩ := ih h
      exact ⟨c, List.mem_cons_of_mem t hc, label, hpart⟩

theorem parts_subset_partsOfAll {c : Tree} {children : List Tree} (h : c ∈ children)
    (labels : List (Option Label)) : ∃ label, c.parts label ⊆ partsOfAll labels children := by
  induction children generalizing labels with
  | nil => cases h
  | cons t rest ih =>
    rw [partsOfAll]
    rcases List.mem_cons.1 h with rfl | h
    · exact ⟨_, List.subset_append_left _ _⟩
    · obtain ⟨label, hsubset⟩ := ih h _
      exact ⟨label, List.subset_append_of_subset_right _ hsubset⟩

theorem errorCost_of_isMissing {t : Tree} (h : t.info.isMissing = true) : 0 < t.errorCost := by
  rw [errorCost, if_pos h]
  decide

theorem errorCost_of_info {t : Tree} (h : 0 < t.info.errorCost) : 0 < t.errorCost := by
  rw [errorCost]
  split
  · decide
  · exact h

/-- Where there is a cost, an error shows or a token is missing. -/
theorem Sound.exists_part {t : Tree} (h : t.Sound) (hcost : 0 < t.errorCost)
    (label : Option Label) :
    ∃ part ∈ t.parts label, part.1.info.isMissing = true ∨ part.1.isError = true ∧ part.2 = true := by
  induction h generalizing label with
  | error hsymbol hvisible =>
    rw [parts]
    exact ⟨_, List.mem_cons_self, Or.inr ⟨decide_eq_true hsymbol, by simp [hvisible]⟩⟩
  | @plain info children hsymbol hsum _ ih =>
    rw [parts]
    by_cases hmissing : info.isMissing = true
    · exact ⟨_, List.mem_cons_self, Or.inl hmissing⟩
    · have hbelow : 0 < info.errorCost := by
        rwa [errorCost, info_mk, if_neg hmissing] at hcost
      obtain ⟨c, hc, hpos⟩ := hsum.1 hbelow
      obtain ⟨label', hsubset⟩ := parts_subset_partsOfAll hc info.labels
      obtain ⟨part, hpart, hfault⟩ := ih c hc hpos label'
      exact ⟨part, List.mem_cons_of_mem _ (hsubset hpart), hfault⟩

/-- Errors and missing tokens cost something, wherever they are. -/
theorem Sound.errorCost_pos {t : Tree} (h : t.Sound) {label : Option Label} {part : Tree × Bool}
    (hpart : part ∈ t.parts label)
    (hfault : part.1.info.isMissing = true ∨ part.1.isError = true) : 0 < t.errorCost := by
  induction h generalizing label with
  | error _ _ hcost => exact errorCost_of_info hcost
  | @plain info children hsymbol hsum _ ih =>
    rw [parts] at hpart
    rcases List.mem_cons.1 hpart with rfl | hpart
    · rcases hfault with hmissing | herror
      · exact errorCost_of_isMissing hmissing
      · have hsame : info.symbol = Symbols.error := of_decide_eq_true herror
        rw [hsame] at hsymbol
        exact absurd hsymbol (by decide)
    · obtain ⟨c, hc, label', hpart⟩ := mem_partsOfAll hpart
      exact errorCost_of_info (hsum.2 ⟨c, hc, ih c hc hpart⟩)

end SourceSurvey.Parsing.Tree
