import Mathlib
import SourceSurvey.Proofs.Parsing.Trees

/-!
# What trees span

A tree carries the extent of the text that it stands for. It spans a text if these are the extents of
the text and of what is passed over before its first token, and if its children span the text one after
the other. Making a node of trees that span texts keeps this, and so does whatever else a parse does to a
tree. Trees lie between two places of a text if they span what is between them.
-/

namespace SourceSurvey.Parsing

open Grammar (Label)

namespace Tree

mutual

/-- A tree spans a text, with its children one after the other if it has any. -/
def Spans : Tree → List Char → Prop
  | mk info children, text =>
    (∃ padding covered, text = padding ++ covered ∧ info.padding = .of padding ∧
      info.size = .of covered) ∧
    (children = [] ∨ paddingOf children = info.padding ∧ SpanAll children text)

/-- Trees span a text one after the other. -/
def SpanAll : List Tree → List Char → Prop
  | [], text => text = []
  | t :: rest, text => ∃ first others, text = first ++ others ∧ Spans t first ∧ SpanAll rest others

end

section

variable {t : Tree} {trees others : List Tree} {text : List Char}

theorem Spans.exists_covered (h : t.Spans text) :
    ∃ padding covered, text = padding ++ covered ∧ t.info.padding = .of padding ∧
      t.info.size = .of covered := by
  cases t
  exact h.1

theorem Spans.extent_eq (h : t.Spans text) : t.extent = .of text := by
  obtain ⟨padding, covered, rfl, hpadding, hsize⟩ := h.exists_covered
  rw [extent, hpadding, hsize, Extent.of_append]

theorem spans_of_children_eq_nil {padding covered : List Char} (hpadding : t.info.padding = .of padding)
    (hsize : t.info.size = .of covered) (hchildren : t.children = []) :
    t.Spans (padding ++ covered) := by
  cases t
  exact ⟨⟨padding, covered, rfl, hpadding, hsize⟩, Or.inl hchildren⟩

/-- Only the extents of a tree and its children matter. -/
theorem Spans.of_info (h : t.Spans text) {info : TreeInfo} (hpadding : info.padding = t.info.padding)
    (hsize : info.size = t.info.size) : (mk info t.children).Spans text := by
  cases t
  rw [Spans, hpadding, hsize]
  exact h

theorem Spans.withExtra (h : t.Spans text) (isExtra : Bool) : (t.withExtra isExtra).Spans text := by
  cases t
  exact h.of_info rfl rfl

theorem Spans.addWeight (h : t.Spans text) (w : Int) : (t.addWeight w).Spans text := by
  cases t
  exact h.of_info rfl rfl

theorem Spans.asToken (h : t.Spans text) (symbols : Symbols) (symbol : Nat) :
    (t.asToken symbols symbol).Spans text := by
  cases t
  exact h.of_info rfl rfl

@[simp] theorem spanAll_nil : SpanAll [] text ↔ text = [] := Iff.rfl

@[simp] theorem spanAll_singleton : SpanAll [t] text ↔ t.Spans text := by
  constructor
  · rintro ⟨first, rest, rfl, hfirst, rfl⟩
    rwa [List.append_nil]
  · exact fun h ↦ ⟨text, [], (List.append_nil _).symm, h, rfl⟩

theorem spanAll_append : SpanAll (trees ++ others) text ↔
    ∃ first rest, text = first ++ rest ∧ SpanAll trees first ∧ SpanAll others rest := by
  induction trees generalizing text with
  | nil =>
    constructor
    · exact fun h ↦ ⟨[], text, rfl, rfl, h⟩
    · rintro ⟨first, rest, rfl, rfl, h⟩
      exact h
  | cons t trees ih =>
    constructor
    · rintro ⟨first, rest, rfl, ht, hrest⟩
      obtain ⟨second, rest, rfl, htrees, hothers⟩ := ih.1 hrest
      exact ⟨first ++ second, rest, (List.append_assoc ..).symm, ⟨first, second, rfl, ht, htrees⟩,
        hothers⟩
    · rintro ⟨_, rest, rfl, ⟨first, second, rfl, ht, htrees⟩, hothers⟩
      exact ⟨first, second ++ rest, List.append_assoc .., ht,
        ih.2 ⟨second, rest, rfl, htrees, hothers⟩⟩

/-- The text of a tree without text of its own is that of its children. -/
theorem Spans.children (h : t.Spans text) (hinner : t.IsInner) : SpanAll t.children text := by
  have hextent := h.extent_eq
  cases t with
  | mk info children =>
    rcases h.2 with rfl | ⟨-, hchildren⟩
    · rw [hinner rfl] at hextent
      have hlength := congrArg Extent.chars hextent
      rw [Extent.chars_of] at hlength
      exact List.eq_nil_of_length_eq_zero hlength.symm
    · exact hchildren

/-! ## Nodes -/

/-- Adding up further children adds their text to what is covered. -/
theorem extents_addChildren (inError : Bool) (labels : List (Option Label)) {s : Sums}
    {covered : List Char} (hsize : s.size = .of covered) (h : SpanAll trees text) :
    (addChildren inError false labels trees s).padding = s.padding ∧
      (addChildren inError false labels trees s).size = .of (covered ++ text) := by
  induction trees generalizing labels s covered text with
  | nil => exact ⟨rfl, by rw [spanAll_nil.1 h, List.append_nil, ← hsize]; rfl⟩
  | cons t rest ih =>
    obtain ⟨first, others, rfl, ht, hrest⟩ := h
    have hadd (label : Option Label) :
        (addChild inError false label s t).size = .of (covered ++ first) := by
      rw [Extent.of_append, ← hsize, ← ht.extent_eq]
      rfl
    rw [addChildren, ← List.append_assoc]
    split <;> exact ih _ (hadd _) hrest

/-- A node spans what its children span. -/
theorem spans_node (symbols : Symbols) (symbol : Nat) (labels : List (Option Label))
    (h : SpanAll trees text) : (node symbols symbol labels trees).Spans text := by
  cases trees with
  | nil => exact ⟨⟨[], [], spanAll_nil.1 h, rfl, rfl⟩, Or.inl rfl⟩
  | cons t rest =>
    obtain ⟨first, others, rfl, ht, hrest⟩ := id h
    obtain ⟨padding, covered, rfl, hpadding, hsize⟩ := ht.exists_covered
    have hextents (inError : Bool) :
        (addChildren inError true labels (t :: rest) .first).padding = t.info.padding ∧
          (addChildren inError true labels (t :: rest) .first).size = .of (covered ++ others) := by
      rw [addChildren]
      split <;> exact extents_addChildren inError _ hsize hrest
    refine ⟨⟨padding, covered ++ others, List.append_assoc .., ?_, (hextents _).2⟩, Or.inr ⟨?_, h⟩⟩
    · exact (hextents _).1.trans hpadding
    · exact (hextents _).1.symm

theorem splitExtras_append (trees : List Tree) :
    (splitExtras trees).1 ++ (splitExtras trees).2 = trees := by
  rw [splitExtras, ← List.reverse_append, List.takeWhile_append_dropWhile, List.reverse_reverse]

end

end Tree

/-! ## Places in a text -/

/-- A place in a text, by the extent of what is before it. -/
def Reached (text : List Char) (place : Extent) : Prop := ∃ before, before <+: text ∧ place = .of before

/-- Trees span what is between two places in a text. -/
def Lie (text : List Char) (start : Extent) (trees : List Tree) (stop : Extent) : Prop :=
  ∃ before covered, before ++ covered <+: text ∧ start = .of before ∧ stop = .of (before ++ covered) ∧
    Tree.SpanAll trees covered

section

variable {text : List Char} {start middle stop : Extent} {t : Tree} {trees others : List Tree}

/-- The bytes before a place tell what is before it. -/
theorem eq_of_bytes_eq {s t : List Char} (hs : s <+: text) (ht : t <+: text)
    (h : (Extent.of s).bytes = (Extent.of t).bytes) : s = t := by
  have heq {s t : List Char} (hst : s <+: t) (h : (Extent.of s).bytes = (Extent.of t).bytes) :
      s = t := by
    obtain ⟨rest, rfl⟩ := hst
    have hrest := Extent.length_le_bytes_of rest
    rw [Extent.of_append, Extent.add_def, Nat.left_eq_add] at h
    rw [h, Nat.le_zero, List.length_eq_zero_iff] at hrest
    rw [hrest, List.append_nil]
  rcases List.prefix_or_prefix_of_prefix hs ht with hst | hts
  · exact heq hst h
  · exact (heq hts h.symm).symm

theorem Reached.eq_of_bytes {p q : Extent} (hp : Reached text p) (hq : Reached text q)
    (h : p.bytes = q.bytes) : p = q := by
  obtain ⟨s, hs, rfl⟩ := hp
  obtain ⟨t, ht, rfl⟩ := hq
  rw [eq_of_bytes_eq hs ht h]

theorem reached_zero (text : List Char) : Reached text .zero := ⟨[], List.nil_prefix, rfl⟩

/-- Going on in a text leads to a place in it. -/
theorem exists_upTo_eq {text : Array Char} {before : List Char} (h : before <+: text.toList)
    (place : Nat) :
    ∃ rest, before ++ rest <+: text.toList ∧
      (Extent.of before).upTo text place = .of (before ++ rest) := by
  refine ⟨(text.extract before.length place).toList, ?_, ?_⟩
  · obtain ⟨rest, hrest⟩ := h
    rw [Array.toList_extract, List.extract_eq_take_drop, ← hrest, List.drop_left,
      List.prefix_append_right_inj]
    exact List.take_prefix _ _
  · rw [Extent.of_append, Extent.upTo, Extent.chars_of, ← Array.foldl_toList, Extent.foldl_behind]

theorem Lie.reached_stop (h : Lie text start trees stop) : Reached text stop := by
  obtain ⟨before, covered, hinit, -, rfl, -⟩ := h
  exact ⟨_, hinit, rfl⟩

theorem lie_nil_iff : Lie text start [] stop ↔ Reached text start ∧ stop = start := by
  constructor
  · rintro ⟨before, covered, hinit, rfl, rfl, rfl⟩
    rw [List.append_nil] at hinit ⊢
    exact ⟨⟨before, hinit, rfl⟩, rfl⟩
  · rintro ⟨⟨before, hinit, rfl⟩, rfl⟩
    exact ⟨before, [], by rwa [List.append_nil], rfl, by rw [List.append_nil], rfl⟩

theorem Lie.append (h : Lie text start trees middle) (h' : Lie text middle others stop) :
    Lie text start (trees ++ others) stop := by
  obtain ⟨before, covered, hinit, rfl, rfl, hspan⟩ := h
  obtain ⟨before', covered', hinit', hbefore, rfl, hspan'⟩ := h'
  obtain rfl : before ++ covered = before' :=
    eq_of_bytes_eq hinit ((List.prefix_append _ _).trans hinit')
      (congrArg Extent.bytes hbefore)
  rw [List.append_assoc] at hinit'
  exact ⟨before, covered ++ covered', hinit', rfl, by rw [List.append_assoc],
    Tree.spanAll_append.2 ⟨covered, covered', rfl, hspan, hspan'⟩⟩

theorem Lie.exists_middle (h : Lie text start (trees ++ others) stop) :
    ∃ middle, Lie text start trees middle ∧ Lie text middle others stop := by
  obtain ⟨before, _, hinit, rfl, rfl, hspan⟩ := h
  obtain ⟨first, rest, rfl, htrees, hothers⟩ := Tree.spanAll_append.1 hspan
  rw [← List.append_assoc] at hinit ⊢
  exact ⟨_, ⟨before, first, (List.prefix_append _ _).trans hinit, rfl, rfl, htrees⟩,
    ⟨before ++ first, rest, hinit, rfl, rfl, hothers⟩⟩

theorem Lie.exists_middle_cons (h : Lie text start (t :: others) stop) :
    ∃ middle, Lie text start [t] middle ∧ Lie text middle others stop :=
  exists_middle (List.singleton_append.symm ▸ h)

theorem Lie.stop_eq (h : Lie text start [t] stop) : stop = start + t.extent := by
  obtain ⟨before, covered, -, rfl, rfl, hspan⟩ := h
  rw [Extent.of_append, (Tree.spanAll_singleton.1 hspan).extent_eq]

/-- Trees may be put for others that span the same text. -/
theorem Lie.of_spanAll (h : Lie text start trees stop)
    (hspan : ∀ covered, Tree.SpanAll trees covered → Tree.SpanAll others covered) :
    Lie text start others stop := by
  obtain ⟨before, covered, hinit, hstart, hstop, hcovered⟩ := h
  exact ⟨before, covered, hinit, hstart, hstop, hspan covered hcovered⟩

theorem Lie.node (h : Lie text start trees stop) (symbols : Symbols) (symbol : Nat)
    (labels : List (Option Label)) : Lie text start [.node symbols symbol labels trees] stop :=
  h.of_spanAll fun _ hspan ↦ Tree.spanAll_singleton.2 (Tree.spans_node symbols symbol labels hspan)

theorem Lie.withExtra (h : Lie text start [t] stop) (isExtra : Bool) :
    Lie text start [t.withExtra isExtra] stop :=
  h.of_spanAll fun _ hspan ↦
    Tree.spanAll_singleton.2 ((Tree.spanAll_singleton.1 hspan).withExtra isExtra)

theorem Lie.addWeight (h : Lie text start [t] stop) (w : Int) :
    Lie text start [t.addWeight w] stop :=
  h.of_spanAll fun _ hspan ↦
    Tree.spanAll_singleton.2 ((Tree.spanAll_singleton.1 hspan).addWeight w)

theorem Lie.asToken (h : Lie text start [t] stop) (symbols : Symbols) (symbol : Nat) :
    Lie text start [t.asToken symbols symbol] stop :=
  h.of_spanAll fun _ hspan ↦
    Tree.spanAll_singleton.2 ((Tree.spanAll_singleton.1 hspan).asToken symbols symbol)

theorem Lie.children (h : Lie text start [t] stop) (hinner : t.IsInner) :
    Lie text start t.children stop :=
  h.of_spanAll fun _ hspan ↦ (Tree.spanAll_singleton.1 hspan).children hinner

theorem lie_missing (h : Reached text start) (symbols : Symbols) (symbol : Nat) :
    Lie text start [.missing symbols symbol] start := by
  refine (lie_nil_iff.2 ⟨h, rfl⟩).of_spanAll fun covered hspan ↦ ?_
  rw [Tree.spanAll_nil.1 hspan, Tree.spanAll_singleton]
  change (Tree.missing symbols symbol).Spans ([] ++ [])
  exact Tree.spans_of_children_eq_nil rfl rfl rfl

end

end SourceSurvey.Parsing
