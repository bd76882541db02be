import Mathlib
import SourceSurvey.ParsedFile
import SourceSurvey.Proofs.Parsing.Parser

/-!
# Nodes in a text

Where a node begins and ends is told by the extents in the tree of a parse. They are extents of pieces of
the text that has been read, so a node begins behind a beginning of the text, and ends behind a longer one;
and the nodes in it lie between the two, one behind the other.
-/

namespace SourceSurvey

open Grammar Parsing

/-- The place behind a text. -/
def TextPlace.after (s : List Char) : TextPlace := (Extent.of s).place

namespace SyntaxNode

/-! ## Nodes behind beginnings of a text -/

mutual

/-- A node begins behind a text and ends behind a longer one, and the nodes in it lie between, one behind
the other. -/
def Laid (start stop : List Char) : SyntaxNode → Prop
  | mk info children =>
    info.start = .after start ∧ info.stop = .after stop ∧ LaidAll start stop children

def LaidAll (start stop : List Char) : List SyntaxNode → Prop
  | [] => start <+: stop
  | n :: rest => ∃ first last, start <+: first ∧ Laid first last n ∧ LaidAll last stop rest

end

theorem Laid.start_eq {start stop : List Char} {n : SyntaxNode} (h : n.Laid start stop) :
    n.info.start = .after start := by
  obtain ⟨info, children⟩ := n
  exact h.1

theorem Laid.stop_eq {start stop : List Char} {n : SyntaxNode} (h : n.Laid start stop) :
    n.info.stop = .after stop := by
  obtain ⟨info, children⟩ := n
  exact h.2.1

mutual

theorem Laid.isPrefix {start stop : List Char} {n : SyntaxNode} (h : n.Laid start stop) :
    start <+: stop :=
  match n, h with
  | mk _ _, h => LaidAll.isPrefix h.2.2

theorem LaidAll.isPrefix {start stop : List Char} {ns : List SyntaxNode}
    (h : LaidAll start stop ns) : start <+: stop :=
  match ns, h with
  | [], h => h
  | _ :: _, ⟨_, _, hfirst, hn, hrest⟩ =>
    (hfirst.trans (Laid.isPrefix hn)).trans (LaidAll.isPrefix hrest)

end

section

variable {start stop : List Char}

theorem LaidAll.from_earlier {s : List Char} {ns : List SyntaxNode} (hs : s <+: start)
    (h : LaidAll start stop ns) : LaidAll s stop ns := by
  cases ns with
  | nil => exact hs.trans h
  | cons n rest =>
    obtain ⟨first, last, hfirst, hn, hrest⟩ := h
    exact ⟨first, last, hs.trans hfirst, hn, hrest⟩

theorem LaidAll.append {middle : List Char} {ns ns' : List SyntaxNode} (h : LaidAll start middle ns)
    (h' : LaidAll middle stop ns') : LaidAll start stop (ns ++ ns') := by
  induction ns generalizing start with
  | nil => exact h'.from_earlier h
  | cons n rest ih =>
    obtain ⟨first, last, hfirst, hn, hrest⟩ := h
    exact ⟨first, last, hfirst, hn, ih hrest⟩

theorem laidAll_singleton {n : SyntaxNode} (h : n.Laid start stop) : LaidAll start stop [n] :=
  ⟨start, stop, List.prefix_rfl, h, List.prefix_rfl⟩

end

mutual

/-- What is in a node lies between where it begins and where it ends. -/
theorem Laid.of_mem_nodes {start stop : List Char} {n m : SyntaxNode} (h : n.Laid start stop)
    (hm : m ∈ n.nodes) : ∃ first last, start <+: first ∧ m.Laid first last ∧ last <+: stop :=
  match n, h with
  | mk info children, h => by
    rw [nodes, List.mem_cons] at hm
    rcases hm with rfl | hm
    · exact ⟨start, stop, List.prefix_rfl, h, List.prefix_rfl⟩
    · exact LaidAll.of_mem_nodes h.2.2 hm

theorem LaidAll.of_mem_nodes {start stop : List Char} {ns : List SyntaxNode} {m : SyntaxNode}
    (h : LaidAll start stop ns) (hm : m ∈ nodesOfAll ns) :
    ∃ first last, start <+: first ∧ m.Laid first last ∧ last <+: stop :=
  match ns, h with
  | [], _ => nomatch hm
  | n :: rest, ⟨first, last, hfirst, hn, hrest⟩ => by
    rw [nodesOfAll, List.mem_append] at hm
    rcases hm with hm | hm
    · obtain ⟨first', last', hfirst', hm, hlast'⟩ := Laid.of_mem_nodes hn hm
      exact ⟨first', last', hfirst.trans hfirst', hm, hlast'.trans hrest.isPrefix⟩
    · obtain ⟨first', last', hfirst', hm, hlast'⟩ := LaidAll.of_mem_nodes hrest hm
      exact ⟨first', last', (hfirst.trans hn.isPrefix).trans hfirst', hm, hlast'⟩

end

end SyntaxNode

/-! ## The nodes of a tree -/

namespace Parsing.Tree

section

variable {t : Tree} {trees : List Tree} {text padding : List Char}

/-- What a tree covers of a text is what is left of it behind what is passed over. -/
theorem Spans.exists_covered_of (h : t.Spans text) (hinit : padding <+: text)
    (hpadding : t.info.padding = .of padding) :
    ∃ covered, text = padding ++ covered ∧ t.info.size = .of covered := by
  obtain ⟨padding', covered, rfl, hpadding', hsize⟩ := h.exists_covered
  obtain rfl : padding = padding' :=
    eq_of_bytes_eq hinit (List.prefix_append _ _)
      (congrArg Extent.bytes (hpadding.symm.trans hpadding'))
  exact ⟨covered, rfl, hsize⟩

theorem SpanAll.exists_padding (h : SpanAll trees text) :
    ∃ padding, padding <+: text ∧ paddingOf trees = .of padding := by
  cases trees with
  | nil => exact ⟨[], List.nil_prefix, rfl⟩
  | cons t rest =>
    obtain ⟨first, others, rfl, ht, -⟩ := h
    obtain ⟨padding, covered, rfl, hpadding, -⟩ := ht.exists_covered
    rw [List.append_assoc]
    exact ⟨padding, List.prefix_append _ _, hpadding⟩

end

end Parsing.Tree

namespace SyntaxNode

variable (symbols : Symbols)

mutual

/-- The nodes that a tree shows lie one behind the other in the text that it spans, behind what is passed
over before it. -/
theorem laidAll_lay (t : Tree) {text padding : List Char} (h : t.Spans text)
    (hinit : padding <+: text) (hpadding : t.info.padding = .of padding) (before : List Char)
    (label : Option Label) (shown : Array SyntaxNode) :
    ∃ ns, (lay symbols label (.of (before ++ padding)) shown t).toList = shown.toList ++ ns ∧
      LaidAll (before ++ padding) (before ++ text) ns :=
  match t, h with
  | .mk info children, h => by
    have hwithin : before ++ padding <+: before ++ text := (List.prefix_append_right_inj _).2 hinit
    -- without children there is nothing to be laid
    have hchildren (shown : Array SyntaxNode) :
        ∃ ns, (layAll symbols info.labels (.of (before ++ padding)) shown children).toList =
          shown.toList ++ ns ∧ LaidAll (before ++ padding) (before ++ text) ns := by
      rcases h.2 with rfl | ⟨heq, hspan⟩
      · exact ⟨[], (List.append_nil _).symm, hwithin⟩
      · exact laidAll_layAll children hspan hinit (heq.trans hpadding) before info.labels shown
    rw [lay]
    split_ifs
    · obtain ⟨covered, rfl, hsize⟩ := h.exists_covered_of hinit hpadding
      obtain ⟨ns, hns, hlaid⟩ := hchildren #[]
      refine ⟨_, Array.toList_push, laidAll_singleton ⟨rfl, ?_, ?_⟩⟩
      · rw [infoOf, hsize, ← Extent.of_append, List.append_assoc]
        rfl
      · rw [hns]
        exact hlaid
    · exact hchildren shown

theorem laidAll_layAll (trees : List Tree) {text padding : List Char} (h : Tree.SpanAll trees text)
    (hinit : padding <+: text) (hpadding : Tree.paddingOf trees = .of padding) (before : List Char)
    (labels : List (Option Label)) (shown : Array SyntaxNode) :
    ∃ ns, (layAll symbols labels (.of (before ++ padding)) shown trees).toList =
        shown.toList ++ ns ∧ LaidAll (before ++ padding) (before ++ text) ns :=
  match trees, h with
  | [], _ => ⟨[], (List.append_nil _).symm, (List.prefix_append_right_inj _).2 hinit⟩
  | t :: rest, ⟨first, others, htext, ht, hrest⟩ => by
    subst htext
    obtain ⟨padding', covered, rfl, hpadding', hsize⟩ := ht.exists_covered
    obtain rfl : padding = padding' :=
      eq_of_bytes_eq hinit ((List.prefix_append _ _).trans (List.prefix_append _ _))
        (congrArg Extent.bytes (hpadding.symm.trans hpadding'))
    obtain ⟨next, hnext, hnextPadding⟩ := hrest.exists_padding
    obtain ⟨ns, hns, hlaid⟩ := laidAll_lay t ht (List.prefix_append _ _) hpadding before
      (if t.isExtra then none else labels.head?.join) shown
    obtain ⟨ns', hns', hlaid'⟩ := laidAll_layAll rest hrest hnext hnextPadding
      (before ++ (padding ++ covered)) (if t.isExtra then labels else labels.drop 1)
      (lay symbols (if t.isExtra then none else labels.head?.join) (.of (before ++ padding)) shown t)
    -- the next tree begins behind this one and what is passed over before it
    have hstart : Extent.of (before ++ padding) + t.info.size + Tree.paddingOf rest =
        .of (before ++ (padding ++ covered) ++ next) := by
      rw [hsize, hnextPadding, ← Extent.of_append, ← Extent.of_append, List.append_assoc before]
    rw [layAll, hstart]
    refine ⟨ns ++ ns', ?_, hlaid.append ?_⟩
    · rw [hns', hns, List.append_assoc]
    · rw [← List.append_assoc before _ others]
      exact hlaid'.from_earlier (List.prefix_append _ _)

end

theorem laid_ofTree {t : Tree} {text : List Char} (h : t.Spans text) :
    ∃ padding, (ofTree symbols t).Laid padding text := by
  obtain ⟨info, children⟩ := t
  obtain ⟨padding, covered, rfl, hpadding, -⟩ := h.1
  refine ⟨padding, congrArg Extent.place hpadding, ?_, ?_⟩
  · exact congrArg Extent.place h.extent_eq
  · rcases h.2 with rfl | ⟨heq, hspan⟩
    · exact List.prefix_append _ _
    · obtain ⟨ns, hns, hlaid⟩ := laidAll_layAll symbols children hspan (List.prefix_append _ _)
        (heq.trans hpadding) [] info.labels #[]
      rw [List.nil_append, ← hpadding] at hns
      change LaidAll padding _ (layAll symbols info.labels info.padding #[] children).toList
      rw [hns]
      exact hlaid

end SyntaxNode

/-! ## Parsed files -/

/-- The machine of each language is made from a grammar. -/
theorem Language.exists_machine_eq (l : Language) :
    ∃ g scanner, l.machine = Machine.ofGrammar g scanner := by
  cases l <;> exact ⟨_, _, rfl⟩

theorem Language.standsFor_of_parse (l : Language) {content : String} {t : Tree}
    (h : l.machine.parse content = some t) : t.StandsFor (readable content) := by
  obtain ⟨g, scanner, hmachine⟩ := l.exists_machine_eq
  rw [hmachine] at h
  exact Machine.standsFor_of_parse_ofGrammar g scanner h

namespace ParsedFile

variable {id : FileId} {source : SourceFile} {file : ParsedFile}

theorem parse_eq_ok_iff : ParsedFile.parse id source = .ok file ↔
    ∃ t, source.language.machine.parse source.content = some t ∧
      file = ⟨id, source, .ofTree source.language.machine.symbols t⟩ := by
  rw [ParsedFile.parse, Machine.syntaxTree]
  cases source.language.machine.parse source.content <;> simp [eq_comm]

/-- The syntax tree of a file lies in what is read of its text. -/
theorem exists_laid (h : ParsedFile.parse id source = .ok file) :
    ∃ start stop, stop <+: readable source.content ∧ file.root.Laid start stop := by
  obtain ⟨t, ht, rfl⟩ := parse_eq_ok_iff.1 h
  obtain ⟨covered, hinit, hspans⟩ := (source.language.standsFor_of_parse ht).exists_spans
  obtain ⟨start, hlaid⟩ := SyntaxNode.laid_ofTree source.language.machine.symbols hspans
  exact ⟨start, covered, hinit, hlaid⟩

end ParsedFile

end SourceSurvey
