import SourceSurvey.Proofs.Encoding.Utf8
import SourceSurvey.Proofs.SyntaxTree.Layout
import SourceSurvey.Proofs.SyntaxTree.Preorder

/-!
# Positions of nodes

Where a node begins and ends is told in two ways: by the bytes before it, and by a line and a column. Both
are read off the extent of a beginning of the text; both agree with its bytes, in which a line ends at each
line feed. A node begins and ends between two characters, so the bytes that it covers are a piece of the
text again.
-/

namespace SourceSurvey

open Encoding Parsing

/-! ## Places behind a text -/

/-- The number of line feeds among the bytes before an offset. -/
def lineAt (bytes : List UInt8) (offset : Nat) : Nat := (bytes.take offset).count 10

/-- The number of bytes from the last line feed before an offset on, or from the start if there is
none. -/
def columnAt (bytes : List UInt8) (offset : Nat) : Nat :=
  ((bytes.take offset).reverse.takeWhile (· ≠ 10)).length

namespace TextPlace

/-- The place behind a text, read off its bytes. -/
theorem after_eq (s : List Char) :
    after s = ⟨(Utf8.encode s).length, (Utf8.encode s).count 10,
      ((Utf8.encode s).reverse.takeWhile (· ≠ 10)).length⟩ := by
  induction s using List.reverseRecOn with
  | nil => rfl
  | append_singleton s c ih =>
    have hencode : Utf8.encode (s ++ [c]) = Utf8.encode s ++ String.utf8EncodeChar c := by
      rw [Utf8.encode_append]
      exact congrArg (_ ++ ·) (List.flatMap_singleton _ c)
    have hafter : after (s ++ [c]) = ((Extent.of s).behind c).place := by
      rw [after, Extent.of, List.foldl_append]
      rfl
    obtain ⟨hbyte, hline, hcolumn⟩ := TextPlace.mk.inj ih
    rw [hafter, hencode, Extent.behind]
    by_cases hc : c = '\n'
    · have hbytes : String.utf8EncodeChar '\n' = [10] := rfl
      rw [if_pos hc, hc, hbytes, Extent.place, hbyte, hline]
      simp
    · have hnone : ∀ b ∈ String.utf8EncodeChar c, b ≠ 10 := by
        rintro b hb rfl
        exact hc (Char.toNat_inj.1 ((Utf8.ofNat_mem_utf8EncodeChar (n := 10) (by decide)).1 hb))
      have hcount : (String.utf8EncodeChar c).count 10 = 0 :=
        List.count_eq_zero.2 fun h ↦ hnone 10 h rfl
      rw [if_neg hc, Extent.place, hbyte, hline, hcolumn, List.reverse_append,
        List.takeWhile_append_of_pos (by simpa using hnone)]
      simp [hcount, Nat.add_comm]

theorem byte_after (s : List Char) : (after s).byte = (Utf8.encode s).length := by rw [after_eq]

theorem line_after (s : List Char) : (after s).line = (Utf8.encode s).count 10 := by rw [after_eq]

theorem column_after (s : List Char) :
    (after s).column = ((Utf8.encode s).reverse.takeWhile (· ≠ 10)).length := by rw [after_eq]

/-- Behind the bytes of a text, the line and the column are those of the place behind it. -/
theorem after_at {bytes : List UInt8} {offset : Nat} {s : List Char}
    (h : bytes.take offset = Utf8.encode s) :
    (after s).line = lineAt bytes offset ∧ (after s).column = columnAt bytes offset := by
  rw [lineAt, columnAt, h]
  exact ⟨line_after s, column_after s⟩

theorem after_le (s : List Char) :
    (after s).line ≤ (Utf8.encode s).length ∧ (after s).column ≤ (Utf8.encode s).length := by
  rw [line_after, column_after]
  have hcolumn := (List.takeWhile_sublist (fun b ↦ decide (b ≠ 10))
    (l := (Utf8.encode s).reverse)).length_le
  rw [List.length_reverse] at hcolumn
  exact ⟨List.count_le_length, hcolumn⟩

end TextPlace

/-! ## What a parser reads -/

theorem charsWithin_isPrefix (n : Nat) (s : List Char) : charsWithin n s <+: s := by
  fun_induction charsWithin n s with
  | case1 n => exact List.prefix_rfl
  | case2 n c cs _ ih => exact (List.cons_prefix_cons).2 ⟨rfl, ih⟩
  | case3 n c cs _ => exact List.nil_prefix

theorem length_encode_charsWithin_le (n : Nat) (s : List Char) :
    (Utf8.encode (charsWithin n s)).length ≤ n := by
  fun_induction charsWithin n s with
  | case1 n => exact Nat.zero_le n
  | case2 n c cs h ih =>
    rw [Utf8.encode, List.flatMap_cons, List.length_append, String.length_utf8EncodeChar]
    rw [Utf8.encode] at ih
    omega
  | case3 n c cs _ => exact Nat.zero_le n

theorem readable_isPrefix (content : String) : readable content <+: content.toList := by
  unfold readable
  split_ifs
  · exact List.prefix_rfl
  · exact charsWithin_isPrefix _ _

/-- A parser can count the bytes that it reads. -/
theorem length_encode_readable_lt (content : String) :
    (Utf8.encode (readable content)).length < UInt32.size := by
  unfold readable
  split_ifs with h
  · rwa [Utf8.length_encode, String.ofList_toList]
  · exact (length_encode_charsWithin_le _ _).trans_lt (Nat.mod_lt _ (by decide))

/-! ## Nodes -/

namespace SyntaxNode

/-- A node covers a piece of a text: it begins behind what comes before, and ends behind the piece. -/
structure Covers (n : SyntaxNode) (content : String) (before covered : List Char) : Prop where
  isPrefix : before ++ covered <+: content.toList
  countable : (Utf8.encode (before ++ covered)).length < UInt32.size
  start : n.info.start = .after before
  stop : n.info.stop = .after (before ++ covered)

end SyntaxNode

/-- What lies in what is read of a text covers a piece of the text. -/
theorem SyntaxNode.Laid.covers {content : String} {before stop : List Char} {n : SyntaxNode}
    (h : n.Laid before stop) (hread : stop <+: readable content) :
    ∃ covered, n.Covers content before covered := by
  obtain ⟨covered, rfl⟩ := h.isPrefix
  refine ⟨covered, hread.trans (readable_isPrefix content), ?_, h.start_eq, h.stop_eq⟩
  obtain ⟨rest, hrest⟩ := hread
  have hcount := length_encode_readable_lt content
  rw [← hrest, Utf8.encode_append, List.length_append] at hcount
  exact (Nat.le_add_right _ _).trans_lt hcount

theorem ParsedFile.exists_covers {id : FileId} {source : SourceFile} {file : ParsedFile}
    (h : ParsedFile.parse id source = .ok file) {n : SyntaxNode} (hn : n ∈ file.root.nodes) :
    ∃ before covered, n.Covers source.content before covered := by
  obtain ⟨start, stop, hread, hlaid⟩ := exists_laid h
  obtain ⟨first, last, -, hn, hlast⟩ := hlaid.of_mem_nodes hn
  exact ⟨first, hn.covers (hlast.trans hread)⟩

namespace SyntaxNode.Covers

variable {n : SyntaxNode} {content : String} {before covered : List Char}

theorem exists_after (h : n.Covers content before covered) :
    ∃ after, content.toList = before ++ covered ++ after :=
  h.isPrefix.imp fun _ ↦ Eq.symm

theorem byte_start (h : n.Covers content before covered) :
    n.info.start.byte = (Utf8.encode before).length := by rw [h.start, TextPlace.byte_after]

theorem byte_stop (h : n.Covers content before covered) :
    n.info.stop.byte = (Utf8.encode (before ++ covered)).length := by rw [h.stop, TextPlace.byte_after]

/-- Up to where a node begins, the bytes are those of what comes before it. -/
theorem take_start (h : n.Covers content before covered) :
    (Utf8.encode content.toList).take n.info.start.byte = Utf8.encode before := by
  obtain ⟨after, hcontent⟩ := h.exists_after
  rw [hcontent, h.byte_start, List.append_assoc, Utf8.encode_append]
  exact List.take_left

theorem take_stop (h : n.Covers content before covered) :
    (Utf8.encode content.toList).take n.info.stop.byte = Utf8.encode (before ++ covered) := by
  obtain ⟨after, hcontent⟩ := h.exists_after
  rw [hcontent, h.byte_stop, Utf8.encode_append _ after]
  exact List.take_left

theorem drop_take (h : n.Covers content before covered) :
    ((Utf8.encode content.toList).take n.info.stop.byte).drop n.info.start.byte =
      Utf8.encode covered := by
  rw [h.take_stop, h.byte_start, Utf8.encode_append]
  exact List.drop_left

theorem start_le_stop (h : n.Covers content before covered) :
    n.info.start.byte ≤ n.info.stop.byte := by
  rw [h.byte_start, h.byte_stop, Utf8.encode_append, List.length_append]
  exact Nat.le_add_right _ _

theorem stop_le_length (h : n.Covers content before covered) :
    n.info.stop.byte ≤ (Utf8.encode content.toList).length := by
  obtain ⟨after, hcontent⟩ := h.exists_after
  rw [hcontent, h.byte_stop, Utf8.encode_append _ after, List.length_append]
  exact Nat.le_add_right _ _

theorem textIn_eq (h : n.Covers content before covered) :
    n.textIn content = String.ofList covered := by
  have hbytes : (content.toUTF8.extract n.info.start.byte n.info.stop.byte).toList =
      Utf8.encode covered := by
    rw [Utf8.toList_eq_data, ByteArray.data_extract, Array.toList_extract, ← Utf8.toList_eq_data,
      Utf8.toList_toUTF8, List.extract_eq_take_drop, ← List.drop_take, h.drop_take]
  rw [textIn, hbytes, Utf8.strict?_encode, Option.getD_some]

/-- The numbers of a node's range are small enough to be kept. -/
theorem toNat_range (h : n.Covers content before covered) :
    n.range.startLine.toNat = n.info.start.line ∧ n.range.startColumn.toNat = n.info.start.column ∧
      n.range.endLine.toNat = n.info.stop.line ∧ n.range.endColumn.toNat = n.info.stop.column := by
  have hstart : (Utf8.encode before).length < UInt32.size := by
    refine lt_of_le_of_lt ?_ h.countable
    rw [Utf8.encode_append, List.length_append]
    exact Nat.le_add_right _ _
  obtain ⟨hline, hcolumn⟩ := TextPlace.after_le before
  obtain ⟨hline', hcolumn'⟩ := TextPlace.after_le (before ++ covered)
  rw [← h.start] at hline hcolumn
  rw [← h.stop] at hline' hcolumn'
  exact ⟨UInt32.toNat_ofNat_of_lt' (hline.trans_lt hstart),
    UInt32.toNat_ofNat_of_lt' (hcolumn.trans_lt hstart),
    UInt32.toNat_ofNat_of_lt' (hline'.trans_lt h.countable),
    UInt32.toNat_ofNat_of_lt' (hcolumn'.trans_lt h.countable)⟩

end SyntaxNode.Covers

namespace ParsedFile

/-- A parse fails only for want of a tree. If there is one, each node that a visit shows covers a piece of
the text, whole characters of it, and its text is this piece. Its location has the number of the file, and
tells the same places by lines and columns that its bytes tell. -/
theorem location_agrees (id : FileId) (source : SourceFile) :
    match ParsedFile.parse id source with
    | .error e => e = .parseFailed source.path
    | .ok file => file.source = source ∧ ∀ namedOnly, ∀ n ∈ file.root.visited namedOnly,
      let bytes := source.content.toUTF8.toList
      let start := n.info.start.byte
      let stop := n.info.stop.byte
      let location := file.locationOf n
      (∃ before covered after : String, source.content = before ++ covered ++ after ∧
        before.utf8ByteSize = start ∧ (before ++ covered).utf8ByteSize = stop ∧
        file.textOf n = covered) ∧
      start ≤ stop ∧ stop ≤ bytes.length ∧
      (file.textOf n).toUTF8.toList = (bytes.take stop).drop start ∧
      location.file = id ∧
      location.range.startLine.toNat = lineAt bytes start ∧
      location.range.startColumn.toNat = columnAt bytes start ∧
      location.range.endLine.toNat = lineAt bytes stop ∧
      location.range.endColumn.toNat = columnAt bytes stop := by
  cases hparse : ParsedFile.parse id source with
  | error e => exact (parse_eq_error_iff.1 hparse).2
  | ok file =>
    obtain ⟨hid, hsource⟩ := eq_of_parse_eq_ok hparse
    refine ⟨hsource, fun namedOnly n hn ↦ ?_⟩
    intro bytes start stop location
    rw [SyntaxNode.visited_eq_filter] at hn
    obtain ⟨before, covered, hcovers⟩ := exists_covers hparse (List.mem_filter.1 hn).1
    obtain ⟨after, hcontent⟩ := hcovers.exists_after
    have hbytes : bytes = Utf8.encode source.content.toList := Utf8.toList_toUTF8 _
    have htext : file.textOf n = String.ofList covered := by rw [textOf, hsource, hcovers.textIn_eq]
    have hlength (s : List Char) : (String.ofList s).utf8ByteSize = (Utf8.encode s).length :=
      (Utf8.length_encode s).symm
    obtain ⟨hline, hcolumn⟩ := TextPlace.after_at hcovers.take_start
    obtain ⟨hline', hcolumn'⟩ := TextPlace.after_at hcovers.take_stop
    rw [← hbytes, ← hcovers.start] at hline hcolumn
    rw [← hbytes, ← hcovers.stop] at hline' hcolumn'
    obtain ⟨hstartLine, hstartColumn, hendLine, hendColumn⟩ := hcovers.toNat_range
    refine ⟨⟨.ofList before, .ofList covered, .ofList after, ?_, ?_, ?_, htext⟩,
      hcovers.start_le_stop, hbytes ▸ hcovers.stop_le_length, ?_, hid, hstartLine.trans hline,
      hstartColumn.trans hcolumn, hendLine.trans hline', hendColumn.trans hcolumn'⟩
    · rw [← String.ofList_append, ← String.ofList_append, ← hcontent, String.ofList_toList]
    · rw [hlength, ← hcovers.byte_start]
    · rw [← String.ofList_append, hlength, ← hcovers.byte_stop]
    · rw [htext, Utf8.toList_toUTF8, String.toList_ofList, hbytes, ← hcovers.drop_take]

end ParsedFile

end SourceSurvey
