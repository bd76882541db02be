import SourceSurvey.Config
import SourceSurvey.Location
import SourceSurvey.Proofs.Json.Records
import SourceSurvey.SourceFile
import SourceSurvey.Summary

/-!
# What is written is read back

The compact text of a language, a source file, a place in the files, the totals of a survey or a
configuration is read back as what it was. Where a number is asked for, a decimal literal is accepted
exactly if it is below the bound of the type of that number, and it stands for no other number.
-/

namespace SourceSurvey

open Json Reader

/-! ## Fields -/

section

variable (name expected : String) {n bound : Nat}

theorem reads_string (s : String) : Field.Reads ⟨name, Value.string <$> text⟩ (.string s) :=
  fun rest _ ↦ (takes_text s rest).map _

theorem reads_strings (ss : List String) :
    Field.Reads ⟨name, (fun ss ↦ .array (ss.map .string)) <$> texts⟩ (.array (ss.map .string)) :=
  fun rest _ ↦ (takes_texts ss rest).map _

theorem reads_bool (b : Bool) : Field.Reads ⟨name, Value.bool <$> flag⟩ (.bool b) :=
  fun rest _ ↦ (takes_flag b rest).map _

theorem reads_natural (hbound : bound ≤ word) (h : n < bound) :
    Field.Reads ⟨name, Value.natural <$> natural expected bound⟩ (.natural n) :=
  fun _ hrest ↦ (takes_natural expected h hbound hrest).map _

theorem rejects_natural (h : bound ≤ n) :
    Field.Rejects ⟨name, Value.natural <$> natural expected bound⟩ (.natural n) :=
  fun _ hrest ↦ (refuses_natural expected h hrest).map _

end

section

variable (expected : String) (bound : Nat) (numbers : List (String × Nat))

/-- Fields for numbers below a bound. -/
def numberFields : List Field :=
  numbers.map fun p ↦ ⟨p.1, Value.natural <$> natural expected bound⟩

/-- Numbers as the members of an object. -/
def numberMembers : List (String × Value) := numbers.map fun p ↦ (p.1, .natural p.2)

variable {expected bound numbers}

theorem matches_numberFields {P : Field → Value → Prop}
    (h : ∀ p ∈ numbers, P ⟨p.1, Value.natural <$> natural expected bound⟩ (.natural p.2)) :
    Matches P (numberFields expected bound numbers) (numberMembers numbers) := by
  rw [Matches, numberFields, numberMembers, List.forall₂_map_left_iff, List.forall₂_map_right_iff,
    List.forall₂_same]
  exact fun p hp ↦ ⟨rfl, h p hp⟩

variable (bound numbers) (record : String) (hnodup : (numbers.map Prod.fst).Nodup) (hbound : bound ≤ word)
  (rest : List Char)

include hnodup hbound

/-- A record of numbers is read if they are below the bound. -/
theorem takes_numbers (h : ∀ p ∈ numbers, p.2 < bound) :
    Takes (Json.Reader.record record false (numberFields expected bound numbers))
      ((Value.object (numberMembers numbers)).chars ++ rest) (.object (numberMembers numbers)) rest := by
  refine takes_record record false rest ?_ ?_
  · rwa [numberFields, List.map_map]
  · exact matches_numberFields fun p hp ↦ reads_natural p.1 expected hbound (h p hp)

/-- A record of numbers is refused if one of them is not below the bound. -/
theorem refuses_numbers (h : ∃ p ∈ numbers, bound ≤ p.2) :
    Refuses (Json.Reader.record record false (numberFields expected bound numbers))
      ((Value.object (numberMembers numbers)).chars ++ rest) := by
  have hfields : ((numberFields expected bound numbers).map (·.name)).Nodup := by
    rwa [numberFields, List.map_map]
  obtain ⟨p, hp, hn⟩ := h
  have hmember : (p.1, Value.natural p.2) ∈ numberMembers numbers := List.mem_map_of_mem hp
  refine refuses_record record false rest hfields ?_ ⟨_, hmember, ?_⟩
  · exact matches_numberFields fun q _ ↦
      (lt_or_ge q.2 bound).imp (reads_natural q.1 expected hbound) (rejects_natural q.1 expected)
  · exact Matches.exists_find? (P := fun field v ↦ bound ≤ v.natural?.getD 0 → field.Rejects v)
      (matches_numberFields fun q _ ↦ rejects_natural q.1 expected) hfields _ hmember
      |>.imp fun field hfield ↦ ⟨hfield.1, hfield.2 hn⟩

end

/-! ## Languages and source files -/

theorem Language.takes_reader (l : Language) (rest : List Char) :
    Takes Language.reader (l.toValue.chars ++ rest) l rest := by
  have hname : l.name ∈ Language.names := List.mem_map_of_mem l.mem_all
  have h := (takes_variant hname rest).map fun name ↦ (Language.ofName? name).getD default
  rwa [Language.ofName?_name, Option.getD_some] at h

theorem SourceFile.ofValue_toValue (f : SourceFile) : SourceFile.ofValue f.toValue = f := by
  have hlanguage : (Language.ofName? f.language.name).getD default = f.language := by
    rw [Language.ofName?_name, Option.getD_some]
  rw [SourceFile.ofValue, show SourceFile.text f.toValue "language" = f.language.name from rfl,
    hlanguage]
  rfl

theorem SourceFile.takes_reader (f : SourceFile) (rest : List Char) :
    Takes SourceFile.reader (f.toValue.chars ++ rest) f rest := by
  suffices h : Takes SourceFile.reader (f.toValue.chars ++ rest) (SourceFile.ofValue f.toValue) rest by
    rwa [SourceFile.ofValue_toValue] at h
  have hlanguage : Field.Reads ⟨"language", Language.toValue <$> Language.reader⟩ f.language.toValue :=
    fun rest _ ↦ (f.language.takes_reader rest).map _
  refine Takes.map (takes_record "SourceFile" false rest ?_ ?_) SourceFile.ofValue
  · decide
  · exact .cons ⟨rfl, reads_string "path" f.path⟩ (.cons ⟨rfl, reads_string "file_name" f.name⟩
      (.cons ⟨rfl, reads_string "extension" f.extension⟩ (.cons ⟨rfl, hlanguage⟩
        (.cons ⟨rfl, reads_string "content" f.content⟩ .nil))))

/-! ## Numbers of files and places in them -/

theorem FileId.reads (name : String) {n : Nat} (h : n < UInt64.size) :
    Field.Reads ⟨name, FileId.toValue <$> FileId.reader⟩ (.natural n) := by
  intro rest hrest
  have hread := ((takes_natural "u64" h le_rfl hrest).map fun n ↦ (⟨UInt64.ofNat n⟩ : FileId)).map
    FileId.toValue
  rwa [FileId.toValue, UInt64.toNat_ofNat_of_lt' h] at hread

theorem FileId.rejects (name : String) {n : Nat} (h : UInt64.size ≤ n) :
    Field.Rejects ⟨name, FileId.toValue <$> FileId.reader⟩ (.natural n) :=
  fun _ hrest ↦ ((refuses_natural "u64" h hrest).map _).map _

namespace TextRange

/-- An object with numbers where a range has its own. -/
def valueOf (startLine startColumn endLine endColumn : Nat) : Json.Value :=
  .object [
    ("start_line", .natural startLine),
    ("start_col", .natural startColumn),
    ("end_line", .natural endLine),
    ("end_col", .natural endColumn)]

variable {a b c d : Nat} (rest : List Char)

theorem takes_valueReader (h : ∀ n ∈ [a, b, c, d], n < UInt32.size) :
    Takes valueReader ((valueOf a b c d).chars ++ rest) (valueOf a b c d) rest :=
  takes_numbers UInt32.size [("start_line", a), ("start_col", b), ("end_line", c), ("end_col", d)]
    "TextRange" (by simp) (by decide) rest (by simpa using h)

theorem refuses_valueReader (h : ∃ n ∈ [a, b, c, d], UInt32.size ≤ n) :
    Refuses valueReader ((valueOf a b c d).chars ++ rest) :=
  refuses_numbers UInt32.size [("start_line", a), ("start_col", b), ("end_line", c), ("end_col", d)]
    "TextRange" (by simp) (by decide) rest (by simpa using h)

end TextRange

namespace Location

/-- An object with numbers where a location has its own. -/
def valueOf (file startLine startColumn endLine endColumn : Nat) : Json.Value :=
  .object [
    ("file_id", .natural file),
    ("range", TextRange.valueOf startLine startColumn endLine endColumn)]

variable {i a b c d : Nat} (rest : List Char)

theorem takes_reader (hi : i < UInt64.size) (h : ∀ n ∈ [a, b, c, d], n < UInt32.size) :
    Takes reader ((valueOf i a b c d).chars ++ rest) (ofValue (valueOf i a b c d)) rest := by
  have hrange : Field.Reads ⟨"range", TextRange.valueReader⟩ (TextRange.valueOf a b c d) :=
    fun rest _ ↦ TextRange.takes_valueReader rest h
  refine Takes.map (takes_record "AstLocation" false rest ?_ ?_) ofValue
  · decide
  · exact .cons ⟨rfl, FileId.reads "file_id" hi⟩ (.cons ⟨rfl, hrange⟩ .nil)

theorem refuses_reader (h : UInt64.size ≤ i ∨ ∃ n ∈ [a, b, c, d], UInt32.size ≤ n) :
    Refuses reader ((valueOf i a b c d).chars ++ rest) := by
  have hrange (h : ∃ n ∈ [a, b, c, d], UInt32.size ≤ n) :
      Field.Rejects ⟨"range", TextRange.valueReader⟩ (TextRange.valueOf a b c d) :=
    fun rest _ ↦ TextRange.refuses_valueReader rest h
  refine Refuses.map (refuses_record "AstLocation" false rest ?_ ?_ ?_) ofValue
  · decide
  · refine .cons ⟨rfl, ?_⟩ (.cons ⟨rfl, ?_⟩ .nil)
    · exact (lt_or_ge i UInt64.size).imp (FileId.reads "file_id") (FileId.rejects "file_id")
    · by_cases h : ∃ n ∈ [a, b, c, d], UInt32.size ≤ n
      · exact .inr (hrange h)
      · push Not at h
        exact .inl fun rest _ ↦ TextRange.takes_valueReader rest h
  · rcases h with h | h
    · exact ⟨("file_id", .natural i), by simp, _, rfl, FileId.rejects "file_id" h⟩
    · exact ⟨("range", TextRange.valueOf a b c d), by simp, _, rfl, hrange h⟩

end Location

/-! ## Totals and configurations -/

namespace Summary

/-- An object with numbers where totals have their own. -/
def valueOf (filesAnalyzed nodesVisited filesWithErrors : Nat) : Json.Value :=
  .object [
    ("files_analyzed", .natural filesAnalyzed),
    ("nodes_visited", .natural nodesVisited),
    ("files_with_errors", .natural filesWithErrors)]

variable {a b c : Nat} (rest : List Char)

theorem takes_reader (h : ∀ n ∈ [a, b, c], n < UInt64.size) :
    Takes reader ((valueOf a b c).chars ++ rest) (ofValue (valueOf a b c)) rest :=
  (takes_numbers UInt64.size
    [("files_analyzed", a), ("nodes_visited", b), ("files_with_errors", c)]
    "AnalysisSummary" (by simp) le_rfl rest (by simpa using h)).map ofValue

theorem refuses_reader (h : ∃ n ∈ [a, b, c], UInt64.size ≤ n) :
    Refuses reader ((valueOf a b c).chars ++ rest) :=
  (refuses_numbers UInt64.size
    [("files_analyzed", a), ("nodes_visited", b), ("files_with_errors", c)]
    "AnalysisSummary" (by simp) le_rfl rest (by simpa using h)).map ofValue

end Summary

namespace Config

theorem strings?_array (ss : List String) :
    (Json.Value.array (ss.map .string)).strings? = some ss := by
  induction ss with
  | nil => rfl
  | cons s ss ih =>
    rw [Json.Value.strings?] at ih ⊢
    rw [List.map_cons, List.mapM_cons, ih]
    rfl

theorem ofValue_toValue (c : Config) : ofValue c.toValue = c := by
  have hexcluded : c.toValue.get? "excluded_files" = some (.array (c.excluded.map .string)) := rfl
  have htypes : c.toValue.get? "allowed_file_types" = some (.array (c.fileTypes.map .string)) := rfl
  rw [ofValue, hexcluded, htypes, Option.bind_some, Option.bind_some, strings?_array,
    strings?_array]
  rfl

theorem takes_reader (c : Config) (rest : List Char) :
    Takes reader (c.toValue.chars ++ rest) c rest := by
  suffices h : Takes reader (c.toValue.chars ++ rest) (ofValue c.toValue) rest by
    rwa [ofValue_toValue] at h
  refine Takes.map (takes_record "AnalyzerConfig" true rest ?_ ?_) ofValue
  · decide
  · exact .cons ⟨rfl, reads_string "file_encoding" c.encoding⟩
      (.cons ⟨rfl, reads_strings "excluded_files" c.excluded⟩
        (.cons ⟨rfl, reads_strings "allowed_file_types" c.fileTypes⟩
          (.cons ⟨rfl, reads_bool "named_nodes_only" c.namedOnly⟩
            (.cons ⟨rfl, reads_bool "follow_links" c.followLinks⟩ .nil))))

end Config

/-! ## Whole texts -/

section

variable {α : Type} {r : Reader α} {v : Json.Value} {a : α}

theorem toList_compact (v : Json.Value) : v.compact.toList = v.chars ++ [] := by
  rw [Json.Value.compact, String.toList_ofList, List.append_nil]

theorem ofText_compact_of_takes (h : Takes r (v.chars ++ []) a []) : r.ofText v.compact = .ok a :=
  ofText_of_takes (toList_compact v ▸ h)

/-- A text that is accepted as soon as a value has its meaning is read as that value. -/
theorem ofText_compact_eq_ok_iff (Means : α → Prop) (hunique : ∀ a b, Means a → Means b → a = b)
    (h : (∃ a, Means a ∧ Takes r (v.chars ++ []) a []) ∨
      Refuses r (v.chars ++ []) ∧ ∀ a, ¬Means a) (a : α) :
    r.ofText v.compact = .ok a ↔ Means a := by
  rcases h with ⟨b, hmeans, htakes⟩ | ⟨hrefuses, hnone⟩
  · rw [ofText_compact_of_takes htakes, Except.ok.injEq]
    exact ⟨fun h ↦ h ▸ hmeans, hunique b a hmeans⟩
  · obtain ⟨e, he⟩ := ofText_of_refuses (toList_compact v ▸ hrefuses)
    rw [he]
    exact iff_of_false nofun (hnone a)

end

namespace FileId

theorem ext_number {id id' : FileId} (h : id.number.toNat = id'.number.toNat) : id = id' :=
  congrArg FileId.mk (UInt64.toNat_inj.1 h)

theorem ofText_eq_ok_iff (n : Nat) (id : FileId) :
    reader.ofText (Value.natural n).compact = .ok id ↔ id.number.toNat = n := by
  refine ofText_compact_eq_ok_iff (fun id : FileId ↦ id.number.toNat = n) ?_ ?_ id
  · exact fun _ _ h h' ↦ ext_number (h.trans h'.symm)
  · rcases lt_or_ge n UInt64.size with h | h
    · exact .inl ⟨_, UInt64.toNat_ofNat_of_lt' h, (takes_natural "u64" h le_rfl endsNumber_nil).map _⟩
    · exact .inr ⟨(refuses_natural "u64" h endsNumber_nil).map _,
        fun id hid ↦ h.not_gt (hid ▸ id.number.toNat_lt_size)⟩

theorem exists_number_iff (n : Nat) : (∃ id : FileId, id.number.toNat = n) ↔ n < 2 ^ 64 :=
  ⟨fun ⟨id, hid⟩ ↦ hid ▸ id.number.toNat_lt, fun h ↦ ⟨⟨.ofNat n⟩, UInt64.toNat_ofNat_of_lt' h⟩⟩

end FileId

namespace TextRange

variable (a b c d : Nat)

/-- The numbers of a range are these. -/
def Has (r : TextRange) : Prop :=
  r.startLine.toNat = a ∧ r.startColumn.toNat = b ∧ r.endLine.toNat = c ∧ r.endColumn.toNat = d

variable {a b c d}

theorem Has.unique {r r' : TextRange} (h : r.Has a b c d) (h' : r'.Has a b c d) : r = r' := by
  obtain ⟨_, _, _, _⟩ := r
  obtain ⟨_, _, _, _⟩ := r'
  obtain ⟨rfl, rfl, rfl, rfl⟩ := h
  obtain ⟨hstart, hstartColumn, hstop, hstopColumn⟩ := h'
  rw [TextRange.mk.injEq]
  exact ⟨UInt32.toNat_inj.1 hstart.symm, UInt32.toNat_inj.1 hstartColumn.symm,
    UInt32.toNat_inj.1 hstop.symm, UInt32.toNat_inj.1 hstopColumn.symm⟩

theorem has_ofValue (h : ∀ n ∈ [a, b, c, d], n < UInt32.size) :
    (ofValue (valueOf a b c d)).Has a b c d :=
  ⟨UInt32.toNat_ofNat_of_lt' (h a (by simp)), UInt32.toNat_ofNat_of_lt' (h b (by simp)),
    UInt32.toNat_ofNat_of_lt' (h c (by simp)), UInt32.toNat_ofNat_of_lt' (h d (by simp))⟩

theorem Has.lt {r : TextRange} (h : r.Has a b c d) : ∀ n ∈ [a, b, c, d], n < UInt32.size := by
  obtain ⟨rfl, rfl, rfl, rfl⟩ := h
  simp [UInt32.toNat_lt_size]

theorem exists_has_iff :
    (∃ r : TextRange, r.Has a b c d) ↔ a < 2 ^ 32 ∧ b < 2 ^ 32 ∧ c < 2 ^ 32 ∧ d < 2 ^ 32 := by
  have h : (∃ r : TextRange, r.Has a b c d) ↔ ∀ n ∈ [a, b, c, d], n < 2 ^ 32 :=
    ⟨fun ⟨_, hr⟩ ↦ hr.lt, fun h ↦ ⟨_, has_ofValue h⟩⟩
  simpa using h

theorem ofText_eq_ok_iff (r : TextRange) :
    reader.ofText (valueOf a b c d).compact = .ok r ↔ r.Has a b c d := by
  refine ofText_compact_eq_ok_iff (·.Has a b c d) (fun _ _ ↦ Has.unique) ?_ r
  by_cases h : ∀ n ∈ [a, b, c, d], n < UInt32.size
  · exact .inl ⟨_, has_ofValue h, (takes_valueReader [] h).map ofValue⟩
  · refine .inr ⟨(refuses_valueReader [] ?_).map ofValue, fun r hr ↦ h hr.lt⟩
    push Not at h
    exact h

end TextRange

namespace Location

variable {i a b c d : Nat}

theorem exists_numbers_iff :
    (∃ l : Location, l.file.number.toNat = i ∧ l.range.Has a b c d) ↔
      i < 2 ^ 64 ∧ a < 2 ^ 32 ∧ b < 2 ^ 32 ∧ c < 2 ^ 32 ∧ d < 2 ^ 32 := by
  rw [← FileId.exists_number_iff, ← TextRange.exists_has_iff]
  exact ⟨fun ⟨l, hfile, hrange⟩ ↦ ⟨⟨l.file, hfile⟩, l.range, hrange⟩,
    fun ⟨⟨id, hid⟩, r, hr⟩ ↦ ⟨⟨id, r⟩, hid, hr⟩⟩

theorem ofText_eq_ok_iff (l : Location) :
    reader.ofText (valueOf i a b c d).compact = .ok l ↔
      l.file.number.toNat = i ∧ l.range.Has a b c d := by
  refine ofText_compact_eq_ok_iff
    (fun l : Location ↦ l.file.number.toNat = i ∧ l.range.Has a b c d) ?_ ?_ l
  · rintro ⟨_, _⟩ ⟨_, _⟩ h h'
    rw [Location.mk.injEq]
    exact ⟨FileId.ext_number (h.1.trans h'.1.symm), h.2.unique h'.2⟩
  · by_cases h : i < UInt64.size ∧ ∀ n ∈ [a, b, c, d], n < UInt32.size
    · exact .inl ⟨_, ⟨UInt64.toNat_ofNat_of_lt' h.1, TextRange.has_ofValue h.2⟩,
        takes_reader [] h.1 h.2⟩
    · refine .inr ⟨refuses_reader [] ?_, fun l hl ↦ h ⟨hl.1 ▸ l.file.number.toNat_lt_size, hl.2.lt⟩⟩
      rw [not_and_or] at h
      push Not at h
      exact h

end Location

namespace Summary

variable (a b c : Nat)

/-- The totals are these numbers. -/
def Has (t : Summary) : Prop :=
  t.filesAnalyzed.toNat = a ∧ t.nodesVisited.toNat = b ∧ t.filesWithErrors.toNat = c

variable {a b c}

theorem Has.unique {t t' : Summary} (h : t.Has a b c) (h' : t'.Has a b c) : t = t' := by
  obtain ⟨_, _, _⟩ := t
  obtain ⟨_, _, _⟩ := t'
  obtain ⟨rfl, rfl, rfl⟩ := h
  rw [Summary.mk.injEq]
  exact ⟨UInt64.toNat_inj.1 h'.1.symm, UInt64.toNat_inj.1 h'.2.1.symm,
    UInt64.toNat_inj.1 h'.2.2.symm⟩

theorem Has.lt {t : Summary} (h : t.Has a b c) : ∀ n ∈ [a, b, c], n < UInt64.size := by
  obtain ⟨rfl, rfl, rfl⟩ := h
  simp [UInt64.toNat_lt_size]

theorem has_ofValue (h : ∀ n ∈ [a, b, c], n < UInt64.size) : (ofValue (valueOf a b c)).Has a b c :=
  ⟨UInt64.toNat_ofNat_of_lt' (h a (by simp)), UInt64.toNat_ofNat_of_lt' (h b (by simp)),
    UInt64.toNat_ofNat_of_lt' (h c (by simp))⟩

theorem exists_has_iff : (∃ t : Summary, t.Has a b c) ↔ a < 2 ^ 64 ∧ b < 2 ^ 64 ∧ c < 2 ^ 64 := by
  have h : (∃ t : Summary, t.Has a b c) ↔ ∀ n ∈ [a, b, c], n < 2 ^ 64 :=
    ⟨fun ⟨_, ht⟩ ↦ ht.lt, fun h ↦ ⟨_, has_ofValue h⟩⟩
  simpa using h

theorem ofText_eq_ok_iff (t : Summary) :
    reader.ofText (valueOf a b c).compact = .ok t ↔ t.Has a b c := by
  refine ofText_compact_eq_ok_iff (·.Has a b c) (fun _ _ ↦ Has.unique) ?_ t
  by_cases h : ∀ n ∈ [a, b, c], n < UInt64.size
  · exact .inl ⟨_, has_ofValue h, takes_reader [] h⟩
  · refine .inr ⟨refuses_reader [] ?_, fun t ht ↦ h ht.lt⟩
    push Not at h
    exact h

end Summary

open Location in
/-- What is written is read back, whatever is in it. The digits of a number are accepted in the place of
a number exactly if the number is below the bound of that place, and only as that number. -/
theorem ofText_compact_toValue :
    (∀ l : Language, Language.reader.ofText l.toValue.compact = .ok l) ∧
      (∀ f : SourceFile, SourceFile.reader.ofText f.toValue.compact = .ok f) ∧
      (∀ id : FileId, FileId.reader.ofText id.toValue.compact = .ok id) ∧
      (∀ r : TextRange, TextRange.reader.ofText r.toValue.compact = .ok r) ∧
      (∀ l : Location, Location.reader.ofText l.toValue.compact = .ok l) ∧
      (∀ t : Summary, Summary.reader.ofText t.toValue.compact = .ok t) ∧
      (∀ c : Config, Config.ofText c.toValue.compact = .ok c) ∧
      (∀ n : Nat, ((∃ id, FileId.reader.ofText (toString n) = .ok id) ↔ n < 2 ^ 64) ∧
        ∀ id, FileId.reader.ofText (toString n) = .ok id ↔ id.number.toNat = n) ∧
      (∀ a b c d : Nat, ((∃ r, TextRange.reader.ofText (TextRange.valueOf a b c d).compact = .ok r) ↔
          a < 2 ^ 32 ∧ b < 2 ^ 32 ∧ c < 2 ^ 32 ∧ d < 2 ^ 32) ∧
        ∀ r, TextRange.reader.ofText (TextRange.valueOf a b c d).compact = .ok r ↔ r.Has a b c d) ∧
      (∀ i a b c d : Nat, ((∃ l, Location.reader.ofText (valueOf i a b c d).compact = .ok l) ↔
          i < 2 ^ 64 ∧ a < 2 ^ 32 ∧ b < 2 ^ 32 ∧ c < 2 ^ 32 ∧ d < 2 ^ 32) ∧
        ∀ l, Location.reader.ofText (valueOf i a b c d).compact = .ok l ↔
          l.file.number.toNat = i ∧ l.range.Has a b c d) ∧
      ∀ a b c : Nat, ((∃ t, Summary.reader.ofText (Summary.valueOf a b c).compact = .ok t) ↔
          a < 2 ^ 64 ∧ b < 2 ^ 64 ∧ c < 2 ^ 64) ∧
        ∀ t, Summary.reader.ofText (Summary.valueOf a b c).compact = .ok t ↔ t.Has a b c := by
  have hnumber (n : Nat) : toString n = (Value.natural n).compact := Nat.toString_eq_ofList_toDigits
  refine ⟨fun l ↦ ofText_compact_of_takes (l.takes_reader []),
    fun f ↦ ofText_compact_of_takes (f.takes_reader []),
    fun id ↦ (FileId.ofText_eq_ok_iff _ id).2 rfl,
    fun r ↦ (TextRange.ofText_eq_ok_iff r).2 ⟨rfl, rfl, rfl, rfl⟩,
    fun l ↦ (Location.ofText_eq_ok_iff l).2 ⟨rfl, rfl, rfl, rfl, rfl⟩,
    fun t ↦ (Summary.ofText_eq_ok_iff t).2 ⟨rfl, rfl, rfl⟩,
    fun c ↦ ofText_compact_of_takes (c.takes_reader []), fun n ↦ ?_, fun a b c d ↦ ?_,
    fun i a b c d ↦ ?_, fun a b c ↦ ?_⟩
  · simp only [hnumber, FileId.ofText_eq_ok_iff, implies_true, and_true]
    exact FileId.exists_number_iff n
  · simp only [TextRange.ofText_eq_ok_iff, implies_true, and_true]
    exact TextRange.exists_has_iff
  · simp only [Location.ofText_eq_ok_iff, implies_true, and_true]
    exact Location.exists_numbers_iff
  · simp only [Summary.ofText_eq_ok_iff, implies_true, and_true]
    exact Summary.exists_has_iff

end SourceSurvey
