import Mathlib
import SourceSurvey.Proofs.Text.Trimming
import SourceSurvey.Settings

/-!
# Stored file types

A file type is stored without the blanks around it and the dots in front of it, in lower case. Blanks go
once, before the dots, so what is stored is canonical only in part: a blank behind a dot in front stays,
and it goes when the stored type is passed in again.
-/

namespace SourceSurvey

open Text (trim trimEnd isBlank IsIndented)

/-! ## One type -/

/-- A text without the dots in front of it, in lower case. -/
def undotted (text : List Char) : List Char :=
  (text.dropWhile fun c ↦ c = '.').map Char.toLower

theorem toList_canonicalFileType (extension : String) :
    (canonicalFileType extension).toList = undotted (trim extension.toList) :=
  String.toList_ofList

theorem undotted_undotted (text : List Char) : undotted (undotted text) = undotted text := by
  rw [undotted, undotted, Text.dropWhile_dot_toLower, List.map_map, List.dropWhile_idempotent]
  simp only [Function.comp_def, Text.toLower_toLower]

theorem trimEnd_undotted (text : List Char) :
    trimEnd (undotted text) = undotted (trimEnd text) := by
  rw [undotted, undotted, Text.trimEnd_map Text.isBlank_comp_toLower, Text.trimEnd_dropWhile]

/-- With a dot in front, blanks are trimmed at the end only. -/
theorem toList_canonicalFileType_dot (extension : String) :
    (canonicalFileType ("." ++ extension)).toList = undotted (trimEnd extension.toList) := by
  have hdot : trim ('.' :: extension.toList) = '.' :: trimEnd extension.toList := by
    rw [trim, List.dropWhile_cons_of_neg (by decide), Text.trimEnd_cons_eq (Or.inr (by decide))]
  rw [toList_canonicalFileType, String.toList_append]
  change undotted (trim ('.' :: extension.toList)) = _
  rw [hdot]
  rfl

theorem length_undotted_le (text : List Char) : (undotted text).length ≤ text.length := by
  rw [undotted, List.length_map]
  exact (List.dropWhile_suffix _).length_le

/-- No dot is dropped behind a blank, so a text with a blank in front keeps its length. -/
theorem undotted_dropWhile_isBlank_iff {text : List Char} :
    undotted (text.dropWhile isBlank) = undotted text ↔ ¬∃ c ∈ text.head?, isBlank c := by
  cases text with
  | nil => simp
  | cons c rest =>
    by_cases hc : isBlank c
    · have hdot : c ≠ '.' := by
        intro h
        rw [h] at hc
        exact absurd hc (by decide)
      have hshorter := calc
        (undotted ((c :: rest).dropWhile isBlank)).length
          ≤ ((c :: rest).dropWhile isBlank).length := length_undotted_le _
        _ < (c :: rest).length := Text.length_dropWhile_lt ⟨c, rfl, hc⟩
        _ = (undotted (c :: rest)).length := by
          rw [undotted, List.dropWhile_cons_of_neg (by simpa using hdot), List.length_map]
      exact iff_of_false (fun h ↦ hshorter.ne (congrArg List.length h)) (not_not_intro ⟨c, rfl, hc⟩)
    · rw [List.dropWhile_cons_of_neg hc]
      simp [hc]

/-- A type is stored as it is with a dot in front, unless it is indented. -/
theorem canonicalFileType_dot_iff {extension : String} :
    canonicalFileType ("." ++ extension) = canonicalFileType extension ↔
      ¬IsIndented extension.toList := by
  rw [← String.toList_inj, toList_canonicalFileType_dot, toList_canonicalFileType, Text.trim_eq,
    Text.isIndented_iff, ← undotted_dropWhile_isBlank_iff, eq_comm]

theorem canonicalFileType_dot_canonicalFileType (extension : String) :
    canonicalFileType ("." ++ canonicalFileType extension) = canonicalFileType extension := by
  rw [← String.toList_inj, toList_canonicalFileType_dot, toList_canonicalFileType, trimEnd_undotted,
    Text.trimEnd_trim, undotted_undotted]

/-- What is left of a text once blanks, and then dots, are dropped in front. -/
def behindDots (text : List Char) : List Char :=
  (text.dropWhile isBlank).dropWhile fun c ↦ c = '.'

theorem isIndented_canonicalFileType {extension : String} :
    IsIndented (canonicalFileType extension).toList ↔ IsIndented (behindDots extension.toList) := by
  have hstored : trimEnd (canonicalFileType extension).toList =
      (trimEnd (behindDots extension.toList)).map Char.toLower := by
    rw [toList_canonicalFileType, trimEnd_undotted, Text.trimEnd_trim, undotted, trim,
      behindDots, ← Text.trimEnd_dropWhile]
  have hblank (c : Char) : isBlank c.toLower = isBlank c := congrFun Text.isBlank_comp_toLower c
  rw [Text.isIndented_iff, Text.isIndented_iff, hstored, List.head?_map]
  simp [hblank]

/-- What is stored of a type is stored as it is, unless a blank is left behind dots. -/
theorem canonicalFileType_canonicalFileType_iff {extension : String} :
    canonicalFileType (canonicalFileType extension) = canonicalFileType extension ↔
      ¬IsIndented (behindDots extension.toList) := by
  rw [← isIndented_canonicalFileType, ← canonicalFileType_dot_iff,
    canonicalFileType_dot_canonicalFileType, eq_comm]

/-! ## Lists of types -/

theorem canonicalFileTypes_singleton (extension : String) :
    canonicalFileTypes [extension] =
      if canonicalFileType extension = "" then [] else [canonicalFileType extension] := by
  simp [canonicalFileTypes, List.filter_singleton]

theorem canonicalFileTypes_singleton_inj {extension extension' : String} :
    canonicalFileTypes [extension] = canonicalFileTypes [extension'] ↔
      canonicalFileType extension = canonicalFileType extension' := by
  rw [canonicalFileTypes_singleton, canonicalFileTypes_singleton]
  split_ifs <;> grind

theorem mem_canonicalFileTypes {extensions : List String} {fileType : String} :
    fileType ∈ canonicalFileTypes extensions ↔
      (∃ e ∈ extensions, canonicalFileType e = fileType) ∧ fileType ≠ "" := by
  simp [canonicalFileTypes]

/-- A list of stored types stays if each of its types does. -/
theorem canonicalFileTypes_eq_self_iff {fileTypes : List String} (hne : "" ∉ fileTypes) :
    canonicalFileTypes fileTypes = fileTypes ↔ ∀ t ∈ fileTypes, canonicalFileType t = t := by
  constructor
  · intro h
    have hlength : (canonicalFileTypes fileTypes).length =
        (fileTypes.map canonicalFileType).length := by
      rw [h, List.length_map]
    have hmap : fileTypes.map canonicalFileType = fileTypes.map id := by
      rw [canonicalFileTypes, List.length_filter_eq_length_iff] at hlength
      rw [canonicalFileTypes, List.filter_eq_self.2 hlength] at h
      rw [h, List.map_id]
    exact List.map_eq_map_iff.1 hmap
  · intro h
    have hmap : fileTypes.map canonicalFileType = fileTypes := by
      rw [List.map_congr_left h, List.map_id']
    rw [canonicalFileTypes, hmap, List.filter_eq_self]
    intro t ht
    have htext : t ≠ "" := fun h ↦ hne (h ▸ ht)
    simpa using htext

theorem canonicalFileTypes_canonicalFileTypes_iff {extensions : List String} :
    canonicalFileTypes (canonicalFileTypes extensions) = canonicalFileTypes extensions ↔
      ∀ e ∈ extensions, ¬IsIndented (behindDots e.toList) := by
  have hempty : "" ∉ canonicalFileTypes extensions := fun h ↦ (mem_canonicalFileTypes.1 h).2 rfl
  rw [canonicalFileTypes_eq_self_iff hempty]
  simp only [← canonicalFileType_canonicalFileType_iff]
  constructor
  · intro h e he
    by_cases hnil : canonicalFileType e = ""
    · rw [hnil]
      rfl
    · exact h _ (mem_canonicalFileTypes.2 ⟨⟨e, he, rfl⟩, hnil⟩)
  · intro h t ht
    obtain ⟨⟨e, he, rfl⟩, -⟩ := mem_canonicalFileTypes.1 ht
    exact h e he

namespace WalkSettings

theorem fileTypes_withFileTypes (settings : WalkSettings) (extensions : List String) :
    (settings.withFileTypes extensions).fileTypes = canonicalFileTypes extensions := rfl

/-- The same is stored of a type with a dot in front of it, unless the type is indented; and a stored
list that is passed in again stays as it is, unless what comes behind the dots in front of one of the
types is indented. In these cases the list is another one. -/
theorem withFileTypes_eq_iff (settings : WalkSettings) :
    (∀ extension : String,
      (settings.withFileTypes ["." ++ extension]).fileTypes =
          (settings.withFileTypes [extension]).fileTypes ↔
        ¬IsIndented extension.toList) ∧
    ∀ extensions : List String, let stored := settings.withFileTypes extensions
      (stored.withFileTypes stored.fileTypes).fileTypes = stored.fileTypes ↔
        ∀ e ∈ extensions, ¬IsIndented (behindDots e.toList) := by
  simp only [fileTypes_withFileTypes]
  constructor
  · intro extension
    rw [canonicalFileTypes_singleton_inj, canonicalFileType_dot_iff]
  · intro extensions
    rw [canonicalFileTypes_canonicalFileTypes_iff]

/-- A blank in front of a type is stored once there is a dot before it, and it is gone once the stored
type is passed in again. -/
theorem withFileTypes_ne_dotted :
    (default.withFileTypes ["." ++ " ts"]).fileTypes ≠ (default.withFileTypes [" ts"]).fileTypes ∧
      let stored := default.withFileTypes [". ts"]
      (stored.withFileTypes stored.fileTypes).fileTypes ≠ stored.fileTypes := by
  decide

end WalkSettings

end SourceSurvey
