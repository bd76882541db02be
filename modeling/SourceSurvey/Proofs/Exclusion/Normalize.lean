import Mathlib
import SourceSurvey.Exclusion
import SourceSurvey.Proofs.Text.Trimming

/-!
# Normalized patterns

What is done to the text of a pattern before it is taken apart. Blanks are trimmed, backslashes become
separators, and one `./` is taken away in front. These commute as far as they can: a backslash is no
blank and neither is a separator.
-/

namespace SourceSurvey.Exclusion

open Text (trimEnd_tail trimEnd_cons trimEnd_trim trim_cons)

/-! ## Separators -/

/-- A text with separators for its backslashes. -/
def separated (text : List Char) : List Char := text.map fun c ↦ if c = '\\' then '/' else c

theorem separated_eq_nil_iff {text : List Char} : separated text = [] ↔ text = [] :=
  List.map_eq_nil_iff

theorem separated_of_no_backslash {text : List Char} (h : '\\' ∉ text) : separated text = text := by
  refine (List.map_congr_left fun c hc ↦ ?_).trans (List.map_id _)
  rw [if_neg]
  · rfl
  · rintro rfl
    exact h hc

theorem backslash_not_mem_separated (text : List Char) : '\\' ∉ separated text := by
  simp only [separated, List.mem_map, not_exists, not_and]
  intro c _
  split <;> simp_all

theorem head?_separated {text : List Char} {c : Char} (hc : c ≠ '/') (hne : c ≠ '\\') :
    (separated text).head? = some c ↔ text.head? = some c := by
  cases text with
  | nil => rfl
  | cons d text =>
    simp only [separated, List.map_cons, List.head?_cons, Option.some.injEq]
    split
    · rename_i hd
      rw [hd]
      exact ⟨fun h ↦ absurd h.symm hc, fun h ↦ absurd h.symm hne⟩
    · rfl

theorem trim_separated (text : List Char) :
    Text.trim (separated text) = separated (Text.trim text) := by
  have hblank : Text.isBlank ∘ (fun c ↦ if c = '\\' then '/' else c) = Text.isBlank := by
    funext c
    rw [Function.comp_apply]
    split
    · rename_i hc
      rw [hc]
      decide
    · rfl
  exact Text.trim_map hblank text

/-! ## The front -/

/-- A text without one dot and separator in front. -/
def withoutHere : List Char → List Char
  | '.' :: '/' :: rest => rest
  | text => text

theorem normalize_eq (pattern : String) :
    normalize pattern = withoutHere (Text.trim (separated pattern.toList)) := by
  have hcs : (Text.trim pattern.toList).map (fun c ↦ if c = '\\' then '/' else c) =
      Text.trim (separated pattern.toList) := (trim_separated _).symm
  rw [normalize, hcs]
  generalize Text.trim (separated pattern.toList) = cs
  fun_cases withoutHere cs
  · rfl
  · simp only

theorem mem_of_mem_withoutHere {c : Char} {text : List Char} (h : c ∈ withoutHere text) :
    c ∈ text := by
  revert h
  fun_cases withoutHere text with
  | case1 rest => exact fun h ↦ List.mem_cons_of_mem _ (List.mem_cons_of_mem _ h)
  | case2 => exact id

/-- No blanks are left at the end of a normalized pattern. -/
theorem trimEnd_normalize (pattern : String) :
    Text.trimEnd (normalize pattern) = normalize pattern := by
  have htrim := trimEnd_trim (separated pattern.toList)
  rw [normalize_eq]
  generalize Text.trim (separated pattern.toList) = text at htrim
  fun_cases withoutHere text
  · exact trimEnd_tail (trimEnd_tail htrim)
  · exact htrim

theorem backslash_not_mem_normalize (pattern : String) : '\\' ∉ normalize pattern := by
  rw [normalize_eq, trim_separated]
  exact fun h ↦ backslash_not_mem_separated _ (mem_of_mem_withoutHere h)

/-- A text in front of which a dot and a separator are taken away. -/
theorem normalize_of_here {text : List Char} (htrim : Text.trimEnd text = text) (hne : text ≠ [])
    {pattern : String} (hpattern : separated pattern.toList = '.' :: '/' :: text) :
    normalize pattern = text := by
  have hslash : Text.trimEnd ('/' :: text) = '/' :: text := trimEnd_cons htrim hne
  have hdot : Text.trim ('.' :: '/' :: text) = '.' :: '/' :: text :=
    trim_cons (by decide) hslash (List.cons_ne_nil _ _)
  rw [normalize_eq, hpattern, hdot]
  rfl

/-- Behind an exclamation mark nothing is taken away. -/
theorem normalize_of_mark {text : List Char} (htrim : Text.trimEnd text = text) (hne : text ≠ [])
    {pattern : String} (hpattern : separated pattern.toList = '!' :: text) :
    normalize pattern = '!' :: text := by
  have hmark : Text.trim ('!' :: text) = '!' :: text := trim_cons (by decide) htrim hne
  rw [normalize_eq, hpattern, hmark]
  rfl

/-- A pattern with a dot and a separator in front. -/
def IsDotted (pattern : String) : Prop :=
  ∃ rest, separated pattern.toList = '.' :: '/' :: rest

theorem normalize_of_not_dotted {pattern : String}
    (htrim : Text.trim (separated pattern.toList) = separated pattern.toList)
    (hdotted : ¬IsDotted pattern) : normalize pattern = separated pattern.toList := by
  rw [normalize_eq, htrim]
  unfold IsDotted at hdotted
  generalize separated pattern.toList = text at hdotted
  fun_cases withoutHere text
  · exact absurd ⟨_, rfl⟩ hdotted
  · rfl

/-- An exclamation mark in front of a pattern that is normalized already. -/
theorem normalize_mark {pattern : String} (hnormal : normalize pattern = pattern.toList)
    (hne : pattern ≠ "") : normalize ("!" ++ pattern) = '!' :: pattern.toList := by
  have htrim := trimEnd_normalize pattern
  have hbackslash := backslash_not_mem_normalize pattern
  rw [hnormal] at htrim hbackslash
  apply normalize_of_mark htrim (by simpa using hne)
  rw [String.toList_append]
  change '!' :: separated pattern.toList = '!' :: pattern.toList
  rw [separated_of_no_backslash hbackslash]

end SourceSurvey.Exclusion
