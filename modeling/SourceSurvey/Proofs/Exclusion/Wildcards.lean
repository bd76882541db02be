import SourceSurvey.Proofs.Exclusion.Here
import SourceSurvey.Proofs.Glob.Wildcards

/-!
# Patterns of stars and question marks below a root

A pattern of literal characters, stars and question marks excludes the entries whose names, as bytes, are
split along it. It is about characters only as far as they are bytes: a question mark does not stand for
a character of two bytes or more.
-/

namespace SourceSurvey.Exclusion

open Glob (SplitsAlong IsBytewise wildTokens)
open SourceSurvey.Path (IsPlain joinAll)
open Encoding (Utf8.encode)

/-- A pattern of literal characters, stars and question marks, with nothing around it. -/
structure IsWild (pattern : String) : Prop where
  plain : ∀ c ∈ pattern.toList, c ∉ ['/', '\\', '[', '{', '}']
  trimmed : Text.trim pattern.toList = pattern.toList
  not_marked : pattern.toList.head? ≠ some '!'
  not_comment : pattern.toList.head? ≠ some '#'

/-- What such a pattern is read as. Two stars are sought everywhere as they are. -/
def wildGlob (pattern : String) : Glob.Pattern :=
  if pattern = "**" then [.upper] else .upper :: wildTokens pattern.toList

namespace IsWild

variable {pattern : String}

theorem no_slash (h : IsWild pattern) : '/' ∉ pattern.toList :=
  fun hmem ↦ h.plain '/' hmem (by simp)

theorem normalize_eq (h : IsWild pattern) : normalize pattern = pattern.toList := by
  have hseparated : separated pattern.toList = pattern.toList :=
    separated_of_no_backslash fun hmem ↦ h.plain '\\' hmem (by simp)
  have hdotted : ¬IsDotted pattern := by
    rintro ⟨rest, hrest⟩
    rw [hseparated] at hrest
    exact h.no_slash (by simp [hrest])
  rw [normalize_of_not_dotted (by rw [hseparated, h.trimmed]) hdotted, hseparated]

/-- The line of such a pattern is all of it. -/
theorem ofChars?_eq (h : IsWild pattern) (hne : pattern ≠ "") :
    Line.ofChars? (normalize pattern) = some ⟨false, false, false, pattern.toList⟩ := by
  have hslash (c : Char) (hc : c ∈ pattern.toList) : c ≠ '/' := fun heq ↦ h.no_slash (heq ▸ hc)
  have hhead : pattern.toList.head? ≠ some '/' := fun heq ↦ hslash _ (List.mem_of_head? heq) rfl
  have hlast : pattern.toList.getLast? ≠ some '/' :=
    fun heq ↦ hslash _ (List.mem_of_getLast? heq) rfl
  rw [ofChars?_of_no_mark h.normalize_eq (by simpa using hne) h.not_marked h.not_comment]
  simp [Line.ofUnmarked, hhead, hlast]

theorem rule?_eq (h : IsWild pattern) (hne : pattern ≠ "") :
    rule? pattern = .ok (some ⟨wildGlob pattern, false, false⟩) := by
  rw [rule?_eq_ok_iff (h.ofChars?_eq hne), wildGlob]
  split_ifs with hstars
  · subst hstars
    exact ⟨_, rfl, rfl⟩
  · have hbody : pattern.toList ≠ ['*', '*'] := fun heq ↦ hstars (String.toList_injective heq)
    rw [Line.glob_of_no_slash rfl h.no_slash hbody]
    refine ⟨_, Glob.read_wild (fun c hc ↦ ?_) hbody, rfl⟩
    have hplain := h.plain c hc
    simp only [List.mem_cons, not_or] at hplain ⊢
    simp [hplain]

/-- The rule of such a pattern matches the paths whose last name is split along the pattern. -/
theorem isMatch_wildGlob (h : IsWild pattern) (hne : pattern ≠ "") {front : Path}
    (hfront : Glob.IsFront front) {name : Name} (hname : IsPlain name) :
    Glob.isMatch (wildGlob pattern) (front ++ name) ↔
      SplitsAlong String.utf8EncodeChar pattern.toList name := by
  rw [wildGlob]
  split_ifs with hstars
  · subst hstars
    have hsplit : SplitsAlong String.utf8EncodeChar "**".toList (name ++ ([] ++ [])) :=
      .star name (.star [] .nil)
    rw [List.append_nil, List.append_nil] at hsplit
    exact iff_of_true rfl hsplit
  · exact Glob.isMatch_wildTokens (by simpa using hne) h.no_slash hfront hname.ne_nil hname.no_slash
      hname.ne_up

theorem compile_eq (h : IsWild pattern) (hne : pattern ≠ "") (root : Path) :
    Exclusions.compile root [pattern] =
      .ok ⟨keptRoot root, [⟨wildGlob pattern, false, false⟩]⟩ := by
  apply compile_singleton (h.rule?_eq hne)
  apply Glob.refusal?_eq_none
  intro glob hglob
  rw [List.mem_singleton.1 hglob, wildGlob]
  split_ifs
  · rfl
  · exact Glob.isTooDeep_wildTokens _

end IsWild

/-- A pattern of literal characters, stars and question marks compiles, and it excludes exactly the
entries whose names are split along it: byte by byte, and so character by character where it has no
question mark or all characters of the name are one byte. -/
theorem excludes_wild_iff {pattern : String} (hwild : IsWild pattern) (root : Path) :
    ∃ exclusions, Exclusions.compile root [pattern] = .ok exclusions ∧
      ∀ dirs name, (∀ n ∈ dirs ++ [name], IsPlain n) → ∀ isDirectory,
        (exclusions.excludes (joinAll root (dirs ++ [name])) isDirectory ↔
          SplitsAlong String.utf8EncodeChar pattern.toList name) ∧
        ∀ text, name = Utf8.encode text → IsBytewise pattern.toList text →
          (exclusions.excludes (joinAll root (dirs ++ [name])) isDirectory ↔
            SplitsAlong (fun c ↦ [c]) pattern.toList text) := by
  obtain ⟨exclusions, hcompile, hverdict⟩ : ∃ exclusions,
      Exclusions.compile root [pattern] = .ok exclusions ∧
        ∀ dirs name, (∀ n ∈ dirs ++ [name], IsPlain n) → ∀ isDirectory,
          (exclusions.excludes (joinAll root (dirs ++ [name])) isDirectory ↔
            SplitsAlong String.utf8EncodeChar pattern.toList name) := by
    by_cases hne : pattern = ""
    · -- nothing is split along the empty pattern
      subst hne
      refine ⟨⟨keptRoot root, []⟩, rfl, fun dirs name hnames isDirectory ↦ ?_⟩
      have hname : IsPlain name := hnames name (by simp)
      have hempty : ¬SplitsAlong String.utf8EncodeChar [] name := by
        rw [Glob.splitsAlong_nil_iff]
        exact hname.ne_nil
      exact iff_of_false Bool.false_ne_true hempty
    · have hcompile := hwild.compile_eq hne root
      refine ⟨_, hcompile, fun dirs name hnames isDirectory ↦ ?_⟩
      obtain ⟨front, hrelative, hfront⟩ := exists_front_relative root _ hnames
      rw [excludes_of_compile_singleton (hwild.rule?_eq hne) rfl hcompile, hrelative, Rule.isAbout]
      simpa using hwild.isMatch_wildGlob hne hfront (hnames name (by simp))
  refine ⟨exclusions, hcompile, fun dirs name hnames isDirectory ↦
    ⟨hverdict dirs name hnames isDirectory, ?_⟩⟩
  rintro text rfl hbytes
  rw [hverdict dirs _ hnames isDirectory]
  exact Glob.splitsAlong_encode_iff hbytes

/-- A question mark does not stand for a character of two bytes. -/
theorem excludes_any_ne :
    IsWild "?" ∧ IsPlain (Utf8.encode ['é']) ∧ SplitsAlong (fun c ↦ [c]) "?".toList ['é'] ∧
      ∃ exclusions, Exclusions.compile (Path.ofString "p") ["?"] = .ok exclusions ∧
        exclusions.excludes (joinAll (Path.ofString "p") [Utf8.encode ['é']]) false = false := by
  have hwild : IsWild "?" := ⟨by simp, by decide, by decide, by decide⟩
  have hplain : IsPlain (Utf8.encode ['é']) := ⟨by decide, by decide, by decide, by decide⟩
  exact ⟨hwild, hplain, .any 'é' .nil, ⟨Path.ofString "p", [⟨[.upper, .any], false, false⟩]⟩,
    by rfl, by cbv⟩

/-- Sources with an `a` and something behind it. -/
theorem excludes_wild_iff_sources :
    ∃ exclusions, Exclusions.compile (Path.ofString "p") ["a?*.c"] = .ok exclusions ∧
      exclusions.excludes
        (joinAll (Path.ofString "p") ([Path.ofString "b"] ++ [Utf8.encode "abc.c".toList])) false := by
  have hwild : IsWild "a?*.c" := ⟨by simp, by decide, by decide, by decide⟩
  have hplain : ∀ n ∈ [Path.ofString "b"] ++ [Utf8.encode "abc.c".toList], IsPlain n := by
    intro n hn
    rcases List.mem_cons.1 hn with rfl | hn
    · exact ⟨by decide, by decide, by decide, by decide⟩
    · rw [List.mem_singleton.1 hn]
      exact ⟨by decide, by decide, by decide, by decide⟩
  have hascii : IsBytewise "a?*.c".toList "abc.c".toList := Or.inr (by simp)
  have hending : SplitsAlong (fun c ↦ [c]) ['.', 'c'] ['.', 'c'] :=
    .literal (by decide) (by decide) (.literal (by decide) (by decide) .nil)
  have hsplit : SplitsAlong (fun c ↦ [c]) ['a', '?', '*', '.', 'c'] ['a', 'b', 'c', '.', 'c'] :=
    .literal (by decide) (by decide) (.any 'b' (.star ['c'] hending))
  obtain ⟨exclusions, hcompile, hverdict⟩ := excludes_wild_iff hwild (Path.ofString "p")
  exact ⟨exclusions, hcompile, ((hverdict _ _ hplain false).2 _ rfl hascii).2 hsplit⟩

end SourceSurvey.Exclusion
