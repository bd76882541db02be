import SourceSurvey.Proofs.Exclusion.Normalize
import SourceSurvey.Proofs.FileTree.Components
import SourceSurvey.Proofs.Glob.Reading

/-!
# Compiling patterns made of segments

A pattern that is made of segments can be read back off its text, and is compiled to the pieces that
stand for its segments. No such pattern is ever refused.
-/

namespace SourceSurvey.Exclusion

open Glob (Segment IsPiece joined trailing)
open SourceSurvey.Path (IsPlain)

/-! ## Shapes -/

/-- A pattern by its parts. -/
structure Shape where
  negated : Bool
  rooted : Bool
  segments : List Segment
  directoriesOnly : Bool

namespace Shape

/-- The segments with separators between them. -/
def body (s : Shape) : List Char := joined '/' (s.segments.map Segment.chars)

def text (s : Shape) : List Char :=
  (if s.negated then ['!'] else []) ++ (if s.rooted then ['/'] else []) ++ s.body ++
    (if s.directoriesOnly then ['/'] else [])

/-- Parts that can be read back off the text of a pattern. -/
structure WellFormed (s : Shape) : Prop where
  ne_nil : s.segments ≠ []
  plain : ∀ segment ∈ s.segments, segment.IsPlain
  not_comment : s.text.head? ≠ some '#'
  not_marked : s.negated = false → s.text.head? ≠ some '!'

end Shape

/-! ## Lines -/

theorem chars_ne_nil {segment : Segment} (h : segment.IsPlain) : segment.chars ≠ [] := by
  cases segment with
  | anyDepth => simp [Segment.chars]
  | piece chars => exact h.ne_nil

theorem slash_not_mem_chars {segment : Segment} (h : segment.IsPlain) : '/' ∉ segment.chars := by
  cases segment with
  | anyDepth => decide
  | piece chars => exact fun hmem ↦ h.plain '/' hmem (by simp)

section

variable {segments : List Segment} (hne : segments ≠ [])
  (hplain : ∀ segment ∈ segments, segment.IsPlain)

include hne hplain

theorem head?_joined : (joined '/' (segments.map Segment.chars)).head? ≠ some '/' ∧
    joined '/' (segments.map Segment.chars) ≠ [] := by
  obtain ⟨segment, segments, rfl⟩ := List.exists_cons_of_ne_nil hne
  have hsegment := hplain segment List.mem_cons_self
  obtain ⟨c, chars, hchars⟩ := List.exists_cons_of_ne_nil (chars_ne_nil hsegment)
  have hc : c ≠ '/' := fun h ↦ slash_not_mem_chars hsegment (by simp [hchars, h])
  simp [joined, hchars, hc]

/-- The last segment, with a separator before it if it is not the only one. -/
theorem exists_last : ∃ init segment, segments = init ++ [segment] ∧ segment.IsPlain ∧
    joined '/' (segments.map Segment.chars) =
      (if init = [] then [] else joined '/' (init.map Segment.chars) ++ ['/']) ++ segment.chars := by
  obtain ⟨init, segment, rfl⟩ := (List.eq_nil_or_concat' segments).resolve_left hne
  refine ⟨init, segment, rfl, hplain segment (by simp), ?_⟩
  by_cases hinit : init = []
  · subst hinit
    simp [joined, trailing]
  · rw [List.map_append, List.map_singleton, Glob.joined_concat (by simpa using hinit), if_neg hinit]
    simp

theorem getLast?_joined : (joined '/' (segments.map Segment.chars)).getLast? ≠ some '/' := by
  obtain ⟨init, segment, -, hsegment, hjoined⟩ := exists_last hne hplain
  rw [hjoined, List.getLast?_append, List.getLast?_eq_some_getLast (chars_ne_nil hsegment),
    Option.some_or]
  exact fun h ↦ slash_not_mem_chars hsegment (Option.some.inj h ▸ List.getLast_mem _)

end

/-- The line of a pattern holds its parts. -/
theorem Shape.WellFormed.ofChars? {s : Shape} (h : s.WellFormed)
    (htrim : Text.trimEnd s.text = s.text) :
    Line.ofChars? s.text = some ⟨s.negated, s.rooted, s.directoriesOnly, s.body⟩ := by
  have hcomment := h.not_comment
  have hmarked := h.not_marked
  rw [Line.ofChars?, if_neg hcomment, htrim]
  obtain ⟨hhead, hnil⟩ : s.body.head? ≠ some '/' ∧ s.body ≠ [] := head?_joined h.ne_nil h.plain
  have hlast : s.body.getLast? ≠ some '/' := getLast?_joined h.ne_nil h.plain
  obtain ⟨c, more, hbody⟩ := List.exists_cons_of_ne_nil hnil
  rw [Shape.text] at hcomment hmarked ⊢
  rw [hbody] at hcomment hmarked hhead hlast ⊢
  have hc : c ≠ '/' := by simpa using hhead
  have hdrop : (c :: (more ++ ['/'])).dropLast = c :: more := by
    rw [← List.cons_append, List.dropLast_concat]
  cases hnegated : s.negated <;> cases hrooted : s.rooted <;>
    cases hdirectories : s.directoriesOnly <;> simp_all [List.getLast?_cons]

/-! ## Globs -/

namespace Shape

/-- The segments of what is sought: a single name is sought at any depth. -/
def sought (s : Shape) : List Segment :=
  match s.rooted, s.segments with
  | false, [.piece chars] => [.anyDepth, .piece chars]
  | _, segments => segments

end Shape

/-- Two stars at the end ask for something inside. -/
def closed (segments : List Segment) : List Segment :=
  if segments.getLast? = some .anyDepth ∧ 1 < segments.length then segments ++ [.piece ['*']]
  else segments

theorem glob_sought {s : Shape} (h : s.WellFormed) :
    (if !s.rooted && !s.body.contains '/' && !startsUpper s.body then "**/".toList ++ s.body
      else s.body) = joined '/' (s.sought.map Segment.chars) := by
  obtain ⟨negated, rooted, segments, directoriesOnly⟩ := s
  have hne := h.ne_nil
  have hplain := h.plain
  simp only [Shape.body, Shape.sought] at hne hplain ⊢
  match rooted, segments with
  | true, segments => simp
  | false, [] => exact absurd rfl hne
  | false, [.anyDepth] => rfl
  | false, [.piece chars] =>
    have hpiece : IsPiece chars := hplain _ List.mem_cons_self
    have hslash : '/' ∉ chars := fun hmem ↦ hpiece.plain '/' hmem (by simp)
    have hupper : ¬['*', '*', '/'] <+: chars := fun h ↦ hslash (h.mem (by simp))
    simp [joined, trailing, Segment.chars, startsUpper, hslash, hupper, hpiece.ne_stars]
  | false, first :: second :: segments => simp [joined, trailing]

theorem isSuffixOf_joined {segments : List Segment} (hne : segments ≠ [])
    (hplain : ∀ segment ∈ segments, segment.IsPlain) :
    "/**".toList.isSuffixOf (joined '/' (segments.map Segment.chars)) ↔
      segments.getLast? = some .anyDepth ∧ 1 < segments.length := by
  obtain ⟨init, segment, rfl, hsegment, hjoined⟩ := exists_last hne hplain
  have hslash := slash_not_mem_chars hsegment
  have hstars : segment.chars = ['*', '*'] ↔ segment = .anyDepth := by
    cases segment with
    | anyDepth => simp [Segment.chars]
    | piece chars => simpa [Segment.chars] using hsegment.ne_stars
  have hlength : 1 < (init ++ [segment]).length ↔ init ≠ [] := by
    rw [List.length_append, List.length_singleton, ← List.length_pos_iff]
    omega
  rw [hjoined, List.isSuffixOf_iff_suffix, List.getLast?_concat, Option.some_inj, hlength, ← hstars]
  by_cases hinit : init = []
  · simp only [hinit, if_true, List.nil_append, ne_eq, not_true, and_false, iff_false]
    exact fun h ↦ hslash (h.mem (by decide))
  · rw [if_neg hinit]
    simp only [hinit, ne_eq, not_false_eq_true, and_true]
    constructor
    · rintro ⟨front, hfront⟩
      -- read backwards, the last segment ends at the first separator
      have hreverse : ['*', '*'] ++ '/' :: front.reverse =
          segment.chars.reverse ++ '/' :: (joined '/' (init.map Segment.chars)).reverse := by
        simpa using congrArg List.reverse hfront
      have hchars := (Glob.append_inj_of_sep (by decide) (by simpa using hslash) (Or.inr ⟨_, rfl⟩)
        (Or.inr ⟨_, rfl⟩) hreverse).1
      rw [← List.reverse_reverse segment.chars, ← hchars]
      rfl
    · intro hchars
      exact ⟨joined '/' (init.map Segment.chars), by rw [hchars]; simp⟩

theorem sought_plain {s : Shape} (h : s.WellFormed) :
    s.sought ≠ [] ∧ ∀ segment ∈ s.sought, segment.IsPlain := by
  have hne := h.ne_nil
  have hplain := h.plain
  unfold Shape.sought
  split
  · rename_i hsegments
    rw [hsegments] at hplain
    refine ⟨by simp, fun segment hsegment ↦ ?_⟩
    rcases List.mem_cons.1 hsegment with rfl | hsegment
    · trivial
    · exact hplain segment hsegment
  · exact ⟨hne, hplain⟩

theorem closed_plain {segments : List Segment} (hne : segments ≠ [])
    (hplain : ∀ segment ∈ segments, segment.IsPlain) :
    closed segments ≠ [] ∧ (∀ segment ∈ closed segments, segment.IsPlain) ∧
      (closed segments = [.anyDepth] ∨ (closed segments).getLast? ≠ some .anyDepth) := by
  have hstar : IsPiece ['*'] := ⟨by decide, by decide, by simp⟩
  unfold closed
  split
  · refine ⟨by simp, fun segment hsegment ↦ ?_, Or.inr (by simp)⟩
    rcases List.mem_append.1 hsegment with hsegment | hsegment
    · exact hplain segment hsegment
    · rw [List.mem_singleton.1 hsegment]
      exact hstar
  · rename_i hopen
    refine ⟨hne, hplain, ?_⟩
    by_cases hlast : segments.getLast? = some .anyDepth
    · obtain ⟨init, rfl⟩ := List.getLast?_eq_some_iff.1 hlast
      have hinit : init = [] := by
        simpa [← List.length_pos_iff] using hopen
      exact Or.inl (by rw [hinit]; rfl)
    · exact Or.inr hlast

theorem glob_eq {s : Shape} (h : s.WellFormed) :
    Line.glob ⟨s.negated, s.rooted, s.directoriesOnly, s.body⟩ =
      joined '/' ((closed s.sought).map Segment.chars) := by
  obtain ⟨hne, hplain⟩ := sought_plain h
  rw [Line.glob]
  simp only [glob_sought h, isSuffixOf_joined hne hplain, closed]
  split
  · rw [List.map_append, List.map_singleton, Glob.joined_concat (by simpa using hne)]
    rfl
  · rfl

/-! ## Rules -/

/-- The rule of a pattern. -/
def Shape.rule (s : Shape) : Rule :=
  ⟨Glob.tokensOf (closed s.sought), s.negated, s.directoriesOnly⟩

/-- A pattern is compiled to the rule of its parts. -/
theorem rule?_eq {s : Shape} (h : s.WellFormed) {pattern : String}
    (hpattern : normalize pattern = s.text) : rule? pattern = .ok (some s.rule) := by
  have htrim : Text.trimEnd s.text = s.text := hpattern ▸ trimEnd_normalize pattern
  obtain ⟨hne, hplain⟩ := sought_plain h
  obtain ⟨hne', hplain', hlast⟩ := closed_plain hne hplain
  simp only [rule?, hpattern, h.ofChars? htrim, glob_eq h, Glob.read_segments hne' hplain' hlast]
  rfl

/-- Patterns made of segments can always be compiled. -/
theorem compile_eq {patterns : List String} {shapes : List Shape}
    (hshapes : ∀ s ∈ shapes, s.WellFormed)
    (htexts : patterns.map normalize = shapes.map Shape.text) {root : Name} (hroot : IsPlain root) :
    Exclusions.compile root patterns = .ok ⟨root, shapes.map Shape.rule⟩ := by
  have hrules : patterns.mapM rule? = .ok (shapes.map fun s ↦ some s.rule) := by
    clear hroot
    induction patterns generalizing shapes with
    | nil =>
      rw [List.map_eq_nil_iff.1 htexts.symm]
      rfl
    | cons pattern patterns ih =>
      have hne : shapes ≠ [] := by
        rintro rfl
        cases htexts
      obtain ⟨s, shapes, rfl⟩ := List.exists_cons_of_ne_nil hne
      obtain ⟨hfirst, hrest⟩ := List.cons.inj htexts
      rw [List.mapM_cons, rule?_eq (hshapes s List.mem_cons_self) hfirst,
        ih (fun s' hs' ↦ hshapes s' (List.mem_cons_of_mem s hs')) hrest]
      rfl
  have hfilter : (shapes.map fun s ↦ some s.rule).filterMap id = shapes.map Shape.rule := by
    simp [List.filterMap_map]
  have hrefusal : Glob.refusal? ((shapes.map Shape.rule).map (·.glob)) = none := by
    refine Glob.refusal?_eq_none fun pattern hpattern ↦ ?_
    simp only [List.map_map, List.mem_map, Function.comp_apply] at hpattern
    obtain ⟨s, -, rfl⟩ := hpattern
    exact Glob.isTooDeep_tokensOf _
  have hhere : Path.strip? Exclusions.here root = none := by
    rw [Path.strip?, if_neg]
    rw [List.isPrefixOf_iff_prefix]
    exact fun hstart ↦ hroot.no_slash (hstart.mem (by simp [Exclusions.here]))
  rw [Exclusions.compile, hrules]
  simp only [Except.bind, bind, hfilter, hrefusal, hhere]
  rfl

end SourceSurvey.Exclusion
