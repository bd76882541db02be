import SourceSurvey.Proofs.Exclusion.Lines

/-!
# Lists of patterns

What a pattern at the end of a list adds to the verdicts of the list, plain or negated. A pattern that
says nothing may stand anywhere.
-/

namespace SourceSurvey.Exclusion

/-! ## Silent patterns -/

instance (pattern : String) : Decidable (IsSilent pattern) :=
  inferInstanceAs (Decidable (_ ∨ _))

theorem rule?_of_isSilent {pattern : String} (h : IsSilent pattern) : rule? pattern = .ok none := by
  simp [rule?, ofChars?_of_isSilent h]

/-- The rules of a list are those of its patterns that say something. -/
theorem filterMap_foundRule?_filter (patterns : List String) :
    (patterns.filter (¬IsSilent ·)).filterMap foundRule? = patterns.filterMap foundRule? := by
  rw [List.filterMap_filter]
  refine List.filterMap_congr fun pattern _ ↦ ?_
  by_cases hsilent : IsSilent pattern
  · simp [hsilent, foundRule?_of_eq_ok (rule?_of_isSilent hsilent)]
  · simp [hsilent]

/-- What a list is compiled to does not depend on its silent patterns. -/
theorem compile_eq_of_filter_eq {root : Path} {patterns more : List String}
    (hmore : more.filter (¬IsSilent ·) = patterns.filter (¬IsSilent ·)) {exclusions : Exclusions}
    (h : Exclusions.compile root patterns = .ok exclusions) :
    Exclusions.compile root more = .ok exclusions := by
  have hrules : more.filterMap foundRule? = patterns.filterMap foundRule? := by
    rw [← filterMap_foundRule?_filter more, hmore, filterMap_foundRule?_filter]
  rw [compile_eq_ok_iff] at h ⊢
  rw [hrules]
  refine ⟨fun pattern hpattern ↦ ?_, h.2⟩
  by_cases hsilent : IsSilent pattern
  · exact ⟨none, rule?_of_isSilent hsilent⟩
  · have hmem : pattern ∈ more.filter (¬IsSilent ·) := by simp [hpattern, hsilent]
    rw [hmore] at hmem
    exact h.1 pattern (List.mem_of_mem_filter hmem)

/-! ## Marked patterns -/

/-- A pattern and the same with a mark have rules that differ in what they decide only, if one of them
has a rule. -/
theorem exists_rule_of_mark {pattern marked : String}
    (hmarked : normalize marked = '!' :: normalize pattern) (hne : normalize pattern ≠ [])
    (hunmarked : (normalize pattern).head? ≠ some '!')
    (hcomment : (normalize pattern).head? ≠ some '#') {found : Option Rule}
    (h : rule? pattern = .ok found ∨ rule? marked = .ok found) :
    ∃ r : Rule, r.negated = false ∧ rule? pattern = .ok (some r) ∧
      rule? marked = .ok (some { r with negated := true }) := by
  have hline := ofChars?_of_no_mark rfl hne hunmarked hcomment
  have hlineMarked := ofChars?_of_mark hmarked
  have hglob : (Line.ofUnmarked true (normalize pattern)).glob =
      (Line.ofUnmarked false (normalize pattern)).glob := rfl
  rw [rule?_eq_ok_iff hline, rule?_eq_ok_iff hlineMarked, hglob] at h
  obtain ⟨glob, hread⟩ :
      ∃ glob, Glob.read (Line.ofUnmarked false (normalize pattern)).glob = .ok glob := by
    rcases h with ⟨glob, hread, -⟩ | ⟨glob, hread, -⟩ <;> exact ⟨glob, hread⟩
  exact ⟨⟨glob, false, _⟩, rfl, (rule?_eq_ok_iff hline).2 ⟨glob, hread, rfl⟩,
    (rule?_eq_ok_iff hlineMarked).2 ⟨glob, hglob ▸ hread, rfl⟩⟩

theorem exists_rule_marked {pattern : String} (hnormal : normalize pattern = pattern.toList)
    (hne : pattern ≠ "") (hunmarked : pattern.toList.head? ≠ some '!')
    (hcomment : pattern.toList.head? ≠ some '#') {rule : Option Rule}
    (h : rule? pattern = .ok rule) :
    ∃ r : Rule, r.negated = false ∧ rule = some r ∧
      rule? ("!" ++ pattern) = .ok (some { r with negated := true }) := by
  have hmarked : normalize ("!" ++ pattern) = '!' :: normalize pattern := by
    rw [normalize_mark hnormal hne, hnormal]
  rw [← hnormal] at hunmarked hcomment
  have hne' : normalize pattern ≠ [] := by
    rw [hnormal]
    simpa using hne
  obtain ⟨r, hplain, hrule, hruleMarked⟩ :=
    exists_rule_of_mark hmarked hne' hunmarked hcomment (Or.inl h)
  exact ⟨r, hplain, Except.ok.inj (h.symm.trans hrule), hruleMarked⟩

/-! ## The last rule -/

/-- Whether a rule is about an entry, seen from the root. -/
def Rule.isAbout (rule : Rule) (below : Path) (isDirectory : Bool) : Bool :=
  (isDirectory || !rule.directoriesOnly) && Glob.isMatch rule.glob below

/-- A rule at the end decides about the entries that it is about. -/
theorem excludes_concat_rule (e : Exclusions) (rule : Rule) (path : Path) (isDirectory : Bool) :
    (Exclusions.mk e.root (e.rules ++ [rule])).excludes path isDirectory =
      if rule.isAbout (e.relative path) isDirectory then !rule.negated
      else e.excludes path isDirectory := by
  have hrelative : (Exclusions.mk e.root (e.rules ++ [rule])).relative path = e.relative path := rfl
  rw [Exclusions.excludes, Exclusions.excludes, hrelative, List.reverse_concat, List.find?_cons,
    Rule.isAbout]
  split <;> simp_all

/-- A pattern at the end of a list adds its rule at the end. -/
theorem eq_concat_of_compile {root : Path} {patterns : List String} {pattern : String}
    {before added : Exclusions} {rule : Rule}
    (hbefore : Exclusions.compile root patterns = .ok before)
    (hrule : rule? pattern = .ok (some rule))
    (hadded : Exclusions.compile root (patterns ++ [pattern]) = .ok added) :
    added = ⟨before.root, before.rules ++ [rule]⟩ := by
  obtain ⟨-, -, rfl⟩ := compile_eq_ok_iff.1 hbefore
  obtain ⟨-, -, rfl⟩ := compile_eq_ok_iff.1 hadded
  simp [List.filterMap_append, foundRule?_of_eq_ok hrule]

/-- One pattern compiles to its rule. -/
theorem compile_singleton {root : Path} {pattern : String} {rule : Rule}
    (hrule : rule? pattern = .ok (some rule)) (hrefusal : Glob.refusal? [rule.glob] = none) :
    Exclusions.compile root [pattern] = .ok ⟨keptRoot root, [rule]⟩ := by
  have hrules : [pattern].filterMap foundRule? = [rule] := by
    simp [foundRule?_of_eq_ok hrule]
  rw [compile_eq_ok_iff, hrules]
  exact ⟨by simp [hrule], hrefusal, rfl⟩

/-- The verdict of one pattern that is not negated. -/
theorem excludes_of_compile_singleton {root : Path} {pattern : String} {alone : Exclusions}
    {rule : Rule} (hrule : rule? pattern = .ok (some rule)) (hplain : rule.negated = false)
    (halone : Exclusions.compile root [pattern] = .ok alone) (path : Path) (isDirectory : Bool) :
    alone.excludes path isDirectory = rule.isAbout (alone.relative path) isDirectory := by
  have hnil : Exclusions.compile root [] = .ok ⟨keptRoot root, []⟩ := rfl
  obtain rfl := eq_concat_of_compile hnil hrule halone
  rw [excludes_concat_rule, hplain]
  simp [Exclusions.excludes, Exclusions.relative]

/-- Of the patterns about an entry the last decides: a pattern at the end of a list excludes what it is
about, with a mark it takes that back in; patterns that say nothing change nothing. -/
theorem excludes_concat {root : Path} {patterns : List String} {pattern : String}
    (hnormal : normalize pattern = pattern.toList) (hne : pattern ≠ "")
    (hunmarked : pattern.toList.head? ≠ some '!') (hcomment : pattern.toList.head? ≠ some '#')
    {alone before added marked : Exclusions}
    (halone : Exclusions.compile root [pattern] = .ok alone)
    (hbefore : Exclusions.compile root patterns = .ok before)
    (hadded : Exclusions.compile root (patterns ++ [pattern]) = .ok added)
    (hmarked : Exclusions.compile root (patterns ++ ["!" ++ pattern]) = .ok marked)
    {more : List String} (hmore : more.filter (¬IsSilent ·) = patterns.filter (¬IsSilent ·))
    (path : Path) (isDirectory : Bool) :
    added.excludes path isDirectory =
        (alone.excludes path isDirectory || before.excludes path isDirectory) ∧
      marked.excludes path isDirectory =
        (before.excludes path isDirectory && !alone.excludes path isDirectory) ∧
      Exclusions.compile root more = .ok before := by
  obtain ⟨found, hfound⟩ := (compile_eq_ok_iff.1 halone).1 pattern (by simp)
  obtain ⟨rule, hplain, rfl, hruleMarked⟩ :=
    exists_rule_marked hnormal hne hunmarked hcomment hfound
  have hverdict := excludes_of_compile_singleton hfound hplain halone path isDirectory
  have hrelative : alone.relative path = before.relative path := by
    rw [(compile_of_root halone root).1, (compile_of_root hbefore root).1]
    rfl
  rw [hrelative] at hverdict
  refine ⟨?_, ?_, compile_eq_of_filter_eq hmore hbefore⟩
  · rw [eq_concat_of_compile hbefore hfound hadded, excludes_concat_rule, hverdict, hplain]
    cases rule.isAbout (before.relative path) isDirectory <;> simp
  · have habout : Rule.isAbout { rule with negated := true } = rule.isAbout := rfl
    rw [eq_concat_of_compile hbefore hruleMarked hmarked, excludes_concat_rule, hverdict, habout]
    cases rule.isAbout (before.relative path) isDirectory <;> simp

/-- Directories of one name, and sources, which are excluded with one pattern more and not with its
mark; a comment and a blank change nothing. -/
theorem excludes_concat_sources :
    ∃ alone before added marked,
      Exclusions.compile (Path.ofString "p") ["*.c"] = .ok alone ∧
      Exclusions.compile (Path.ofString "p") ["a/"] = .ok before ∧
      Exclusions.compile (Path.ofString "p") (["a/"] ++ ["*.c"]) = .ok added ∧
      Exclusions.compile (Path.ofString "p") (["a/"] ++ ["!" ++ "*.c"]) = .ok marked ∧
      added.excludes (Path.ofString "p/b/a.c") false ∧
      marked.excludes (Path.ofString "p/b/a.c") false = false ∧
      Exclusions.compile (Path.ofString "p") ["./#", "a/", " "] = .ok before := by
  have hnormal : normalize "*.c" = "*.c".toList := rfl
  have hsources : rule? "*.c" =
      .ok (some ⟨[.upper, .star, .literal '.', .literal 'c'], false, false⟩) := rfl
  have hmark : rule? "!*.c" =
      .ok (some ⟨[.upper, .star, .literal '.', .literal 'c'], true, false⟩) := rfl
  have hdirectories : rule? "a/" = .ok (some ⟨[.upper, .literal 'a'], false, true⟩) := rfl
  have hcomment : IsSilent "./#" := Or.inr rfl
  have hblank : IsSilent " " := Or.inl (by simp [show normalize " " = [] from rfl])
  have hmore : ["./#", "a/", " "].filter (¬IsSilent ·) = ["a/"].filter (¬IsSilent ·) := by
    simp [List.filter_cons, hcomment, hblank]
  let alone : Exclusions :=
    ⟨Path.ofString "p", [⟨[.upper, .star, .literal '.', .literal 'c'], false, false⟩]⟩
  have halone : Exclusions.compile (Path.ofString "p") ["*.c"] = .ok alone :=
    compile_eq_ok_iff.2 ⟨by simp [hsources], by rfl, rfl⟩
  have hbefore : Exclusions.compile (Path.ofString "p") ["a/"] = .ok _ :=
    compile_eq_ok_iff.2 ⟨by simp [hdirectories], by rfl, rfl⟩
  have hadded : Exclusions.compile (Path.ofString "p") (["a/"] ++ ["*.c"]) = .ok _ :=
    compile_eq_ok_iff.2 ⟨by simp [hdirectories, hsources], by rfl, rfl⟩
  have hmarked : Exclusions.compile (Path.ofString "p") (["a/"] ++ ["!" ++ "*.c"]) = .ok _ :=
    compile_eq_ok_iff.2 ⟨by simp [hdirectories, hmark], by rfl, rfl⟩
  have hexcluded : alone.excludes (Path.ofString "p/b/a.c") false = true := by cbv
  obtain ⟨hwith, hwithout, hsame⟩ := excludes_concat hnormal (by decide) (by decide) (by decide)
    halone hbefore hadded hmarked hmore (Path.ofString "p/b/a.c") false
  rw [hexcluded] at hwith hwithout
  exact ⟨_, _, _, _, halone, hbefore, hadded, hmarked, hwith.trans (Bool.true_or _),
    hwithout.trans (Bool.and_false _), hsame⟩

end SourceSurvey.Exclusion
