import SourceSurvey.Proofs.Exclusion.Combining
import SourceSurvey.Proofs.Exclusion.Names
import SourceSurvey.Proofs.Glob.Opening

/-!
# A dot and a separator in front of a pattern

One `./` is taken away in front of a pattern, and nowhere else. So a pattern with `./` in front is the
pattern without it; but behind an exclamation mark, or behind another `./`, the two characters stay, and
what is read then is about no entry, since no path below a root has a dot and a separator in front.
-/

namespace SourceSurvey.Exclusion

open SourceSurvey.Path (IsPlain joinAll slash)
open Exclusions (here)
open Glob (IsFront joined)
open Text (trimEnd_of_trim trimEnd_cons)

/-! ## A dot and a separator that stay -/

/-- A line with a dot and a separator in front is sought as it is. -/
theorem glob_of_here (negated : Bool) {text : List Char} (hne : text ≠ []) :
    ∃ rest, (Line.ofUnmarked negated ('.' :: '/' :: text)).glob = '.' :: '/' :: rest := by
  obtain ⟨body, hbody⟩ : ∃ body, (Line.ofUnmarked negated ('.' :: '/' :: text)).body =
      '.' :: '/' :: body := by
    obtain ⟨c, more, rfl⟩ := List.exists_cons_of_ne_nil hne
    unfold Line.ofUnmarked
    simp only [List.head?_cons, Option.some.injEq, Char.reduceEq, if_false]
    split
    · exact ⟨(c :: more).dropLast, rfl⟩
    · exact ⟨c :: more, rfl⟩
  rw [Line.glob]
  simp only [hbody, List.contains_cons, beq_self_eq_true, Bool.true_or, Bool.or_true, Bool.not_true,
    Bool.and_false, Bool.false_and, Bool.false_eq_true, if_false]
  split
  · exact ⟨body ++ "/*".toList, rfl⟩
  · exact ⟨body, rfl⟩

/-- The path of some entry below a root. -/
def IsEntryBelow (root path : Path) : Prop :=
  ∃ names, names ≠ [] ∧ (∀ n ∈ names, IsPlain n) ∧ path = joinAll root names

/-- A dot alone is no name of an entry. -/
theorem isMatch_dot_of_front {front : Path} {name : Name} (hfront : IsFront front)
    (hname : IsPlain name) : Glob.isMatch [.upper, .literal '.'] (front ++ name) = false := by
  rw [Bool.eq_false_iff]
  intro h
  rw [Glob.isMatch_iff, or_iff_right (by simp)] at h
  obtain ⟨-, before, _, hsplit, hbefore, last, _, rfl, hlast, rfl⟩ := h
  simp only [Glob.Spells] at hbefore hlast
  have hsame : name = last := by
    calc
      name = Glob.lastName (front ++ name) := (Glob.lastName_append hname.no_slash hfront).symm
      _ = Glob.lastName (before ++ last) := by rw [hsplit, List.append_nil]
      _ = last := Glob.lastName_append (by rw [hlast]; decide) hbefore
  exact hname.ne_here (hsame.trans hlast)

theorem isMatch_dot {names : List Name} (hne : names ≠ []) (hnames : ∀ n ∈ names, IsPlain n) :
    Glob.isMatch [.upper, .literal '.'] (joined slash names) = false := by
  obtain ⟨dirs, name, rfl⟩ := (List.eq_nil_or_concat' names).resolve_left hne
  obtain ⟨front, hjoined, hfront⟩ := exists_front_joined dirs name
  rw [hjoined]
  exact isMatch_dot_of_front hfront (hnames name (by simp))

/-- A rule of a line with a dot and a separator in front is about no entry below a root. -/
theorem isAbout_eq_false_of_here {pattern : String} {negated : Bool} {text : List Char}
    (hline : Line.ofChars? (normalize pattern) = some (.ofUnmarked negated ('.' :: '/' :: text)))
    {rule : Rule} (hrule : rule? pattern = .ok (some rule)) {names : List Name} (hne : names ≠ [])
    (hnames : ∀ n ∈ names, IsPlain n) (isDirectory : Bool) :
    rule.isAbout (joined slash names) isDirectory = false := by
  obtain ⟨hread, -, -⟩ := rule?_eq_of_ofChars? hline hrule
  have hmatch : Glob.isMatch rule.glob (joined slash names) = false := by
    by_cases htext : text = []
    · subst htext
      have hdot : Glob.read (Line.ofUnmarked negated ['.', '/']).glob =
          .ok [.upper, .literal '.'] := rfl
      rw [← Except.ok.inj (hdot.symm.trans hread)]
      exact isMatch_dot hne hnames
    · obtain ⟨rest, hglob⟩ := glob_of_here negated htext
      rw [hglob] at hread
      rw [Bool.eq_false_iff]
      intro h
      obtain ⟨more, hhere⟩ := Glob.exists_here_of_isMatch hread h
      have hnone := (joined_front hne hnames).2
      rw [hhere] at hnone
      cases hnone.symm.trans (strip?_append here more)
  rw [Rule.isAbout, hmatch, Bool.and_false]

/-- At the end of a list, a pattern with a dot and a separator that stay says nothing. -/
theorem excludes_concat_of_here {root : Path} (htwice : ¬IsHereTwice root) {patterns : List String}
    {pattern : String} {before added : Exclusions}
    (hbefore : Exclusions.compile root patterns = .ok before)
    (hadded : Exclusions.compile root (patterns ++ [pattern]) = .ok added)
    {negated : Bool} {text : List Char}
    (hline : Line.ofChars? (normalize pattern) = some (.ofUnmarked negated ('.' :: '/' :: text)))
    {path : Path} (hpath : IsEntryBelow root path) (isDirectory : Bool) :
    added.excludes path isDirectory = before.excludes path isDirectory := by
  obtain ⟨names, hne, hnames, rfl⟩ := hpath
  obtain ⟨found, hfound⟩ := (compile_eq_ok_iff.1 hadded).1 pattern (by simp)
  obtain ⟨glob, -, rfl⟩ := (rule?_eq_ok_iff hline).1 hfound
  have hrelative : before.relative (joinAll root names) = joined slash names := by
    rw [(compile_of_root hbefore root).1]
    exact relative_joinAll_of_not_twice htwice _ hne hnames
  rw [eq_concat_of_compile hbefore hfound hadded, excludes_concat_rule, hrelative,
    isAbout_eq_false_of_here hline hfound hne hnames isDirectory]
  exact if_neg Bool.false_ne_true

/-! ## Verdicts -/

section

variable {pattern : String}
  (htrim : Text.trim (separated pattern.toList) = separated pattern.toList)
  (hne : separated pattern.toList ≠ [])

include htrim hne

/-- Without another one before it, a dot and a separator in front make no difference. -/
theorem compile_here_congr (hdotted : ¬IsDotted pattern) {herePattern : String}
    (hhere : separated herePattern.toList = '.' :: '/' :: separated pattern.toList) (root : Path)
    (before after : List String) (exclusions : Exclusions) :
    Exclusions.compile root (before ++ herePattern :: after) = .ok exclusions ↔
      Exclusions.compile root (before ++ pattern :: after) = .ok exclusions := by
  have hsame : normalize herePattern = normalize pattern := by
    rw [normalize_of_here (trimEnd_of_trim htrim) hne hhere, normalize_of_not_dotted htrim hdotted]
  apply compile_eq_ok_congr
  simp only [List.map_append, List.map_cons, hsame]

/-- Behind another one, a dot and a separator in front leave a pattern about no entry. -/
theorem excludes_here_of_dotted (hdotted : IsDotted pattern) {herePattern : String}
    (hhere : separated herePattern.toList = '.' :: '/' :: separated pattern.toList) {root : Path}
    (htwice : ¬IsHereTwice root) {exclusions : Exclusions}
    (h : Exclusions.compile root [herePattern] = .ok exclusions) {path : Path}
    (hpath : IsEntryBelow root path) (isDirectory : Bool) :
    exclusions.excludes path isDirectory = false := by
  obtain ⟨rest, hrest⟩ := hdotted
  have hnormal : normalize herePattern = '.' :: '/' :: rest := by
    rw [normalize_of_here (trimEnd_of_trim htrim) hne hhere, hrest]
  have hline := ofChars?_of_no_mark hnormal (by simp) (by simp) (by simp)
  have hnil : Exclusions.compile root [] = .ok ⟨keptRoot root, []⟩ := rfl
  rw [excludes_concat_of_here htwice hnil h hline hpath]
  rfl

/-- Behind a mark and another dot and separator nothing is taken back in. -/
theorem excludes_marked_here {markedHere : String}
    (hhere : separated markedHere.toList = '!' :: '.' :: '/' :: separated pattern.toList)
    {root : Path} (htwice : ¬IsHereTwice root) {patterns : List String} {before added : Exclusions}
    (hbefore : Exclusions.compile root patterns = .ok before)
    (hadded : Exclusions.compile root (patterns ++ [markedHere]) = .ok added) {path : Path}
    (hpath : IsEntryBelow root path) (isDirectory : Bool) :
    added.excludes path isDirectory = before.excludes path isDirectory := by
  have hslash : Text.trimEnd ('/' :: separated pattern.toList) = '/' :: separated pattern.toList :=
    trimEnd_cons (trimEnd_of_trim htrim) hne
  have hdot := trimEnd_cons (c := '.') hslash (List.cons_ne_nil _ _)
  have hline := ofChars?_of_mark (normalize_of_mark hdot (List.cons_ne_nil _ _) hhere)
  exact excludes_concat_of_here htwice hbefore hadded hline hpath isDirectory

/-- What a pattern takes back in with a mark is what it excludes. -/
theorem excludes_marked (hunmarked : pattern.toList.head? ≠ some '!')
    (hcomment : pattern.toList.head? ≠ some '#') (hdotted : ¬IsDotted pattern) {marked : String}
    (hmarked : separated marked.toList = '!' :: separated pattern.toList) {root : Path}
    {patterns : List String} {before added : Exclusions}
    (hbefore : Exclusions.compile root patterns = .ok before)
    (hadded : Exclusions.compile root (patterns ++ [marked]) = .ok added) :
    ∃ alone, Exclusions.compile root [pattern] = .ok alone ∧ ∀ path isDirectory,
      added.excludes path isDirectory =
        (before.excludes path isDirectory && !alone.excludes path isDirectory) := by
  have hnormal := normalize_of_not_dotted htrim hdotted
  have hnormalMarked : normalize marked = '!' :: normalize pattern := by
    rw [normalize_of_mark (trimEnd_of_trim htrim) hne hmarked, hnormal]
  have hhead (c : Char) (hc : c ≠ '/') (hc' : c ≠ '\\') (h : pattern.toList.head? ≠ some c) :
      (normalize pattern).head? ≠ some c := by
    rwa [hnormal, ne_eq, head?_separated hc hc']
  obtain ⟨found, hfound⟩ := (compile_eq_ok_iff.1 hadded).1 marked (by simp)
  obtain ⟨rule, hplain, hrule, hruleMarked⟩ := exists_rule_of_mark hnormalMarked (hnormal ▸ hne)
    (hhead '!' (by decide) (by decide) hunmarked) (hhead '#' (by decide) (by decide) hcomment)
    (Or.inr hfound)
  have hmem : { rule with negated := true } ∈ added.rules := by
    rw [eq_concat_of_compile hbefore hruleMarked hadded]
    simp
  have hrefusal := refusal?_singleton_of_mem_rules hadded hmem
  have halone : Exclusions.compile root [pattern] = .ok ⟨keptRoot root, [rule]⟩ :=
    compile_singleton hrule hrefusal
  refine ⟨_, halone, fun path isDirectory ↦ ?_⟩
  have habout : Rule.isAbout { rule with negated := true } = rule.isAbout := rfl
  have hrelative : (Exclusions.mk (keptRoot root) [rule]).relative path = before.relative path := by
    rw [(compile_of_root hbefore root).1]
    rfl
  rw [eq_concat_of_compile hbefore hruleMarked hadded, excludes_concat_rule, habout,
    excludes_of_compile_singleton hrule hplain halone, hrelative]
  cases rule.isAbout (before.relative path) isDirectory <;> simp

end

/-- In front of a pattern that does not have them already, a dot and a separator make no difference; in
front of one that does, they leave nothing to exclude. Behind a mark they leave nothing to take back in:
that makes a difference for what the patterns before and the pattern itself exclude. Backslashes are
separators throughout. -/
theorem excludes_here_congr {pattern : String} (htrim : Text.trim pattern.toList = pattern.toList)
    (hne : pattern ≠ "") (hunmarked : pattern.toList.head? ≠ some '!')
    (hcomment : pattern.toList.head? ≠ some '#') {herePattern marked markedHere : String}
    (hhere : separated herePattern.toList = '.' :: '/' :: separated pattern.toList)
    (hmarked : separated marked.toList = '!' :: separated pattern.toList)
    (hmarkedHere : separated markedHere.toList = '!' :: '.' :: '/' :: separated pattern.toList)
    (root : Path) :
    (¬IsDotted pattern → ∀ before after exclusions,
      Exclusions.compile root (before ++ herePattern :: after) = .ok exclusions ↔
        Exclusions.compile root (before ++ pattern :: after) = .ok exclusions) ∧
    (IsDotted pattern → ¬IsHereTwice root → ∀ exclusions,
      Exclusions.compile root [herePattern] = .ok exclusions →
        ∀ path, IsEntryBelow root path → ∀ isDirectory,
          exclusions.excludes path isDirectory = false) ∧
    (¬IsHereTwice root → ∀ patterns negated negatedHere,
      Exclusions.compile root (patterns ++ [marked]) = .ok negated →
      Exclusions.compile root (patterns ++ [markedHere]) = .ok negatedHere →
        (IsDotted pattern → ∀ path, IsEntryBelow root path → ∀ isDirectory,
          negatedHere.excludes path isDirectory = negated.excludes path isDirectory) ∧
        (¬IsDotted pattern → ∃ before alone, Exclusions.compile root patterns = .ok before ∧
          Exclusions.compile root [pattern] = .ok alone ∧
          ∀ path, IsEntryBelow root path → ∀ isDirectory,
            (negatedHere.excludes path isDirectory = negated.excludes path isDirectory ↔
              ¬(before.excludes path isDirectory ∧ alone.excludes path isDirectory)))) := by
  have htrim' : Text.trim (separated pattern.toList) = separated pattern.toList := by
    rw [trim_separated, htrim]
  have hne' : separated pattern.toList ≠ [] := by
    rw [ne_eq, separated_eq_nil_iff]
    simpa using hne
  refine ⟨?_, ?_, ?_⟩
  · intro hdotted before after exclusions
    exact compile_here_congr htrim' hne' hdotted hhere root before after exclusions
  · intro hdotted htwice exclusions h path hpath isDirectory
    exact excludes_here_of_dotted htrim' hne' hdotted hhere htwice h hpath isDirectory
  · intro htwice patterns negated negatedHere hnegated hnegatedHere
    obtain ⟨before, hbefore⟩ :=
      exists_compile_of_subset (List.subset_append_left patterns [marked]) hnegated
    refine ⟨?_, ?_⟩
    · rintro ⟨rest, hrest⟩ path hpath isDirectory
      rw [excludes_marked_here htrim' hne' hmarkedHere htwice hbefore hnegatedHere hpath]
      rw [hrest] at hmarked htrim'
      have hline := ofChars?_of_mark
        (normalize_of_mark (trimEnd_of_trim htrim') (List.cons_ne_nil _ _) hmarked)
      exact (excludes_concat_of_here htwice hbefore hnegated hline hpath isDirectory).symm
    · intro hdotted
      obtain ⟨alone, halone, hverdict⟩ :=
        excludes_marked htrim' hne' hunmarked hcomment hdotted hmarked hbefore hnegated
      refine ⟨before, alone, hbefore, halone, fun path hpath isDirectory ↦ ?_⟩
      rw [excludes_marked_here htrim' hne' hmarkedHere htwice hbefore hnegatedHere hpath, hverdict]
      cases before.excludes path isDirectory <;> simp

/-- All sources. -/
def sourcesRule : Rule := ⟨[.upper, .star, .literal '.', .literal 'c'], false, false⟩

/-- One source, taken back in. -/
def sourceRule : Rule := ⟨[.upper, .literal 'a', .literal '.', .literal 'c'], true, false⟩

/-- What should be one source, taken back in. -/
def sourceHereRule : Rule :=
  ⟨[.literal '.', .literal '/', .literal 'a', .literal '.', .literal 'c'], true, false⟩

/-- A dot and a separator behind a mark, and two of each in front, are not seen through. -/
theorem excludes_here_ne :
    (∃ negated negatedHere,
      Exclusions.compile (Path.ofString "p") ["*.c", "!a.c"] = .ok negated ∧
        Exclusions.compile (Path.ofString "p") ["*.c", "!./a.c"] = .ok negatedHere ∧
        negated.excludes (joinAll (Path.ofString "p") [Path.ofString "a.c"]) false = false ∧
        negatedHere.excludes (joinAll (Path.ofString "p") [Path.ofString "a.c"]) false = true) ∧
    ∃ once twice, Exclusions.compile (Path.ofString "p") ["./a"] = .ok once ∧
      Exclusions.compile (Path.ofString "p") ["././a"] = .ok twice ∧
      once.excludes (joinAll (Path.ofString "p") [Path.ofString "a"]) false = true ∧
      twice.excludes (joinAll (Path.ofString "p") [Path.ofString "a"]) false = false := by
  refine ⟨⟨⟨Path.ofString "p", [sourcesRule, sourceRule]⟩,
    ⟨Path.ofString "p", [sourcesRule, sourceHereRule]⟩, by rfl, by rfl, by cbv, by cbv⟩, ?_⟩
  exact ⟨⟨Path.ofString "p", [⟨[.upper, .literal 'a'], false, false⟩]⟩,
    ⟨Path.ofString "p", [⟨[.literal '.', .literal '/', .literal 'a'], false, false⟩]⟩,
    by rfl, by rfl, by cbv, by cbv⟩

/-- One source among others, with a backslash. -/
theorem excludes_here_congr_source :
    (∀ exclusions,
      Exclusions.compile (Path.ofString "p") (["*.c"] ++ ".\\a.c" :: []) = .ok exclusions ↔
        Exclusions.compile (Path.ofString "p") (["*.c"] ++ "a.c" :: []) = .ok exclusions) ∧
    ∃ negated negatedHere before alone,
      Exclusions.compile (Path.ofString "p") (["*.c"] ++ ["!a.c"]) = .ok negated ∧
        Exclusions.compile (Path.ofString "p") (["*.c"] ++ ["!.\\a.c"]) = .ok negatedHere ∧
        Exclusions.compile (Path.ofString "p") ["*.c"] = .ok before ∧
        Exclusions.compile (Path.ofString "p") ["a.c"] = .ok alone ∧
        (negatedHere.excludes (joinAll (Path.ofString "p") [Path.ofString "a.c"]) false =
            negated.excludes (joinAll (Path.ofString "p") [Path.ofString "a.c"]) false ↔
          ¬(before.excludes (joinAll (Path.ofString "p") [Path.ofString "a.c"]) false ∧
            alone.excludes (joinAll (Path.ofString "p") [Path.ofString "a.c"]) false)) := by
  have hhere : separated ".\\a.c".toList = '.' :: '/' :: separated "a.c".toList := by decide
  have hmarked : separated "!a.c".toList = '!' :: separated "a.c".toList := by decide
  have hmarkedHere : separated "!.\\a.c".toList = '!' :: '.' :: '/' :: separated "a.c".toList := by
    decide
  have hdotted : ¬IsDotted "a.c" := by
    rintro ⟨rest, hrest⟩
    cases hrest
  have htwice : ¬IsHereTwice (Path.ofString "p") := by
    rintro ⟨rest, hroot, -⟩
    cases hroot
  have hentry : IsEntryBelow (Path.ofString "p")
      (joinAll (Path.ofString "p") [Path.ofString "a.c"]) := by
    refine ⟨_, List.cons_ne_nil _ _, fun n hn ↦ ?_, rfl⟩
    rw [List.mem_singleton.1 hn]
    exact ⟨by decide, by decide, by decide, by decide⟩
  have hnegated : Exclusions.compile (Path.ofString "p") (["*.c"] ++ ["!a.c"]) =
      .ok ⟨Path.ofString "p", [sourcesRule, sourceRule]⟩ := by rfl
  have hnegatedHere : Exclusions.compile (Path.ofString "p") (["*.c"] ++ ["!.\\a.c"]) =
      .ok ⟨Path.ofString "p", [sourcesRule, sourceHereRule]⟩ := by rfl
  obtain ⟨hsame, -, hverdict⟩ := excludes_here_congr (by decide) (by decide) (by decide) (by decide)
    hhere hmarked hmarkedHere (Path.ofString "p")
  obtain ⟨before, alone, hbefore, halone, hiff⟩ :=
    (hverdict htwice ["*.c"] _ _ hnegated hnegatedHere).2 hdotted
  exact ⟨hsame hdotted ["*.c"] [], _, _, before, alone, hnegated, hnegatedHere, hbefore, halone,
    hiff _ hentry false⟩

end SourceSurvey.Exclusion
