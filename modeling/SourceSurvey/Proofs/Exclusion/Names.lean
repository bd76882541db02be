import SourceSurvey.Proofs.Exclusion.Lines
import SourceSurvey.Proofs.Glob.Names

/-!
# Patterns of names below a root

A pattern without a separator, but for one at its end, is about the name of an entry: what it says is
the same in every directory, as long as no set in it stands for a separator.
-/

namespace SourceSurvey.Exclusion

open Glob (IsFront IsAboutName IsClosedSet IsOfName EverywhereAll joined trailing)
open SourceSurvey.Path (IsPlain joinAll dot slash)

/-! ## Entries below a root -/

theorem join_append (root : Path) (name : Name) (more : Path) :
    root.join (name ++ more) = root.join name ++ more := by
  unfold Path.join
  split <;> simp

/-- Names one inside the other, joined to a root at once. -/
theorem joinAll_eq_join (root : Path) {names : List Name} (hne : names ≠ [])
    (hnames : ∀ name ∈ names, IsPlain name) :
    joinAll root names = root.join (joined slash names) := by
  obtain ⟨name, names, rfl⟩ := List.exists_cons_of_ne_nil hne
  have hname := hnames name List.mem_cons_self
  obtain ⟨front, hfront⟩ : ∃ front, root.join name = front ++ name := by
    unfold Path.join
    split
    · exact ⟨root, rfl⟩
    · exact ⟨root ++ [slash], by simp⟩
  have hjoin : root.join name ≠ [] ∧ (root.join name).getLast? ≠ some slash := by
    rw [hfront]
    exact ⟨by simp [hname.ne_nil], hname.getLast?_append front⟩
  rw [Path.joinAll_cons, joinAll_eq hjoin fun n hn ↦ hnames n (List.mem_cons_of_mem name hn),
    joined, join_append]

/-- What is joined to a path stands at its end. -/
theorem exists_front_join {root : Path} (hroot : root ≠ []) (below : Path) :
    ∃ front, root.join below = front ++ below ∧ IsFront front := by
  obtain ⟨between, hjoin, hbetween⟩ := join_eq hroot below
  refine ⟨root ++ between, by rw [hjoin, List.append_assoc], Or.inr ?_⟩
  rcases hbetween with ⟨rfl, hlast⟩ | rfl
  · obtain ⟨init, rfl⟩ := List.getLast?_eq_some_iff.1 hlast
    exact ⟨init, List.append_nil _⟩
  · exact ⟨root, rfl⟩

/-- Names one inside the other begin neither with a separator nor with a dot and a separator. -/
theorem joined_front {names : List Name} (hne : names ≠ []) (hnames : ∀ n ∈ names, IsPlain n) :
    (joined slash names).head? ≠ some slash ∧
      Path.strip? Exclusions.here (joined slash names) = none := by
  obtain ⟨first, names, rfl⟩ := List.exists_cons_of_ne_nil hne
  have hplain := hnames first List.mem_cons_self
  obtain ⟨b, more, rfl⟩ := List.exists_cons_of_ne_nil hplain.ne_nil
  have hb : b ≠ slash := fun h ↦ hplain.no_slash (by simp [h])
  refine ⟨by simpa [joined] using hb, ?_⟩
  cases hstrip : Path.strip? Exclusions.here (joined slash ((b :: more) :: names)) with
  | none => rfl
  | some behind =>
    -- the first name would be a dot
    rw [strip?_eq_some_iff, joined, List.cons_append] at hstrip
    obtain ⟨rfl, hmore⟩ := List.cons.inj hstrip
    cases more with
    | nil => exact absurd rfl hplain.ne_here
    | cons c more =>
      obtain ⟨rfl, -⟩ := List.cons.inj hmore
      exact absurd (by simp) hplain.no_slash

/-- The path of an entry as it is seen from a root that spells the current directory at most once. -/
theorem relative_joinAll_of_not_twice {root : Path} (htwice : ¬IsHereTwice root) (rules : List Rule)
    {names : List Name} (hne : names ≠ []) (hnames : ∀ n ∈ names, IsPlain n) :
    (Exclusions.mk (keptRoot root) rules).relative (joinAll root names) = joined slash names := by
  obtain ⟨hhead, hhere⟩ := joined_front hne hnames
  rw [joinAll_eq_join root hne hnames]
  by_cases hroot : root = []
  · subst hroot
    refine relative_eq [] rfl hhead (Or.inl ⟨rfl, Or.inl rfl⟩) ?_
    exact congrArg (Option.getD · _) hhere
  · exact relative_join hroot htwice hhead rules

/-- The path of an entry as it is seen from the root ends in the name of the entry. -/
theorem exists_front_relative (root : Path) (rules : List Rule) {dirs : List Name} {name : Name}
    (hnames : ∀ n ∈ dirs ++ [name], IsPlain n) :
    ∃ front, (Exclusions.mk (keptRoot root) rules).relative (joinAll root (dirs ++ [name])) =
      front ++ name ∧ IsFront front := by
  have hne : dirs ++ [name] ≠ [] := by simp
  obtain ⟨front, hfront, hisFront⟩ := exists_front_joined dirs name
  by_cases htwice : IsHereTwice root
  · obtain ⟨spelling, rfl, hspelling⟩ := htwice
    have hne' : spelling ≠ [] := by
      rintro rfl
      cases hspelling
    obtain ⟨before, hbefore, hisBefore⟩ := exists_front_join hne' (joined slash (dirs ++ [name]))
    rw [joinAll_eq_join _ hne hnames, relative_join_twice hspelling, hbefore, hfront]
    refine ⟨before ++ front, (List.append_assoc _ _ _).symm, ?_⟩
    rcases hisFront with rfl | ⟨init, rfl⟩
    · simpa using hisBefore
    · exact Or.inr ⟨before ++ init, (List.append_assoc _ _ _).symm⟩
  · exact ⟨front, (relative_joinAll_of_not_twice htwice rules hne hnames).trans hfront, hisFront⟩

/-! ## Rules -/

/-- A pattern without a separator, but for one at its end. -/
def IsNamePattern (pattern : String) : Prop := '/' ∉ (normalize pattern).dropLast

instance (pattern : String) : Decidable (IsNamePattern pattern) :=
  inferInstanceAs (Decidable (_ ∉ _))

theorem Line.glob_of_no_slash {line : Line} (hrooted : line.rooted = false)
    (hslash : '/' ∉ line.body) (hstars : line.body ≠ ['*', '*']) :
    line.glob = '*' :: '*' :: '/' :: line.body := by
  have hstart : ¬['*', '*', '/'] <+: line.body := fun h ↦ hslash (h.mem (by simp))
  have hupper : startsUpper line.body = false := by
    rw [startsUpper, Bool.or_eq_false_iff, decide_eq_false_iff_not, Bool.eq_false_iff, Ne,
      List.isPrefixOf_iff_prefix]
    exact ⟨hstart, hstars⟩
  have hsuffix : "/**".toList.isSuffixOf ('*' :: '*' :: '/' :: line.body) = false := by
    rw [Bool.eq_false_iff, Ne, List.isSuffixOf_iff_suffix]
    rintro ⟨front, hfront⟩
    -- read backwards, the body ends at the only separator
    have hreverse : ['*', '*'] ++ '/' :: front.reverse = line.body.reverse ++ '/' :: ['*', '*'] := by
      simpa using congrArg List.reverse hfront
    have hbody := (Glob.append_inj_of_sep (by decide) (by simpa using hslash) (Or.inr ⟨_, rfl⟩)
      (Or.inr ⟨_, rfl⟩) hreverse).1
    exact hstars (List.reverse_injective hbody.symm)
  have hsought : (!line.rooted && !line.body.contains '/' && !startsUpper line.body) = true := by
    simp [hrooted, hslash, hupper]
  simp only [Line.glob, hsought, if_true]
  exact if_neg (Bool.eq_false_iff.1 hsuffix)

theorem not_mem_of_dropLast {α : Type} {a : α} {xs : List α} (h : a ∉ xs.dropLast)
    (hlast : xs.getLast? ≠ some a) : a ∉ xs := by
  rcases List.eq_nil_or_concat xs with rfl | ⟨init, last, rfl⟩
  · exact List.not_mem_nil
  · rw [List.concat_eq_append, List.dropLast_concat] at h
    rw [List.concat_eq_append, List.getLast?_concat, ne_eq, Option.some_inj] at hlast
    simp [h, Ne.symm hlast]

/-- The body of a line without separators, but for one at its end, holds none; and it is empty if that
one is taken from its start. -/
theorem Line.ofUnmarked_of_no_slash (negated : Bool) {chars : List Char}
    (hslash : '/' ∉ chars.dropLast) :
    '/' ∉ (Line.ofUnmarked negated chars).body ∧
      ((Line.ofUnmarked negated chars).rooted → (Line.ofUnmarked negated chars).body = []) := by
  unfold Line.ofUnmarked
  by_cases hrooted : chars.head? = some '/'
  · obtain ⟨more, rfl⟩ := List.head?_eq_some_iff.1 hrooted
    cases more with
    | nil => simp
    | cons => simp at hslash
  · simp only [hrooted, if_false]
    refine ⟨?_, by simp⟩
    split
    · exact hslash
    · exact not_mem_of_dropLast hslash (by assumption)

/-- A pattern of a name has a rule that is about names. -/
theorem isAboutName_of_rule? {pattern : String} (hname : IsNamePattern pattern) {rule : Rule}
    (h : rule? pattern = .ok (some rule)) : IsAboutName rule.glob := by
  obtain ⟨line, hline, hslash, hrooted⟩ : ∃ line, Line.ofChars? (normalize pattern) = some line ∧
      '/' ∉ line.body ∧ (line.rooted → line.body = []) := by
    by_cases hsilent : IsSilent pattern
    · simp [rule?, ofChars?_of_isSilent hsilent] at h
    · refine ⟨_, ofChars?_of_not_isSilent hsilent, ?_⟩
      split
      · refine Line.ofUnmarked_of_no_slash true fun hmem ↦ hname ?_
        rw [List.drop_one, ← List.tail_dropLast] at hmem
        exact List.mem_of_mem_tail hmem
      · exact Line.ofUnmarked_of_no_slash false hname
  obtain ⟨hread, -, -⟩ := rule?_eq_of_ofChars? hline h
  by_cases hstars : line.body = ['*', '*']
  · -- two stars alone are sought everywhere as they are
    have hfree : line.rooted = false := by
      rw [Bool.eq_false_iff]
      exact fun h ↦ absurd (hrooted h) (by simp [hstars])
    have hglob : Glob.read line.glob = .ok [.upper] := by
      simp only [Line.glob, hstars, hfree]
      rfl
    exact Or.inr ⟨[], Except.ok.inj (hread.symm.trans hglob), by simp [EverywhereAll]⟩
  cases hfree : line.rooted with
  | true =>
    have hglob : Glob.read line.glob = .ok [] := by
      simp only [Line.glob, hrooted hfree, hfree]
      rfl
    exact Or.inl (Except.ok.inj (hread.symm.trans hglob))
  | false =>
    rw [Line.glob_of_no_slash hfree hslash hstars] at hread
    exact Glob.isAboutName_of_read hslash hstars hread

/-! ## Verdicts -/

/-- Patterns of names say the same about entries of one name, wherever these are, if no set in the
patterns stands for a separator. -/
theorem excludes_congr_of_name {patterns : List String}
    (hnames : ∀ pattern ∈ patterns, IsNamePattern pattern)
    (hsets : ∀ pattern ∈ patterns, ∀ rule, rule? pattern = .ok (some rule) →
      EverywhereAll IsClosedSet rule.glob) {root : Path} {exclusions : Exclusions}
    (hcompile : Exclusions.compile root patterns = .ok exclusions) {dirs dirs' : List Name}
    {name : Name} (hplain : ∀ n ∈ dirs ++ [name], IsPlain n)
    (hplain' : ∀ n ∈ dirs' ++ [name], IsPlain n) (isDirectory : Bool) :
    exclusions.excludes (joinAll root (dirs ++ [name])) isDirectory =
      exclusions.excludes (joinAll root (dirs' ++ [name])) isDirectory := by
  have hname : IsPlain name := hplain name (by simp)
  have hkept := (compile_of_root hcompile root).1
  have hverdict {names : List Name} (hnames' : ∀ n ∈ names ++ [name], IsPlain n) :
      exclusions.excludes (joinAll root (names ++ [name])) isDirectory =
        (exclusions.rules.reverse.find? fun rule ↦ (isDirectory || !rule.directoriesOnly) &&
          Glob.isMatch rule.glob name).any fun rule ↦ !rule.negated := by
    obtain ⟨front, hrelative, hfront⟩ := exists_front_relative root exclusions.rules hnames'
    rw [← hkept] at hrelative
    rw [Exclusions.excludes, hrelative]
    refine congrArg (Option.any _) (List.find?_congr fun rule hrule ↦ ?_)
    obtain ⟨pattern, hpattern, hrule⟩ :=
      exists_pattern_of_mem_rules hcompile (List.mem_reverse.1 hrule)
    rw [Glob.isMatch_append_name (isAboutName_of_rule? (hnames pattern hpattern) hrule)
      (hsets pattern hpattern rule hrule) hfront hname.ne_nil hname.no_slash]
  rw [hverdict hplain, hverdict hplain']

/-- A set without the separator in its negation takes a path apart at other places than its names: what
a pattern says about a name then depends on where it is. -/
theorem excludes_name_ne :
    IsNamePattern "a[!b]c" ∧
      ∃ exclusions, Exclusions.compile (Path.ofString "p") ["a[!b]c"] = .ok exclusions ∧
        exclusions.excludes (joinAll (Path.ofString "p") [Path.ofString "a", Path.ofString "c"])
          false = true ∧
        exclusions.excludes (joinAll (Path.ofString "p") [Path.ofString "x", Path.ofString "c"])
          false = false :=
  ⟨by decide +kernel, ⟨Path.ofString "p", [⟨[.upper, .literal 'a', .set true [('b', 'b')],
    .literal 'c'], false, false⟩]⟩, by rfl, by cbv, by cbv⟩

/-- Some name that is not followed by a separator. -/
def starRule : Rule := ⟨[.upper, .star], false, false⟩

/-- A directory with a name of two characters and one of some endings, taken back in. -/
def endingRule : Rule :=
  ⟨[.upper, .set true [('+', '9')], .any, .literal '.', .choice [[.literal 'c'], [.literal 'h', .star]]],
    true, true⟩

/-- Negated sets stay within names if they hold the separator. -/
theorem excludes_congr_of_name_elsewhere :
    ∃ exclusions,
      Exclusions.compile (Path.ofString "p") ["*", "![!+-9]?.{c,h*}/"] = .ok exclusions ∧
      exclusions.excludes
          (joinAll (Path.ofString "p") ([Path.ofString "a"] ++ [Path.ofString "xy.h"])) true =
        exclusions.excludes (joinAll (Path.ofString "p") ([] ++ [Path.ofString "xy.h"])) true := by
  have hstar : rule? "*" = .ok (some starRule) := by rfl
  have hending : rule? "![!+-9]?.{c,h*}/" = .ok (some endingRule) := by rfl
  have hcompile : Exclusions.compile (Path.ofString "p") ["*", "![!+-9]?.{c,h*}/"] =
      .ok ⟨Path.ofString "p", [starRule, endingRule]⟩ := by
    simp only [Exclusions.compile, List.mapM_cons, List.mapM_nil, hstar, hending]
    rfl
  have hplain : ∀ n ∈ [Path.ofString "a", Path.ofString "xy.h"], IsPlain n := by
    intro n hn
    rcases List.mem_cons.1 hn with rfl | hn
    · exact ⟨by decide, by decide, by decide, by decide⟩
    · rw [List.mem_singleton.1 hn]
      exact ⟨by decide, by decide, by decide, by decide⟩
  refine ⟨_, hcompile, excludes_congr_of_name (by decide +kernel) ?_ hcompile hplain ?_ true⟩
  · intro pattern hpattern rule hrule
    rcases List.mem_cons.1 hpattern with rfl | hpattern
    · cases hstar.symm.trans hrule
      simp [starRule, EverywhereAll, Glob.Everywhere, IsClosedSet]
    · rw [List.mem_singleton.1 hpattern] at hrule
      cases hending.symm.trans hrule
      have hset : Glob.inSet [('+', '9')] Glob.slash = true := by decide
      simp [endingRule, EverywhereAll, Glob.Everywhere, Glob.EverywhereAny, IsClosedSet, hset]
  · exact fun n hn ↦ hplain n (List.mem_cons_of_mem _ hn)

end SourceSurvey.Exclusion
