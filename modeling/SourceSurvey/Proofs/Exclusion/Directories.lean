import SourceSurvey.Proofs.Exclusion.Here

/-!
# Patterns for directories

A separator at the end of a pattern restricts it to directories: the rule is that of the pattern without
the separator, and entries that are no directories fall through to the patterns before. The separator
does nothing else, unless the pattern is an exclamation mark alone. Such a mark takes everything back in,
but a separator behind it stands in front of an empty name, and nothing is taken back in then.
-/

namespace SourceSurvey.Exclusion

open SourceSurvey.Path (IsPlain joinAll)
open Glob (IsFront)
open Text (trimEnd_eq_self_iff not_isBlank_head trim_cons)

/-! ## The text -/

theorem trim_concat_slash {text : List Char} (htrim : Text.trim text = text) (hne : text ≠ []) :
    Text.trim (text ++ ['/']) = text ++ ['/'] := by
  obtain ⟨c, more, rfl⟩ := List.exists_cons_of_ne_nil hne
  have hend : Text.trimEnd (more ++ ['/']) = more ++ ['/'] := by
    rw [trimEnd_eq_self_iff]
    intro h
    rw [List.getLast_append_singleton]
    decide
  exact trim_cons (not_isBlank_head htrim) hend (by simp)

theorem withoutHere_concat_slash {text : List Char} (hdot : text ≠ ['.']) :
    withoutHere (text ++ ['/']) = withoutHere text ++ ['/'] := by
  fun_cases withoutHere text with
  | case1 rest => rfl
  | case2 text hnone =>
    cases text with
    | nil => rfl
    | cons c text =>
      rw [List.cons_append, withoutHere]
      -- a dot and a separator in front are there already, or the text is a dot
      rintro rest h
      cases text <;> simp_all

/-- A text that does not end in a separator does so without a dot and a separator in front, too. -/
theorem withoutHere_ne_nil {text : List Char} (hne : text ≠ []) (hlast : text.getLast? ≠ some '/') :
    withoutHere text ≠ [] ∧ (withoutHere text).getLast? ≠ some '/' := by
  revert hlast
  fun_cases withoutHere text with
  | case1 rest =>
    intro hlast
    cases rest with
    | nil => exact absurd rfl hlast
    | cons c rest => exact ⟨List.cons_ne_nil _ _, by simpa using hlast⟩
  | case2 => exact fun hlast ↦ ⟨hne, hlast⟩

section

variable {pattern : String} (htrim : Text.trim pattern.toList = pattern.toList) (hne : pattern ≠ "")

include htrim hne

theorem normalize_concat_slash (hdot : pattern ≠ ".") :
    normalize (pattern ++ "/") = normalize pattern ++ ['/'] := by
  have htrim' : Text.trim (separated pattern.toList) = separated pattern.toList := by
    rw [trim_separated, htrim]
  have hne' : separated pattern.toList ≠ [] := by
    rw [ne_eq, separated_eq_nil_iff]
    simpa using hne
  have hdot' : separated pattern.toList ≠ ['.'] := by
    intro h
    obtain ⟨c, hc, hsame⟩ := List.map_eq_singleton_iff.1 h
    split at hsame
    · cases hsame
    · exact hdot (String.toList_injective (by rw [hc, hsame]; rfl))
  have hslash : separated (pattern ++ "/").toList = separated pattern.toList ++ ['/'] := by
    simp [separated]
  rw [normalize_eq, normalize_eq, hslash, trim_concat_slash htrim' hne', htrim',
    withoutHere_concat_slash hdot']

theorem normalize_ne_nil (hslash : pattern.toList.getLast? ≠ some '/')
    (hbackslash : pattern.toList.getLast? ≠ some '\\') :
    normalize pattern ≠ [] ∧ (normalize pattern).getLast? ≠ some '/' := by
  have hlast : (separated pattern.toList).getLast? ≠ some '/' := by
    rw [separated, List.getLast?_map]
    intro h
    obtain ⟨c, hc, hsame⟩ := Option.map_eq_some_iff.1 h
    split at hsame
    · rename_i hback
      exact hbackslash (by rw [hc, hback])
    · exact hslash (by rw [hc, hsame])
  rw [normalize_eq, trim_separated, htrim]
  refine withoutHere_ne_nil ?_ hlast
  rw [ne_eq, separated_eq_nil_iff]
  simpa using hne

end

/-! ## The rule -/

/-- The line of a pattern with a separator at its end is that of the pattern, for directories. -/
theorem ofUnmarked_concat_slash (negated : Bool) {chars : List Char} (hne : chars ≠ [])
    (hlast : chars.getLast? ≠ some '/') :
    Line.ofUnmarked negated (chars ++ ['/']) =
      { Line.ofUnmarked negated chars with directoriesOnly := true } := by
  obtain ⟨c, more, rfl⟩ := List.exists_cons_of_ne_nil hne
  by_cases hc : c = '/'
  · have hmore : more ≠ [] := by
      rintro rfl
      exact hlast (by rw [hc]; rfl)
    have hlast' : more.getLast? ≠ some '/' := by
      rwa [List.getLast?_cons_of_ne_nil hmore] at hlast
    simp [Line.ofUnmarked, hc, hlast']
  · have hdrop : (c :: (more ++ ['/'])).dropLast = c :: more := by
      rw [← List.cons_append, List.dropLast_concat]
    have hend : (c :: (more ++ ['/'])).getLast? = some '/' := by
      rw [← List.cons_append, List.getLast?_concat]
    simp only [Line.ofUnmarked, List.cons_append, List.head?_cons, Option.some.injEq, hc, if_false,
      hend, hlast, hdrop, decide_true, decide_false, if_true]

/-- A rule about the same entries, as far as these are directories. -/
def Rule.restricted (rule : Rule) : Rule := { rule with directoriesOnly := true }

/-- What a rule says about an entry, seen from the root, if there is a rule and it is about the entry:
whether the entry is excluded. -/
def verdict? (found : Option Rule) (below : Path) (isDirectory : Bool) : Option Bool :=
  (found.filter fun rule ↦ rule.isAbout below isDirectory).map fun rule ↦ !rule.negated

theorem verdict?_some (rule : Rule) (below : Path) (isDirectory : Bool) :
    verdict? (some rule) below isDirectory =
      if rule.isAbout below isDirectory then some !rule.negated else none := by
  rw [verdict?, Option.filter_some]
  split <;> rfl

theorem verdict?_restricted (found : Option Rule) (below : Path) :
    verdict? (found.map Rule.restricted) below false = none ∧
      verdict? (found.map Rule.restricted) below true = verdict? found below true := by
  cases found with
  | none => exact ⟨rfl, rfl⟩
  | some rule =>
    have hfile : rule.restricted.isAbout below false = false := rfl
    have hdirectory : rule.restricted.isAbout below true = rule.isAbout below true := rfl
    refine ⟨?_, ?_⟩
    · rw [Option.map_some, verdict?_some, hfile, if_neg Bool.false_ne_true]
    · rw [Option.map_some, verdict?_some, verdict?_some, hdirectory]
      rfl

/-- The verdict of a list with one more pattern at its end. -/
theorem excludes_concat_verdict? {root : Path} {patterns : List String} {pattern : String}
    {before added : Exclusions} {found : Option Rule}
    (hbefore : Exclusions.compile root patterns = .ok before) (hfound : rule? pattern = .ok found)
    (hadded : Exclusions.compile root (patterns ++ [pattern]) = .ok added) (path : Path)
    (isDirectory : Bool) :
    added.excludes path isDirectory =
      (verdict? found (before.relative path) isDirectory).getD (before.excludes path isDirectory) := by
  cases found with
  | none =>
    obtain ⟨-, -, rfl⟩ := compile_eq_ok_iff.1 hbefore
    obtain ⟨-, -, rfl⟩ := compile_eq_ok_iff.1 hadded
    simp [List.filterMap_append, foundRule?_of_eq_ok hfound, verdict?]
  | some rule =>
    rw [eq_concat_of_compile hbefore hfound hadded, excludes_concat_rule, verdict?_some]
    split <;> rfl

/-- Whether a pattern can be compiled, whatever stands beside it. -/
def Compiles (pattern : String) : Prop :=
  ∃ found, rule? pattern = .ok found ∧ ∀ rule ∈ found, Glob.refusal? [rule.glob] = none

/-- Patterns compile together if each of them does. -/
theorem exists_compile_iff {root : Path} {patterns : List String} :
    (∃ exclusions, Exclusions.compile root patterns = .ok exclusions) ↔
      ∀ pattern ∈ patterns, Compiles pattern := by
  constructor
  · rintro ⟨exclusions, h⟩ pattern hpattern
    obtain ⟨hread, -, rfl⟩ := compile_eq_ok_iff.1 h
    obtain ⟨found, hfound⟩ := hread pattern hpattern
    refine ⟨found, hfound, fun rule hrule ↦ refusal?_singleton_of_mem_rules h ?_⟩
    exact List.mem_filterMap.2 ⟨pattern, hpattern, (foundRule?_of_eq_ok hfound).trans hrule⟩
  · intro h
    refine ⟨_, compile_eq_ok_iff.2 ⟨fun pattern hpattern ↦ ?_, ?_, rfl⟩⟩
    · obtain ⟨found, hfound, -⟩ := h pattern hpattern
      exact ⟨found, hfound⟩
    · rw [Glob.refusal?_eq_none_iff]
      intro glob hglob
      obtain ⟨rule, hrule, rfl⟩ := List.mem_map.1 hglob
      obtain ⟨pattern, hpattern, hfound⟩ := List.mem_filterMap.1 hrule
      obtain ⟨found, hrule?, hrefusal⟩ := h pattern hpattern
      rw [foundRule?_of_eq_ok hrule?] at hfound
      exact Glob.refusal?_eq_none_iff.1 (hrefusal rule hfound) rule.glob List.mem_cons_self

/-! ## The pattern with a separator at its end -/

theorem rule?_eq_ok_iff_of_line {pattern closed : String} {line : Line}
    (hline : Line.ofChars? (normalize pattern) = some line)
    (hclosed : Line.ofChars? (normalize closed) = some { line with directoriesOnly := true })
    {found : Option Rule} :
    rule? closed = .ok found ↔ ∃ plain, rule? pattern = .ok plain ∧ found = plain.map .restricted := by
  have hglob : Line.glob { line with directoriesOnly := true } = line.glob := rfl
  rw [rule?_eq_ok_iff hclosed, hglob]
  constructor
  · rintro ⟨glob, hread, rfl⟩
    exact ⟨_, (rule?_eq_ok_iff hline).2 ⟨glob, hread, rfl⟩, rfl⟩
  · rintro ⟨plain, hplain, rfl⟩
    obtain ⟨glob, hread, rfl⟩ := (rule?_eq_ok_iff hline).1 hplain
    exact ⟨glob, hread, rfl⟩

/-- The rule of a pattern with a separator at its end is that of the pattern, for directories. -/
theorem rule?_concat_slash {pattern closed : String}
    (hclosed : normalize closed = normalize pattern ++ ['/']) (hne : normalize pattern ≠ [])
    (hlast : (normalize pattern).getLast? ≠ some '/') (hmark : normalize pattern ≠ ['!'])
    {found : Option Rule} :
    rule? closed = .ok found ↔ ∃ plain, rule? pattern = .ok plain ∧ found = plain.map .restricted := by
  have hhead : (normalize closed).head? = (normalize pattern).head? := by
    rw [hclosed, List.head?_append_of_ne_nil _ hne]
  by_cases hcomment : (normalize pattern).head? = some '#'
  · have hsilent : IsSilent pattern := Or.inr hcomment
    have hsilent' : IsSilent closed := Or.inr (hhead.trans hcomment)
    rw [rule?_of_isSilent hsilent, rule?_of_isSilent hsilent']
    simp [eq_comm]
  have hline := ofChars?_eq (trimEnd_normalize pattern) hne hcomment
  have hline' := ofChars?_eq (trimEnd_normalize closed) (by simp [hclosed]) (hhead ▸ hcomment)
  refine rule?_eq_ok_iff_of_line hline (hline'.trans (congrArg some ?_))
  rw [hhead]
  by_cases hmarked : (normalize pattern).head? = some '!'
  · obtain ⟨more, hmore⟩ := List.head?_eq_some_iff.1 hmarked
    have hne' : more ≠ [] := by
      rintro rfl
      exact hmark hmore
    rw [hmore, List.getLast?_cons_of_ne_nil hne'] at hlast
    rw [if_pos hmarked, if_pos hmarked, hclosed, hmore, List.cons_append, List.drop_one,
      List.drop_one, List.tail_cons, List.tail_cons]
    exact ofUnmarked_concat_slash true hne' hlast
  · rw [if_neg hmarked, if_neg hmarked, hclosed]
    exact ofUnmarked_concat_slash false hne hlast

/-- The rule of an exclamation mark alone is about everything. -/
def allRule : Rule := ⟨[.upper], true, false⟩

/-- The rule of an exclamation mark and a separator is about nothing below a root. -/
def nothingRule : Rule := ⟨[], true, false⟩

theorem rule?_of_mark_alone {pattern : String} (hmark : normalize pattern = ['!']) :
    rule? pattern = .ok (some allRule) :=
  (rule?_eq_ok_iff (ofChars?_of_mark hmark)).2 ⟨_, rfl, rfl⟩

theorem rule?_of_mark_slash {pattern closed : String}
    (hclosed : normalize closed = normalize pattern ++ ['/']) (hmark : normalize pattern = ['!']) :
    rule? closed = .ok (some nothingRule) := by
  rw [hmark] at hclosed
  exact (rule?_eq_ok_iff (ofChars?_of_mark hclosed)).2 ⟨_, rfl, rfl⟩

section

variable {pattern : String} (htrim : Text.trim pattern.toList = pattern.toList) (hne : pattern ≠ "")
  (hslash : pattern.toList.getLast? ≠ some '/') (hbackslash : pattern.toList.getLast? ≠ some '\\')

include htrim hne hslash hbackslash

theorem compiles_concat_slash : Compiles (pattern ++ "/") ↔ Compiles pattern := by
  by_cases hdot : pattern = "."
  · subst hdot
    have hplain : rule? "." = .ok (some ⟨[.upper, .literal '.'], false, false⟩) := rfl
    have hclosed : rule? "./" = .ok none := rfl
    simp [Compiles, hplain, hclosed, show Glob.refusal? [[.upper, .literal '.']] = none from rfl]
  obtain ⟨hne', hlast⟩ := normalize_ne_nil htrim hne hslash hbackslash
  have hnormal := normalize_concat_slash htrim hne hdot
  by_cases hmark : normalize pattern = ['!']
  · have hplain := rule?_of_mark_alone hmark
    have hclosed := rule?_of_mark_slash hnormal hmark
    simp [Compiles, hplain, hclosed, show Glob.refusal? [allRule.glob] = none from rfl,
      show Glob.refusal? [nothingRule.glob] = none from rfl]
  · constructor
    · rintro ⟨found, hfound, hrefusal⟩
      obtain ⟨plain, hplain, rfl⟩ := (rule?_concat_slash hnormal hne' hlast hmark).1 hfound
      refine ⟨plain, hplain, fun rule hrule ↦ ?_⟩
      exact hrefusal rule.restricted (Option.mem_map_of_mem _ hrule)
    · rintro ⟨plain, hplain, hrefusal⟩
      refine ⟨_, (rule?_concat_slash hnormal hne' hlast hmark).2 ⟨plain, hplain, rfl⟩, ?_⟩
      intro rule hrule
      obtain ⟨rule', hrule', rfl⟩ := Option.map_eq_some_iff.1 hrule
      exact hrefusal rule' hrule'

/-- What a pattern with a separator at its end says about an entry below a root. -/
theorem verdict?_concat_slash {plain closed : Option Rule} (hplain : rule? pattern = .ok plain)
    (hclosed : rule? (pattern ++ "/") = .ok closed) {front : Path} {name : Name}
    (hfront : IsFront front) (hname : IsPlain name) :
    verdict? closed (front ++ name) false = none ∧
      verdict? closed (front ++ name) true =
        if normalize pattern = ['!'] then none else verdict? plain (front ++ name) true := by
  by_cases hdot : pattern = "."
  · subst hdot
    have hplain' : rule? "." = .ok (some ⟨[.upper, .literal '.'], false, false⟩) := rfl
    have hclosed' : rule? ("." ++ "/") = .ok none := rfl
    cases hplain'.symm.trans hplain
    cases hclosed'.symm.trans hclosed
    refine ⟨rfl, ?_⟩
    rw [if_neg (by decide), verdict?_some, Rule.isAbout, isMatch_dot_of_front hfront hname]
    rfl
  obtain ⟨hne', hlast⟩ := normalize_ne_nil htrim hne hslash hbackslash
  have hnormal := normalize_concat_slash htrim hne hdot
  by_cases hmark : normalize pattern = ['!']
  · cases (rule?_of_mark_slash hnormal hmark).symm.trans hclosed
    have hnothing : Glob.isMatch [] (front ++ name) = false := by
      rw [Bool.eq_false_iff, ne_eq, Glob.isMatch_iff]
      simp [Glob.SpellsAll, hname.ne_nil]
    have hsilent (isDirectory : Bool) :
        verdict? (some nothingRule) (front ++ name) isDirectory = none := by
      rw [verdict?_some, Rule.isAbout, nothingRule, hnothing, Bool.and_false]
      rfl
    exact ⟨hsilent false, by rw [if_pos hmark, hsilent true]⟩
  · obtain ⟨plain', hplain', rfl⟩ := (rule?_concat_slash hnormal hne' hlast hmark).1 hclosed
    cases hplain.symm.trans hplain'
    rw [if_neg hmark]
    exact verdict?_restricted plain (front ++ name)

/-- A pattern with a separator at its end, behind other patterns. -/
theorem excludes_of_concat_slash {root : Path} {patterns : List String}
    {before added closed : Exclusions} (hbefore : Exclusions.compile root patterns = .ok before)
    (hadded : Exclusions.compile root (patterns ++ [pattern]) = .ok added)
    (hclosed : Exclusions.compile root (patterns ++ [pattern ++ "/"]) = .ok closed) {path : Path}
    (hpath : IsEntryBelow root path) :
    closed.excludes path false = before.excludes path false ∧
      closed.excludes path true =
        if normalize pattern = ['!'] then before.excludes path true
        else added.excludes path true := by
  obtain ⟨names, hnil, hnames, rfl⟩ := hpath
  obtain ⟨dirs, name, rfl⟩ := (List.eq_nil_or_concat' names).resolve_left hnil
  obtain ⟨front, hrelative, hfront⟩ := exists_front_relative root before.rules hnames
  rw [← (compile_of_root hbefore root).1] at hrelative
  obtain ⟨plain, hplain⟩ := (compile_eq_ok_iff.1 hadded).1 pattern (by simp)
  obtain ⟨restricted, hrestricted⟩ := (compile_eq_ok_iff.1 hclosed).1 (pattern ++ "/") (by simp)
  obtain ⟨hfile, hdirectory⟩ := verdict?_concat_slash htrim hne hslash hbackslash hplain hrestricted
    hfront (hnames name (by simp))
  rw [excludes_concat_verdict? hbefore hrestricted hclosed,
    excludes_concat_verdict? hbefore hrestricted hclosed,
    excludes_concat_verdict? hbefore hplain hadded, hrelative, hfile, hdirectory]
  refine ⟨rfl, ?_⟩
  split <;> rfl

end

/-- An exclamation mark alone excludes nothing. -/
theorem excludes_of_mark_alone {root : Path} {pattern : String} (hmark : normalize pattern = ['!'])
    {alone : Exclusions} (halone : Exclusions.compile root [pattern] = .ok alone) (path : Path)
    (isDirectory : Bool) : alone.excludes path isDirectory = false := by
  have hnil : Exclusions.compile root [] = .ok ⟨keptRoot root, []⟩ := rfl
  rw [excludes_concat_verdict? hnil (rule?_of_mark_alone hmark) halone, verdict?_some]
  split <;> rfl

/-! ## Verdicts -/

/-- A separator at the end of a pattern restricts it to directories. It does not decide whether the
pattern compiles; alone the pattern says nothing any more about entries that are no directories, and the
same as before about directories; at the end of a list it leaves the former to the patterns before and
decides about the latter as it did, unless it is an exclamation mark alone. The separator behind such a
mark is taken for one in front of nothing, and directories are left to the patterns before as well. -/
theorem excludes_concat_slash {pattern : String} (htrim : Text.trim pattern.toList = pattern.toList)
    (hne : pattern ≠ "") (hslash : pattern.toList.getLast? ≠ some '/')
    (hbackslash : pattern.toList.getLast? ≠ some '\\') (root : Path) :
    (∀ patterns, (∃ closed, Exclusions.compile root (patterns ++ [pattern ++ "/"]) = .ok closed) ↔
      ∃ added, Exclusions.compile root (patterns ++ [pattern]) = .ok added) ∧
    (∀ alone closed, Exclusions.compile root [pattern] = .ok alone →
      Exclusions.compile root [pattern ++ "/"] = .ok closed → ∀ path, IsEntryBelow root path →
        closed.excludes path false = false ∧
          closed.excludes path true = alone.excludes path true) ∧
    ∀ patterns added closed, Exclusions.compile root (patterns ++ [pattern]) = .ok added →
      Exclusions.compile root (patterns ++ [pattern ++ "/"]) = .ok closed →
        ∃ before, Exclusions.compile root patterns = .ok before ∧
          ∀ path, IsEntryBelow root path →
            closed.excludes path false = before.excludes path false ∧
              closed.excludes path true =
                if normalize pattern = ['!'] then before.excludes path true
                else added.excludes path true := by
  refine ⟨fun patterns ↦ ?_, fun alone closed halone hclosed path hpath ↦ ?_,
    fun patterns added closed hadded hclosed ↦ ?_⟩
  · simp only [exists_compile_iff, List.forall_mem_append, List.forall_mem_singleton,
      compiles_concat_slash htrim hne hslash hbackslash]
  · have hnil : Exclusions.compile root [] = .ok ⟨keptRoot root, []⟩ := rfl
    obtain ⟨hfile, hdirectory⟩ :=
      excludes_of_concat_slash htrim hne hslash hbackslash hnil halone hclosed hpath
    refine ⟨hfile, ?_⟩
    by_cases hmark : normalize pattern = ['!']
    · rw [hdirectory, if_pos hmark, excludes_of_mark_alone hmark halone]
      rfl
    · rw [hdirectory, if_neg hmark]
  · obtain ⟨before, hbefore⟩ :=
      exists_compile_of_subset (List.subset_append_left patterns [pattern]) hadded
    refine ⟨before, hbefore, fun path hpath ↦ ?_⟩
    exact excludes_of_concat_slash htrim hne hslash hbackslash hbefore hadded hclosed hpath

/-- One name, wherever it is. -/
def nameRule : Rule := ⟨[.upper, .literal 'a'], false, false⟩

/-- Behind an exclamation mark alone a separator does more: what the mark takes back in stays out. -/
theorem excludes_mark_slash_ne :
    Text.trim "!".toList = "!".toList ∧ "!" ≠ "" ∧ "!".toList.getLast? ≠ some '/' ∧
      "!".toList.getLast? ≠ some '\\' ∧
      ∃ added closed,
        Exclusions.compile (Path.ofString "p") (["a"] ++ ["!"]) = .ok added ∧
          Exclusions.compile (Path.ofString "p") (["a"] ++ ["!" ++ "/"]) = .ok closed ∧
          IsEntryBelow (Path.ofString "p") (Path.ofString "p/a") ∧
          added.excludes (Path.ofString "p/a") true = false ∧
          closed.excludes (Path.ofString "p/a") true = true := by
  refine ⟨by decide, by decide, by decide, by decide,
    ⟨Path.ofString "p", [nameRule, allRule]⟩, ⟨Path.ofString "p", [nameRule, nothingRule]⟩,
    by rfl, by rfl, ⟨[Path.ofString "a"], by simp, ?_, by decide⟩, by cbv, by cbv⟩
  intro n hn
  rw [List.mem_singleton.1 hn]
  exact ⟨by decide, by decide, by decide, by decide⟩

/-- Names that begin alike. -/
def beginRule : Rule := ⟨[.upper, .literal 'a', .star], false, false⟩

/-- One of them, taken back in. -/
def backRule : Rule := ⟨[.upper, .literal 'a', .literal 'b'], true, false⟩

/-- Of the names that begin alike one is taken back in, as far as it is that of a directory. -/
theorem excludes_concat_slash_names :
    ∃ added closed before,
      Exclusions.compile (Path.ofString "p") (["a*"] ++ ["!ab"]) = .ok added ∧
        Exclusions.compile (Path.ofString "p") (["a*"] ++ ["!ab" ++ "/"]) = .ok closed ∧
        Exclusions.compile (Path.ofString "p") ["a*"] = .ok before ∧
        closed.excludes (Path.ofString "p/ab") false = before.excludes (Path.ofString "p/ab") false ∧
        closed.excludes (Path.ofString "p/ab") true = added.excludes (Path.ofString "p/ab") true := by
  have hadded : Exclusions.compile (Path.ofString "p") (["a*"] ++ ["!ab"]) =
      .ok ⟨Path.ofString "p", [beginRule, backRule]⟩ := by rfl
  have hclosed : Exclusions.compile (Path.ofString "p") (["a*"] ++ ["!ab" ++ "/"]) =
      .ok ⟨Path.ofString "p", [beginRule, backRule.restricted]⟩ := by rfl
  have hentry : IsEntryBelow (Path.ofString "p") (Path.ofString "p/ab") := by
    refine ⟨[Path.ofString "ab"], by simp, fun n hn ↦ ?_, by decide⟩
    rw [List.mem_singleton.1 hn]
    exact ⟨by decide, by decide, by decide, by decide⟩
  have htrim : Text.trim "!ab".toList = "!ab".toList := by decide
  obtain ⟨-, -, hverdicts⟩ := excludes_concat_slash htrim (by decide) (by decide) (by decide)
    (Path.ofString "p")
  obtain ⟨before, hbefore, hverdict⟩ := hverdicts ["a*"] _ _ hadded hclosed
  obtain ⟨hfile, hdirectory⟩ := hverdict _ hentry
  exact ⟨_, _, before, hadded, hclosed, hbefore, hfile,
    hdirectory.trans (if_neg (by decide))⟩

end SourceSurvey.Exclusion
