import SourceSurvey.Proofs.Exclusion.Roots

/-!
# Lines

How the line of a pattern is taken apart: an exclamation mark first, then the separators at its ends.
A pattern has no rule if its line is blank or a comment; any other pattern that compiles has one, and
the rules of several patterns come in the order of these. Nothing but the normalized text of a pattern
counts for that.
-/

namespace SourceSurvey.Exclusion

open Text (trimEnd_eq_nil_iff)

/-- The parts of a line behind its exclamation mark. -/
def Line.ofUnmarked (negated : Bool) (chars : List Char) : Line :=
  let rooted := chars.head? = some '/'
  let inner := if rooted then chars.drop 1 else chars
  let directoriesOnly := inner.getLast? = some '/'
  ⟨negated, rooted, directoriesOnly, if directoriesOnly then inner.dropLast else inner⟩

theorem ofChars?_eq {chars : List Char} (htrim : Text.trimEnd chars = chars) (hne : chars ≠ [])
    (hcomment : chars.head? ≠ some '#') :
    Line.ofChars? chars =
      some (if chars.head? = some '!' then .ofUnmarked true (chars.drop 1)
        else .ofUnmarked false chars) := by
  rw [Line.ofChars?, if_neg hcomment, htrim]
  simp only [List.isEmpty_iff, hne, if_false]
  by_cases hmarked : chars.head? = some '!' <;> simp [hmarked, Line.ofUnmarked]

/-- The line of a pattern with an exclamation mark in front. -/
theorem ofChars?_of_mark {pattern : String} {text : List Char}
    (h : normalize pattern = '!' :: text) :
    Line.ofChars? (normalize pattern) = some (.ofUnmarked true text) := by
  have htrim := trimEnd_normalize pattern
  rw [h] at htrim ⊢
  rw [ofChars?_eq htrim (List.cons_ne_nil _ _) (by simp), List.head?_cons, if_pos rfl,
    List.drop_one, List.tail_cons]

/-- The line of a pattern without an exclamation mark in front. -/
theorem ofChars?_of_no_mark {pattern : String} {text : List Char} (h : normalize pattern = text)
    (hne : text ≠ []) (hunmarked : text.head? ≠ some '!') (hcomment : text.head? ≠ some '#') :
    Line.ofChars? (normalize pattern) = some (.ofUnmarked false text) := by
  have htrim := trimEnd_normalize pattern
  rw [h] at htrim ⊢
  rw [ofChars?_eq htrim hne hcomment, if_neg hunmarked]

/-- Whether a pattern says nothing: it is blank or a comment. -/
def IsSilent (pattern : String) : Prop :=
  (∀ c ∈ normalize pattern, Text.isBlank c) ∨ (normalize pattern).head? = some '#'

theorem ofChars?_of_isSilent {pattern : String} (h : IsSilent pattern) :
    Line.ofChars? (normalize pattern) = none := by
  rw [IsSilent, ← trimEnd_eq_nil_iff] at h
  rcases h with hblank | hcomment
  · simp [Line.ofChars?, hblank]
  · simp [Line.ofChars?, hcomment]

/-- A pattern that says something has a line. -/
theorem ofChars?_of_not_isSilent {pattern : String} (h : ¬IsSilent pattern) :
    Line.ofChars? (normalize pattern) =
      some (if (normalize pattern).head? = some '!' then
          .ofUnmarked true ((normalize pattern).drop 1)
        else .ofUnmarked false (normalize pattern)) := by
  rw [IsSilent, ← trimEnd_eq_nil_iff, trimEnd_normalize, not_or] at h
  exact ofChars?_eq (trimEnd_normalize pattern) h.1 h.2

/-- The rule of a pattern with a line is the glob of the line, as it is read. -/
theorem rule?_eq_ok_iff {pattern : String} {line : Line}
    (h : Line.ofChars? (normalize pattern) = some line) {rule : Option Rule} :
    rule? pattern = .ok rule ↔
      ∃ glob, Glob.read line.glob = .ok glob ∧
        rule = some ⟨glob, line.negated, line.directoriesOnly⟩ := by
  simp only [rule?, h]
  cases Glob.read line.glob with
  | error e => simp
  | ok glob => simp [eq_comm]

theorem rule?_eq_of_ofChars? {pattern : String} {line : Line}
    (h : Line.ofChars? (normalize pattern) = some line) {rule : Rule}
    (hrule : rule? pattern = .ok (some rule)) :
    Glob.read line.glob = .ok rule.glob ∧ rule.negated = line.negated ∧
      rule.directoriesOnly = line.directoriesOnly := by
  obtain ⟨glob, hread, hfound⟩ := (rule?_eq_ok_iff h).1 hrule
  cases hfound
  exact ⟨hread, rfl, rfl⟩

/-! ## Several patterns -/

/-- The rule of a pattern, if it compiles and has one. -/
def foundRule? (pattern : String) : Option Rule :=
  match rule? pattern with
  | .ok rule => rule
  | .error _ => none

theorem foundRule?_of_eq_ok {pattern : String} {rule : Option Rule} (h : rule? pattern = .ok rule) :
    foundRule? pattern = rule := by
  rw [foundRule?, h]

/-- Patterns are read one by one. -/
theorem mapM_rule?_eq_ok_iff {patterns : List String} {found : List (Option Rule)} :
    patterns.mapM rule? = .ok found ↔
      (∀ pattern ∈ patterns, ∃ rule, rule? pattern = .ok rule) ∧
        patterns.map foundRule? = found := by
  induction patterns generalizing found with
  | nil => simp [pure, Except.pure]
  | cons pattern patterns ih =>
    rw [List.mapM_cons]
    cases hrule : rule? pattern with
    | error e => simp [hrule, bind, Except.bind]
    | ok rule =>
      have hfound := foundRule?_of_eq_ok hrule
      cases hrules : patterns.mapM rule? with
      | error e =>
        have hnone : ¬∀ p ∈ patterns, ∃ rule, rule? p = .ok rule := fun h ↦
          absurd (hrules.symm.trans (ih.2 ⟨h, rfl⟩)) (by simp)
        simp [hrule, hnone, bind, Except.bind]
      | ok rules =>
        obtain ⟨hread, rfl⟩ := ih.1 hrules
        simpa [hrule, hfound, bind, Except.bind, pure, Except.pure] using fun _ ↦ hread

/-- Patterns compile if each of them does and their rules are not too many together. -/
theorem compile_eq_ok_iff {root : Path} {patterns : List String} {exclusions : Exclusions} :
    Exclusions.compile root patterns = .ok exclusions ↔
      (∀ pattern ∈ patterns, ∃ rule, rule? pattern = .ok rule) ∧
        Glob.refusal? ((patterns.filterMap foundRule?).map (·.glob)) = none ∧
        ⟨keptRoot root, patterns.filterMap foundRule?⟩ = exclusions := by
  rw [Exclusions.compile]
  cases hfound : patterns.mapM rule? with
  | error e =>
    have hnone : ¬∀ pattern ∈ patterns, ∃ rule, rule? pattern = .ok rule := fun h ↦
      absurd (hfound.symm.trans (mapM_rule?_eq_ok_iff.2 ⟨h, rfl⟩)) (by simp)
    simp [hnone, bind, Except.bind]
  | ok found =>
    obtain ⟨hread, rfl⟩ := mapM_rule?_eq_ok_iff.1 hfound
    have hrules : (patterns.map foundRule?).filterMap id = patterns.filterMap foundRule? := by
      rw [List.filterMap_map, Function.id_comp]
    simp only [bind, Except.bind, hrules]
    cases hrefusal : Glob.refusal? ((patterns.filterMap foundRule?).map (·.glob)) with
    | some reason => simp [throw, throwThe, MonadExceptOf.throw]
    | none => simpa [pure, Except.pure, keptRoot] using fun _ ↦ hread

/-- Patterns that compile together with others compile without them. -/
theorem exists_compile_of_subset {root : Path} {patterns more : List String}
    (hsubset : patterns ⊆ more) {exclusions : Exclusions}
    (h : Exclusions.compile root more = .ok exclusions) :
    ∃ exclusions', Exclusions.compile root patterns = .ok exclusions' := by
  obtain ⟨hread, hrefusal, -⟩ := compile_eq_ok_iff.1 h
  refine ⟨_, compile_eq_ok_iff.2 ⟨fun p hp ↦ hread p (hsubset hp), ?_, rfl⟩⟩
  rw [Glob.refusal?_eq_none_iff] at hrefusal ⊢
  intro glob hglob
  apply hrefusal
  exact List.map_subset _ (List.filterMap_subset _ hsubset) hglob

/-- A rule that can be tried with others can be tried alone. -/
theorem refusal?_singleton_of_mem_rules {root : Path} {patterns : List String}
    {exclusions : Exclusions} (h : Exclusions.compile root patterns = .ok exclusions) {rule : Rule}
    (hrule : rule ∈ exclusions.rules) : Glob.refusal? [rule.glob] = none := by
  obtain ⟨-, hrefusal, rfl⟩ := compile_eq_ok_iff.1 h
  rw [Glob.refusal?_eq_none_iff] at hrefusal ⊢
  intro glob hglob
  rw [List.mem_singleton.1 hglob]
  exact hrefusal rule.glob (List.mem_map_of_mem hrule)

theorem exists_pattern_of_mem_rules {root : Path} {patterns : List String}
    {exclusions : Exclusions} (h : Exclusions.compile root patterns = .ok exclusions) {rule : Rule}
    (hrule : rule ∈ exclusions.rules) : ∃ pattern ∈ patterns, rule? pattern = .ok (some rule) := by
  obtain ⟨hread, -, rfl⟩ := compile_eq_ok_iff.1 h
  obtain ⟨pattern, hpattern, hfound⟩ := List.mem_filterMap.1 hrule
  obtain ⟨found, hrule'⟩ := hread pattern hpattern
  exact ⟨pattern, hpattern, by rw [hrule', ← foundRule?_of_eq_ok hrule', hfound]⟩

/-! ## Patterns that are read alike -/

theorem rule?_eq_ok_congr {pattern pattern' : String} (h : normalize pattern = normalize pattern')
    (rule : Option Rule) : rule? pattern = .ok rule ↔ rule? pattern' = .ok rule := by
  simp only [rule?, h]
  split
  · rfl
  · split <;> simp

theorem foundRule?_congr {pattern pattern' : String} (h : normalize pattern = normalize pattern') :
    foundRule? pattern = foundRule? pattern' := by
  cases hrule : rule? pattern' with
  | ok rule =>
    rw [foundRule?_of_eq_ok hrule]
    exact foundRule?_of_eq_ok ((rule?_eq_ok_congr h rule).2 hrule)
  | error e =>
    cases hrule' : rule? pattern with
    | ok rule =>
      rw [rule?_eq_ok_congr h, hrule] at hrule'
      cases hrule'
    | error e' => rw [foundRule?, foundRule?, hrule, hrule']

/-- What patterns compile to depends on what is read of them only. -/
theorem compile_eq_ok_congr {root : Path} {patterns patterns' : List String}
    (h : patterns.map normalize = patterns'.map normalize) (exclusions : Exclusions) :
    Exclusions.compile root patterns = .ok exclusions ↔
      Exclusions.compile root patterns' = .ok exclusions := by
  have hsame : ((∀ pattern ∈ patterns, ∃ rule, rule? pattern = .ok rule) ↔
      ∀ pattern ∈ patterns', ∃ rule, rule? pattern = .ok rule) ∧
      patterns.filterMap foundRule? = patterns'.filterMap foundRule? := by
    induction patterns generalizing patterns' with
    | nil =>
      obtain rfl : patterns' = [] := List.map_eq_nil_iff.1 h.symm
      exact ⟨Iff.rfl, rfl⟩
    | cons pattern patterns ih =>
      obtain ⟨pattern', rest, rfl, hfirst, hrest⟩ := List.map_eq_cons_iff.1 h.symm
      obtain ⟨hread, hrules⟩ := ih hrest.symm
      refine ⟨?_, ?_⟩
      · simp only [List.forall_mem_cons, hread, rule?_eq_ok_congr hfirst]
      · simp only [List.filterMap_cons, hrules, foundRule?_congr hfirst]
  rw [compile_eq_ok_iff, compile_eq_ok_iff, hsame.1, hsame.2]

end SourceSurvey.Exclusion
