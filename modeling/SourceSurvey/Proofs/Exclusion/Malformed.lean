import SourceSurvey.Proofs.Exclusion.Combining

/-!
# Malformed patterns

Patterns are read one by one, each by itself, and only then tried together. So a list fails for its first
pattern that is no glob, with that pattern as it was given and whatever comes behind it. A list without
such a pattern can still be refused as a whole, and then all of its patterns are to blame.
-/

namespace SourceSurvey.Exclusion

/-- Whether a pattern has a line that is no glob. -/
def IsMalformed (pattern : String) : Prop :=
  ∃ line cause, Line.ofChars? (normalize pattern) = some line ∧ Glob.read line.glob = .error cause

/-- What is said about a malformed pattern. -/
theorem rule?_eq_error_iff {pattern : String} {e : Error} :
    rule? pattern = .error e ↔ ∃ line cause, Line.ofChars? (normalize pattern) = some line ∧
      Glob.read line.glob = .error cause ∧
      e = ⟨pattern, some (String.ofList (Text.trimEnd (normalize pattern))), cause.message⟩ := by
  simp only [rule?]
  cases hline : Line.ofChars? (normalize pattern) with
  | none => simp
  | some line =>
    cases hread : Glob.read line.glob with
    | ok glob => simp [hread]
    | error cause => simp [hread, eq_comm]

theorem isMalformed_iff {pattern : String} : IsMalformed pattern ↔ ∃ e, rule? pattern = .error e := by
  constructor
  · rintro ⟨line, cause, hline, hread⟩
    exact ⟨_, rule?_eq_error_iff.2 ⟨line, cause, hline, hread, rfl⟩⟩
  · rintro ⟨e, he⟩
    obtain ⟨line, cause, hline, hread, -⟩ := rule?_eq_error_iff.1 he
    exact ⟨line, cause, hline, hread⟩

theorem not_isMalformed_iff {pattern : String} :
    ¬IsMalformed pattern ↔ ∃ rule, rule? pattern = .ok rule := by
  rw [isMalformed_iff]
  cases rule? pattern <;> simp

/-- The pattern at which a list stops to be read. -/
structure IsFirstMalformed (patterns : List String) (pattern : String) : Prop where
  malformed : IsMalformed pattern
  first : ∃ before after, patterns = before ++ pattern :: after ∧ ∀ p ∈ before, ¬IsMalformed p

theorem exists_isFirstMalformed {patterns : List String} (h : ∃ p ∈ patterns, IsMalformed p) :
    ∃ pattern, IsFirstMalformed patterns pattern := by
  induction patterns with
  | nil => simp at h
  | cons p patterns ih =>
    by_cases hp : IsMalformed p
    · exact ⟨p, hp, [], patterns, rfl, by simp⟩
    · obtain ⟨pattern, hmalformed, before, after, rfl, hbefore⟩ := ih (by simpa [hp] using h)
      exact ⟨pattern, hmalformed, p :: before, after, rfl, List.forall_mem_cons.2 ⟨hp, hbefore⟩⟩

theorem IsFirstMalformed.mem {patterns : List String} {pattern : String}
    (h : IsFirstMalformed patterns pattern) : pattern ∈ patterns := by
  obtain ⟨before, after, rfl, -⟩ := h.first
  simp

theorem IsFirstMalformed.append {patterns : List String} {pattern : String}
    (h : IsFirstMalformed patterns pattern) (more : List String) :
    IsFirstMalformed (patterns ++ more) pattern := by
  obtain ⟨before, after, rfl, hbefore⟩ := h.first
  exact ⟨h.malformed, before, after ++ more, by simp, hbefore⟩

/-! ## Failures -/

/-- A list stops to be read with what is said about its first malformed pattern. -/
theorem mapM_rule?_of_isFirstMalformed {patterns : List String} {pattern : String}
    (h : IsFirstMalformed patterns pattern) {e : Error} (he : rule? pattern = .error e) :
    patterns.mapM rule? = .error e := by
  obtain ⟨before, after, rfl, hbefore⟩ := h.first
  have hread : before.mapM rule? = .ok (before.map foundRule?) :=
    mapM_rule?_eq_ok_iff.2 ⟨fun p hp ↦ not_isMalformed_iff.1 (hbefore p hp), rfl⟩
  simp [List.mapM_append, hread, he, bind, Except.bind]

theorem compile_of_isFirstMalformed {patterns : List String} {pattern : String}
    (h : IsFirstMalformed patterns pattern) {e : Error} (he : rule? pattern = .error e)
    (root : Path) : Exclusions.compile root patterns = .error e := by
  rw [Exclusions.compile, mapM_rule?_of_isFirstMalformed h he]
  rfl

/-- Patterns without a malformed one among them compile or are refused together. -/
theorem compile_of_not_isMalformed {patterns : List String} (h : ∀ p ∈ patterns, ¬IsMalformed p)
    (root : Path) :
    Exclusions.compile root patterns =
      match Glob.refusal? ((patterns.filterMap foundRule?).map (·.glob)) with
      | some reason => .error ⟨", ".intercalate patterns, none, reason⟩
      | none => .ok ⟨keptRoot root, patterns.filterMap foundRule?⟩ := by
  have hread : patterns.mapM rule? = .ok (patterns.map foundRule?) :=
    mapM_rule?_eq_ok_iff.2 ⟨fun p hp ↦ not_isMalformed_iff.1 (h p hp), rfl⟩
  have hrules : (patterns.map foundRule?).filterMap id = patterns.filterMap foundRule? := by
    rw [List.filterMap_map, Function.id_comp]
  rw [Exclusions.compile, hread]
  simp only [bind, Except.bind, hrules]
  cases Glob.refusal? ((patterns.filterMap foundRule?).map (·.glob)) <;> rfl

/-- An error that names a glob is the one of the first malformed pattern. -/
theorem compile_eq_error_iff {root : Path} {patterns : List String} {e : Error}
    (hglob : e.glob ≠ none) :
    Exclusions.compile root patterns = .error e ↔
      ∃ pattern, IsFirstMalformed patterns pattern ∧ rule? pattern = .error e := by
  constructor
  · intro h
    by_cases hmalformed : ∃ p ∈ patterns, IsMalformed p
    · obtain ⟨pattern, hfirst⟩ := exists_isFirstMalformed hmalformed
      obtain ⟨e', he'⟩ := isMalformed_iff.1 hfirst.malformed
      cases h.symm.trans (compile_of_isFirstMalformed hfirst he' root)
      exact ⟨pattern, hfirst, he'⟩
    · push Not at hmalformed
      rw [compile_of_not_isMalformed hmalformed] at h
      split at h
      · cases h
        exact absurd rfl hglob
      · cases h
  · rintro ⟨pattern, hfirst, he⟩
    exact compile_of_isFirstMalformed hfirst he root

theorem pattern_of_rule?_eq_error {pattern : String} {e : Error} (h : rule? pattern = .error e) :
    e.pattern = pattern ∧ e.glob ≠ none := by
  obtain ⟨_, _, -, -, rfl⟩ := rule?_eq_error_iff.1 h
  exact ⟨rfl, by simp⟩

/-- Alone, a pattern fails with a glob named exactly if it is malformed. -/
theorem isMalformed_iff_compile {root : Path} {pattern : String} :
    IsMalformed pattern ↔ ∃ e, Exclusions.compile root [pattern] = .error e ∧ e.glob ≠ none := by
  constructor
  · intro h
    obtain ⟨e, he⟩ := isMalformed_iff.1 h
    have hfirst : IsFirstMalformed [pattern] pattern := ⟨h, [], [], rfl, by simp⟩
    exact ⟨e, compile_of_isFirstMalformed hfirst he root, (pattern_of_rule?_eq_error he).2⟩
  · rintro ⟨e, he, hglob⟩
    obtain ⟨pattern', hfirst, -⟩ := (compile_eq_error_iff hglob).1 he
    rw [← List.mem_singleton.1 hfirst.mem]
    exact hfirst.malformed

theorem not_isMalformed_of_isSilent {pattern : String} (h : IsSilent pattern) :
    ¬IsMalformed pattern :=
  not_isMalformed_iff.2 ⟨none, rule?_of_isSilent h⟩

/-- What comes behind a list does not decide whether something in it is malformed. -/
theorem compile_append_eq_error_iff {root : Path} {before after : List String} {e : Error}
    (hglob : e.glob ≠ none) :
    Exclusions.compile root before = .error e ↔
      Exclusions.compile root (before ++ after) = .error e ∧ e.pattern ∈ before := by
  constructor
  · intro h
    obtain ⟨pattern, hfirst, he⟩ := (compile_eq_error_iff hglob).1 h
    refine ⟨compile_of_isFirstMalformed (hfirst.append after) he root, ?_⟩
    rw [(pattern_of_rule?_eq_error he).1]
    exact hfirst.mem
  · rintro ⟨h, hmem⟩
    obtain ⟨pattern, hfirst, he⟩ := (compile_eq_error_iff hglob).1 h
    rw [(pattern_of_rule?_eq_error he).1] at hmem
    -- the first malformed pattern of the list before is the first one of all
    obtain ⟨pattern', hfirst'⟩ := exists_isFirstMalformed ⟨pattern, hmem, hfirst.malformed⟩
    obtain ⟨e', he'⟩ := isMalformed_iff.1 hfirst'.malformed
    cases h.symm.trans (compile_of_isFirstMalformed (hfirst'.append after) he' root)
    exact compile_of_isFirstMalformed hfirst' he' root

/-! ## Blame -/

/-- A list with malformed patterns in it fails as the first of them does alone, with that pattern as it
was given. A list without one compiles or is refused as a whole, with all of its patterns. Blank patterns
and comments are never malformed, and it makes no difference whether they are there; nor does what comes
behind a list make one for what is malformed in it. -/
theorem compile_blames (root : Path) (patterns : List String) :
    (∀ pattern, IsMalformed pattern ↔
      ∃ e, Exclusions.compile root [pattern] = .error e ∧ e.glob ≠ none) ∧
    ((∃ p ∈ patterns, IsMalformed p) → ∃ pattern, IsFirstMalformed patterns pattern) ∧
    (∀ pattern, IsFirstMalformed patterns pattern →
      ∃ e, Exclusions.compile root patterns = .error e ∧ e.pattern = pattern ∧
        Exclusions.compile root [pattern] = .error e) ∧
    ((∀ p ∈ patterns, ¬IsMalformed p) →
      (∃ exclusions, Exclusions.compile root patterns = .ok exclusions) ∨
        ∃ reason,
          Exclusions.compile root patterns = .error ⟨", ".intercalate patterns, none, reason⟩) ∧
    (∀ pattern, IsSilent pattern → ¬IsMalformed pattern) ∧
    (∀ exclusions, Exclusions.compile root patterns = .ok exclusions ↔
      Exclusions.compile root (patterns.filter (¬IsSilent ·)) = .ok exclusions) ∧
    ∀ before after e, patterns = before ++ after → e.glob ≠ none →
      (Exclusions.compile root before = .error e ↔
        Exclusions.compile root patterns = .error e ∧ e.pattern ∈ before) := by
  refine ⟨fun pattern ↦ isMalformed_iff_compile, exists_isFirstMalformed, fun pattern hfirst ↦ ?_,
    fun hnone ↦ ?_, fun pattern ↦ not_isMalformed_of_isSilent, fun exclusions ↦ ?_, ?_⟩
  · obtain ⟨e, he⟩ := isMalformed_iff.1 hfirst.malformed
    have halone : IsFirstMalformed [pattern] pattern :=
      ⟨hfirst.malformed, [], [], rfl, by simp⟩
    exact ⟨e, compile_of_isFirstMalformed hfirst he root, (pattern_of_rule?_eq_error he).1,
      compile_of_isFirstMalformed halone he root⟩
  · rw [compile_of_not_isMalformed hnone]
    split
    · rename_i reason _
      exact Or.inr ⟨reason, rfl⟩
    · exact Or.inl ⟨_, rfl⟩
  · have hfilter : (patterns.filter (¬IsSilent ·)).filter (¬IsSilent ·) =
        patterns.filter (¬IsSilent ·) := by
      rw [List.filter_filter]
      simp
    exact ⟨compile_eq_of_filter_eq hfilter, compile_eq_of_filter_eq hfilter.symm⟩
  · rintro before after e rfl hglob
    exact compile_append_eq_error_iff hglob

/-- A set without an end is to blame, with its blanks, and not the choice without an end behind it; a
comment before it is not read. -/
theorem compile_blames_set :
    ∃ e, Exclusions.compile (Path.ofString "p") ["#[", " [ ", "\x7b"] = .error e ∧
      e.pattern = " [ " ∧ Exclusions.compile (Path.ofString "p") [" [ "] = .error e := by
  have hset : IsMalformed " [ " := ⟨_, _, rfl, rfl⟩
  have hcomment : ¬IsMalformed "#[" := not_isMalformed_of_isSilent (Or.inr rfl)
  have hfirst : IsFirstMalformed ["#[", " [ ", "\x7b"] " [ " :=
    ⟨hset, ["#["], ["\x7b"], rfl, by simpa using hcomment⟩
  obtain ⟨-, -, hblamed, -⟩ := compile_blames (Path.ofString "p") ["#[", " [ ", "\x7b"]
  exact hblamed " [ " hfirst

end SourceSurvey.Exclusion
