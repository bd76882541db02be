import SourceSurvey.Path

/-!
# Components of a path

A path that is made by joining plain names to a root can be read back as those names. A plain name is
one that an entry of a directory can have: it is not empty, holds no separator, and is neither of the
two names that stand for other directories.
-/

namespace SourceSurvey.Path

/-- A name that an entry of a directory can have. -/
structure IsPlain (name : Name) : Prop where
  ne_nil : name ≠ []
  no_slash : slash ∉ name
  ne_here : name ≠ [dot]
  ne_up : name ≠ [dot, dot]

/-- What ends in a plain name does not end in a separator. -/
theorem IsPlain.getLast?_append {name : Name} (h : IsPlain name) (front : Path) :
    (front ++ name).getLast? ≠ some slash := by
  rw [List.getLast?_append, List.getLast?_eq_some_getLast h.ne_nil, Option.some_or]
  exact fun heq ↦ h.no_slash (Option.some.inj heq ▸ List.getLast_mem h.ne_nil)

/-- The path of what lies below `root` under the given names, one inside the other. -/
def joinAll (root : Path) (names : List Name) : Path := names.foldl join root

/-- The components of a path below `root`. -/
def below (root path : Path) : List Name := steps (path.drop root.length)

@[simp] theorem joinAll_nil (root : Path) : joinAll root [] = root := rfl

theorem joinAll_cons (root : Path) (name : Name) (names : List Name) :
    joinAll root (name :: names) = joinAll (join root name) names := rfl

theorem joinAll_concat (root : Path) (names : List Name) (name : Name) :
    joinAll root (names ++ [name]) = join (joinAll root names) name := by
  simp [joinAll]

/-! ## Pieces -/

theorem pieces_ne_nil (path : Path) : pieces path ≠ [] := by
  cases path with
  | nil => simp [pieces]
  | cons b rest =>
    rw [pieces]
    cases pieces rest with
    | nil => simp
    | cons piece more => by_cases hb : b = slash <;> simp [hb]

theorem pieces_cons_slash (rest : Path) : pieces (slash :: rest) = [] :: pieces rest := by
  rw [pieces]
  cases hrest : pieces rest with
  | nil => exact absurd hrest (pieces_ne_nil rest)
  | cons piece more => simp

theorem pieces_cons_of_ne {b : UInt8} (hb : b ≠ slash) (rest : Path) :
    pieces (b :: rest) = (pieces rest).modifyHead (b :: ·) := by
  rw [pieces]
  cases hrest : pieces rest with
  | nil => exact absurd hrest (pieces_ne_nil rest)
  | cons piece more => simp [hb]

theorem pieces_append_slash (front back : Path) :
    pieces (front ++ slash :: back) = pieces front ++ pieces back := by
  induction front with
  | nil => simp [pieces_cons_slash, pieces]
  | cons b front ih =>
    rw [List.cons_append]
    by_cases hb : b = slash
    · rw [hb, pieces_cons_slash, pieces_cons_slash, ih, List.cons_append]
    · rw [pieces_cons_of_ne hb, pieces_cons_of_ne hb, ih]
      cases hfront : pieces front with
      | nil => exact absurd hfront (pieces_ne_nil front)
      | cons piece more => rfl

theorem pieces_of_no_slash {name : Name} (h : slash ∉ name) : pieces name = [name] := by
  induction name with
  | nil => rfl
  | cons b rest ih =>
    rw [List.mem_cons, not_or] at h
    rw [pieces_cons_of_ne (Ne.symm h.1), ih h.2]
    rfl

theorem mem_pieces {path : Path} {piece : Name} (h : piece ∈ pieces path) : slash ∉ piece := by
  induction path generalizing piece with
  | nil => simp_all [pieces]
  | cons b rest ih =>
    by_cases hb : b = slash
    · rw [hb, pieces_cons_slash, List.mem_cons] at h
      rcases h with rfl | h
      · exact List.not_mem_nil
      · exact ih h
    · rw [pieces_cons_of_ne hb] at h
      cases hrest : pieces rest with
      | nil => exact absurd hrest (pieces_ne_nil rest)
      | cons first more =>
        rw [hrest, List.modifyHead_cons, List.mem_cons] at h
        rcases h with rfl | h
        · have hfirst := ih (hrest ▸ List.mem_cons_self)
          simp [hfirst, Ne.symm hb]
        · exact ih (hrest ▸ List.mem_cons_of_mem first h)

/-! ## Steps -/

theorem steps_append_slash (front back : Path) :
    steps (front ++ slash :: back) = steps front ++ steps back := by
  simp [steps, pieces_append_slash]

theorem steps_of_plain {name : Name} (h : IsPlain name) : steps name = [name] := by
  simp [steps, pieces_of_no_slash h.no_slash, h.ne_nil]

theorem mem_steps {path : Path} {step : Name} (h : step ∈ steps path) :
    step ≠ [] ∧ slash ∉ step := by
  rw [steps, List.mem_filter] at h
  exact ⟨by simpa using h.2, mem_pieces h.1⟩

/-- Joining a plain name to a path adds one step at its end. -/
theorem steps_drop_join {path : Path} {k : Nat} (hk : k ≤ path.length) {name : Name}
    (h : IsPlain name) : steps ((join path name).drop k) = steps (path.drop k) ++ [name] := by
  have hends (front : Path) (hfront : front = [] ∨ ∃ init, front = init ++ [slash]) :
      steps (front ++ name) = steps front ++ [name] := by
    rcases hfront with rfl | ⟨init, rfl⟩
    · exact steps_of_plain h
    · rw [List.append_assoc, List.singleton_append, steps_append_slash, steps_append_slash,
        steps_of_plain h]
      simp [steps, pieces]
  rw [join]
  split
  · rename_i hslash
    rw [List.drop_append_of_le_length hk]
    apply hends
    rcases List.eq_nil_or_concat (path.drop k) with hnil | ⟨init, last, hlast⟩
    · exact Or.inl hnil
    · have hpath : path.getLast? = some last := by
        rw [← List.take_append_drop k path, hlast, List.concat_eq_append, ← List.append_assoc,
          List.getLast?_concat]
      have hne : path.isEmpty = false := by
        cases path with
        | nil => simp at hpath
        | cons => rfl
      rw [hne, Bool.false_or, hpath, decide_eq_true_eq, Option.some_inj] at hslash
      exact Or.inr ⟨init, by rw [hlast, hslash, List.concat_eq_append]⟩
  · rw [List.drop_append_of_le_length hk, steps_append_slash, steps_of_plain h]

theorem le_length_join (path : Path) (name : Name) : path.length ≤ (join path name).length := by
  rw [join]
  split <;> simp

theorem steps_drop_joinAll {root : Path} {k : Nat} (hk : k ≤ root.length) {names : List Name}
    (h : ∀ name ∈ names, IsPlain name) :
    steps ((joinAll root names).drop k) = steps (root.drop k) ++ names := by
  induction names generalizing root with
  | nil => simp
  | cons name names ih =>
    rw [joinAll_cons, ih (Nat.le_trans hk (le_length_join root name))
      fun n hn ↦ h n (List.mem_cons_of_mem name hn), steps_drop_join hk (h name List.mem_cons_self),
      List.append_assoc, List.singleton_append]

/-- Plain names can be read back off the path that they make. -/
theorem below_joinAll (root : Path) {names : List Name} (h : ∀ name ∈ names, IsPlain name) :
    below root (joinAll root names) = names := by
  rw [below, steps_drop_joinAll (Nat.le_refl _) h]
  simp [steps, pieces]

end SourceSurvey.Path
