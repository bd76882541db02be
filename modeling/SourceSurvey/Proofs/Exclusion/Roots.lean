import SourceSurvey.Proofs.Exclusion.LastMatch

/-!
# Spellings of the root

What is said about an entry depends on its path below the root, however the root is spelled. The one
exception is a root that spells the current directory twice, `./` with another spelling behind it:
then only the first of them is taken off the path of an entry, and the patterns see the rest of the
root in front of it.
-/

namespace SourceSurvey.Exclusion

open SourceSurvey.Path (dot slash)
open Exclusions (here)

/-! ## Seeing through the root -/

theorem strip?_eq_some_iff {front path rest : Path} :
    Path.strip? front path = some rest ↔ path = front ++ rest := by
  constructor
  · intro h
    rw [Path.strip?] at h
    split at h
    · rename_i hfront
      obtain ⟨back, rfl⟩ := List.isPrefixOf_iff_prefix.1 hfront
      rw [List.drop_left] at h
      rw [Option.some.inj h]
    · cases h
  · rintro rfl
    exact strip?_append front rest

/-- What joins a path to a root: a separator, unless the root ends in one. -/
theorem join_eq {root : Path} (hroot : root ≠ []) (path : Path) :
    ∃ between, root.join path = root ++ (between ++ path) ∧
      (between = [] ∧ root.getLast? = some slash ∨ between = [slash]) := by
  by_cases hlast : root.getLast? = some slash
  · exact ⟨[], by simp [Path.join, hlast], Or.inl ⟨rfl, hlast⟩⟩
  · exact ⟨[slash], by simp [Path.join, hlast, hroot], Or.inr rfl⟩

theorem isHere_eq_false {b : UInt8} (hb : b ≠ slash) (path : Path) :
    Path.isHere (dot :: b :: path) = false := by
  have hdot : dot ≠ slash := by decide
  obtain ⟨piece, pieces, hpieces⟩ := List.exists_cons_of_ne_nil (Path.pieces_ne_nil path)
  simp [Path.isHere, Path.steps, Path.pieces_cons_of_ne hdot, Path.pieces_cons_of_ne hb, hpieces]

/-- A root that spells the current directory twice. -/
def IsHereTwice (root : Path) : Prop := ∃ rest, root = here ++ rest ∧ rest.isHere

/-- The root as it is kept with the rules. -/
def keptRoot (root : Path) : Path := (Path.strip? here root).getD root

/-- A path is seen without the root and what joins it to the root. -/
theorem relative_eq {path root below : Path} {rules : List Rule} (between : Path)
    (hhere : Path.isHere root = false) (hbelow : below.head? ≠ some slash)
    (hbetween : between = [] ∧ (root = [] ∨ root.getLast? = some slash) ∨ between = [slash])
    (hpath : (Path.strip? here path).getD path = root ++ (between ++ below)) :
    (Exclusions.mk root rules).relative path = below := by
  have hbehind : (Path.strip? [slash] (between ++ below)).getD (between ++ below) = below := by
    rcases hbetween with ⟨rfl, -⟩ | rfl
    · cases hstrip : Path.strip? [slash] ([] ++ below) with
      | none => rfl
      | some more =>
        rw [strip?_eq_some_iff, List.nil_append] at hstrip
        exact absurd (by rw [hstrip]; rfl) hbelow
    · rw [strip?_append]
      rfl
  simp only [Exclusions.relative, hpath, hhere, Bool.false_or]
  by_cases hslash : (root ++ (between ++ below)).contains slash
  · simp only [hslash, Bool.not_true, Bool.false_eq_true, if_false, strip?_append, hbehind]
  · rw [if_pos (by simpa using hslash)]
    rw [List.contains_iff_mem] at hslash
    rcases hbetween with ⟨rfl, rfl | hlast⟩ | rfl
    · rfl
    · exact absurd (List.mem_append_left _ (List.mem_of_getLast? hlast)) hslash
    · exact absurd (by simp) hslash

/-- A path joined to a root is seen as it was before, unless the root spells the current directory
twice. -/
theorem relative_join {root below : Path} (hroot : root ≠ []) (htwice : ¬IsHereTwice root)
    (hbelow : below.head? ≠ some slash) (rules : List Rule) :
    (Exclusions.mk (keptRoot root) rules).relative (root.join below) = below := by
  obtain ⟨between, hjoin, hbetween⟩ := join_eq hroot below
  rw [hjoin]
  cases hstrip : Path.strip? here root with
  | some rest =>
    rw [strip?_eq_some_iff] at hstrip
    subst hstrip
    have hrest : ¬rest.isHere := fun h ↦ htwice ⟨rest, rfl, h⟩
    rw [keptRoot, strip?_append, Option.getD_some]
    refine relative_eq between (by simpa using hrest) hbelow ?_ ?_
    · refine hbetween.imp_left fun ⟨hnil, hlast⟩ ↦ ⟨hnil, ?_⟩
      rcases List.eq_nil_or_concat rest with rfl | ⟨init, last, rfl⟩
      · exact Or.inl rfl
      · rw [List.concat_eq_append, ← List.append_assoc, List.getLast?_concat] at hlast
        exact Or.inr (by rw [List.concat_eq_append, List.getLast?_concat, hlast])
    · rw [List.append_assoc, strip?_append, Option.getD_some]
  | none =>
    rw [keptRoot, hstrip, Option.getD_none]
    by_cases hdot : root = [dot]
    · -- the separator behind the dot goes with it
      subst hdot
      obtain rfl : between = [slash] := by
        rcases hbetween with ⟨-, hlast⟩ | hslash
        · exact absurd hlast (by decide)
        · exact hslash
      have hpath : Path.strip? here ([dot] ++ ([slash] ++ below)) = some below :=
        strip?_append here below
      simp only [Exclusions.relative, hpath, Option.getD_some]
      rw [if_pos (by simp [show Path.isHere [dot] = true by decide])]
    · have hkept : Path.strip? here (root ++ (between ++ below)) = none ∧
          Path.isHere root = false := by
        rcases root with _ | ⟨a, _ | ⟨b, root⟩⟩
        · exact absurd rfl hroot
        · have ha : a ≠ dot := fun h ↦ hdot (h ▸ rfl)
          simp [Path.strip?, here, Path.isHere, ha, ha.symm]
        · by_cases ha : a = dot
          · have hb : b ≠ slash := by
              rintro rfl
              rw [ha] at hstrip
              cases hstrip.symm.trans (strip?_append here root)
            subst ha
            exact ⟨by simp [Path.strip?, here, hb.symm], isHere_eq_false hb root⟩
          · simp [Path.strip?, here, Path.isHere, ha, Ne.symm ha]
      refine relative_eq between hkept.2 hbelow
        (hbetween.imp_left fun h ↦ ⟨h.1, Or.inr h.2⟩) ?_
      rw [hkept.1, Option.getD_none]

/-- Below a root that spells the current directory twice, paths are seen with the second spelling in
front. -/
theorem relative_join_twice {rest : Path} (hrest : rest.isHere) (below : Path) (rules : List Rule) :
    (Exclusions.mk (keptRoot (here ++ rest)) rules).relative ((here ++ rest).join below) =
      rest.join below := by
  have hne : rest ≠ [] := by
    rintro rfl
    cases hrest
  have hjoin : (here ++ rest).join below = here ++ rest.join below := by
    have hlast : (here ++ rest).getLast? = rest.getLast? := by
      rw [List.getLast?_append, List.getLast?_eq_some_getLast hne, Option.some_or]
    by_cases hslash : rest.getLast? = some slash
    · simp [Path.join, hlast, hslash]
    · simp [Path.join, hlast, hslash, hne]
  rw [hjoin, keptRoot, strip?_append, Option.getD_some]
  simp only [Exclusions.relative, strip?_append, Option.getD_some, hrest, Bool.true_or, if_true]

/-! ## Verdicts -/

/-- Whether patterns compile, and to which rules, does not depend on the root. -/
theorem compile_of_root {root : Path} {patterns : List String} {exclusions : Exclusions}
    (h : Exclusions.compile root patterns = .ok exclusions) (root' : Path) :
    exclusions = ⟨keptRoot root, exclusions.rules⟩ ∧
      Exclusions.compile root' patterns = .ok ⟨keptRoot root', exclusions.rules⟩ := by
  rw [Exclusions.compile] at h ⊢
  cases hrules : patterns.mapM rule? with
  | error e =>
    rw [hrules] at h
    cases h
  | ok rules =>
    simp only [hrules, bind, Except.bind] at h ⊢
    cases hrefusal : Glob.refusal? ((rules.filterMap id).map (·.glob)) with
    | some reason =>
      rw [hrefusal] at h
      cases h
    | none =>
      rw [hrefusal] at h
      cases h
      exact ⟨rfl, rfl⟩

/-- The verdict about an entry depends on its path below the root and not on how the root is spelled,
as long as the root does not spell the current directory twice; and each root that does is seen to
differ. -/
theorem excludes_join_congr_iff {root root' : Path} (hroot : root ≠ []) (hroot' : root' ≠ [])
    (htwice : ¬IsHereTwice root) :
    ¬IsHereTwice root' ↔ ∀ patterns exclusions,
      Exclusions.compile root patterns = .ok exclusions →
        ∃ exclusions', Exclusions.compile root' patterns = .ok exclusions' ∧
          ∀ below isDirectory, below.head? ≠ some slash →
            exclusions.excludes (root.join below) isDirectory =
              exclusions'.excludes (root'.join below) isDirectory := by
  constructor
  · intro htwice' patterns exclusions hcompile
    obtain ⟨hkept, hcompile'⟩ := compile_of_root hcompile root'
    refine ⟨_, hcompile', fun below isDirectory hbelow ↦ ?_⟩
    rw [hkept, Exclusions.excludes, Exclusions.excludes, relative_join hroot htwice hbelow,
      relative_join hroot' htwice' hbelow]
  · rintro hsame ⟨rest, rfl, hrest⟩
    -- a pattern with a separator in front sees the rest of the root
    have hcompile : Exclusions.compile root ["/a"] =
        .ok ⟨keptRoot root, [⟨[.literal 'a'], false, false⟩]⟩ := rfl
    obtain ⟨exclusions', hcompile', hverdict⟩ := hsame ["/a"] _ hcompile
    have hkept := (compile_of_root hcompile (here ++ rest)).2
    cases hcompile'.symm.trans hkept
    have hdot : ∃ more, rest.join (Path.ofString "a") = dot :: more := by
      obtain ⟨more, rfl⟩ : ∃ more, rest = dot :: more := by
        rw [Path.isHere, Bool.and_eq_true, decide_eq_true_eq, List.head?_eq_some_iff] at hrest
        exact hrest.1
      rw [Path.join]
      split <;> exact ⟨_, rfl⟩
    obtain ⟨more, hmore⟩ := hdot
    have hmatch : Glob.isMatch [.literal 'a'] (dot :: more) = false := by
      rw [Bool.eq_false_iff, Ne, Glob.isMatch_iff]
      rintro (h | ⟨-, front, back, hsplit, rfl, rfl⟩)
      · cases h
      · cases hsplit
    have hmatch' : Glob.isMatch [.literal 'a'] (Path.ofString "a") = true := by cbv
    have hverdict := hverdict (Path.ofString "a") false (by decide)
    rw [Exclusions.excludes, Exclusions.excludes, relative_join hroot htwice (by decide),
      relative_join_twice hrest, hmore] at hverdict
    simp [hmatch, hmatch'] at hverdict

/-- Below `./.` a pattern with a separator in front says nothing about what it is about below `.`. -/
theorem excludes_here_ne_twice :
    ∃ exclusions exclusions', Exclusions.compile (Path.ofString ".") ["/a"] = .ok exclusions ∧
      Exclusions.compile (Path.ofString "./.") ["/a"] = .ok exclusions' ∧
      exclusions.excludes ((Path.ofString ".").join (Path.ofString "a")) false = true ∧
      exclusions'.excludes ((Path.ofString "./.").join (Path.ofString "a")) false = false :=
  ⟨⟨Path.ofString ".", [⟨[.literal 'a'], false, false⟩]⟩,
    ⟨Path.ofString ".", [⟨[.literal 'a'], false, false⟩]⟩, by rfl, by rfl, by cbv, by cbv⟩

/-- Dots, doubled separators and one `./` in front make no difference. -/
theorem excludes_join_congr_iff_dotted :
    ∃ exclusions exclusions', Exclusions.compile (Path.ofString "/p") ["b/*.c"] = .ok exclusions ∧
      Exclusions.compile (Path.ofString ".//x/.././/") ["b/*.c"] = .ok exclusions' ∧
      ∀ below isDirectory, below.head? ≠ some slash →
        exclusions.excludes ((Path.ofString "/p").join below) isDirectory =
          exclusions'.excludes ((Path.ofString ".//x/.././/").join below) isDirectory := by
  have htwice : ¬IsHereTwice (Path.ofString "/p") := by
    rintro ⟨rest, hroot, -⟩
    cases hroot
  have htwice' : ¬IsHereTwice (Path.ofString ".//x/.././/") := by
    rintro ⟨rest, hroot, hrest⟩
    cases (strip?_append here rest).symm.trans (congrArg (Path.strip? here) hroot).symm
    exact absurd hrest (by decide)
  have hcompile : Exclusions.compile (Path.ofString "/p") ["b/*.c"] =
      .ok ⟨Path.ofString "/p", [⟨_, false, false⟩]⟩ := rfl
  obtain ⟨exclusions', hcompile', hsame⟩ :=
    (excludes_join_congr_iff (by decide) (by decide) htwice).1 htwice' _ _ hcompile
  exact ⟨_, exclusions', hcompile, hcompile', hsame⟩

end SourceSurvey.Exclusion
