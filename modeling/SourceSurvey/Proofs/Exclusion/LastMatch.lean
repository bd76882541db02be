import SourceSurvey.Proofs.Exclusion.Compile

/-!
# The last match decides

What patterns made of segments say about the names below a root. Of a list of such patterns the last
one that matches decides: it excludes, unless it is negated.
-/

namespace SourceSurvey.Exclusion

open Glob (Segment IsPiece Fills Covers joined trailing)
open SourceSurvey.Path (IsPlain joinAll)

/-! ## Paths below the root -/

theorem strip?_append (front back : Path) : Path.strip? front (front ++ back) = some back := by
  rw [Path.strip?, if_pos (List.isPrefixOf_iff_prefix.2 (List.prefix_append front back)),
    List.drop_left]

theorem joinAll_eq {root : Path} (hroot : root ≠ [] ∧ root.getLast? ≠ some Path.slash)
    {names : List Name} (hnames : ∀ name ∈ names, IsPlain name) :
    joinAll root names = root ++ trailing Path.slash names := by
  induction names generalizing root with
  | nil => simp [trailing]
  | cons name names ih =>
    have hname := hnames name List.mem_cons_self
    have hjoin : Path.join root name = root ++ Path.slash :: name := by
      simp [Path.join, hroot]
    have hlast : (root ++ Path.slash :: name).getLast? ≠ some Path.slash := by
      rw [List.append_cons]
      exact hname.getLast?_append _
    rw [Path.joinAll_cons, hjoin,
      ih ⟨by simp, hlast⟩ fun n hn ↦ hnames n (List.mem_cons_of_mem _ hn)]
    simp [trailing]

/-- The path of an entry as it is seen from a root of one name. -/
theorem relative_joinAll {root : Name} (hroot : IsPlain root) (rules : List Rule)
    {names : List Name} (hne : names ≠ []) (hnames : ∀ name ∈ names, IsPlain name) :
    (Exclusions.mk root rules).relative (joinAll root names) = joined Path.slash names := by
  have hlast : root.getLast? ≠ some Path.slash := fun h ↦
    hroot.no_slash (List.mem_of_getLast? h)
  have hpath : joinAll root names = root ++ Path.slash :: joined Path.slash names := by
    rw [joinAll_eq ⟨hroot.ne_nil, hlast⟩ hnames, Glob.trailing_eq hne]
  have hhere : Path.strip? Exclusions.here (joinAll root names) = none := by
    rw [hpath, Path.strip?, if_neg]
    rcases root with _ | ⟨b, _ | ⟨c, more⟩⟩
    · exact absurd rfl hroot.ne_nil
    · have hb : Path.dot ≠ b := fun h ↦ hroot.ne_here (h ▸ rfl)
      simp [Exclusions.here, hb]
    · have hc : Path.slash ≠ c := fun h ↦ hroot.no_slash (by simp [h])
      simp [Exclusions.here, hc]
  have hroot' : Path.isHere root = false := by
    simp [Path.isHere, Path.steps_of_plain hroot, hroot.ne_here]
  have hslash : (joinAll root names).contains Path.slash := by
    rw [hpath]
    simp
  rw [Exclusions.relative, hhere, Option.getD_none]
  simp only [hroot', hslash, Bool.not_true, Bool.or_self, Bool.false_eq_true, if_false]
  rw [hpath, strip?_append]
  exact congrArg (Option.getD · _) (strip?_append [Path.slash] _)

/-! ## Matching -/

/-- Whether a segment stands for a name. -/
def Fits : Segment → Name → Prop
  | .anyDepth, _ => True
  | .piece chars, name => Fills chars name

/-- Whether a pattern is about the entry with the given names below the root. A single segment is
about the last name, unless a separator comes before it. -/
def Shape.Matches (s : Shape) (names : List Name) (isDirectory : Bool) : Prop :=
  (s.directoriesOnly → isDirectory) ∧
    match s.rooted, s.segments with
    | false, [segment] => ∃ name, names.getLast? = some name ∧ Fits segment name
    | _, segments => Covers false segments names

/-- Names one inside the other end in the last of them. -/
theorem exists_front_joined (dirs : List Name) (name : Name) :
    ∃ front, joined Path.slash (dirs ++ [name]) = front ++ name ∧ Glob.IsFront front := by
  by_cases hdirs : dirs = []
  · exact ⟨[], by simp [hdirs, joined, trailing], Or.inl rfl⟩
  · refine ⟨joined Path.slash dirs ++ [Path.slash], ?_, Or.inr ⟨_, rfl⟩⟩
    rw [Glob.joined_concat hdirs, List.append_cons]

theorem covers_closed {segments : List Segment} (names : List Name) :
    Covers false (closed segments) names ↔ Covers false segments names := by
  unfold closed
  split
  · rename_i hlast
    obtain ⟨init, rfl⟩ := List.getLast?_eq_some_iff.1 hlast.1
    have hinit : init ≠ [] := by
      rintro rfl
      simp at hlast
    rw [List.append_assoc, Glob.covers_append_star fun h ↦ absurd h hinit]
    rfl
  · rfl

theorem covers_sought (s : Shape) {names : List Name} (hne : names ≠ []) :
    Covers false s.sought names ↔
      match s.rooted, s.segments with
      | false, [segment] => ∃ name, names.getLast? = some name ∧ Fits segment name
      | _, segments => Covers false segments names := by
  obtain ⟨front, last, rfl⟩ := (List.eq_nil_or_concat' names).resolve_left hne
  obtain ⟨negated, rooted, segments, directoriesOnly⟩ := s
  have hpiece (chars : List Char) (names : List Name) :
      Covers true [.piece chars] names ↔ ∃ name, names = [name] ∧ Fills chars name := by
    rcases names with _ | ⟨name, _ | ⟨second, names⟩⟩ <;> simp [Covers]
  cases rooted with
  | true => rfl
  | false =>
    rcases segments with _ | ⟨segment, _ | ⟨second, segments⟩⟩
    · rfl
    · cases segment with
      | anyDepth => simp [Shape.sought, Covers, Fits]
      | piece chars =>
        simp only [Shape.sought, Glob.covers_anyDepth (List.cons_ne_nil (.piece chars) []), hpiece,
          List.getLast?_concat, Option.some_inj, exists_eq_left', Fits]
        constructor
        · rintro ⟨k, -, name, hname, hfills⟩
          have hsame := congrArg List.getLast? hname
          rw [List.getLast?_drop, List.getLast?_concat, List.getLast?_singleton] at hsame
          split at hsame
          · cases hsame
          · exact Option.some.inj hsame ▸ hfills
        · exact fun hfills ↦ ⟨front.length, by simp, last, by simp, hfills⟩
    · simp [Shape.sought]

/-- The rule of segments matches the names that the segments cover. -/
theorem isMatch_tokensOf {segments : List Segment} (hsegments : segments ≠ [])
    (hplain : ∀ segment ∈ segments, segment.IsPlain)
    (hlast : segments = [.anyDepth] ∨ segments.getLast? ≠ some .anyDepth) {names : List Name}
    (hne : names ≠ []) (hnames : ∀ name ∈ names, IsPlain name) :
    Glob.isMatch (Glob.tokensOf segments) (joined Path.slash names) ↔
      Covers false segments names := by
  rcases hlast with rfl | hlast
  · simp [Glob.tokensOf, Glob.tokensWithin, Glob.isMatch, Covers]
  have hclosed : Glob.IsClosed segments :=
    ⟨fun chars hmem hslash ↦ (hplain _ hmem).plain '/' hslash (by simp), hlast⟩
  have hdots : Glob.lastName (joined Path.slash names) ≠ Glob.dots := by
    obtain ⟨init, name, rfl⟩ := (List.eq_nil_or_concat' names).resolve_left hne
    have hname := hnames name (by simp)
    obtain ⟨front, hjoined, hfront⟩ := exists_front_joined init name
    rw [hjoined, Glob.lastName_append hname.no_slash hfront]
    exact hname.ne_up
  rw [Glob.isMatch_iff, or_iff_right (Glob.tokensOf_ne_upper hclosed hplain),
    and_iff_right fun h ↦ hdots h.1]
  exact Glob.spellsAll_tokensOf hsegments hclosed hne
    (fun name hname ↦ (hnames name hname).no_slash) false

theorem any_find?_reverse {α : Type} {xs : List α} {p q : α → Bool} :
    (xs.reverse.find? p).any q ↔ ∃ before x after, xs = before ++ x :: after ∧ p x ∧
      (∀ y ∈ after, ¬p y) ∧ q x := by
  rw [Option.any_eq_true]
  simp only [List.find?_eq_some_iff_append]
  constructor
  · rintro ⟨x, ⟨hp, front, back, hxs, hfront⟩, hq⟩
    refine ⟨back.reverse, x, front.reverse, ?_, hp, ?_, hq⟩
    · rw [← List.reverse_reverse xs, hxs]
      simp
    · simpa using hfront
  · rintro ⟨before, x, after, rfl, hp, hafter, hq⟩
    exact ⟨x, ⟨hp, after.reverse, before.reverse, by simp, by simpa using hafter⟩, hq⟩

/-- Patterns made of segments can be compiled for a root of one name, and then an entry below the root
is excluded exactly if the last of the patterns that match it is not negated. -/
theorem excludes_iff_last_match {patterns : List String} {shapes : List Shape}
    (hshapes : ∀ s ∈ shapes, s.WellFormed) (htexts : patterns.map normalize = shapes.map Shape.text)
    {root : Name} (hroot : IsPlain root) :
    ∃ exclusions, Exclusions.compile root patterns = .ok exclusions ∧
      ∀ names ≠ [], (∀ name ∈ names, IsPlain name) → ∀ isDirectory,
        (exclusions.excludes (joinAll root names) isDirectory ↔
          ∃ before s after, shapes = before ++ s :: after ∧ s.Matches names isDirectory ∧
            (∀ later ∈ after, ¬later.Matches names isDirectory) ∧ s.negated = false) := by
  refine ⟨_, compile_eq hshapes htexts hroot, fun names hne hnames isDirectory ↦ ?_⟩
  have hmatches : ∀ s ∈ shapes, ((isDirectory || !s.directoriesOnly) &&
      Glob.isMatch s.rule.glob (joined Path.slash names)) ↔ s.Matches names isDirectory := by
    intro s hs
    obtain ⟨hsought, hplain⟩ := sought_plain (hshapes s hs)
    obtain ⟨hclosed, hplain', hlast⟩ := closed_plain hsought hplain
    rw [Bool.and_eq_true, Shape.rule, isMatch_tokensOf hclosed hplain' hlast hne hnames,
      covers_closed, covers_sought s hne, Shape.Matches]
    refine and_congr_left fun _ ↦ ?_
    cases isDirectory <;> cases s.directoriesOnly <;> simp
  rw [Exclusions.excludes, relative_joinAll hroot _ hne hnames]
  simp only [← List.map_reverse, List.find?_map, Option.any_map]
  rw [any_find?_reverse]
  refine exists₃_congr fun before s after ↦ and_congr_right fun hsplit ↦ ?_
  have hs : s ∈ shapes := by simp [hsplit]
  have hafter (later : Shape) (h : later ∈ after) : later ∈ shapes := by simp [hsplit, h]
  refine and_congr (hmatches s hs) (and_congr (forall₂_congr fun later hlater ↦ ?_) ?_)
  · exact not_congr (hmatches later (hafter later hlater))
  · simp [Shape.rule]

/-- A name that starts with `a`, anywhere. -/
def nameShape : Shape := ⟨false, false, [.piece ['a', '*']], false⟩

/-- Everything inside `b`, taken back in. -/
def insideShape : Shape := ⟨true, true, [.piece ['b'], .anyDepth], false⟩

theorem excludes_iff_last_match_inside :
    ∃ exclusions, Exclusions.compile (Path.ofString "p") ["a*", "!/b/**"] = .ok exclusions ∧
      exclusions.excludes (joinAll (Path.ofString "p") [Path.ofString "b", Path.ofString "ab"])
        false = false := by
  have hname : nameShape.WellFormed := by
    refine ⟨by decide, fun segment hsegment ↦ ?_, by decide, by decide⟩
    rw [List.mem_singleton.1 hsegment]
    exact ⟨by decide, by decide, by simp⟩
  have hinside : insideShape.WellFormed := by
    refine ⟨by decide, fun segment hsegment ↦ ?_, by decide, by decide⟩
    rcases List.mem_cons.1 hsegment with rfl | hsegment
    · exact ⟨by decide, by decide, by simp⟩
    · rw [List.mem_singleton.1 hsegment]
      trivial
  have hshapes : ∀ s ∈ [nameShape, insideShape], s.WellFormed := by simp [hname, hinside]
  have htexts : ["a*", "!/b/**"].map normalize = [nameShape, insideShape].map Shape.text := by
    decide +kernel
  have hroot : IsPlain (Path.ofString "p") := ⟨by decide, by decide, by decide, by decide⟩
  have hnames : ∀ name ∈ [Path.ofString "b", Path.ofString "ab"], IsPlain name := by
    intro name hmem
    rcases List.mem_cons.1 hmem with rfl | hmem
    · exact ⟨by decide, by decide, by decide, by decide⟩
    · rw [List.mem_singleton.1 hmem]
      exact ⟨by decide, by decide, by decide, by decide⟩
  have hmatches : insideShape.Matches [Path.ofString "b", Path.ofString "ab"] false := by
    have hb : Fills ['b'] (Path.ofString "b") := .literal (by decide) .nil
    exact ⟨by simp [insideShape], hb, fun _ ↦ List.cons_ne_nil _ _⟩
  obtain ⟨exclusions, hcompile, hverdict⟩ := excludes_iff_last_match hshapes htexts hroot
  refine ⟨exclusions, hcompile, ?_⟩
  rw [Bool.eq_false_iff]
  intro hexcluded
  obtain ⟨before, s, after, hsplit, -, hafter, hnegated⟩ :=
    (hverdict _ (List.cons_ne_nil _ _) hnames false).1 hexcluded
  match before with
  | [] =>
    obtain ⟨-, rfl⟩ := List.cons.inj hsplit
    exact hafter insideShape List.mem_cons_self hmatches
  | [_] =>
    obtain ⟨rfl, -⟩ := List.cons.inj (List.cons.inj hsplit).2
    cases hnegated
  | _ :: _ :: _ => simp at hsplit

end SourceSurvey.Exclusion
