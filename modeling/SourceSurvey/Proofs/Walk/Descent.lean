import SourceSurvey.Proofs.FileTree.Directories
import SourceSurvey.Proofs.Walk.Listing

/-!
# Going down a tree

The directories that a walk goes through from its root to where it is. Seen through links a tree can
have paths without end, and below a link even a plain directory can be one that was gone through
before. But each directory entered through a link is none of those above it, so there are at most as
many links on the way as there are directories, and between two links the way can only go down the
real tree.
-/

namespace SourceSurvey.Walk

/-- A directory gone through: the path it is reached by, and its place. -/
structure Level where
  path : Path
  place : Trail

/-- What stands at an entry of the innermost of the directories gone through, with its place. If links
are followed, it is what a link leads to, which must not be barred or one of those directories. -/
def meet (followLinks : Bool) (tree : Node) (here : Level) (above : List Level) (name : Name)
    (child : Node) : Except WalkFailure (Trail × Node) :=
  if followLinks && child.kind = .link then
    match tree.locate true (here.path.join name) with
    | .error e => .error (.io (some (here.path.join name)) e)
    | .ok (place, node) =>
      match node.bar? with
      | some e => .error (.io none e)
      | none =>
        match (here :: above).find? fun level ↦ node.kind = .directory ∧ level.place = place with
        | some level => .error (.loop (here.path.join name) level.path)
        | none => .ok (place, node)
  else .ok (name :: here.place, child)

section

variable {followLinks : Bool} {tree child node : Node} {here : Level} {above : List Level}
  {name : Name} {place : Trail} {entries : List (Name × Node)}

/-- What is met is the entry itself, or what is behind it, not barred and none of the directories gone
through. -/
theorem meet_ok (h : meet followLinks tree here above name child = .ok (place, node)) :
    (node = child ∧ place = name :: here.place) ∨
      ((followLinks ∧ child.kind = .link) ∧
        tree.locate true (here.path.join name) = .ok (place, node) ∧
          tree.placeAt (here.path.join name) = .ok place ∧
            (node.kind = .directory → ∀ level ∈ here :: above, level.place ≠ place)) := by
  unfold meet at h
  split at h
  · rename_i hlink
    split at h
    · cases h
    · rename_i hlocate
      split at h
      · cases h
      · rename_i hbar
        split at h
        · cases h
        · rename_i hnew
          cases h
          refine Or.inr ⟨by simpa using hlink, hlocate, Node.placeAt_eq_ok hlocate hbar, ?_⟩
          intro hdirectory level hlevel
          simpa [hdirectory] using List.find?_eq_none.1 hnew level hlevel
  · cases h
    exact Or.inl ⟨rfl, rfl⟩

/-- What is met stands where it is met. -/
theorem at?_of_meet (hchild : tree.at? (name :: here.place) = some child)
    (h : meet followLinks tree here above name child = .ok (place, node)) :
    tree.at? place = some node := by
  rcases meet_ok h with ⟨rfl, rfl⟩ | ⟨-, hlocate, -⟩
  · exact hchild
  · exact Node.at?_of_locate hlocate

end

/-- The ways down from the root that are open to a walk. -/
inductive Descent (plan : Plan) (tree : Node) (root : Path) : List Level → Prop where
  | nil : Descent plan tree root []
  | root {place : Trail} {bar : Option IoError} {entries : List (Name × Node)}
      (h : tree.locate true root = .ok (place, .directory bar entries)) :
      Descent plan tree root [⟨root, place⟩]
  | enter {here : Level} {above : List Level} {name : Name} {child : Node} {place : Trail}
      {bar : Option IoError} {entries : List (Name × Node)} (h : Descent plan tree root (here :: above))
      (hchild : tree.at? (name :: here.place) = some child)
      (hmeet : meet plan.settings.followLinks tree here above name child =
        .ok (place, .directory bar entries))
      (hopen : plan.exclusions.excludes (here.path.join name) true = false) :
      Descent plan tree root (⟨here.path.join name, place⟩ :: here :: above)

namespace Descent

variable {plan : Plan} {tree : Node} {root : Path} {here : Level} {levels : List Level}

theorem tail (h : Descent plan tree root (here :: levels)) : Descent plan tree root levels := by
  cases h with
  | root => exact .nil
  | enter h => exact h

theorem directory (h : Descent plan tree root (here :: levels)) :
    ∃ bar entries, tree.at? here.place = some (.directory bar entries) := by
  cases h with
  | root h => exact ⟨_, _, Node.at?_of_locate h⟩
  | enter h hchild hmeet => exact ⟨_, _, at?_of_meet hchild hmeet⟩

/-- The places at which a way down starts or goes on behind a link are all different, and from the
last of them it goes down the real tree. -/
theorem exists_starts (h : Descent plan tree root (here :: levels)) :
    ∃ start starts, (start :: starts).Nodup ∧
      (∀ place ∈ start :: starts, ∃ level ∈ here :: levels, level.place = place) ∧
      (here :: levels).length ≤ starts.length * (tree.height + 1) + here.place.length + 1 := by
  generalize hlevels : here :: levels = all at h
  induction h generalizing here levels with
  | nil => cases hlevels
  | @root place =>
    cases hlevels
    exact ⟨place, [], by simp, by simp, by simp⟩
  | @enter outer above name child place bar entries h hchild hmeet hopen ih =>
    cases hlevels
    obtain ⟨start, starts, hnodup, hmem, hlength⟩ := ih rfl
    rcases meet_ok hmeet with ⟨-, rfl⟩ | ⟨-, -, -, hnew⟩
    · refine ⟨start, starts, hnodup, fun place hplace ↦ ?_, ?_⟩
      · obtain ⟨level, hlevel, rfl⟩ := hmem place hplace
        exact ⟨level, List.mem_cons_of_mem _ hlevel, rfl⟩
      · simp only [List.length_cons] at hlength ⊢
        omega
    · refine ⟨place, start :: starts, List.nodup_cons.2 ⟨fun hplace ↦ ?_, hnodup⟩,
        fun place' hplace ↦ ?_, ?_⟩
      · obtain ⟨level, hlevel, heq⟩ := hmem place hplace
        exact hnew rfl level hlevel heq
      · rcases List.mem_cons.1 hplace with rfl | hplace
        · exact ⟨_, List.mem_cons_self, rfl⟩
        · obtain ⟨level, hlevel, rfl⟩ := hmem place' hplace
          exact ⟨level, List.mem_cons_of_mem _ hlevel, rfl⟩
      · obtain ⟨bar', entries', hdirectory⟩ := h.directory
        have hheight := Node.length_le_height hdirectory
        simp only [List.length_cons, Nat.add_mul, Nat.one_mul] at hlength ⊢
        omega

theorem mem_directory (h : Descent plan tree root levels) {level : Level} (hlevel : level ∈ levels) :
    ∃ bar entries, tree.at? level.place = some (.directory bar entries) := by
  induction levels with
  | nil => cases hlevel
  | cons here levels ih =>
    rcases List.mem_cons.1 hlevel with rfl | hlevel
    · exact h.directory
    · exact ih h.tail hlevel

/-- How far down one can go. -/
theorem length_le (h : Descent plan tree root levels) :
    levels.length ≤ tree.directories.length * (tree.height + 1) := by
  cases levels with
  | nil => exact Nat.zero_le _
  | cons here levels =>
    obtain ⟨start, starts, hnodup, hmem, hlength⟩ := h.exists_starts
    have hsubset : start :: starts ⊆ tree.directories.map (·.1) := by
      intro place hplace
      obtain ⟨level, hlevel, rfl⟩ := hmem place hplace
      obtain ⟨bar, entries, hdirectory⟩ := h.mem_directory hlevel
      exact List.mem_map.2 ⟨_, Node.mem_directories hdirectory, rfl⟩
    have hcount := (hnodup.subperm hsubset).length_le
    rw [List.length_map, List.length_cons] at hcount
    obtain ⟨bar, entries, hdirectory⟩ := h.directory
    have hheight := Node.length_le_height hdirectory
    calc
      _ ≤ starts.length * (tree.height + 1) + here.place.length + 1 := hlength
      _ ≤ (starts.length + 1) * (tree.height + 1) := by rw [Nat.add_one_mul]; omega
      _ ≤ _ := Nat.mul_le_mul_right _ hcount

end Descent

end SourceSurvey.Walk
