import SourceSurvey.Proofs.FileTree.WellFormed

/-!
# The directories of a tree

How many directories a tree has, how deep they lie, and how many entries one of them has at most: the
numbers that bound what a walk can do.
-/

namespace SourceSurvey.Node

/-- The directories of what stands at a place: the place of each, and its entries. -/
def directoriesFrom (place : Trail) : Node → List (Trail × List (Name × Node))
  | .directory _ entries =>
    (place, entries) :: entries.flatMap fun entry ↦ entry.2.directoriesFrom (entry.1 :: place)
  | _ => []
termination_by node => node
decreasing_by
  rename_i hmem
  have hsize := List.sizeOf_lt_of_mem hmem
  cases entry
  simp only [Prod.mk.sizeOf_spec, Node.directory.sizeOf_spec] at hsize ⊢
  omega

def directories (top : Node) : List (Trail × List (Name × Node)) := top.directoriesFrom []

/-- How many names lead to the deepest directory. -/
def height (top : Node) : Nat := (top.directories.map (·.1.length)).max?.getD 0

/-- How many entries the largest directory has. -/
def breadth (top : Node) : Nat := (top.directories.map (·.2.length)).max?.getD 0

theorem directoriesFrom_inside {node inner : Node} {place place' : Trail} {name : Name}
    {bar : Option IoError} {entries entries' : List (Name × Node)}
    (h : (place', entries) ∈ node.directoriesFrom place)
    (hlookup : entries.lookup name = some inner) (hinner : inner = .directory bar entries') :
    (name :: place', entries') ∈ node.directoriesFrom place := by
  fun_induction directoriesFrom place node with
  | case1 place bar entries ih =>
    rcases List.mem_cons.1 h with heq | hmem
    · cases heq
      refine List.mem_cons_of_mem _ (List.mem_flatMap.2 ⟨_, mem_of_lookup hlookup, ?_⟩)
      rw [hinner, directoriesFrom]
      exact List.mem_cons_self
    · obtain ⟨entry, hentry, hmem⟩ := List.mem_flatMap.1 hmem
      exact List.mem_cons_of_mem _ (List.mem_flatMap.2 ⟨entry, hentry, ih entry hentry hmem⟩)
  | case2 => cases h

section

variable {top : Node} {place : Trail} {bar : Option IoError} {entries : List (Name × Node)}

theorem mem_directories (h : top.at? place = some (.directory bar entries)) :
    (place, entries) ∈ top.directories := by
  induction place generalizing bar entries with
  | nil =>
    rw [at?, Option.some_inj] at h
    rw [directories, h, directoriesFrom]
    exact List.mem_cons_self
  | cons name place ih =>
    rw [at?, Option.bind_eq_some_iff] at h
    obtain ⟨parent, hparent, hchild⟩ := h
    cases parent with
    | file | link | special => cases hchild
    | directory _ outer => exact directoriesFrom_inside (ih hparent) hchild rfl

theorem length_le_height (h : top.at? place = some (.directory bar entries)) :
    place.length ≤ top.height :=
  List.le_max?_getD_of_mem (List.mem_map.2 ⟨_, mem_directories h, rfl⟩)

theorem length_le_breadth (h : top.at? place = some (.directory bar entries)) :
    entries.length ≤ top.breadth :=
  List.le_max?_getD_of_mem (List.mem_map.2 ⟨_, mem_directories h, rfl⟩)

end

end SourceSurvey.Node
