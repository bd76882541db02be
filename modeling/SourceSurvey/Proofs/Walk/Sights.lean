import SourceSurvey.Proofs.Walk.Termination

/-!
# The sights of a walk

What a walk looks at, one thing after the other: the entries of a directory in the byte order of their
names, each followed by what is in it. A link stands for what it leads to, under its own path; one
that leads nowhere, or back into a directory gone through, is a failure. Everything a walk does can be
read off this list.
-/

namespace SourceSurvey.Walk

variable {σ : Type}

/-! ## The sights -/

/-- How many directories of a tree have not been gone through. -/
def unvisited (tree : Node) (levels : List Level) : Nat :=
  (tree.directories.filter fun directory ↦ levels.all fun level ↦ level.place != directory.1).length

theorem unvisited_cons_le (tree : Node) (level : Level) (levels : List Level) :
    unvisited tree (level :: levels) ≤ unvisited tree levels := by
  simp only [unvisited, List.all_cons, ← List.filter_filter]
  exact List.length_filter_le _ _

theorem unvisited_cons_lt {tree : Node} {place : Trail} {bar : Option IoError}
    {entries : List (Name × Node)} (hat : tree.at? place = some (.directory bar entries))
    {levels : List Level} (hnew : ∀ level ∈ levels, level.place ≠ place) (path : Path) :
    unvisited tree (⟨path, place⟩ :: levels) < unvisited tree levels := by
  simp only [unvisited, List.all_cons, ← List.filter_filter]
  refine List.length_filter_lt_length_iff_exists.2
    ⟨_, List.mem_filter.2 ⟨Node.mem_directories hat, ?_⟩, ?_⟩
  · simpa using hnew
  · simp

/-- Something a walk looks at: its path, its name, and what stands there. -/
structure Sight where
  path : Path
  name : Name
  node : Except WalkFailure Node

/-- The sights in the innermost directory gone through, which has these entries. Nothing in an excluded
directory is a sight, while the directory itself is one. -/
def sights (plan : Plan) (tree : Node) (here : Level) (above : List Level)
    (entries : List (Name × Node)) : List Sight :=
  (ordered entries).attach.flatMap fun ⟨(name, child), _⟩ ↦
    match _ : meet plan.settings.followLinks tree here above name child with
    | .error e => [⟨here.path.join name, name, .error e⟩]
    | .ok (place, .directory bar inner) =>
      ⟨here.path.join name, name, .ok (.directory bar inner)⟩ ::
        if plan.exclusions.excludes (here.path.join name) true then []
        else sights plan tree ⟨here.path.join name, place⟩ (here :: above) inner
    | .ok (_, node) => [⟨here.path.join name, name, .ok node⟩]
termination_by (unvisited tree (here :: above), entries)
decreasing_by
  rename_i hmem hmeet _
  rcases meet_ok hmeet with ⟨heq, -⟩ | ⟨-, hlocate, -, hnew⟩
  · -- a directory of the tree itself is smaller than the one that it is in
    have hsize := List.sizeOf_lt_of_mem (mem_ordered.1 hmem)
    rw [← heq] at hsize
    simp only [Prod.mk.sizeOf_spec, Node.directory.sizeOf_spec] at hsize
    rcases (unvisited_cons_le tree ⟨here.path.join name, place⟩ (here :: above)).lt_or_eq with
      hlt | heq'
    · exact .left _ _ hlt
    · rw [heq']
      exact .right _ (by omega)
  · exact .left _ _ (unvisited_cons_lt (Node.at?_of_locate hlocate) (hnew rfl) _)

/-- The sight of an entry, with those in it. -/
def sightsOf (plan : Plan) (tree : Node) (here : Level) (above : List Level) (name : Name)
    (child : Node) : List Sight :=
  match meet plan.settings.followLinks tree here above name child with
  | .error e => [⟨here.path.join name, name, .error e⟩]
  | .ok (place, .directory bar inner) =>
    ⟨here.path.join name, name, .ok (.directory bar inner)⟩ ::
      if plan.exclusions.excludes (here.path.join name) true then []
      else sights plan tree ⟨here.path.join name, place⟩ (here :: above) inner
  | .ok (_, node) => [⟨here.path.join name, name, .ok node⟩]

theorem sights_eq (plan : Plan) (tree : Node) (here : Level) (above : List Level)
    (entries : List (Name × Node)) :
    sights plan tree here above entries =
      (ordered entries).flatMap fun entry ↦ sightsOf plan tree here above entry.1 entry.2 := by
  rw [sights]
  refine (List.flatMap_subtype fun entry _ ↦ ?_).trans (by rw [List.unattach_attach])
  obtain ⟨name, child⟩ := entry
  unfold sightsOf
  dsimp only
  split <;> rename_i hmeet <;> simp only [hmeet]

theorem sightsOf_directory {plan : Plan} {tree : Node} {here : Level} {above : List Level}
    {name : Name} {child : Node} {place : Trail} {bar : Option IoError}
    {inner : List (Name × Node)}
    (hmeet : meet plan.settings.followLinks tree here above name child =
      .ok (place, .directory bar inner))
    (hopen : plan.exclusions.excludes (here.path.join name) true = false) :
    sightsOf plan tree here above name child =
      ⟨here.path.join name, name, .ok (.directory bar inner)⟩ ::
        sights plan tree ⟨here.path.join name, place⟩ (here :: above) inner := by
  simp [sightsOf, hmeet, hopen]

/-! ## What is read off -/

/-- A directory that is seen can be listed, a file read. -/
def Sight.IsReadable (tree : Node) (sight : Sight) : Prop :=
  match sight.node with
  | .ok (.directory _ _) => (tree.listAt sight.path).isOk
  | .ok (.file _) => (tree.readAt sight.path).isOk
  | _ => True

/-- Where a file or a directory is met that can be read, its path leads. -/
theorem locate_of_readable {plan : Plan} {tree : Node} (htree : tree.WellFormed) {here : Level}
    {above : List Level} {bar : Option IoError} {entries : List (Name × Node)}
    (hhere : tree.locate true here.path = .ok (here.place, .directory bar entries)) {name : Name}
    {child node : Node} (hchild : entries.lookup name = some child) {place : Trail}
    (hmeet : meet plan.settings.followLinks tree here above name child = .ok (place, node))
    (hkind : node.kind = .file ∨ node.kind = .directory)
    (hread : Sight.IsReadable tree ⟨here.path.join name, name, .ok node⟩) :
    tree.locate true (here.path.join name) = .ok (place, node) := by
  have hlink : node.kind ≠ .link := by
    rcases hkind with hkind | hkind <;> simp [hkind]
  cases hlocate : tree.locate true (here.path.join name) with
  | ok found => rw [locate_of_meet htree hhere hchild hmeet hlink hlocate]
  | error e =>
    unfold Sight.IsReadable Node.listAt Node.readAt at hread
    simp only [hlocate] at hread
    cases node with
    | file | directory => cases hread
    | link | special => simp [Node.kind] at hkind

def Sight.failure? (sight : Sight) : Option WalkFailure :=
  match sight.node with
  | .error e => some e
  | .ok _ => none

theorem Sight.failure?_eq_some_iff {sight : Sight} {e : WalkFailure} :
    sight.failure? = some e ↔ sight.node = .error e := by
  unfold failure?
  cases sight.node <;> simp

theorem Sight.failure?_eq_none_iff {sight : Sight} :
    sight.failure? = none ↔ ∃ node, sight.node = .ok node := by
  unfold failure?
  cases sight.node <;> simp

/-- The file of a sight, if it is one to be handed on. -/
def Sight.file? (plan : Plan) (sight : Sight) : Option FoundFile :=
  match sight.node with
  | .ok (.file (.ok bytes)) =>
    if plan.exclusions.excludes sight.path false then none
    else if IsWanted plan.settings.fileTypes sight.name then
      some (foundFile plan.encoding ⟨sight.path, sight.name, .file⟩ bytes)
    else none
  | _ => none

/-- The files among some sights, until one of them is a failure. -/
def filesOf (plan : Plan) (seen : List Sight) : List FoundFile :=
  (seen.takeWhile fun sight ↦ sight.failure?.isNone).filterMap (Sight.file? plan)

/-- How a walk ends that sees these things. -/
def resultOf (plan : Plan) (seen : List Sight) : Except SurveyError (Option Nat) :=
  match seen.findSome? Sight.failure? with
  | some e => .error (.walk e)
  | none => .ok (some (filesOf plan seen).length)

section

variable {plan : Plan} {front : List Sight}

theorem filesOf_append (h : front.findSome? Sight.failure? = none) (back : List Sight) :
    filesOf plan (front ++ back) = front.filterMap (Sight.file? plan) ++ filesOf plan back := by
  rw [List.findSome?_eq_none_iff] at h
  rw [filesOf, List.takeWhile_append_of_pos (by simpa using h), List.filterMap_append, filesOf]

theorem filesOf_eq (h : front.findSome? Sight.failure? = none) :
    filesOf plan front = front.filterMap (Sight.file? plan) := by
  simpa [filesOf] using filesOf_append h []

/-- What comes behind a failure is not handed on. -/
theorem filesOf_append_of_failure {e : WalkFailure} (h : front.findSome? Sight.failure? = some e)
    (back : List Sight) : filesOf plan (front ++ back) = filesOf plan front := by
  rw [filesOf, List.takeWhile_append, if_neg, filesOf]
  intro hlength
  obtain ⟨sight, hsight, hfailure⟩ := List.exists_of_findSome?_eq_some h
  have hall := (List.takeWhile_prefix _).eq_of_length hlength
  have := List.takeWhile_eq_self_iff.1 hall sight hsight
  simp [hfailure] at this

end

/-! ## The moves at what is seen -/

section

variable (plan : Plan) (tree : Node) (path : Path) (name : Name)

theorem moveFor_directory :
    moveFor plan tree ⟨path, name, .directory⟩ =
      .ok (if plan.exclusions.excludes path true then
        .pass [⟨.debug, "excluded", [("path", path.display)]⟩] else .enter) := by
  unfold moveFor
  by_cases hexcluded : plan.exclusions.excludes path true <;> simp [hexcluded]

/-- What is neither a file nor a directory is passed over. -/
theorem moveFor_other (kind : Node.Kind) (hdirectory : kind ≠ .directory) (hfile : kind ≠ .file) :
    ∃ events, moveFor plan tree ⟨path, name, kind⟩ = .ok (.pass events) := by
  unfold moveFor
  by_cases hexcluded : plan.exclusions.excludes path false
  · exact ⟨[⟨.debug, "excluded", [("path", path.display)]⟩], by simp [hexcluded, hdirectory]⟩
  · exact ⟨[], by simp [hexcluded, hdirectory, hfile]⟩

/-- A file that can be read is handed on if its sight says so. -/
theorem moveFor_file {bytes : List UInt8} (hread : tree.readAt path = .ok bytes) :
    ∃ events, moveFor plan tree ⟨path, name, .file⟩ =
      .ok (match Sight.file? plan ⟨path, name, .ok (.file (.ok bytes))⟩ with
        | some file => .hand events file
        | none => .pass events) := by
  unfold moveFor Sight.file?
  by_cases hexcluded : plan.exclusions.excludes path false
  · exact ⟨[⟨.debug, "excluded", [("path", path.display)]⟩], by simp [hexcluded]⟩
  · by_cases hwanted : IsWanted plan.settings.fileTypes name
    · exact ⟨decodingEvents plan.encoding ⟨path, name, .file⟩ bytes,
        by simp [hexcluded, hwanted, accepts_iff, hread]⟩
    · exact ⟨[], by simp [hexcluded, hwanted, accepts_iff]⟩

end

/-! ## The run -/

/-- Going on with a frame on top, with the directories gone through below it, hands on the files of
some sights and comes back to the frames below, or ends with the first failure among the sights. -/
def Gives (plan : Plan) (tree : Node) (above : List Level) (frame : Frame) (seen : List Sight) :
    Prop :=
  ∃ k, ∀ steps frames count (world : World (Unit × List Delivery)), world.tree = tree →
    List.Forall₂ (Shows tree) frames above →
    ∃ after : World (Unit × List Delivery), after.tree = tree ∧
      after.kept.2 = world.kept.2 ++ (filesOf plan seen).map (⟨·, .ok ()⟩) ∧
      (go plan (watch ignore) (steps + k) (frame :: frames) count).on world =
        match seen.findSome? Sight.failure? with
        | some e => (.error (.walk e), after)
        | none =>
          (go plan (watch ignore) steps frames (count + (filesOf plan seen).length)).on after

/-- A walk has this move at an entry, whatever is under way outside its directory. -/
def Moves (plan : Plan) (tree : Node) (above : List Level) (path : Path) (entry : Entry)
    (pending : List Entry) (m : Except SurveyError Move) : Prop :=
  ∀ frames, List.Forall₂ (Shows tree) frames above →
    move plan tree (⟨path, .ok pending⟩ :: frames) entry = m

section

variable {plan : Plan} {tree : Node} {here : Level} {above : List Level} {name : Name}
  {child : Node} {pending : List Entry}

theorem moves_of_meet_error (hshow : Shows tree ⟨here.path, .ok pending⟩ here) {e : WalkFailure}
    (hmeet : meet plan.settings.followLinks tree here above name child = .error e) :
    Moves plan tree above here.path (listed here.path (name, child)) pending (.error (.walk e)) := by
  intro frames hframes
  rw [move_eq (.cons hshow hframes), hmeet]

theorem moves_of_meet_ok (hshow : Shows tree ⟨here.path, .ok pending⟩ here) {place : Trail}
    {node : Node} (hmeet : meet plan.settings.followLinks tree here above name child =
      .ok (place, node)) :
    Moves plan tree above here.path (listed here.path (name, child)) pending
      (moveFor plan tree ⟨here.path.join name, name, node.kind⟩) := by
  intro frames hframes
  rw [move_eq (.cons hshow hframes), hmeet]

end

namespace Gives

variable {plan : Plan} {tree : Node} {above : List Level} {path : Path} {entry : Entry}
  {pending : List Entry} {sight : Sight} {seen : List Sight}

theorem done : Gives plan tree above ⟨path, .ok []⟩ [] :=
  ⟨1, fun steps frames count world htree _ ↦
    ⟨world, htree, by simp [filesOf], go_done plan (watch ignore) steps count world path frames⟩⟩

theorem fail {e : WalkFailure} (hmove : Moves plan tree above path entry pending (.error (.walk e)))
    (hfailure : sight.failure? = some e) :
    Gives plan tree above ⟨path, .ok (entry :: pending)⟩ (sight :: seen) := by
  refine ⟨1, fun steps frames count world htree hframes ↦ ⟨world, htree, ?_, ?_⟩⟩
  · simp [filesOf, hfailure]
  · rw [go_entry, htree, hmove frames hframes, List.findSome?_cons, hfailure]

theorem pass {events : List LogEvent}
    (hmove : Moves plan tree above path entry pending (.ok (.pass events)))
    (hfailure : sight.failure? = none) (hfile : sight.file? plan = none)
    (h : Gives plan tree above ⟨path, .ok pending⟩ seen) :
    Gives plan tree above ⟨path, .ok (entry :: pending)⟩ (sight :: seen) := by
  obtain ⟨k, hgo⟩ := h
  refine ⟨k + 1, fun steps frames count world htree hframes ↦ ?_⟩
  have hfiles : filesOf plan (sight :: seen) = filesOf plan seen := by
    simp [filesOf, hfailure, hfile]
  rw [← Nat.add_assoc, go_entry, htree, hmove frames hframes, hfiles, List.findSome?_cons, hfailure]
  exact hgo steps frames count (world.logged events) htree hframes

theorem hand {events : List LogEvent} {file : FoundFile}
    (hmove : Moves plan tree above path entry pending (.ok (.hand events file)))
    (hfailure : sight.failure? = none) (hfile : sight.file? plan = some file)
    (h : Gives plan tree above ⟨path, .ok pending⟩ seen) :
    Gives plan tree above ⟨path, .ok (entry :: pending)⟩ (sight :: seen) := by
  obtain ⟨k, hgo⟩ := h
  refine ⟨k + 1, fun steps frames count world htree hframes ↦ ?_⟩
  have hfiles : filesOf plan (sight :: seen) = file :: filesOf plan seen := by
    simp [filesOf, hfailure, hfile]
  obtain ⟨after, htree', hkept, hrest⟩ := hgo steps frames (count + 1)
    ((watch ignore file).on (world.logged events)).2 htree hframes
  refine ⟨after, htree', ?_, ?_⟩
  · rw [hkept, watch_on, hfiles]
    simp [ignore]
  · rw [← Nat.add_assoc, go_entry, htree, hmove frames hframes, hfiles, List.findSome?_cons, hfailure,
      List.length_cons, Nat.add_comm (filesOf plan seen).length, ← Nat.add_assoc]
    exact hrest

theorem enter {here : Level} {inner : List Sight}
    (hmove : Moves plan tree above path entry pending (.ok .enter))
    (hshow : Shows tree ⟨path, .ok pending⟩ here)
    (hfailure : sight.failure? = none) (hfile : sight.file? plan = none)
    (hinner : Gives plan tree (here :: above) (openDirectory tree entry.path) inner)
    (h : Gives plan tree above ⟨path, .ok pending⟩ seen) :
    Gives plan tree above ⟨path, .ok (entry :: pending)⟩ (sight :: (inner ++ seen)) := by
  obtain ⟨k, hgo⟩ := h
  obtain ⟨k', hgo'⟩ := hinner
  refine ⟨k + k' + 1, fun steps frames count world htree hframes ↦ ?_⟩
  have hfiles (rest : List Sight) : filesOf plan (sight :: rest) = filesOf plan rest := by
    simp [filesOf, hfailure, hfile]
  obtain ⟨between, htree', hkept', hrun'⟩ := hgo' (steps + k) (⟨path, .ok pending⟩ :: frames)
    count world htree (.cons hshow hframes)
  rw [← Nat.add_assoc, ← Nat.add_assoc, go_entry, htree, hmove frames hframes, hfiles,
    List.findSome?_cons, hfailure, List.findSome?_append]
  dsimp only
  rw [hrun']
  cases hends : inner.findSome? Sight.failure? with
  | some e =>
    rw [filesOf_append_of_failure hends]
    exact ⟨between, htree', hkept', rfl⟩
  | none =>
    obtain ⟨after, htree'', hkept, hrun⟩ :=
      hgo steps frames (count + (filesOf plan inner).length) between htree' hframes
    rw [filesOf_append hends, ← filesOf_eq hends, List.length_append, ← Nat.add_assoc]
    exact ⟨after, htree'', by simp [hkept, hkept'], hrun⟩

/-- An entry gives its sights. -/
theorem ofEntry (htree : tree.WellFormed) {here : Level} {entries rest : List (Name × Node)}
    {name : Name} {child : Node}
    (hhere : tree.locate true here.path = .ok (here.place, .directory none entries))
    (hrest : (name, child) :: rest <:+ ordered entries)
    (hread : ∀ sight ∈ sightsOf plan tree here above name child, sight.IsReadable tree)
    (hinner : ∀ place bar inner,
      meet plan.settings.followLinks tree here above name child = .ok (place, .directory bar inner) →
      plan.exclusions.excludes (here.path.join name) true = false →
        Gives plan tree (here :: above) (openDirectory tree (here.path.join name))
          (sights plan tree ⟨here.path.join name, place⟩ (here :: above) inner))
    (h : Gives plan tree above ⟨here.path, .ok (rest.map (listed here.path))⟩ seen) :
    Gives plan tree above ⟨here.path, .ok (((name, child) :: rest).map (listed here.path))⟩
      (sightsOf plan tree here above name child ++ seen) := by
  have hshow : Shows tree ⟨here.path, .ok (rest.map (listed here.path))⟩ here :=
    ⟨rfl, entries, rest, hhere, (List.suffix_cons _ _).trans hrest, rfl⟩
  have hlookup := lookup_of_mem_ordered htree (Node.at?_of_locate hhere)
    (hrest.subset List.mem_cons_self)
  rw [List.map_cons]
  unfold sightsOf at hread ⊢
  cases hmeet : meet plan.settings.followLinks tree here above name child with
  | error e => exact .fail (moves_of_meet_error hshow hmeet) rfl
  | ok met =>
    obtain ⟨place, node⟩ := met
    have hmoves := moves_of_meet_ok hshow hmeet
    have hother := moveFor_other plan tree (here.path.join name) name node.kind
    rw [hmeet] at hread
    cases node with
    | directory bar inner =>
      rw [Node.kind, moveFor_directory] at hmoves
      by_cases hexcluded : plan.exclusions.excludes (here.path.join name) true
      · simp only [hexcluded, if_true] at hmoves ⊢
        exact .pass hmoves rfl rfl h
      · simp only [hexcluded] at hmoves ⊢
        exact .enter hmoves hshow rfl rfl (hinner place bar inner hmeet (by simpa using hexcluded)) h
    | link | special =>
      obtain ⟨events, hmove⟩ := hother (by simp [Node.kind]) (by simp [Node.kind])
      rw [hmove] at hmoves
      exact .pass hmoves rfl rfl h
    | file read =>
      have hreadable := hread _ List.mem_cons_self
      have hread' : tree.readAt (here.path.join name) = read := by
        rw [Node.readAt, locate_of_readable htree hhere hlookup hmeet (by simp [Node.kind]) hreadable]
      obtain ⟨bytes, rfl⟩ : ∃ bytes, read = .ok bytes := by
        rw [Sight.IsReadable, hread'] at hreadable
        cases read with
        | ok bytes => exact ⟨bytes, rfl⟩
        | error e => cases hreadable
      obtain ⟨events, hmove⟩ := moveFor_file plan tree (here.path.join name) name hread'
      rw [Node.kind, hmove] at hmoves
      cases hfile : Sight.file? plan ⟨here.path.join name, name, .ok (.file (.ok bytes))⟩ with
      | none =>
        rw [hfile] at hmoves
        exact .pass hmoves rfl hfile h
      | some file =>
        rw [hfile] at hmoves
        exact .hand hmoves rfl hfile h

end Gives

/-- A directory gone into gives its sights. -/
theorem gives_sights (plan : Plan) {tree : Node} (htree : tree.WellFormed) (here : Level)
    (above : List Level) (entries : List (Name × Node))
    (hhere : tree.locate true here.path = .ok (here.place, .directory none entries))
    (hread : ∀ sight ∈ sights plan tree here above entries, sight.IsReadable tree) :
    Gives plan tree above (openDirectory tree here.path) (sights plan tree here above entries) := by
  induction here, above, entries using sights.induct plan tree with
  | case1 here above entries ih =>
    have hopen : openDirectory tree here.path =
        ⟨here.path, .ok ((ordered entries).map (listed here.path))⟩ := by
      apply openDirectory_eq
      rw [Node.listAt, hhere]
    rw [sights_eq] at hread ⊢
    have hgives (rest : List (Name × Node)) (hrest : rest <:+ ordered entries) :
        Gives plan tree above ⟨here.path, .ok (rest.map (listed here.path))⟩
          (rest.flatMap fun entry ↦ sightsOf plan tree here above entry.1 entry.2) := by
      -- from the last entry back, since each entry is followed by what the later ones give
      induction rest with
      | nil => exact .done
      | cons entry rest ihrest =>
        obtain ⟨name, child⟩ := entry
        have hentry : (name, child) ∈ ordered entries := hrest.subset List.mem_cons_self
        have hseen (sight : Sight) (hsight : sight ∈ sightsOf plan tree here above name child) :
            sight.IsReadable tree := hread sight (List.mem_flatMap.2 ⟨_, hentry, hsight⟩)
        refine .ofEntry htree hhere hrest hseen ?_ (ihrest ((List.suffix_cons _ _).trans hrest))
        intro place bar inner hmeet hopen
        rw [sightsOf_directory hmeet hopen, List.forall_mem_cons] at hseen
        obtain ⟨hlist, hbelow⟩ := hseen
        have hlookup := lookup_of_mem_ordered htree (Node.at?_of_locate hhere) hentry
        have hlocate := locate_of_readable htree hhere hlookup hmeet (by simp [Node.kind]) hlist
        obtain rfl := Node.bar_eq_none hlocate hlist
        exact ih name child hentry place none inner hmeet hlocate hbelow
    rw [hopen]
    exact hgives _ (List.suffix_refl _)

/-- A walk that can take enough steps ends as what its root gives says. -/
theorem go_root {plan : Plan} {tree : Node} (htree : tree.WellFormed) {root : Path} {place : Trail}
    {bar : Option IoError} {entries : List (Name × Node)}
    (hroot : tree.locate true root = .ok (place, .directory bar entries)) {seen : List Sight}
    (h : Gives plan tree [] (openDirectory tree root) seen)
    {world : World (Unit × List Delivery)} (hworld : world.tree = tree) {steps : Nat}
    (hsteps : stepBound tree ≤ steps) :
    ∃ after : World (Unit × List Delivery),
      after.kept.2 = world.kept.2 ++ (filesOf plan seen).map (⟨·, .ok ()⟩) ∧
      (go plan (watch ignore) steps [openDirectory tree root] 0).on world =
        (resultOf plan seen, after) := by
  obtain ⟨k, hgo⟩ := h
  obtain ⟨after, -, hkept, hrun⟩ := hgo 0 [] 0 world hworld .nil
  have hleaves : LeavesTree (watch ignore) := fun _ _ ↦ rfl
  have hends : ((go plan (watch ignore) steps [openDirectory tree root] 0).on world).1 ≠ .ok none :=
    go_root_ends hleaves htree hroot hworld hsteps
  have hfirst : (go plan (watch ignore) k [openDirectory tree root] 0).on world =
      (resultOf plan seen, after) := by
    rw [Nat.zero_add] at hrun
    rw [hrun, resultOf]
    cases seen.findSome? Sight.failure? with
    | some e => rfl
    | none => rw [go_nil, Nat.zero_add]
  have hfirstEnds : ((go plan (watch ignore) k [openDirectory tree root] 0).on world).1 ≠
      .ok none := by
    rw [hfirst, resultOf]
    cases seen.findSome? Sight.failure? <;> simp
  refine ⟨after, hkept, ?_⟩
  calc
    _ = (go plan (watch ignore) (steps + k) [openDirectory tree root] 0).on world :=
      (go_add hleaves hends k).symm
    _ = (go plan (watch ignore) (k + steps) [openDirectory tree root] 0).on world := by
      rw [Nat.add_comm]
    _ = (go plan (watch ignore) k [openDirectory tree root] 0).on world :=
      go_add hleaves hfirstEnds steps
    _ = _ := hfirst

/-- Everything about a walk with a steady callback can be read off its sights. -/
theorem walk_of_sights {settings : WalkSettings} {root : Path} {onFile : FoundFile → Run σ Unit}
    (hsteady : IsSteady onFile) {world : World σ} (htree : world.tree.WellFormed) {plan : Plan}
    (hprepare : prepare settings root world.tree = .ok plan) {place : Trail}
    {entries : List (Name × Node)}
    (hroot : world.tree.locate true root = .ok (place, .directory none entries)) {seen : List Sight}
    (hseen : seen = sights plan world.tree ⟨root, place⟩ [] entries)
    (hread : ∀ sight ∈ seen, sight.IsReadable world.tree) {steps : Nat}
    (hsteps : stepBound world.tree ≤ steps) :
    ((walk settings steps root onFile).on world).1 = resultOf plan seen ∧
      deliveries settings steps root onFile world = (filesOf plan seen).map (⟨·, .ok ()⟩) := by
  have hgives : Gives plan world.tree [] (openDirectory world.tree root) seen := by
    subst hseen
    exact gives_sights plan htree ⟨root, place⟩ [] entries hroot hread
  obtain ⟨after, hkept, hrun⟩ := go_root htree hroot hgives
    (show (World.watched ⟨world.tree, #[], ()⟩).tree = world.tree from rfl) hsteps
  have hwalk : (walk settings steps root (watch ignore)).on (World.watched ⟨world.tree, #[], ()⟩) =
      (resultOf plan seen, after) := by
    rw [walk_on]
    simp only [World.watched, hprepare]
    exact hrun
  obtain ⟨hsame, hmade⟩ := walk_steady hsteady settings steps root world
  rw [walk_watch settings steps root ignore, hwalk] at hsame
  refine ⟨hsame, hmade.trans ?_⟩
  rw [deliveries, hwalk]
  simpa [World.watched] using hkept

/-- A walk of a tree that stays as it is, in which all that is seen can be read, whatever its links
lead to: it fails if one of the sights is a failure, and then with the first one, having handed on the
files that stand before it; else it hands on all the files among the sights. A file behind a link is
handed on under the path of the link. -/
theorem deliveries_until_failure (settings : WalkSettings) (root : Path)
    (onFile : FoundFile → Run σ Unit) (world : World σ) (encoding : Encoding)
    (exclusions : Exclusions) (place : Trail) (entries : List (Name × Node))
    (hsteady : IsSteady onFile) (htree : world.tree.WellFormed)
    (hencoding : Encoding.ofLabel? settings.encoding = some encoding)
    (hexclusions : Exclusions.compile root settings.excluded = .ok exclusions)
    (hroot : world.tree.locate true root = .ok (place, .directory none entries)) :
    let plan : Plan := ⟨settings, encoding, exclusions⟩
    let seen := sights plan world.tree ⟨root, place⟩ [] entries
    (∀ sight ∈ seen, sight.IsReadable world.tree) → ∀ steps ≥ stepBound world.tree,
      let result := ((walk settings steps root onFile).on world).1
      let delivered := deliveries settings steps root onFile world
      ((∃ e, result = .error (.walk e)) ↔ ∃ sight ∈ seen, ∃ e, sight.node = .error e) ∧
        (∀ before sight after e, seen = before ++ sight :: after →
          (∀ earlier ∈ before, ∃ node, earlier.node = .ok node) → sight.node = .error e →
            result = .error (.walk e) ∧
              delivered = (before.filterMap (Sight.file? plan)).map (⟨·, .ok ()⟩)) ∧
        ((∀ sight ∈ seen, ∃ node, sight.node = .ok node) →
          result = .ok (some (seen.filterMap (Sight.file? plan)).length) ∧
            delivered = (seen.filterMap (Sight.file? plan)).map (⟨·, .ok ()⟩)) := by
  intro plan seen hread steps hsteps result delivered
  have hprepare : prepare settings root world.tree = .ok plan := by
    simp [prepare, hencoding, hexclusions, Node.kindAt, hroot, Except.map, Node.kind, plan]
  obtain ⟨hresult, hdelivered⟩ : result = resultOf plan seen ∧
      delivered = (filesOf plan seen).map (⟨·, .ok ()⟩) :=
    walk_of_sights hsteady htree hprepare hroot rfl hread hsteps
  have hclear {before : List Sight} (hbefore : ∀ earlier ∈ before, ∃ node, earlier.node = .ok node) :
      before.findSome? Sight.failure? = none := by
    rw [List.findSome?_eq_none_iff]
    intro earlier hearlier
    exact Sight.failure?_eq_none_iff.2 (hbefore earlier hearlier)
  refine ⟨?_, ?_, ?_⟩
  · have hfails : (∃ e, result = .error (.walk e)) ↔ (seen.findSome? Sight.failure?).isSome := by
      rw [hresult, resultOf]
      cases seen.findSome? Sight.failure? <;> simp
    rw [hfails, List.findSome?_isSome_iff]
    simp only [Option.isSome_iff_exists, Sight.failure?_eq_some_iff]
  · intro before sight after e hseen hbefore hnode
    have hfailure := Sight.failure?_eq_some_iff.2 hnode
    rw [hresult, hdelivered, resultOf, hseen, filesOf_append (hclear hbefore), List.findSome?_append,
      hclear hbefore]
    simp [filesOf, hfailure]
  · intro hall
    rw [hresult, hdelivered, resultOf, hclear hall, filesOf_eq (hclear hall)]
    exact ⟨rfl, rfl⟩

def linkedInner : List (Name × Node) := [(Path.ofString "x.p", .file (.ok [65]))]

/-- A directory with links to it, one of them to exclude, a link to its file, and a link back to the
root before one more file. -/
def linkedEntries : List (Name × Node) :=
  [(Path.ofString "e.p", .file (.ok [])),
    (Path.ofString "d", .link (Path.ofString ".")),
    (Path.ofString "c.p", .link (Path.ofString "a/x.p")),
    (Path.ofString "b", .link (Path.ofString "a")),
    (Path.ofString "ab", .link (Path.ofString "a")),
    (Path.ofString "a", .directory none linkedInner)]

def linkedTree : Node := .directory none [(Path.ofString "r", .directory none linkedEntries)]

def linkedRoot : Level := ⟨Path.ofString "r", [Path.ofString "r"]⟩

def linkedPlan : Plan :=
  ⟨⟨["p"], "utf-8", ["ab/"], true⟩, .utf8,
    ⟨Path.ofString "r", [⟨[.upper, .literal 'a', .literal 'b'], false, true⟩]⟩⟩

/-- What is seen before the link back to the root. -/
def linkedBefore : List Sight :=
  [⟨Path.ofString "r/a", Path.ofString "a", .ok (.directory none linkedInner)⟩,
    ⟨Path.ofString "r/a/x.p", Path.ofString "x.p", .ok (.file (.ok [65]))⟩,
    ⟨Path.ofString "r/ab", Path.ofString "ab", .ok (.directory none linkedInner)⟩,
    ⟨Path.ofString "r/b", Path.ofString "b", .ok (.directory none linkedInner)⟩,
    ⟨Path.ofString "r/b/x.p", Path.ofString "x.p", .ok (.file (.ok [65]))⟩,
    ⟨Path.ofString "r/c.p", Path.ofString "c.p", .ok (.file (.ok [65]))⟩]

def linkedBack : Sight :=
  ⟨Path.ofString "r/d", Path.ofString "d", .error (.loop (Path.ofString "r/d") (Path.ofString "r"))⟩

def linkedLast : Sight := ⟨Path.ofString "r/e.p", Path.ofString "e.p", .ok (.file (.ok []))⟩

theorem sights_linked : sights linkedPlan linkedTree linkedRoot [] linkedEntries =
    linkedBefore ++ linkedBack :: [linkedLast] := by
  have hinner (here : Level) (above : List Level) : sights linkedPlan linkedTree here above linkedInner =
      [⟨here.path.join (Path.ofString "x.p"), Path.ofString "x.p", .ok (.file (.ok [65]))⟩] := by
    rw [sights_eq]
    cbv
  have hdown (name : Name) (child : Node) (place : Trail)
      (hmeet : meet linkedPlan.settings.followLinks linkedTree linkedRoot [] name child =
        .ok (place, .directory none linkedInner))
      (hopen : linkedPlan.exclusions.excludes (linkedRoot.path.join name) true = false) :
      sightsOf linkedPlan linkedTree linkedRoot [] name child =
        [⟨linkedRoot.path.join name, name, .ok (.directory none linkedInner)⟩,
          ⟨(linkedRoot.path.join name).join (Path.ofString "x.p"), Path.ofString "x.p",
            .ok (.file (.ok [65]))⟩] := by
    rw [sightsOf_directory hmeet hopen, hinner]
  have ha := hdown (Path.ofString "a") (.directory none linkedInner)
    [Path.ofString "a", Path.ofString "r"] (by cbv) (by cbv)
  have hb := hdown (Path.ofString "b") (.link (Path.ofString "a"))
    [Path.ofString "a", Path.ofString "r"] (by cbv) (by cbv)
  have hab : sightsOf linkedPlan linkedTree linkedRoot [] (Path.ofString "ab")
      (.link (Path.ofString "a")) =
        [⟨Path.ofString "r/ab", Path.ofString "ab", .ok (.directory none linkedInner)⟩] := by cbv
  have hc : sightsOf linkedPlan linkedTree linkedRoot [] (Path.ofString "c.p")
      (.link (Path.ofString "a/x.p")) =
        [⟨Path.ofString "r/c.p", Path.ofString "c.p", .ok (.file (.ok [65]))⟩] := by cbv
  have hd : sightsOf linkedPlan linkedTree linkedRoot [] (Path.ofString "d")
      (.link (Path.ofString ".")) = [linkedBack] := by cbv
  have he : sightsOf linkedPlan linkedTree linkedRoot [] (Path.ofString "e.p") (.file (.ok [])) =
      [linkedLast] := by cbv
  have hordered : ordered linkedEntries =
      [(Path.ofString "a", .directory none linkedInner), (Path.ofString "ab", .link (Path.ofString "a")),
        (Path.ofString "b", .link (Path.ofString "a")),
        (Path.ofString "c.p", .link (Path.ofString "a/x.p")),
        (Path.ofString "d", .link (Path.ofString ".")), (Path.ofString "e.p", .file (.ok []))] := by cbv
  rw [sights_eq, hordered]
  simp only [List.flatMap_cons, List.flatMap_nil, ha, hab, hb, hc, hd, he]
  rfl

theorem deliveries_until_failure_linked :
    ((walk linkedPlan.settings (stepBound linkedTree) (Path.ofString "r") ignore).on
        ⟨linkedTree, #[], ()⟩).1 = .error (.walk (.loop (Path.ofString "r/d") (Path.ofString "r"))) ∧
      (deliveries linkedPlan.settings (stepBound linkedTree) (Path.ofString "r") ignore
        ⟨linkedTree, #[], ()⟩).map (fun delivery ↦ (delivery.file.path, delivery.file.content)) =
          [(Path.ofString "r/a/x.p", "A"), (Path.ofString "r/b/x.p", "A"),
            (Path.ofString "r/c.p", "A")] := by
  have htree : linkedTree.WellFormed := by
    have hmade : [Node.Change.write (Path.ofString "r/e.p") [],
        .makeLink (Path.ofString "r/d") (Path.ofString "."),
        .makeLink (Path.ofString "r/c.p") (Path.ofString "a/x.p"),
        .makeLink (Path.ofString "r/b") (Path.ofString "a"),
        .makeLink (Path.ofString "r/ab") (Path.ofString "a"),
        .write (Path.ofString "r/a/x.p") [65]].foldl Node.apply .empty = linkedTree := by cbv
    exact hmade ▸ Node.wellFormed_empty.foldl_apply _
  have hroot : linkedTree.locate true (Path.ofString "r") =
      .ok ([Path.ofString "r"], .directory none linkedEntries) := by cbv
  have hread : ∀ sight ∈ sights linkedPlan linkedTree linkedRoot [] linkedEntries,
      sight.IsReadable linkedTree := by
    rw [sights_linked]
    simp only [linkedBefore, List.cons_append, List.nil_append, List.forall_mem_cons]
    refine ⟨?_, ?_, ?_, ?_, ?_, ?_, trivial, ?_, by simp⟩ <;> cbv
  obtain ⟨-, hfails, -⟩ := deliveries_until_failure linkedPlan.settings (Path.ofString "r") ignore
    ⟨linkedTree, #[], ()⟩ .utf8 linkedPlan.exclusions _ _ isSteady_ignore htree (by cbv) rfl hroot
    hread _ le_rfl
  have hbefore : ∀ earlier ∈ linkedBefore, ∃ node, earlier.node = .ok node := by
    simp [linkedBefore]
  obtain ⟨hresult, hmade⟩ := hfails linkedBefore linkedBack [linkedLast] _ sights_linked hbefore rfl
  rw [hresult, hmade]
  exact ⟨rfl, by cbv⟩

end SourceSurvey.Walk
