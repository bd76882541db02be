import SourceSurvey.Proofs.Walk.Descent
import SourceSurvey.Proofs.Walk.Order

/-!
# Every walk ends

In a tree that stays as it is, the directories under way are always a way down from the root, links
followed or not. So there are never more of them than the directories and the height of the tree
allow, and the number of steps that a walk can take is bounded as well.
-/

namespace SourceSurvey.Walk

variable {σ : Type}

open Node (WellFormed)
open SourceSurvey.Path (IsPlain joinAll)

/-! ## Frames and levels -/

/-- An entry as the listing of the directory at a path shows it. -/
def listed (path : Path) (entry : Name × Node) : Entry :=
  ⟨path.join entry.1, entry.1, entry.2.kind⟩

theorem openDirectory_cases (tree : Node) (path : Path) :
    (∃ e, openDirectory tree path = ⟨path, .error e⟩) ∨
      ∃ place entries, tree.locate true path = .ok (place, .directory none entries) ∧
        openDirectory tree path = ⟨path, .ok ((ordered entries).map (listed path))⟩ := by
  cases hlist : tree.listAt path with
  | error e => exact Or.inl ⟨e, by rw [openDirectory, hlist]; rfl⟩
  | ok shown =>
    have hlocate := hlist
    rw [Node.listAt] at hlocate
    split at hlocate
    · cases hlocate
    · rename_i place entries hlocated
      cases hlocate
      exact Or.inr ⟨place, entries, hlocated, openDirectory_eq hlist⟩
    · cases hlocate
    · cases hlocate

/-- An entry that is listed is found under its name. -/
theorem lookup_of_mem_ordered {tree : Node} (htree : tree.WellFormed) {place : Trail}
    {bar : Option IoError} {entries : List (Name × Node)}
    (hat : tree.at? place = some (.directory bar entries)) {name : Name} {child : Node}
    (hmem : (name, child) ∈ ordered entries) :
    entries.lookup name = some child :=
  Node.lookup_of_mem (htree.at hat).1.nodup (mem_ordered.1 hmem)

/-- A frame shows what is still to come of the listing of a directory gone through. -/
structure Shows (tree : Node) (frame : Frame) (level : Level) : Prop where
  path : frame.path = level.path
  listing : ∃ entries rest,
    tree.locate true level.path = .ok (level.place, .directory none entries) ∧
    rest <:+ ordered entries ∧ frame.pending = .ok (rest.map (listed level.path))

/-- The directories under way are a way down. Only the innermost may turn out not to be listed. -/
inductive OnTrack (plan : Plan) (tree : Node) (root : Path) : List Frame → List Level → Prop where
  | listing {frames : List Frame} {levels : List Level} (hdescent : Descent plan tree root levels)
      (hshows : List.Forall₂ (Shows tree) frames levels) : OnTrack plan tree root frames levels
  | failed {path : Path} {place : Trail} {e : IoError} {frames : List Frame} {levels : List Level}
      (hdescent : Descent plan tree root (⟨path, place⟩ :: levels))
      (hshows : List.Forall₂ (Shows tree) frames levels) :
      OnTrack plan tree root (⟨path, .error e⟩ :: frames) (⟨path, place⟩ :: levels)

theorem Shows.placeAt {tree : Node} {frame : Frame} {level : Level} (h : Shows tree frame level) :
    tree.placeAt frame.path = .ok level.place := by
  obtain ⟨entries, rest, hlocate, -⟩ := h.listing
  rw [Node.placeAt, h.path, hlocate]

theorem exists_level {tree : Node} {frames : List Frame} {levels : List Level}
    (h : List.Forall₂ (Shows tree) frames levels) {frame : Frame} (hframe : frame ∈ frames) :
    ∃ level ∈ levels, tree.placeAt frame.path = .ok level.place := by
  induction h with
  | nil => cases hframe
  | @cons first level frames levels hshows _ ih =>
    rcases List.mem_cons.1 hframe with rfl | hframe
    · exact ⟨level, List.mem_cons_self, hshows.placeAt⟩
    · obtain ⟨level', hlevel', hplace⟩ := ih hframe
      exact ⟨level', List.mem_cons_of_mem _ hlevel', hplace⟩

/-- The directory under way at a place is the innermost one gone through there. -/
theorem ancestorAt_eq {tree : Node} {frames : List Frame} {levels : List Level}
    (h : List.Forall₂ (Shows tree) frames levels) (place : Trail) :
    ancestorAt tree place frames =
      .ok ((levels.find? fun level ↦ level.place = place).map (·.path)) := by
  induction h with
  | nil => rfl
  | @cons frame level frames levels hshows _ ih =>
    rw [ancestorAt, hshows.placeAt, List.find?_cons]
    by_cases hsame : level.place = place
    · simp [hsame, hshows.path, bind, Except.bind, pure, Except.pure]
    · simpa [hsame, bind, Except.bind] using ih

section

variable {plan : Plan} {tree : Node} {frames : List Frame} {here : Level} {above : List Level}

/-- A walk sees of an entry what it meets there. -/
theorem seen_eq (h : List.Forall₂ (Shows tree) frames (here :: above)) (name : Name) (child : Node) :
    seen plan tree frames (listed here.path (name, child)) =
      ((meet plan.settings.followLinks tree here above name child).map fun met ↦
        ⟨here.path.join name, name, met.2.kind⟩).mapError .walk := by
  unfold seen meet listed
  by_cases hlink : plan.settings.followLinks && child.kind = .link
  · rw [if_pos hlink, if_pos hlink, resolve]
    cases tree.locate true (here.path.join name) with
    | error e => rfl
    | ok found =>
      obtain ⟨place, node⟩ := found
      cases node with
      | directory bar entries =>
        cases bar with
        | some e => rfl
        | none =>
          simp only [Node.kind, true_and, ancestorAt_eq h]
          cases (here :: above).find? fun level ↦ level.place = place <;> rfl
      | file | link | special =>
        dsimp only
        rw [List.find?_eq_none.2 (by simp [Node.kind])]
        rfl
  · rw [if_neg hlink, if_neg hlink]
    rfl

/-- The move of a walk at an entry, by what is met there. -/
theorem move_eq (h : List.Forall₂ (Shows tree) frames (here :: above)) (name : Name) (child : Node) :
    move plan tree frames (listed here.path (name, child)) =
      match meet plan.settings.followLinks tree here above name child with
      | .error e => .error (.walk e)
      | .ok (_, node) => moveFor plan tree ⟨here.path.join name, name, node.kind⟩ := by
  rw [move, seen_eq h]
  cases meet plan.settings.followLinks tree here above name child <;> rfl

theorem kind_of_moveFor_enter {entry : Entry} (h : moveFor plan tree entry = .ok .enter) :
    entry.kind = .directory ∧ plan.exclusions.excludes entry.path true = false := by
  unfold moveFor at h
  grind

/-- If the path of an entry leads anywhere, it leads to what is met there. -/
theorem locate_of_meet (htree : tree.WellFormed) {bar : Option IoError}
    {entries : List (Name × Node)}
    (hhere : tree.locate true here.path = .ok (here.place, .directory bar entries)) {name : Name}
    {child node : Node} (hchild : entries.lookup name = some child) {place : Trail}
    (hmeet : meet plan.settings.followLinks tree here above name child = .ok (place, node))
    (hkind : node.kind ≠ .link) {found : Trail × Node}
    (hlocate : tree.locate true (here.path.join name) = .ok found) : found = (place, node) := by
  rcases meet_ok hmeet with ⟨rfl, rfl⟩ | ⟨-, hlink, -⟩
  · have hunder : (Node.directory bar entries).under? [name] = some node := by
      simp [Node.under?, Node.child?, hchild]
    rcases Node.locate_joinAll htree hhere hunder hkind with hfound | ⟨e, hfailed⟩
    · rw [Path.joinAll_cons, Path.joinAll_nil, hlocate] at hfound
      cases hfound
      rfl
    · rw [Path.joinAll_cons, Path.joinAll_nil, hlocate] at hfailed
      cases hfailed
  · rw [hlocate] at hlink
    cases hlink
    rfl

end

/-! ## Steps -/

/-- One step of a walk that goes on, as far as the directories under way show it. -/
inductive Goes (plan : Plan) (tree : Node) : List Frame → List Frame → Prop where
  | leave (path : Path) (frames : List Frame) : Goes plan tree (⟨path, .ok []⟩ :: frames) frames
  | stay {path : Path} {entry : Entry} {pending : List Entry} {frames : List Frame} {m : Move}
      (h : move plan tree (⟨path, .ok pending⟩ :: frames) entry = .ok m) :
      Goes plan tree (⟨path, .ok (entry :: pending)⟩ :: frames) (⟨path, .ok pending⟩ :: frames)
  | enter {path : Path} {entry : Entry} {pending : List Entry} {frames : List Frame}
      (h : move plan tree (⟨path, .ok pending⟩ :: frames) entry = .ok .enter) :
      Goes plan tree (⟨path, .ok (entry :: pending)⟩ :: frames)
        (openDirectory tree entry.path :: ⟨path, .ok pending⟩ :: frames)

/-- A callback that leaves the tree as it is. -/
def LeavesTree (onFile : FoundFile → Run σ Unit) : Prop :=
  ∀ file world, ((onFile file).on world).2.tree = world.tree

/-- Where a walk is: the directories under way, how many files have been handed on, and the world. -/
structure Stage (σ : Type) where
  frames : List Frame
  count : Nat
  world : World σ

namespace Stage

/-- The stage that a walk comes to by a step, unless it is at its end or fails. -/
def next? (plan : Plan) (onFile : FoundFile → Run σ Unit) (s : Stage σ) : Option (Stage σ) :=
  match s.frames with
  | [] => none
  | ⟨_, .error _⟩ :: _ => none
  | ⟨_, .ok []⟩ :: frames => some ⟨frames, s.count, s.world⟩
  | ⟨path, .ok (entry :: pending)⟩ :: frames =>
    match (visit plan onFile (⟨path, .ok pending⟩ :: frames) entry).on s.world with
    | (.ok (frames, handed), after) => some ⟨frames, if handed then s.count + 1 else s.count, after⟩
    | (.error _, _) => none

/-- The stage that a walk comes to by so many steps. -/
def after? (plan : Plan) (onFile : FoundFile → Run σ Unit) : Nat → Stage σ → Option (Stage σ)
  | 0, s => some s
  | steps + 1, s => (s.next? plan onFile).bind (after? plan onFile steps)

end Stage

/-- A walk of a tree that stays as it is fails at a step or takes it. -/
theorem go_step {onFile : FoundFile → Run σ Unit} (hleaves : LeavesTree onFile) (plan : Plan)
    (frame : Frame) (frames : List Frame) (count : Nat) (world : World σ) :
    (∃ e after, Stage.next? plan onFile ⟨frame :: frames, count, world⟩ = none ∧ ∀ steps,
        (go plan onFile (steps + 1) (frame :: frames) count).on world = (.error e, after)) ∨
      ∃ s, Stage.next? plan onFile ⟨frame :: frames, count, world⟩ = some s ∧
        Goes plan world.tree (frame :: frames) s.frames ∧ s.world.tree = world.tree ∧
        ∀ steps, (go plan onFile (steps + 1) (frame :: frames) count).on world =
          (go plan onFile steps s.frames s.count).on s.world := by
  match frame with
  | ⟨path, .error e⟩ => exact Or.inl ⟨_, world, rfl, fun steps ↦ by rw [go_failed]⟩
  | ⟨path, .ok []⟩ =>
    exact Or.inr ⟨_, rfl, .leave path frames, rfl, fun steps ↦ by rw [go_done]⟩
  | ⟨path, .ok (entry :: pending)⟩ =>
    simp only [go_entry, Stage.next?, visit_on]
    rcases hmove : move plan world.tree (⟨path, .ok pending⟩ :: frames) entry with
      e | events | _ | ⟨events, file⟩
    · exact Or.inl ⟨e, world, rfl, fun _ ↦ rfl⟩
    · exact Or.inr ⟨_, rfl, .stay hmove, rfl, fun _ ↦ rfl⟩
    · exact Or.inr ⟨_, rfl, .enter hmove, rfl, fun _ ↦ rfl⟩
    · have hafter := hleaves file (world.logged events)
      rcases hrun : (onFile file).on (world.logged events) with ⟨e | _, after⟩
      · exact Or.inl ⟨e, after, by simp only [hrun], fun _ ↦ by simp only [hrun]⟩
      · rw [hrun] at hafter
        exact Or.inr ⟨⟨_, count + 1, after⟩, by simp [hrun], .stay hmove, hafter,
          fun _ ↦ by simp only [hrun]⟩

/-- What a walk comes to, the directories under way go through step by step, and from there it goes on. -/
theorem goes_of_after? {onFile : FoundFile → Run σ Unit} (hleaves : LeavesTree onFile) {plan : Plan}
    {steps : Nat} {s s' : Stage σ} (h : s.after? plan onFile steps = some s') :
    Relation.ReflTransGen (Goes plan s.world.tree) s.frames s'.frames ∧
      ∀ more, (go plan onFile (steps + more) s.frames s.count).on s.world =
        (go plan onFile more s'.frames s'.count).on s'.world := by
  induction steps generalizing s with
  | zero =>
    obtain rfl := Option.some.inj h
    exact ⟨.refl, fun more ↦ by rw [Nat.zero_add]⟩
  | succ steps ih =>
    obtain ⟨next, hnext, hafter⟩ := Option.bind_eq_some_iff.1 h
    obtain ⟨frames, count, world⟩ := s
    cases frames with
    | nil => cases hnext
    | cons frame frames =>
      rcases go_step hleaves plan frame frames count world with
        ⟨e, after, hnone, -⟩ | ⟨s, hsome, hgoes, htree, hrest⟩
      · cases hnext.symm.trans hnone
      · obtain rfl := Option.some.inj (hnext.symm.trans hsome)
        obtain ⟨hreached, hmore⟩ := ih hafter
        refine ⟨.head hgoes (htree ▸ hreached), fun more ↦ ?_⟩
        rw [Nat.add_right_comm, hrest, hmore]

namespace OnTrack

variable {plan : Plan} {tree : Node} {root : Path} {frames frames' : List Frame}
  {levels : List Level}

theorem descent (h : OnTrack plan tree root frames levels) : Descent plan tree root levels := by
  cases h <;> assumption

theorem length_eq (h : OnTrack plan tree root frames levels) : frames.length = levels.length := by
  cases h with
  | listing _ hshows => exact hshows.length_eq
  | failed _ hshows => simp [hshows.length_eq]

/-- A directory that is gone into is opened on the way down. -/
theorem openDirectory {path : Path} {place : Trail}
    (hdescent : Descent plan tree root (⟨path, place⟩ :: levels))
    (hshows : List.Forall₂ (Shows tree) frames levels)
    (hplace : ∀ place' node, tree.locate true path = .ok (place', node) → place' = place) :
    OnTrack plan tree root (Walk.openDirectory tree path :: frames) (⟨path, place⟩ :: levels) := by
  rcases openDirectory_cases tree path with ⟨e, hopen⟩ | ⟨place', entries, hlocate, hopen⟩
  · rw [hopen]
    exact .failed hdescent hshows
  · obtain rfl := hplace _ _ hlocate
    rw [hopen]
    exact .listing hdescent
      (.cons ⟨rfl, entries, _, hlocate, List.suffix_refl _, rfl⟩ hshows)

/-- A walk starts at its root. -/
theorem start {place : Trail} {bar : Option IoError} {entries : List (Name × Node)}
    (hroot : tree.locate true root = .ok (place, .directory bar entries)) :
    OnTrack plan tree root [Walk.openDirectory tree root] [⟨root, place⟩] := by
  apply openDirectory (.root hroot) .nil
  intro place' node h
  rw [hroot] at h
  cases h
  rfl

/-- The entry at hand is one of the innermost directory, and what is pending behind it is the end of the
listing of that directory. -/
theorem exists_listed {path : Path} {entry : Entry} {pending : List Entry} (htree : tree.WellFormed)
    (h : OnTrack plan tree root (⟨path, .ok (entry :: pending)⟩ :: frames) levels) :
    ∃ here above entries name child, Descent plan tree root (here :: above) ∧
      List.Forall₂ (Shows tree) (⟨path, .ok pending⟩ :: frames) (here :: above) ∧
      tree.locate true here.path = .ok (here.place, .directory none entries) ∧
      entries.lookup name = some child ∧ entry = listed here.path (name, child) := by
  cases h with
  | listing hdescent hshows =>
    cases hshows with
    | @cons _ here _ above hshow hshows =>
      obtain ⟨rfl, entries, rest, hlocate, hrest, hpending⟩ := hshow
      obtain ⟨⟨name, child⟩, rest, rfl, rfl, hmore⟩ :=
        List.map_eq_cons_iff.1 (Except.ok.inj hpending).symm
      have hlookup : entries.lookup name = some child :=
        lookup_of_mem_ordered htree (Node.at?_of_locate hlocate) (hrest.subset List.mem_cons_self)
      exact ⟨here, above, entries, name, child, hdescent, .cons ⟨rfl, entries, rest, hlocate,
        (List.suffix_cons _ _).trans hrest, by rw [← hmore]⟩ hshows, hlocate, hlookup, rfl⟩

/-- A step leads on down, stays where it is, or goes back up. -/
theorem step (htree : tree.WellFormed) (h : OnTrack plan tree root frames levels)
    (hgoes : Goes plan tree frames frames') : ∃ levels', OnTrack plan tree root frames' levels' := by
  cases hgoes with
  | leave =>
    cases h with
    | listing hdescent hshows =>
      cases hshows with
      | cons _ hshows => exact ⟨_, .listing hdescent.tail hshows⟩
  | stay =>
    obtain ⟨here, above, -, -, -, hdescent, hshows, -⟩ := h.exists_listed htree
    exact ⟨_, .listing hdescent hshows⟩
  | enter hmove =>
    obtain ⟨here, above, entries, name, child, hdescent, hshows, hlocate, hlookup, rfl⟩ :=
      h.exists_listed htree
    rw [move_eq hshows] at hmove
    cases hmeet : meet plan.settings.followLinks tree here above name child with
    | error e =>
      rw [hmeet] at hmove
      cases hmove
    | ok met =>
      obtain ⟨place, node⟩ := met
      rw [hmeet] at hmove
      obtain ⟨hkind, hopen⟩ := kind_of_moveFor_enter hmove
      cases node with
      | file | link | special => cases hkind
      | directory bar inner =>
        have hchild := (Node.at?_cons (Node.at?_of_locate hlocate) name).trans hlookup
        refine ⟨_, .openDirectory (hdescent.enter hchild hmeet hopen) hshows
          fun place' node' h ↦ ?_⟩
        have hfound := locate_of_meet htree hlocate hlookup hmeet (by simp [Node.kind]) h
        exact congrArg Prod.fst hfound

/-- What is outside a directory under way is listed, and is what was gone through before it. -/
theorem suffix {inner outer : List Frame} {frame : Frame}
    (h : OnTrack plan tree root (inner ++ frame :: outer) levels) :
    ∃ level above, Descent plan tree root (level :: above) ∧ frame.path = level.path ∧
      List.Forall₂ (Shows tree) outer above := by
  induction inner generalizing levels with
  | nil =>
    cases h with
    | listing hdescent hshows =>
      cases hshows with
      | cons hshow hshows => exact ⟨_, _, hdescent, hshow.path, hshows⟩
    | failed hdescent hshows => exact ⟨_, _, hdescent, rfl, hshows⟩
  | cons first inner ih =>
    cases h with
    | listing hdescent hshows =>
      cases hshows with
      | cons _ hshows => exact ih (.listing hdescent.tail hshows)
    | failed hdescent hshows => exact ih (.listing hdescent.tail hshows)

/-- A directory entered through a link is none of those outside it. -/
theorem place_ne {inner outer : List Frame} {frame : Frame} (htree : tree.WellFormed)
    (h : OnTrack plan tree root (inner ++ frame :: outer) levels) (houter : outer ≠ [])
    (hlink : tree.ownKindAt frame.path = .ok .link) :
    ∃ place, tree.placeAt frame.path = .ok place ∧
      ∀ above ∈ outer, ∃ place', tree.placeAt above.path = .ok place' ∧ place' ≠ place := by
  obtain ⟨level, above, hdescent, hpath, hshows⟩ := h.suffix
  cases hdescent with
  | root => exact absurd (List.forall₂_nil_right_iff.1 hshows) houter
  | @enter here above name child place bar inner hdescent hchild hmeet =>
    obtain ⟨frame', outer, hshow, hshows', rfl⟩ := List.forall₂_cons_right_iff.1 hshows
    obtain ⟨entries, rest, hlocate, -⟩ := hshow.listing
    have hlookup := (Node.at?_cons (Node.at?_of_locate hlocate) name).symm.trans hchild
    rw [hpath] at hlink ⊢
    rcases meet_ok hmeet with ⟨rfl, -⟩ | ⟨-, -, hopened, hnew⟩
    · rcases Node.ownKindAt_join htree hlocate hlookup with hown | ⟨e, hfailed⟩
      · cases hlink.symm.trans hown
      · cases hlink.symm.trans hfailed
    · refine ⟨place, hopened, fun frame hframe ↦ ?_⟩
      obtain ⟨level, hlevel, hplace⟩ := exists_level hshows hframe
      exact ⟨level.place, hplace, hnew rfl level hlevel⟩

end OnTrack

/-! ## How many steps there are -/

/-- The most steps that a directory can take, if so many entries are in each and one can go down so far
from it. -/
def effort (breadth : Nat) : Nat → Nat
  | 0 => 0
  | depth + 1 => 1 + breadth * (1 + effort breadth depth)

/-- The most steps that the directories under way can still take, if one can go down to a depth. -/
def remaining (breadth depth : Nat) : List Frame → Nat
  | [] => 0
  | frame :: frames =>
    1 + frame.entries.length * (1 + effort breadth (depth - (frames.length + 1))) +
      remaining breadth depth frames

/-- How far down a walk can go. -/
def depthBound (tree : Node) : Nat := tree.directories.length * (tree.height + 1)

/-- The most steps that a walk of a tree can take. -/
def stepBound (tree : Node) : Nat := effort tree.breadth (depthBound tree)

theorem length_openDirectory_le (tree : Node) (path : Path) :
    (openDirectory tree path).entries.length ≤ tree.breadth := by
  rcases openDirectory_cases tree path with ⟨e, hopen⟩ | ⟨place, entries, hlocate, hopen⟩
  · rw [hopen]
    exact Nat.zero_le _
  · have hbreadth := Node.length_le_breadth (Node.at?_of_locate hlocate)
    rw [hopen]
    simpa [Frame.entries, Except.toOption, ordered] using hbreadth

/-- Every step leaves fewer to come, as long as one does not go down too far. -/
theorem remaining_lt {plan : Plan} {tree : Node} {frames frames' : List Frame} {depth : Nat}
    (h : Goes plan tree frames frames') (hdepth : frames'.length ≤ depth) :
    remaining tree.breadth depth frames' < remaining tree.breadth depth frames := by
  cases h with
  | leave path frames =>
    rw [remaining]
    omega
  | stay =>
    simp only [remaining, Frame.entries, Except.toOption, Option.getD_some, List.length_cons,
      Nat.add_one_mul]
    omega
  | @enter path entry pending frames =>
    have hentries := length_openDirectory_le tree entry.path
    have hdeep : depth - (frames.length + 1) = depth - (frames.length + 1 + 1) + 1 := by
      rw [List.length_cons, List.length_cons] at hdepth
      omega
    -- what the new directory can take was set aside for its entry
    have heffort : 1 + (openDirectory tree entry.path).entries.length *
        (1 + effort tree.breadth (depth - (frames.length + 1 + 1))) ≤
          effort tree.breadth (depth - (frames.length + 1)) := by
      rw [hdeep, effort]
      exact Nat.add_le_add_left (Nat.mul_le_mul_right _ hentries) 1
    have hentry : Frame.entries ⟨path, .ok (entry :: pending)⟩ = entry :: pending := rfl
    have hpending : Frame.entries ⟨path, .ok pending⟩ = pending := rfl
    simp only [remaining, hentry, hpending, List.length_cons, Nat.add_one_mul]
    omega

theorem remaining_openDirectory_le (tree : Node) (path : Path) {depth : Nat} (hdepth : 0 < depth) :
    remaining tree.breadth depth [openDirectory tree path] ≤ effort tree.breadth depth := by
  obtain ⟨depth, rfl⟩ := Nat.exists_eq_succ_of_ne_zero hdepth.ne'
  simp only [remaining, List.length_nil, Nat.zero_add, Nat.succ_sub_one, effort, Nat.add_zero]
  exact Nat.add_le_add_left (Nat.mul_le_mul_right _ (length_openDirectory_le tree path)) 1

/-- A walk that can take enough steps comes to an end. -/
theorem go_ends {onFile : FoundFile → Run σ Unit} (hleaves : LeavesTree onFile) {plan : Plan}
    {tree : Node} (htree : tree.WellFormed) {root : Path} {steps : Nat} {frames : List Frame}
    {levels : List Level} (h : OnTrack plan tree root frames levels) (count : Nat)
    {world : World σ} (hworld : world.tree = tree)
    (hsteps : remaining tree.breadth (depthBound tree) frames ≤ steps) :
    ((go plan onFile steps frames count).on world).1 ≠ .ok none := by
  induction steps generalizing frames levels count world with
  | zero =>
    cases frames with
    | nil => simp [go_nil]
    | cons frame frames =>
      rw [remaining] at hsteps
      omega
  | succ steps ih =>
    cases frames with
    | nil => simp [go_nil]
    | cons frame frames =>
      rcases go_step hleaves plan frame frames count world with
        ⟨e, after, -, hfailed⟩ | ⟨s, -, hgoes, hafter, hrest⟩
      · rw [hfailed]
        simp
      · rw [hworld] at hgoes hafter
        obtain ⟨levels', h'⟩ := h.step htree hgoes
        have hdepth : s.frames.length ≤ depthBound tree := h'.length_eq ▸ h'.descent.length_le
        have hless := remaining_lt hgoes hdepth
        rw [hrest]
        exact ih h' s.count hafter (by omega)

/-- A walk that starts at a directory comes to an end. -/
theorem go_root_ends {onFile : FoundFile → Run σ Unit} (hleaves : LeavesTree onFile) {plan : Plan}
    {tree : Node} (htree : tree.WellFormed) {root : Path} {place : Trail} {bar : Option IoError}
    {entries : List (Name × Node)}
    (hroot : tree.locate true root = .ok (place, .directory bar entries)) {world : World σ}
    (hworld : world.tree = tree) {steps : Nat} (hsteps : stepBound tree ≤ steps) :
    ((go plan onFile steps [openDirectory tree root] 0).on world).1 ≠ .ok none := by
  have hstart : OnTrack plan tree root [openDirectory tree root] [⟨root, place⟩] := .start hroot
  have hdepth : 0 < depthBound tree := hstart.length_eq.trans_le hstart.descent.length_le
  apply go_ends hleaves htree hstart 0 hworld
  exact (remaining_openDirectory_le tree root hdepth).trans hsteps

/-- Once a walk has come to an end, it makes no difference if it could have taken more steps. -/
theorem go_add {onFile : FoundFile → Run σ Unit} (hleaves : LeavesTree onFile) {plan : Plan}
    {steps : Nat} {frames : List Frame} {count : Nat} {world : World σ}
    (h : ((go plan onFile steps frames count).on world).1 ≠ .ok none) (more : Nat) :
    (go plan onFile (steps + more) frames count).on world =
      (go plan onFile steps frames count).on world := by
  induction steps generalizing frames count world with
  | zero =>
    cases frames with
    | nil => rw [go_nil, go_nil]
    | cons frame frames => exact absurd rfl h
  | succ steps ih =>
    cases frames with
    | nil => rw [go_nil, go_nil]
    | cons frame frames =>
      rw [Nat.add_right_comm]
      rcases go_step hleaves plan frame frames count world with
        ⟨e, after, -, hfailed⟩ | ⟨s, -, -, -, hrest⟩
      · rw [hfailed, hfailed]
      · rw [hrest] at h
        rw [hrest, hrest]
        exact ih h

/-- In a tree that stays as it is, whatever its links lead to: a walk never has more directories under
way than the directories of the tree and its height allow, each one entered through a link is another
real directory than those outside it, and the walk comes to an end if it can take enough steps. -/
theorem walk_ends (settings : WalkSettings) (root : Path) (tree : Node) (htree : tree.WellFormed) :
    (∀ plan frames, prepare settings root tree = .ok plan →
      Relation.ReflTransGen (Goes plan tree) [openDirectory tree root] frames →
        frames.length ≤ depthBound tree ∧
          ∀ inner frame outer, frames = inner ++ frame :: outer → outer ≠ [] →
            tree.ownKindAt frame.path = .ok .link →
              ∃ place, tree.placeAt frame.path = .ok place ∧
                ∀ above ∈ outer, ∃ place', tree.placeAt above.path = .ok place' ∧ place' ≠ place) ∧
      ∀ (onFile : FoundFile → Run σ Unit) (world : World σ), LeavesTree onFile →
        world.tree = tree →
          (∀ plan steps s, prepare settings root tree = .ok plan →
            Stage.after? plan onFile steps ⟨[openDirectory tree root], 0, world⟩ = some s →
              Relation.ReflTransGen (Goes plan tree) [openDirectory tree root] s.frames ∧
                ∀ more, (walk settings (steps + more) root onFile).on world =
                  (go plan onFile more s.frames s.count).on s.world) ∧
          ∀ steps ≥ stepBound tree, ((walk settings steps root onFile).on world).1 ≠ .ok none := by
  constructor
  · intro plan frames hprepare hreached
    obtain ⟨levels, h⟩ : ∃ levels, OnTrack plan tree root frames levels := by
      induction hreached with
      | refl =>
        obtain ⟨place, bar, entries, hroot⟩ := locate_of_prepare hprepare
        exact ⟨_, .start hroot⟩
      | tail _ hgoes ih =>
        obtain ⟨levels, h⟩ := ih
        exact h.step htree hgoes
    refine ⟨h.length_eq ▸ h.descent.length_le, fun inner frame outer hframes houter hlink ↦ ?_⟩
    exact (hframes ▸ h).place_ne htree houter hlink
  · rintro onFile world hleaves rfl
    constructor
    · intro plan steps s hprepare hafter
      obtain ⟨hreached, hmore⟩ := goes_of_after? hleaves hafter
      refine ⟨hreached, fun more ↦ ?_⟩
      rw [walk_on, hprepare]
      exact hmore more
    · intro steps hsteps
      rw [walk_on]
      cases hprepare : prepare settings root world.tree with
      | error e => simp
      | ok plan =>
        obtain ⟨place, bar, entries, hroot⟩ := locate_of_prepare hprepare
        exact go_root_ends hleaves htree hroot rfl hsteps

/-- Two directories with a link into each other, beside a link to what is above the root. -/
def crossedTree : Node :=
  [Node.Change.makeLink (Path.ofString "r/a/l") (Path.ofString "../b"),
    .makeLink (Path.ofString "r/b/m") (Path.ofString "../a"),
    .makeLink (Path.ofString "r/u") (Path.ofString "..")].foldl Node.apply .empty

def crossedSettings : WalkSettings := ⟨[], "utf-8", [], true⟩

/-- What is under way in the tree once the first link has been gone through. -/
def crossedFrames : List Frame :=
  [openDirectory crossedTree (Path.ofString "r/a/l"), ⟨Path.ofString "r/a", .ok []⟩,
    ⟨Path.ofString "r",
      .ok [⟨Path.ofString "r/b", Path.ofString "b", .directory⟩,
        ⟨Path.ofString "r/u", Path.ofString "u", .link⟩]⟩]

theorem walk_ends_crossed :
    ∃ plan frame outer, prepare crossedSettings (Path.ofString "r") crossedTree = .ok plan ∧
      (Stage.after? plan ignore 2
        ⟨[openDirectory crossedTree (Path.ofString "r")], 0, ⟨crossedTree, #[], ()⟩⟩).map (·.frames) =
          some (frame :: outer) ∧
      frame.path = Path.ofString "r/a/l" ∧ outer.length = 2 ∧
      (∃ place, crossedTree.placeAt frame.path = .ok place ∧ ∀ above ∈ outer,
        ∃ place', crossedTree.placeAt above.path = .ok place' ∧ place' ≠ place) ∧
      ∀ steps ≥ stepBound crossedTree,
        ((walk crossedSettings steps (Path.ofString "r") ignore).on ⟨crossedTree, #[], ()⟩).1 ≠
          .ok none := by
  have htree : crossedTree.WellFormed := Node.wellFormed_empty.foldl_apply _
  have hleaves : LeavesTree ignore := fun _ _ ↦ rfl
  obtain ⟨hdown, hruns⟩ := walk_ends crossedSettings (Path.ofString "r") crossedTree htree
  obtain ⟨hstages, hends⟩ := hruns ignore ⟨crossedTree, #[], ()⟩ hleaves rfl
  let plan : Plan := ⟨crossedSettings, .utf8, ⟨Path.ofString "r", []⟩⟩
  have hprepare : prepare crossedSettings (Path.ofString "r") crossedTree = .ok plan := by cbv
  have hafter : Stage.after? plan ignore 2
      ⟨[openDirectory crossedTree (Path.ofString "r")], 0, ⟨crossedTree, #[], ()⟩⟩ =
        some ⟨crossedFrames, 0, ⟨crossedTree, #[], ()⟩⟩ := by cbv
  have hreached := (hstages plan 2 _ hprepare hafter).1
  refine ⟨plan, _, _, hprepare, by rw [hafter]; rfl, rfl, rfl, ?_, hends⟩
  exact (hdown plan _ hprepare hreached).2 [] _ _ rfl (by simp) (by cbv)

end SourceSurvey.Walk
