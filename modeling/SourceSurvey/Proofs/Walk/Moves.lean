import Mathlib
import SourceSurvey.Walk

/-!
# Moves of a walk

What a walk does about the entry at hand depends on the tree as it is, and on nothing that its caller
keeps: the entry is passed over, entered or handed on, or the walk fails. The equations here say what
one step of a walk does in terms of that move alone, so that no later proof opens the steps again.
-/

namespace SourceSurvey

variable {σ α β : Type}

/-! ## Running -/

/-- What steps give back from a world, and the world behind them. -/
def Run.on (x : Run σ α) (world : World σ) : Except SurveyError α × World σ := x.run.run world

namespace Run

@[simp] theorem on_pure (a : α) (world : World σ) : (pure a : Run σ α).on world = (.ok a, world) :=
  rfl

@[simp] theorem on_throw (e : SurveyError) (world : World σ) :
    (throw e : Run σ α).on world = (.error e, world) := rfl

@[simp] theorem on_get (world : World σ) :
    (get : Run σ (World σ)).on world = (.ok world, world) := rfl

@[simp] theorem on_modify (f : World σ → World σ) (world : World σ) :
    (modify f : Run σ Unit).on world = (.ok (), f world) := rfl

theorem on_bind (x : Run σ α) (f : α → Run σ β) (world : World σ) :
    (x >>= f).on world =
      match x.on world with
      | (.ok a, after) => (f a).on after
      | (.error e, after) => (.error e, after) := by
  simp only [Run.on, ExceptT.run_bind, StateT.run_bind]
  rcases x.run.run world with ⟨_ | _, _⟩ <;> rfl

end Run

/-- A world in which some more events have been reported. -/
def World.logged (world : World σ) (events : List LogEvent) : World σ :=
  { world with log := events.foldl Array.push world.log }

namespace World

@[simp] theorem logged_nil (world : World σ) : world.logged [] = world := rfl

@[simp] theorem tree_logged (world : World σ) (events : List LogEvent) :
    (world.logged events).tree = world.tree := rfl

@[simp] theorem kept_logged (world : World σ) (events : List LogEvent) :
    (world.logged events).kept = world.kept := rfl

theorem toList_logged (world : World σ) (events : List LogEvent) :
    (world.logged events).log.toList = world.log.toList ++ events := by
  simp [logged]

end World

@[simp] theorem Run.on_report (level : Level) (message : String) (fields : List (String × String))
    (world : World σ) :
    (report level message fields).on world = (.ok (), world.logged [⟨level, message, fields⟩]) := rfl

namespace Walk

/-! ## The file of an entry -/

/-- The file that an entry's bytes make. -/
def foundFile (encoding : Encoding) (entry : Entry) (bytes : List UInt8) : FoundFile :=
  ⟨entry.path, Encoding.Utf8.lossy (Path.stem entry.name),
    (Path.extension? entry.name).elim "" fun e ↦ "." ++ Encoding.Utf8.lossy e,
    (encoding.decode bytes).text⟩

/-- What is reported about bytes that are not all text. -/
def decodingEvents (encoding : Encoding) (entry : Entry) (bytes : List UInt8) : List LogEvent :=
  let decoded := encoding.decode bytes
  if decoded.malformed then
    [⟨.warn, "file contains bytes invalid for its encoding; replaced with U+FFFD",
      [("path", entry.path.display), ("encoding", decoded.used.name)]⟩]
  else []

theorem readFile_on (encoding : Encoding) (entry : Entry) (world : World σ) :
    (readFile encoding entry).on world =
      match world.tree.readAt entry.path with
      | .error e => (.error (.io entry.path e), world)
      | .ok bytes =>
        (.ok (foundFile encoding entry bytes),
          world.logged (decodingEvents encoding entry bytes)) := by
  simp only [readFile, Run.on_bind, Run.on_get]
  cases world.tree.readAt entry.path with
  | error e => rfl
  | ok bytes =>
    unfold foundFile decodingEvents
    by_cases hmalformed : (encoding.decode bytes).malformed
    · simp only [hmalformed, if_true, Run.on_bind, Run.on_report, Run.on_pure]
      cases Path.extension? entry.name <;> rfl
    · simp only [hmalformed, Bool.false_eq_true, if_false, Run.on_pure]
      cases Path.extension? entry.name <;> rfl

/-! ## Moves -/

/-- What a walk does about an entry. -/
inductive Move where
  | pass (events : List LogEvent)
  | enter
  | hand (events : List LogEvent) (file : FoundFile)

/-- The entry as a walk sees it: a link stands for its target if links are followed. -/
def seen (plan : Plan) (tree : Node) (frames : List Frame) (entry : Entry) :
    Except SurveyError Entry :=
  if plan.settings.followLinks && entry.kind = .link then
    (resolve tree frames entry).mapError .walk
  else .ok entry

/-- What is done about an entry, once it is seen as what it is. -/
def moveFor (plan : Plan) (tree : Node) (entry : Entry) : Except SurveyError Move :=
  if plan.exclusions.excludes entry.path (entry.kind = .directory) then
    .ok (.pass [⟨.debug, "excluded", [("path", entry.path.display)]⟩])
  else if entry.kind = .directory then .ok .enter
  else if entry.kind = .file && accepts plan.settings.fileTypes entry.name then
    match tree.readAt entry.path with
    | .error e => .error (.io entry.path e)
    | .ok bytes =>
      .ok (.hand (decodingEvents plan.encoding entry bytes) (foundFile plan.encoding entry bytes))
  else .ok (.pass [])

/-- The move of a walk at an entry. -/
def move (plan : Plan) (tree : Node) (frames : List Frame) (entry : Entry) :
    Except SurveyError Move :=
  (seen plan tree frames entry).bind (moveFor plan tree)

/-- Seeing an entry for what it is changes its kind only. -/
theorem seen_path_name {plan : Plan} {tree : Node} {frames : List Frame} {entry entry' : Entry}
    (h : seen plan tree frames entry = .ok entry') :
    entry'.path = entry.path ∧ entry'.name = entry.name := by
  unfold seen resolve at h
  grind [Except.mapError]

/-- Everything a move can be. The file of an entry depends on its path and its name, which are the same
however it is seen. -/
theorem move_cases {plan : Plan} {tree : Node} {frames : List Frame} {entry : Entry} {m : Move}
    (h : move plan tree frames entry = .ok m) :
    m = .pass [⟨.debug, "excluded", [("path", entry.path.display)]⟩] ∨ m = .enter ∨
      (∃ bytes, accepts plan.settings.fileTypes entry.name ∧ tree.readAt entry.path = .ok bytes ∧
        m = .hand (decodingEvents plan.encoding entry bytes) (foundFile plan.encoding entry bytes)) ∨
      m = .pass [] := by
  rw [move] at h
  cases hseen : seen plan tree frames entry with
  | error e =>
    rw [hseen] at h
    cases h
  | ok entry' =>
    obtain ⟨hpath, hname⟩ := seen_path_name hseen
    have hfile (bytes : List UInt8) : foundFile plan.encoding entry' bytes =
        foundFile plan.encoding entry bytes := by rw [foundFile, hpath, hname, foundFile]
    have hevents (bytes : List UInt8) : decodingEvents plan.encoding entry' bytes =
        decodingEvents plan.encoding entry bytes := by rw [decodingEvents, hpath, decodingEvents]
    simp only [hseen, Except.bind, moveFor, hpath, hname, hfile, hevents] at h
    split at h
    · cases h
      exact .inl rfl
    split at h
    · cases h
      exact .inr (.inl rfl)
    split at h
    · rename_i haccepted
      rw [Bool.and_eq_true] at haccepted
      cases hread : tree.readAt entry.path with
      | error e =>
        rw [hread] at h
        cases h
      | ok bytes =>
        rw [hread] at h
        cases h
        exact .inr (.inr (.inl ⟨bytes, haccepted.2, rfl, rfl⟩))
    · cases h
      exact .inr (.inr (.inr rfl))

/-- A file that is handed on is that of an accepted entry, and was read at its path. -/
theorem hand_of_move {plan : Plan} {tree : Node} {frames : List Frame} {entry : Entry}
    {events : List LogEvent} {file : FoundFile}
    (h : move plan tree frames entry = .ok (.hand events file)) :
    ∃ bytes, accepts plan.settings.fileTypes entry.name ∧ tree.readAt entry.path = .ok bytes ∧
      events = decodingEvents plan.encoding entry bytes ∧
      file = foundFile plan.encoding entry bytes := by
  rcases move_cases h with hm | hm | ⟨bytes, haccepted, hread, hm⟩ | hm
  · cases hm
  · cases hm
  · cases hm
    exact ⟨bytes, haccepted, hread, rfl, rfl⟩
  · cases hm

/-- What a walk does once an entry is seen as what it is. -/
def act (plan : Plan) (onFile : FoundFile → Run σ Unit) (tree : Node) (frames : List Frame)
    (entry : Entry) : Run σ (List Frame × Bool) :=
  if plan.exclusions.excludes entry.path (entry.kind = .directory) then do
    report .debug "excluded" [("path", entry.path.display)]
    pure (frames, false)
  else if entry.kind = .directory then pure (openDirectory tree entry.path :: frames, false)
  else if entry.kind = .file && accepts plan.settings.fileTypes entry.name then do
    onFile (← readFile plan.encoding entry)
    pure (frames, true)
  else pure (frames, false)

theorem act_on (plan : Plan) (onFile : FoundFile → Run σ Unit) (frames : List Frame)
    (entry : Entry) (world : World σ) :
    (act plan onFile world.tree frames entry).on world =
      match moveFor plan world.tree entry with
      | .error e => (.error e, world)
      | .ok (.pass events) => (.ok (frames, false), world.logged events)
      | .ok .enter => (.ok (openDirectory world.tree entry.path :: frames, false), world)
      | .ok (.hand events file) =>
        match (onFile file).on (world.logged events) with
        | (.ok (), after) => (.ok (frames, true), after)
        | (.error e, after) => (.error e, after) := by
  unfold act moveFor
  by_cases hexcluded : plan.exclusions.excludes entry.path (entry.kind = .directory)
  · simp only [hexcluded, if_true, Run.on_bind, Run.on_report, Run.on_pure]
  by_cases hdirectory : entry.kind = .directory
  · simp only [if_neg hexcluded, if_pos hdirectory, Run.on_pure]
  by_cases haccepted : entry.kind = .file && accepts plan.settings.fileTypes entry.name
  · simp only [if_neg hexcluded, if_neg hdirectory, if_pos haccepted, Run.on_bind, readFile_on]
    cases world.tree.readAt entry.path with
    | error e => rfl
    | ok bytes =>
      simp only []
      rcases (onFile _).on _ with ⟨_ | _, _⟩ <;> rfl
  · simp only [if_neg hexcluded, if_neg hdirectory, if_neg haccepted, Run.on_pure,
      World.logged_nil]

theorem visit_on (plan : Plan) (onFile : FoundFile → Run σ Unit) (frames : List Frame)
    (entry : Entry) (world : World σ) :
    (visit plan onFile frames entry).on world =
      match move plan world.tree frames entry with
      | .error e => (.error e, world)
      | .ok (.pass events) => (.ok (frames, false), world.logged events)
      | .ok .enter => (.ok (openDirectory world.tree entry.path :: frames, false), world)
      | .ok (.hand events file) =>
        match (onFile file).on (world.logged events) with
        | (.ok (), after) => (.ok (frames, true), after)
        | (.error e, after) => (.error e, after) := by
  have hvisit : (visit plan onFile frames entry).on world =
      match seen plan world.tree frames entry with
      | .ok entry => (act plan onFile world.tree frames entry).on world
      | .error e => (.error e, world) := by
    simp only [visit, seen, Run.on_bind, Run.on_get]
    split
    · cases resolve world.tree frames entry <;> rfl
    · rfl
  rw [hvisit, move]
  rcases hseen : seen plan world.tree frames entry with e | entry'
  · rfl
  · obtain ⟨hpath, -⟩ := seen_path_name hseen
    simp only [act_on, Except.bind, hpath]

/-! ## Steps -/

section Steps

variable (plan : Plan) (onFile : FoundFile → Run σ Unit) (steps count : Nat) (world : World σ)

theorem go_nil : (go plan onFile steps [] count).on world = (.ok (some count), world) := by
  cases steps <;> rfl

theorem go_zero (frame : Frame) (frames : List Frame) :
    (go plan onFile 0 (frame :: frames) count).on world = (.ok none, world) := rfl

theorem go_failed (path : Path) (e : IoError) (frames : List Frame) :
    (go plan onFile (steps + 1) (⟨path, .error e⟩ :: frames) count).on world =
      (.error (.walk (.io (some path) e)), world) := rfl

theorem go_done (path : Path) (frames : List Frame) :
    (go plan onFile (steps + 1) (⟨path, .ok []⟩ :: frames) count).on world =
      (go plan onFile steps frames count).on world := rfl

theorem go_entry (path : Path) (entry : Entry) (pending : List Entry) (frames : List Frame) :
    (go plan onFile (steps + 1) (⟨path, .ok (entry :: pending)⟩ :: frames) count).on world =
      match move plan world.tree (⟨path, .ok pending⟩ :: frames) entry with
      | .error e => (.error e, world)
      | .ok (.pass events) =>
        (go plan onFile steps (⟨path, .ok pending⟩ :: frames) count).on (world.logged events)
      | .ok .enter =>
        (go plan onFile steps
          (openDirectory world.tree entry.path :: ⟨path, .ok pending⟩ :: frames) count).on world
      | .ok (.hand events file) =>
        match (onFile file).on (world.logged events) with
        | (.ok (), after) =>
          (go plan onFile steps (⟨path, .ok pending⟩ :: frames) (count + 1)).on after
        | (.error e, after) => (.error e, after) := by
  rw [go]
  simp only [Run.on_bind, visit_on]
  rcases move plan world.tree (⟨path, .ok pending⟩ :: frames) entry with e | _ | _ | ⟨events, file⟩
  · rfl
  · rfl
  · rfl
  · simp only []
    rcases (onFile file).on (world.logged events) with ⟨_ | _, _⟩ <;> rfl

end Steps

/-- What a walk finds out before it looks at the first entry. -/
def prepare (settings : WalkSettings) (root : Path) (tree : Node) : Except SurveyError Plan :=
  match Encoding.ofLabel? settings.encoding with
  | none => .error (.unknownEncoding settings.encoding)
  | some encoding =>
    match Exclusions.compile root settings.excluded with
    | .error e => .error (.invalidExclusion e)
    | .ok exclusions =>
      match tree.kindAt root with
      | .error e => .error (.io root e)
      | .ok .directory => .ok ⟨settings, encoding, exclusions⟩
      | .ok _ => .error (.notADirectory root)

section

variable {settings : WalkSettings} {root : Path} {tree : Node} {plan : Plan}

/-- A walk is prepared when its label and its patterns can be read and its root is a directory. -/
theorem prepare_eq_ok_iff :
    prepare settings root tree = .ok plan ↔
      plan.settings = settings ∧ Encoding.ofLabel? settings.encoding = some plan.encoding ∧
        Exclusions.compile root settings.excluded = .ok plan.exclusions ∧
        tree.kindAt root = .ok .directory := by
  obtain ⟨planned, encoding, exclusions⟩ := plan
  unfold prepare
  constructor
  · intro h
    grind
  · rintro ⟨rfl, hlabel, hpatterns, hkind⟩
    simp only [hlabel, hpatterns, hkind]

theorem settings_of_prepare (h : prepare settings root tree = .ok plan) : plan.settings = settings :=
  (prepare_eq_ok_iff.1 h).1

theorem encoding_of_prepare (h : prepare settings root tree = .ok plan) :
    Encoding.ofLabel? settings.encoding = some plan.encoding :=
  (prepare_eq_ok_iff.1 h).2.1

/-- A walk starts at a directory. -/
theorem locate_of_prepare (h : prepare settings root tree = .ok plan) :
    ∃ place bar entries, tree.locate true root = .ok (place, .directory bar entries) := by
  obtain ⟨-, -, -, hkind⟩ := prepare_eq_ok_iff.1 h
  unfold Node.kindAt at hkind
  rcases hlocate : tree.locate true root with e | ⟨place, _ | _ | _ | ⟨bar, entries⟩⟩
  · rw [hlocate] at hkind
    cases hkind
  · rw [hlocate] at hkind
    cases hkind
  · rw [hlocate] at hkind
    cases hkind
  · rw [hlocate] at hkind
    cases hkind
  · exact ⟨place, bar, entries, rfl⟩

end

end Walk

theorem walk_on (settings : WalkSettings) (steps : Nat) (root : Path)
    (onFile : FoundFile → Run σ Unit) (world : World σ) :
    (walk settings steps root onFile).on world =
      match Walk.prepare settings root world.tree with
      | .error e => (.error e, world)
      | .ok plan =>
        (Walk.go plan onFile steps [Walk.openDirectory world.tree root] 0).on world := by
  unfold walk Walk.prepare
  cases Encoding.ofLabel? settings.encoding with
  | none => rfl
  | some encoding =>
    cases Exclusions.compile root settings.excluded with
    | error e => rfl
    | ok exclusions =>
      simp only [Run.on_bind, Run.on_get]
      rcases world.tree.kindAt root with e | ⟨_ | _ | _⟩ <;> rfl

end SourceSurvey
