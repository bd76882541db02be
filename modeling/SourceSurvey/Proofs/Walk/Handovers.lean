import SourceSurvey.Proofs.Walk.Sights

/-!
# What a walk hands over

The calls of a walk's callback once more, each with the tree from which its file was read and with what
the walk has reported since the call before. Whatever the callback does to the tree, the content of a
file is what the bytes at its path are decoded to, and the walk warns of malformed bytes once for each
file with some, just before it hands the file over, and never else. In a tree that stays as it is, every
accepted file that is seen before anything fails is handed over.
-/

namespace SourceSurvey

variable {σ : Type}

/-! ## The record -/

/-- A call of a walk's callback. -/
structure Handover where
  file : FoundFile
  /-- The tree at the call, from which the file was read. -/
  tree : Node
  /-- What the walk has reported since the last call, or since it began. -/
  reported : List LogEvent

/-- The calls so far, and how many events there were when the last one ended. -/
structure Record where
  handovers : List Handover
  heard : Nat

/-- A callback whose calls are recorded. -/
def attend (onFile : FoundFile → Run σ Unit) (file : FoundFile) : Run (σ × Record) Unit := fun world ↦
  let (outcome, after) := (onFile file).on ⟨world.tree, world.log, world.kept.1⟩
  let handover : Handover := ⟨file, world.tree, world.log.toList.drop world.kept.2.heard⟩
  (outcome,
    ⟨after.tree, after.log, (after.kept, ⟨world.kept.2.handovers ++ [handover], after.log.size⟩)⟩)

namespace World

/-- A world beside which no call has been recorded yet. -/
def attended (world : World σ) : World (σ × Record) :=
  ⟨world.tree, world.log, (world.kept, ⟨[], world.log.size⟩)⟩

/-- What has been reported since the last call. -/
def unheard (world : World (σ × Record)) : List LogEvent :=
  world.log.toList.drop world.kept.2.heard

end World

theorem attend_on (onFile : FoundFile → Run σ Unit) (file : FoundFile) (world : World (σ × Record)) :
    (attend onFile file).on world =
      let (outcome, after) := (onFile file).on ⟨world.tree, world.log, world.kept.1⟩
      (outcome, ⟨after.tree, after.log,
        (after.kept, ⟨world.kept.2.handovers ++ [⟨file, world.tree, world.unheard⟩], after.log.size⟩)⟩) :=
  rfl

section

variable (settings : WalkSettings) (steps : Nat) (root : Path) (onFile : FoundFile → Run σ Unit)
  (world : World σ)

/-- The calls that a walk makes of its callback, in their order, as they are recorded. -/
def handovers : List Handover :=
  ((walk settings steps root (attend onFile)).on world.attended).2.kept.2.handovers

/-- What a walk reports behind its last call. -/
def reportedLast : List LogEvent :=
  ((walk settings steps root (attend onFile)).on world.attended).2.unheard

end

theorem simulation_attend (onFile : FoundFile → Run σ Unit) :
    Simulation (fun w v ↦ (⟨w.tree, w.log, w.kept.1⟩ : World σ) = v.unwatched ∧
      w.kept.2.handovers.map (·.file) = v.kept.2.map (·.file)) (attend onFile) (watch onFile) where
  tree h := congrArg World.tree h.1
  logged h events := ⟨congrArg (·.logged events) h.1, h.2⟩
  handed {w v} h file := by
    obtain ⟨hworld, hfiles⟩ := h
    rw [attend_on, watch_on, hworld]
    exact ⟨rfl, rfl, by simp [hfiles]⟩

/-- The calls that are recorded are those that a walk makes. -/
theorem map_file_handovers (settings : WalkSettings) (steps : Nat) (root : Path)
    (onFile : FoundFile → Run σ Unit) (world : World σ) :
    (handovers settings steps root onFile world).map (·.file) =
      (deliveries settings steps root onFile world).map (·.file) :=
  ((simulation_attend onFile).walk settings steps root (w := world.attended) (v := world.watched)
    ⟨rfl, rfl⟩).2.2

/-! ## What is read -/

/-- Whether an event warns of bytes that could not be decoded. -/
def LogEvent.isDecodingWarning (event : LogEvent) : Bool :=
  event.level = .warn &&
    event.message = "file contains bytes invalid for its encoding; replaced with U+FFFD"

/-- The warning about the bytes of a file, if there is anything to warn about. -/
def decodingWarnings (path : Path) (decoded : Encoding.Decoded) : List LogEvent :=
  if decoded.malformed then
    [⟨.warn, "file contains bytes invalid for its encoding; replaced with U+FFFD",
      [("path", path.display), ("encoding", decoded.used.name)]⟩]
  else []

/-- A file was read from these bytes, and there was a warning about them if they asked for one. -/
structure Handover.IsRead (h : Handover) (encoding : Encoding) (bytes : List UInt8) : Prop where
  read : h.tree.readAt h.file.path = .ok bytes
  content : h.file.content = (encoding.decode bytes).text
  warnings : h.reported.filter (·.isDecodingWarning) =
    decodingWarnings h.file.path (encoding.decode bytes)

namespace Walk

theorem filter_decodingEvents (encoding : Encoding) (entry : Entry) (bytes : List UInt8) :
    (decodingEvents encoding entry bytes).filter (·.isDecodingWarning) =
      decodingWarnings entry.path (encoding.decode bytes) := by
  unfold decodingEvents decodingWarnings
  by_cases hmalformed : (encoding.decode bytes).malformed <;>
    simp [hmalformed, LogEvent.isDecodingWarning]

/-- No move but one that hands a file on warns of its bytes. -/
theorem filter_events_of_pass {plan : Plan} {tree : Node} {frames : List Frame} {entry : Entry}
    {events : List LogEvent} (h : move plan tree frames entry = .ok (.pass events)) :
    events.filter (·.isDecodingWarning) = [] := by
  rcases move_cases h with hm | hm | ⟨bytes, -, -, hm⟩ | hm
  · cases hm
    simp [LogEvent.isDecodingWarning]
  · cases hm
  · cases hm
  · cases hm
    rfl

/-- What has been recorded is right, and nothing has been warned about since. -/
structure IsRecorded (encoding : Encoding) (w : World (σ × Record)) : Prop where
  heard : w.kept.2.heard ≤ w.log.size
  read : ∀ h ∈ w.kept.2.handovers, ∃ bytes, h.IsRead encoding bytes
  unheard : w.unheard.filter (·.isDecodingWarning) = []

theorem unheard_logged {w : World (σ × Record)} (h : w.kept.2.heard ≤ w.log.size)
    (events : List LogEvent) : (w.logged events).unheard = w.unheard ++ events := by
  rw [World.unheard, World.toList_logged, World.kept_logged, List.drop_append_of_le_length h,
    World.unheard]

theorem preserves_isRecorded (plan : Plan) (onFile : FoundFile → Run σ Unit) :
    Preserves plan (attend onFile) (IsRecorded plan.encoding) where
  passed {w frames entry events} h hmove := by
    refine ⟨?_, h.read, ?_⟩
    · have hsize : (w.logged events).log.size = w.log.size + events.length := by
        simp [World.logged]
      rw [World.kept_logged, hsize]
      exact h.heard.trans (Nat.le_add_right _ _)
    · rw [unheard_logged h.heard, List.filter_append, h.unheard, filter_events_of_pass hmove,
        List.append_nil]
  handed {w frames entry events file} h hmove := by
    obtain ⟨bytes, -, hread, rfl, rfl⟩ := hand_of_move hmove
    rw [attend_on, unheard_logged h.heard]
    refine ⟨le_rfl, ?_, ?_⟩
    · intro handover hmem
      rcases List.mem_append.1 hmem with hmem | hmem
      · exact h.read handover hmem
      · cases List.mem_singleton.1 hmem
        refine ⟨bytes, hread, rfl, ?_⟩
        rw [List.filter_append, h.unheard, filter_decodingEvents, List.nil_append]
        rfl
    · rw [World.unheard, List.drop_eq_nil_of_le (le_of_eq Array.length_toList)]
      rfl

end Walk

section

variable {settings : WalkSettings} {encoding : Encoding}
  (hlabel : Encoding.ofLabel? settings.encoding = some encoding) (steps : Nat) (root : Path)
  (onFile : FoundFile → Run σ Unit) (world : World σ)

include hlabel

theorem isRecorded_walk :
    Walk.IsRecorded encoding ((walk settings steps root (attend onFile)).on world.attended).2 := by
  have hpreserves (plan : Walk.Plan)
      (hprepare : Walk.prepare settings root world.attended.tree = .ok plan) :
      Walk.Preserves plan (attend onFile) (Walk.IsRecorded encoding) := by
    have hencoding : plan.encoding = encoding :=
      Option.some.inj ((Walk.encoding_of_prepare hprepare).symm.trans hlabel)
    exact hencoding ▸ Walk.preserves_isRecorded plan onFile
  apply Walk.Preserves.walk hpreserves
  refine ⟨le_rfl, by simp [World.attended], ?_⟩
  rw [World.unheard, World.attended, List.drop_eq_nil_of_le (le_of_eq Array.length_toList)]
  rfl

/-- Each file was read from the bytes at its path, and warned about if these are malformed. -/
theorem exists_isRead {h : Handover} (hmem : h ∈ handovers settings steps root onFile world) :
    ∃ bytes, h.IsRead encoding bytes :=
  (isRecorded_walk hlabel steps root onFile world).read h hmem

/-- Behind its last call, a walk warns of no bytes. -/
theorem filter_reportedLast :
    (reportedLast settings steps root onFile world).filter (·.isDecodingWarning) = [] :=
  (isRecorded_walk hlabel steps root onFile world).unheard

end

/-! ## What is handed over -/

namespace Walk

/-- A walk comes to a file at a path: all that it sees can be read, and before anything that it sees is
a failure, it sees a file there that it accepts. -/
def ComesTo (settings : WalkSettings) (tree : Node) (root path : Path) : Prop :=
  ∃ plan place entries before sight after,
    prepare settings root tree = .ok plan ∧
    tree.locate true root = .ok (place, .directory none entries) ∧
    (∀ seen ∈ sights plan tree ⟨root, place⟩ [] entries, seen.IsReadable tree) ∧
    sights plan tree ⟨root, place⟩ [] entries = before ++ sight :: after ∧
    (∀ earlier ∈ before, ∃ node, earlier.node = .ok node) ∧
    sight.path = path ∧ (sight.file? plan).isSome

theorem path_of_file? {plan : Plan} {sight : Sight} {file : FoundFile}
    (h : sight.file? plan = some file) : file.path = sight.path := by
  unfold Sight.file? at h
  grind [foundFile]

end Walk

/-- Where the callback leaves the tree alone, every file is read from the tree as it was. -/
theorem tree_of_mem_handovers {settings : WalkSettings} {steps : Nat} {root : Path}
    {onFile : FoundFile → Run σ Unit} (hleaves : Walk.LeavesTree onFile) {world : World σ}
    {h : Handover} (hmem : h ∈ handovers settings steps root onFile world) : h.tree = world.tree := by
  have hpreserves (plan : Walk.Plan) : Walk.Preserves plan (attend onFile) fun w ↦
      w.tree = world.tree ∧ ∀ h ∈ w.kept.2.handovers, h.tree = world.tree := by
    refine ⟨fun hw _ ↦ hw, fun hw _ ↦ ?_⟩
    rw [attend_on]
    refine ⟨(hleaves _ _).trans hw.1, List.forall_mem_append.2 ⟨hw.2, ?_⟩⟩
    exact List.forall_mem_singleton.2 hw.1
  exact (Walk.Preserves.walk (fun plan _ ↦ hpreserves plan) steps
    ⟨rfl, by simp [World.attended]⟩).2 h hmem

/-- In a tree that stays as it is, a file that a walk comes to is handed over. -/
theorem exists_handover {settings : WalkSettings} {root path : Path} {onFile : FoundFile → Run σ Unit}
    (hsteady : IsSteady onFile) {world : World σ} (htree : world.tree.WellFormed) {steps : Nat}
    (hsteps : Walk.stepBound world.tree ≤ steps)
    (hcomes : Walk.ComesTo settings world.tree root path) :
    ∃ h ∈ handovers settings steps root onFile world, h.file.path = path ∧ h.tree = world.tree := by
  obtain ⟨plan, place, entries, before, sight, after, hprepare, hroot, hread, hseen, hbefore, hpath,
    hfile⟩ := hcomes
  obtain ⟨file, hfile⟩ := Option.isSome_iff_exists.1 hfile
  obtain ⟨-, hmade⟩ := Walk.walk_of_sights hsteady htree hprepare hroot rfl hread hsteps
  have hclear : before.findSome? Walk.Sight.failure? = none := by
    rw [List.findSome?_eq_none_iff]
    intro earlier hearlier
    exact Walk.Sight.failure?_eq_none_iff.2 (hbefore earlier hearlier)
  have hsight : sight.failure?.isNone := by
    unfold Walk.Sight.file? at hfile
    unfold Walk.Sight.failure?
    grind
  have hmem : file ∈ Walk.filesOf plan (Walk.sights plan world.tree ⟨root, place⟩ [] entries) := by
    rw [hseen, Walk.filesOf_append hclear]
    apply List.mem_append_right
    simp [Walk.filesOf, hsight, hfile]
  have hfiles := map_file_handovers settings steps root onFile world
  rw [hmade, List.map_map] at hfiles
  have hhanded : file ∈ (handovers settings steps root onFile world).map (·.file) := by
    rw [hfiles]
    exact List.mem_map.2 ⟨file, hmem, rfl⟩
  obtain ⟨h, hh, hsame⟩ := List.mem_map.1 hhanded
  refine ⟨h, hh, ?_, ?_⟩
  · rw [hsame, Walk.path_of_file? hfile, hpath]
  · exact tree_of_mem_handovers (fun file world ↦ (hsteady file world).2) hh

end SourceSurvey
