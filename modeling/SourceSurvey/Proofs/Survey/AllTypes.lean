import SourceSurvey.Proofs.Survey.FileTypes
import SourceSurvey.Proofs.Walk.Termination
import SourceSurvey.Proofs.Walk.FileNames

/-!
# Surveys without file types

A survey without file types skips the files in no known language itself, while one with file types has
its walk pass them over. A walk looks at the bytes of an extension, which have to be text; a survey looks
at the text that is shown for them, with replacement characters. If the file types are all extensions
that have a language, both come to the same decision about every name. The files that one survey skips
are passed over by the other in the same step, and leave a report but no trace in what is kept.
-/

namespace SourceSurvey

variable {σ : Type}

/-! ## Extensions with a language -/

namespace Language

/-- All extensions that have a language, in the form in which they are looked up. -/
def supported : List String := all.flatMap extensions

theorem isSome_ofExtension?_iff {extension : String} :
    (ofExtension? extension).isSome ↔ canonicalExtension extension ∈ supported := by
  simp only [ofExtension?, List.find?_isSome, List.contains_iff_mem, supported, List.mem_flatMap]

theorem isSome_of_mem_supported : ∀ t ∈ supported, (ofExtension? t).isSome := by decide

theorem replacement_not_mem_supported :
    ∀ t ∈ supported, Encoding.replacement ∉ t.toList := by decide

theorem canonicalExtension_dot {text : String} (h : '.' ∉ text.toList) :
    canonicalExtension ("." ++ text) = lowered text := by
  have hdrop : ("." ++ text).toList.dropWhile (fun c ↦ c = '.') = text.toList := by
    rw [String.toList_append]
    change text.toList.dropWhile (fun c ↦ decide (c = '.')) = text.toList
    rw [List.dropWhile_eq_self_iff]
    intro hlength
    have hfirst := List.getElem_mem hlength
    rw [decide_eq_true_eq]
    exact fun hdot ↦ h (hdot ▸ hfirst)
  rw [canonicalExtension, hdrop, lowered]

end Language

/-! ## Names -/

namespace Walk

section

variable {types : List String} (hknown : ∀ t, t ∈ types ↔ t ∈ Language.supported)

include hknown

/-- A name is wanted exactly if a language is found for what is shown of it. -/
theorem isWanted_iff (encoding : Encoding) (entry : Entry) (bytes : List UInt8) :
    IsWanted types entry.name ↔ (foundFile encoding entry bytes).source?.isSome := by
  have hne : types ≠ [] := List.ne_nil_of_mem ((hknown "ts").2 (by decide))
  rw [IsWanted, or_iff_right hne, FoundFile.source?, Option.isSome_map]
  cases hextension : Path.extension? entry.name with
  | none =>
    have hnone : Language.ofExtension? "" = none := by decide
    simp [foundFile, hextension, hnone]
  | some extension =>
    have hdot := Encoding.Utf8.dot_not_mem_lossy (Path.dot_not_mem_extension hextension)
    simp only [foundFile, hextension, Option.elim_some, Language.isSome_ofExtension?_iff,
      Language.canonicalExtension_dot hdot]
    constructor
    · rintro ⟨_, text, ⟨⟩, htext, hmem⟩
      rw [Encoding.Utf8.lossy_of_strict? htext]
      exact (hknown _).1 hmem
    · intro hmem
      refine ⟨_, _, rfl, Encoding.Utf8.strict?_of_replacement_not_mem fun hreplaced ↦ ?_,
        (hknown _).2 hmem⟩
      -- in lower case it would still be there, in the extension of a language
      refine Language.replacement_not_mem_supported _ hmem ?_
      rw [lowered, String.toList_ofList]
      exact List.mem_map.2 ⟨_, hreplaced, by decide⟩

end

/-! ## Moves -/

/-- A plan with other file types. -/
def Plan.withTypes (plan : Plan) (types : List String) : Plan :=
  { plan with settings := { plan.settings with fileTypes := types } }

theorem prepare_withTypes (settings : WalkSettings) (types : List String) (root : Path) (tree : Node) :
    prepare { settings with fileTypes := types } root tree =
      (prepare settings root tree).map (·.withTypes types) := by
  unfold prepare
  cases Encoding.ofLabel? settings.encoding with
  | none => rfl
  | some encoding =>
    cases Exclusions.compile root settings.excluded with
    | error e => rfl
    | ok exclusions =>
      simp only []
      rcases tree.kindAt root with e | ⟨_ | _ | _⟩ <;> rfl

/-- How two moves at one entry stand to each other: they are the same, or the first hands on a file in
no known language and the second passes it over. -/
def SkipsUnknown (left right : Except SurveyError Move) : Prop :=
  right = left ∨
    ∃ events file, left = .ok (.hand events file) ∧ file.source? = none ∧ right = .ok (.pass [])

/-- Whether every regular file that a walk can come to can be read at the path where it is come to. -/
def FilesReadable (plan : Plan) (tree : Node) (root : Path) : Prop :=
  ∀ here above name child place read, Descent plan tree root (here :: above) →
    tree.at? (name :: here.place) = some child →
    meet plan.settings.followLinks tree here above name child = .ok (place, .file read) →
      ∃ bytes, tree.readAt (here.path.join name) = .ok bytes

section

variable {plan : Plan} {tree : Node} {types : List String}

theorem moveFor_withTypes (hany : plan.settings.fileTypes = [])
    (hknown : ∀ t, t ∈ types ↔ t ∈ Language.supported) {entry : Entry}
    (hread : entry.kind = .file → ∃ bytes, tree.readAt entry.path = .ok bytes) :
    SkipsUnknown (moveFor plan tree entry) (moveFor (plan.withTypes types) tree entry) := by
  by_cases hexcluded : plan.exclusions.excludes entry.path (entry.kind = .directory)
  · refine Or.inl ?_
    rw [moveFor, moveFor, Plan.withTypes, if_pos hexcluded, if_pos hexcluded]
  by_cases hdirectory : entry.kind = .directory
  · refine Or.inl ?_
    rw [moveFor, moveFor, Plan.withTypes, if_neg hexcluded, if_neg hexcluded, if_pos hdirectory,
      if_pos hdirectory]
  by_cases hfile : entry.kind = .file
  · obtain ⟨bytes, hbytes⟩ := hread hfile
    have hwanted := isWanted_iff hknown plan.encoding entry bytes
    have hleft : moveFor plan tree entry = .ok (.hand (decodingEvents plan.encoding entry bytes)
        (foundFile plan.encoding entry bytes)) := by
      rw [moveFor, if_neg hexcluded, if_neg hdirectory, hany, hbytes]
      simp [hfile, accepts]
    have hright : moveFor (plan.withTypes types) tree entry =
        if IsWanted types entry.name then moveFor plan tree entry else .ok (.pass []) := by
      rw [hleft, moveFor, Plan.withTypes, if_neg hexcluded, if_neg hdirectory, hbytes]
      simp [hfile, accepts_iff]
    by_cases hname : IsWanted types entry.name
    · exact Or.inl (by rw [hright, if_pos hname])
    · refine Or.inr ⟨_, _, hleft, ?_, by rw [hright, if_neg hname]⟩
      simpa using hwanted.not.1 hname
  · refine Or.inl ?_
    rw [moveFor, moveFor, Plan.withTypes, if_neg hexcluded, if_neg hexcluded, if_neg hdirectory,
      if_neg hdirectory]
    simp [hfile]

/-- With all extensions that have a language for its types, a walk passes over what it would hand on
without types if that is in no known language, and else makes the same move. -/
theorem move_withTypes (hany : plan.settings.fileTypes = [])
    (hknown : ∀ t, t ∈ types ↔ t ∈ Language.supported) {root path : Path} {entry : Entry}
    {pending : List Entry} {frames : List Frame} {levels : List Level} (htree : tree.WellFormed)
    (hreadable : FilesReadable plan tree root)
    (h : OnTrack plan tree root (⟨path, .ok (entry :: pending)⟩ :: frames) levels) :
    SkipsUnknown (move plan tree (⟨path, .ok pending⟩ :: frames) entry)
      (move (plan.withTypes types) tree (⟨path, .ok pending⟩ :: frames) entry) := by
  obtain ⟨here, above, entries, name, child, hdescent, hshows, hlocate, hlookup, rfl⟩ :=
    h.exists_listed htree
  have hfollow : (plan.withTypes types).settings.followLinks = plan.settings.followLinks := rfl
  rw [move_eq hshows, move_eq hshows, hfollow]
  cases hmeet : meet plan.settings.followLinks tree here above name child with
  | error e => exact Or.inl rfl
  | ok met =>
    obtain ⟨place, node⟩ := met
    refine moveFor_withTypes hany hknown fun hfile ↦ ?_
    cases node with
    | link | special | directory => cases hfile
    | file read =>
      have hchild := (Node.at?_cons (Node.at?_of_locate hlocate) name).trans hlookup
      exact hreadable here above name child place read hdescent hchild hmeet

end

end Walk

/-! ## Runs -/

/-- Worlds that are the same but for what has been reported in them. -/
structure SameButLog (w v : World σ) : Prop where
  tree : w.tree = v.tree
  kept : w.kept = v.kept

theorem SameButLog.logged {w v : World σ} (h : SameButLog w v) (events events' : List LogEvent) :
    SameButLog (w.logged events) (v.logged events') :=
  ⟨h.tree, h.kept⟩

/-- A callback that leaves the tree as it is, whether or not it fails, does not look at what has been
reported, and does nothing but report about a file in no known language. -/
structure IgnoresUnknown (onFile : FoundFile → Run σ Unit) : Prop where
  leaves : Walk.LeavesTree onFile
  congr : ∀ file {w v}, SameButLog w v → ((onFile file).on w).1 = ((onFile file).on v).1 ∧
    SameButLog ((onFile file).on w).2 ((onFile file).on v).2
  skips : ∀ file, file.source? = none → ∀ w,
    ((onFile file).on w).1 = .ok () ∧ SameButLog ((onFile file).on w).2 w

namespace Walk

/-- How a walk ends, without the number of files that it has handed on. -/
def ending (result : Except SurveyError (Option Nat)) : Except SurveyError (Option Unit) :=
  result.map (·.map fun _ ↦ ())

/-- A walk without types and one with all of those that have a language keep step. -/
theorem go_withTypes {plan : Plan} {tree : Node} {types : List String}
    (hany : plan.settings.fileTypes = []) (hknown : ∀ t, t ∈ types ↔ t ∈ Language.supported)
    {root : Path} (htree : tree.WellFormed) (hreadable : FilesReadable plan tree root)
    {onFile : FoundFile → Run σ Unit} (hignores : IgnoresUnknown onFile) (steps : Nat)
    {frames : List Frame} {levels : List Level} (h : OnTrack plan tree root frames levels)
    (count count' : Nat) {w v : World σ} (hw : w.tree = tree) (hsame : SameButLog w v) :
    ending ((go plan onFile steps frames count).on w).1 =
        ending ((go (plan.withTypes types) onFile steps frames count').on v).1 ∧
      SameButLog ((go plan onFile steps frames count).on w).2
        ((go (plan.withTypes types) onFile steps frames count').on v).2 := by
  induction steps generalizing frames levels count count' w v with
  | zero =>
    cases frames with
    | nil => simpa only [go_nil] using ⟨rfl, hsame⟩
    | cons frame frames => simpa only [go_zero] using ⟨trivial, hsame⟩
  | succ steps ih =>
    match frames with
    | [] => simpa only [go_nil] using ⟨rfl, hsame⟩
    | ⟨path, .error e⟩ :: frames => simpa only [go_failed] using ⟨trivial, hsame⟩
    | ⟨path, .ok []⟩ :: frames =>
      obtain ⟨levels', h'⟩ := h.step htree (.leave path frames)
      simpa only [go_done] using ih h' count count' hw hsame
    | ⟨path, .ok (entry :: pending)⟩ :: frames =>
      have hv : v.tree = tree := hsame.tree.symm.trans hw
      have hmoves := move_withTypes hany hknown htree hreadable h
      rw [go_entry, go_entry, hw, hv]
      rcases hmoves with hright | ⟨events, file, hleft, hunknown, hright⟩
      · rw [hright]
        rcases hmove : move plan tree (⟨path, .ok pending⟩ :: frames) entry with
          e | events | _ | ⟨events, file⟩
        · exact ⟨rfl, hsame⟩
        · obtain ⟨levels', h'⟩ := h.step htree (.stay hmove)
          exact ih h' count count' hw (hsame.logged events events)
        · obtain ⟨levels', h'⟩ := h.step htree (.enter hmove)
          exact ih h' count count' hw hsame
        · obtain ⟨levels', h'⟩ := h.step htree (.stay hmove)
          obtain ⟨houtcome, hafter⟩ := hignores.congr file (hsame.logged events events)
          have hleaves := hignores.leaves file (w.logged events)
          rcases hl : (onFile file).on (w.logged events) with ⟨outcome, after⟩
          rcases hr : (onFile file).on (v.logged events) with ⟨outcome', after'⟩
          simp only [hl, hr] at houtcome hafter hleaves ⊢
          subst houtcome
          cases outcome with
          | error e => exact ⟨rfl, hafter⟩
          | ok => exact ih h' (count + 1) (count' + 1) (hleaves.trans hw) hafter
      · -- one survey skips the file, and the other's walk has passed it over
        obtain ⟨levels', h'⟩ := h.step htree (.stay hleft)
        obtain ⟨hok, hafter⟩ := hignores.skips file hunknown (w.logged events)
        rw [hleft, hright]
        rcases hl : (onFile file).on (w.logged events) with ⟨outcome, after⟩
        simp only [hl] at hok hafter ⊢
        subst hok
        exact ih h' (count + 1) count' (hafter.tree.trans hw)
          ⟨hafter.tree.trans hsame.tree, hafter.kept.trans hsame.kept⟩

end Walk

/-- A walk without types and one with all of those that have a language end alike. -/
theorem walk_withTypes {settings : WalkSettings} (hany : settings.fileTypes = [])
    {types : List String} (hknown : ∀ t, t ∈ types ↔ t ∈ Language.supported) {root : Path}
    {onFile : FoundFile → Run σ Unit} (hignores : IgnoresUnknown onFile) (steps : Nat)
    {w v : World σ} (htree : w.tree.WellFormed)
    (hreadable : ∀ plan, Walk.prepare settings root w.tree = .ok plan →
      Walk.FilesReadable plan w.tree root) (hsame : SameButLog w v) :
    Walk.ending ((walk settings steps root onFile).on w).1 =
        Walk.ending ((walk { settings with fileTypes := types } steps root onFile).on v).1 ∧
      SameButLog ((walk settings steps root onFile).on w).2
        ((walk { settings with fileTypes := types } steps root onFile).on v).2 := by
  rw [walk_on, walk_on, ← hsame.tree, Walk.prepare_withTypes settings types]
  cases hprepare : Walk.prepare settings root w.tree with
  | error e => exact ⟨rfl, hsame⟩
  | ok plan =>
    obtain ⟨place, bar, entries, hroot⟩ := Walk.locate_of_prepare hprepare
    have hplan : plan.settings.fileTypes = [] := by
      rw [Walk.settings_of_prepare hprepare, hany]
    exact Walk.go_withTypes hplan hknown htree (hreadable plan hprepare) hignores steps
      (.start hroot) 0 0 rfl hsame

/-! ## Surveys -/

namespace Survey

theorem ignoresUnknown_analyzeFound (s : Survey σ) : IgnoresUnknown s.analyzeFound where
  leaves := s.leavesTree_analyzeFound
  congr file w v hsame := by
    cases hsource : file.source? with
    | none =>
      rw [s.analyzeFound_of_no_source? hsource, Run.on_report, Run.on_report]
      exact ⟨rfl, hsame.logged _ _⟩
    | some source =>
      rw [s.analyzeFound_of_source? hsource, analyzeFile_on, analyzeFile_on, hsame.kept]
      cases ParsedFile.parse ⟨v.kept.nextId⟩ source <;> exact ⟨rfl, hsame.tree, rfl⟩
  skips file hsource w := by
    rw [s.analyzeFound_of_no_source? hsource, Run.on_report]
    exact ⟨rfl, rfl, rfl⟩

theorem analyze_withTypes {s : Survey σ} (hany : s.settings.fileTypes = []) {types : List String}
    (hknown : ∀ t, t ∈ types ↔ t ∈ Language.supported) (steps : Nat) {root : Path}
    {world : World (Progress σ)} (htree : world.tree.WellFormed)
    (hreadable : ∀ plan, Walk.prepare s.settings root world.tree = .ok plan →
      Walk.FilesReadable plan world.tree root) :
    let known := { s with settings := { s.settings with fileTypes := types } }
    ((s.analyze steps root).on world).1 = ((known.analyze steps root).on world).1 ∧
      SameButLog ((s.analyze steps root).on world).2 ((known.analyze steps root).on world).2 := by
  intro known
  have hsupported : s.unsupported? = none := by
    rw [unsupported?_eq_none_iff, hany]
    simp
  have hsupported' : known.unsupported? = none := by
    rw [unsupported?_eq_none_iff]
    intro t ht
    exact Language.isSome_of_mem_supported t ((hknown t).1 ht)
  have hbegun : SameButLog (s.announced root world) (known.announced root world) := ⟨rfl, rfl⟩
  obtain ⟨hending, hafter⟩ := walk_withTypes hany hknown s.ignoresUnknown_analyzeFound steps
    (w := s.announced root world) htree hreadable hbegun
  have hsame : known.analyzeFound = s.analyzeFound := rfl
  rw [analyze_on_of_supported hsupported, analyze_on_of_supported hsupported', hsame]
  generalize (walk s.settings steps root s.analyzeFound).on (s.announced root world) = left
    at hending hafter ⊢
  generalize (walk known.settings steps root s.analyzeFound).on (known.announced root world) = right
    at hending hafter ⊢
  obtain ⟨result, after⟩ := left
  obtain ⟨result', after'⟩ := right
  rcases result with e | _ | n <;> rcases result' with e' | _ | n' <;> cases hending
  · exact ⟨rfl, hafter⟩
  · exact ⟨rfl, hafter⟩
  · have hkept : after.kept = after'.kept := hafter.kept
    simp only [hkept]
    exact ⟨trivial, hafter.logged _ _⟩

/-- A survey that can take enough steps comes to an end. -/
theorem analyze_ends {s : Survey σ} {steps : Nat} {root : Path} {world : World (Progress σ)}
    (hsupported : s.unsupported? = none) (htree : world.tree.WellFormed)
    (hsteps : Walk.stepBound world.tree ≤ steps) :
    ((s.analyze steps root).on world).1 ≠ .ok none := by
  have hwalk {begun : World (Progress σ)} (hbegun : begun.tree = world.tree) :
      ((walk s.settings steps root s.analyzeFound).on begun).1 ≠ .ok none := by
    rw [walk_on, hbegun]
    cases hprepare : Walk.prepare s.settings root world.tree with
    | error e => simp
    | ok plan =>
      obtain ⟨place, bar, entries, hroot⟩ := Walk.locate_of_prepare hprepare
      exact Walk.go_root_ends s.ignoresUnknown_analyzeFound.leaves htree hroot hbegun hsteps
  have hends := hwalk (show (s.announced root world).tree = world.tree from rfl)
  rw [analyze_on_of_supported hsupported]
  generalize (walk s.settings steps root s.analyzeFound).on (s.announced root world) = walked at hends ⊢
  obtain ⟨result, after⟩ := walked
  rcases result with e | _ | n
  · simp
  · exact absurd rfl hends
  · simp

/-- No file types at all mean all of those that have a language. In a tree that stays as it is, and in
which the regular files that a walk comes to can be read, a survey without file types makes the same
calls of its handlers as one whose file types are all extensions with a language, gives back the same,
and leaves the same behind; and if it can take enough steps, it comes to an end. -/
theorem analyze_withFileTypes_nil (s : Survey σ) (extensions : List String)
    (hknown : ∀ t, t ∈ canonicalFileTypes extensions ↔ t ∈ Language.supported) (steps : Nat)
    (root : Path) (world : World (Progress σ)) (htree : world.tree.WellFormed)
    (hreadable : ∀ plan, Walk.prepare (s.settings.withFileTypes []) root world.tree = .ok plan →
      Walk.FilesReadable plan world.tree root) :
    let any := { s with settings := s.settings.withFileTypes [] }
    let known := { s with settings := s.settings.withFileTypes extensions }
    any.callsMade steps root world = known.callsMade steps root world ∧
      ((any.analyze steps root).on world).1 = ((known.analyze steps root).on world).1 ∧
      ((any.analyze steps root).on world).2.kept = ((known.analyze steps root).on world).2.kept ∧
      ((any.analyze steps root).on world).2.tree = ((known.analyze steps root).on world).2.tree ∧
      (Walk.stepBound world.tree ≤ steps → ((any.analyze steps root).on world).1 ≠ .ok none) ∧
      ∀ e, (Language.ofExtension? e).isSome ↔ Language.canonicalExtension e ∈ Language.supported := by
  intro any known
  have hany : any.settings.fileTypes = [] := rfl
  have hsupported : any.unsupported? = none := rfl
  obtain ⟨hresult, hafter⟩ := analyze_withTypes hany hknown steps htree hreadable
  refine ⟨?_, hresult, hafter.kept, hafter.tree, analyze_ends hsupported htree,
    fun e ↦ Language.isSome_ofExtension?_iff⟩
  -- the calls that are made are part of what the survey with handlers that write them down keeps
  obtain ⟨-, hwritten⟩ := analyze_withTypes (s := any.recorded) rfl hknown steps
    (show (World.mk world.tree world.log (⟨(world.kept.kept, []), world.kept.summary, world.kept.nextId⟩ :
      Progress (σ × List Call))).tree.WellFormed from htree) hreadable
  have hrecorded : { any.recorded with settings :=
      { any.recorded.settings with fileTypes := canonicalFileTypes extensions } } = known.recorded := rfl
  rw [hrecorded] at hwritten
  rw [callsMade, callsMade, hwritten.kept]

/-- There is one way down in `pairTree`, to the root. -/
theorem descent_pair {plan : Walk.Plan} (hfollow : plan.settings.followLinks = false)
    {levels : List Walk.Level} (h : Walk.Descent plan pairTree (Path.ofString "r") levels) :
    levels = [] ∨ levels = [⟨Path.ofString "r", [Path.ofString "r"]⟩] := by
  induction h with
  | nil => exact Or.inl rfl
  | @root place bar entries h =>
    have hplace : pairTree.placeAt (Path.ofString "r") = .ok [Path.ofString "r"] := by cbv
    rw [Node.placeAt, h] at hplace
    cases bar <;> cases hplace
    exact Or.inr rfl
  | @enter here above name child place bar entries h hchild hmeet hopen ih =>
    -- there is no directory below the root
    rcases ih with ih | ih
    · cases ih
    · cases ih
      rw [Walk.meet, hfollow, Bool.false_and, if_neg Bool.false_ne_true] at hmeet
      cases hmeet
      have hmem := Node.mem_of_lookup hchild
      simp at hmem

theorem filesReadable_pair {plan : Walk.Plan} (hfollow : plan.settings.followLinks = false) :
    Walk.FilesReadable plan pairTree (Path.ofString "r") := by
  intro here above name child place read hdescent hchild hmeet
  have hjson : pairTree.readAt (Path.ofString "r/a.json") = .ok "[1]".toUTF8.toList := by cbv
  have htext : pairTree.readAt (Path.ofString "r/b.txt") = .ok [] := by cbv
  rcases descent_pair hfollow hdescent with h | h
  · cases h
  · cases h
    have hmem := Node.mem_of_lookup hchild
    rcases List.mem_cons.1 hmem with hentry | hmem
    · cases hentry
      exact ⟨_, hjson⟩
    · cases List.mem_singleton.1 hmem
      exact ⟨_, htext⟩

/-- A file in a known language and one in none, with and without types: what is shown first is the
start of the one in a known language. -/
theorem analyze_withFileTypes_nil_pair :
    let any := { pairSurvey with settings := pairSurvey.settings.withFileTypes [] }
    let known := { pairSurvey with
      settings := pairSurvey.settings.withFileTypes Language.supported }
    let world : World (Progress Nat) := ⟨pairTree, #[], ⟨0, .zero, 1⟩⟩
    (known.callsMade 10 (Path.ofString "r") world).head? =
        some (.start ⟨"r/a.json", "a", ".json", .json, "[1]"⟩) ∧
      ((any.analyze 10 (Path.ofString "r")).on world).1 =
        ((known.analyze 10 (Path.ofString "r")).on world).1 := by
  intro any known world
  have hstored : canonicalFileTypes Language.supported = Language.supported := by decide
  have htree : pairTree.WellFormed := by
    have hmade : [Node.Change.write (Path.ofString "r/a.json") "[1]".toUTF8.toList,
        .write (Path.ofString "r/b.txt") []].foldl Node.apply .empty = pairTree := by cbv
    exact hmade ▸ Node.wellFormed_empty.foldl_apply _
  obtain ⟨hcalls, hresult, -⟩ := analyze_withFileTypes_nil pairSurvey Language.supported
    (fun t ↦ by rw [hstored]) 10 (Path.ofString "r") world htree
    fun plan hplan ↦ filesReadable_pair (by rw [Walk.settings_of_prepare hplan]; rfl)
  refine ⟨?_, hresult⟩
  have hfound : (handedOut any.settings 10 (Path.ofString "r") pairTree).filterMap
      FoundFile.source? = [⟨"r/a.json", "a", ".json", .json, "[1]"⟩] := by cbv
  obtain ⟨calls, hblocks⟩ := exists_blocks_untilFailure any.namedOnly hfound
  have hmade := any.callsMade_eq 10 (Path.ofString "r") world
  rw [show any.settings.fileTypes = [] from rfl, List.any_nil, if_neg Bool.false_ne_true,
    hblocks] at hmade
  rw [← hcalls, hmade]
  rfl

end Survey

end SourceSurvey
