import SourceSurvey.Proofs.SyntaxTree.Preorder
import SourceSurvey.Proofs.Walk.Failures
import SourceSurvey.Survey

/-!
# Calls of a survey's handlers

A survey shows one file after the other. The calls for one file make a block: its start, its nodes in
pre-order, its end. The files are those that a bare walk with the same settings hands out, less those
in no known language; they are numbered from one. A file whose parse comes to no tree is only started,
and the survey ends with it. The main statement gives the whole sequence of calls of a survey, however
the survey ends, and what the handlers make of it.
-/

namespace SourceSurvey

variable {σ : Type}

namespace FoundFile

/-- The source file that is shown for a found file, if its language is known. -/
def source? (f : FoundFile) : Option SourceFile :=
  (Language.ofExtension? f.extension).map fun language ↦
    ⟨f.path.display, f.stem, f.extension, language, f.content⟩

/-- What the analysis of a found file fails with, if the parse of its source comes to no tree. -/
def failure? (f : FoundFile) : Option SurveyError :=
  f.source?.bind fun source ↦
    if (source.language.machine.syntaxTree source.content).isNone then
      some (.parseFailed source.path)
    else none

/-- How the analysis of a found file ends. -/
def outcome (f : FoundFile) : Except SurveyError Unit := f.failure?.elim (.ok ()) .error

theorem outcome_eq_ok_iff {f : FoundFile} : f.outcome = .ok () ↔ f.failure? = none := by
  rw [outcome]
  cases f.failure? <;> simp

theorem outcome_eq_error_iff {f : FoundFile} {e : SurveyError} :
    f.outcome = .error e ↔ f.failure? = some e := by
  rw [outcome]
  cases f.failure? <;> simp

theorem failure?_of_source? {f : FoundFile} {source : SourceFile} (h : f.source? = some source)
    (id : FileId) : f.failure? =
      match ParsedFile.parse id source with
      | .error e => some e
      | .ok _ => none := by
  rw [failure?, h, Option.bind_some]
  cases hparse : ParsedFile.parse id source with
  | error e =>
    obtain ⟨hnone, rfl⟩ := ParsedFile.parse_eq_error_iff.1 hparse
    rw [hnone, Option.isNone_none, if_pos rfl]
  | ok file =>
    apply if_neg
    intro hnone
    have herror : ParsedFile.parse id source = .error (.parseFailed source.path) :=
      ParsedFile.parse_eq_error_iff.2 ⟨Option.isNone_iff_eq_none.1 hnone, rfl⟩
    rw [herror] at hparse
    cases hparse

end FoundFile

namespace Survey

/-- A call of one of a survey's handlers. -/
inductive Call where
  | start (source : SourceFile)
  | node (file : ParsedFile) (n : SyntaxNode)
  | stop (source : SourceFile)

/-- The calls that show a file with its tree. -/
def showing (namedOnly : Bool) (file : ParsedFile) : List Call :=
  .start file.source ::
    (file.root.nodes.filter fun n ↦ !namedOnly || n.info.isNamed).map (.node file) ++
      [.stop file.source]

/-- The calls for one file. Where there is no tree, they end with its start. -/
def block (namedOnly : Bool) (source : SourceFile) (id : FileId) : List Call :=
  match ParsedFile.parse id source with
  | .error _ => [.start source]
  | .ok file => showing namedOnly file

/-- The sources of the files in a known language, numbered from one; the others are left out. -/
def numbered (files : List FoundFile) : List (SourceFile × FileId) :=
  ((files.filterMap FoundFile.source?).zipIdx 1).map fun (source, i) ↦ (source, ⟨UInt64.ofNat i⟩)

/-- The calls for files one after the other. -/
def blocks (namedOnly : Bool) (files : List FoundFile) : List Call :=
  (numbered files).flatMap fun entry ↦ block namedOnly entry.1 entry.2

/-- The files with their trees, as they are numbered. -/
def parsedFiles (files : List FoundFile) : List ParsedFile :=
  (numbered files).filterMap fun entry ↦ (ParsedFile.parse entry.2 entry.1).toOption

/-- As many of the files as are analyzed until one fails, that one included. -/
def untilFailure : List FoundFile → List FoundFile
  | [] => []
  | f :: files => if f.failure?.isSome then [f] else f :: untilFailure files

/-- Whether there is a handler for a call. -/
def hears (s : Survey σ) : Call → Bool
  | .start _ => s.onStart.isSome
  | .node _ _ => s.onNode.isSome
  | .stop _ => s.onEnd.isSome

/-- What a call changes; without a handler it is nothing. -/
def perform (s : Survey σ) (kept : σ) : Call → σ
  | .start source => s.onStart.elim kept fun onStart ↦ onStart source kept
  | .node file n => s.onNode.elim kept fun onNode ↦ onNode file n kept
  | .stop source => s.onEnd.elim kept fun onEnd ↦ onEnd source kept

/-- The survey with handlers that write their calls down before they do their work. -/
def recorded (s : Survey σ) : Survey (σ × List Call) where
  settings := s.settings
  namedOnly := s.namedOnly
  onStart := s.onStart.map fun onStart source kept ↦
    (onStart source kept.1, kept.2 ++ [.start source])
  onNode := s.onNode.map fun onNode file n kept ↦ (onNode file n kept.1, kept.2 ++ [.node file n])
  onEnd := s.onEnd.map fun onEnd source kept ↦ (onEnd source kept.1, kept.2 ++ [.stop source])

/-- The calls that a survey makes of its handlers, in their order. -/
def callsMade (s : Survey σ) (steps : Nat) (root : Path) (world : World (Progress σ)) : List Call :=
  ((s.recorded.analyze steps root).on
    ⟨world.tree, world.log, ⟨(world.kept.kept, []), world.kept.summary, world.kept.nextId⟩⟩).2.kept.kept.2

/-! ## Files that are numbered -/

theorem numbered_concat (files : List FoundFile) (f : FoundFile) :
    numbered (files ++ [f]) = numbered files ++
      f.source?.toList.map fun source ↦ (source, ⟨UInt64.ofNat (numbered files).length + 1⟩) := by
  unfold numbered
  rw [List.filterMap_append, List.zipIdx_append, List.map_append, List.length_map,
    List.length_zipIdx]
  cases hsource : f.source? with
  | none => simp [hsource]
  | some source => simp [hsource, Nat.add_comm 1, UInt64.ofNat_add]

theorem blocks_concat (namedOnly : Bool) (files : List FoundFile) (f : FoundFile) :
    blocks namedOnly (files ++ [f]) =
      blocks namedOnly files ++ f.source?.elim [] fun source ↦
        block namedOnly source ⟨UInt64.ofNat (numbered files).length + 1⟩ := by
  rw [blocks, numbered_concat, List.flatMap_append, blocks]
  cases f.source? <;> simp

theorem exists_block (namedOnly : Bool) (source : SourceFile) (id : FileId) :
    ∃ calls, block namedOnly source id = .start source :: calls := by
  unfold block
  cases hparse : ParsedFile.parse id source with
  | error e => exact ⟨_, rfl⟩
  | ok file =>
    obtain ⟨-, rfl⟩ := ParsedFile.eq_of_parse_eq_ok hparse
    exact ⟨_, rfl⟩

/-- Where every file in a known language has a tree, each of them is parsed as it is numbered. -/
theorem map_parsedFiles {files : List FoundFile} (h : ∀ f ∈ files, f.failure? = none) :
    (parsedFiles files).map (fun file ↦ (file.source, file.id)) = numbered files ∧
      ∀ namedOnly, blocks namedOnly files = (parsedFiles files).flatMap (showing namedOnly) := by
  have hparse : ∀ entry ∈ numbered files, ∃ file, ParsedFile.parse entry.2 entry.1 = .ok file := by
    intro entry hentry
    obtain ⟨⟨source, i⟩, hmem, rfl⟩ := List.mem_map.1 hentry
    obtain ⟨f, hf, hsource⟩ := List.mem_filterMap.1 (List.fst_mem_of_mem_zipIdx hmem)
    have hnone := h f hf
    rw [FoundFile.failure?_of_source? hsource ⟨UInt64.ofNat i⟩] at hnone
    cases hparse : ParsedFile.parse ⟨UInt64.ofNat i⟩ source with
    | error e =>
      rw [hparse] at hnone
      cases hnone
    | ok file => exact ⟨file, rfl⟩
  unfold parsedFiles blocks
  generalize numbered files = entries at hparse ⊢
  induction entries with
  | nil => exact ⟨rfl, fun _ ↦ rfl⟩
  | cons entry rest ih =>
    obtain ⟨⟨file, hfile⟩, hrest⟩ := List.forall_mem_cons.1 hparse
    obtain ⟨hid, hsource⟩ := ParsedFile.eq_of_parse_eq_ok hfile
    obtain ⟨hsources, hblocks⟩ := ih hrest
    have htree : (ParsedFile.parse entry.2 entry.1).toOption = some file := by
      rw [hfile]
      rfl
    simp only [List.filterMap_cons, htree]
    constructor
    · rw [List.map_cons, hsources, hid, hsource]
    · intro namedOnly
      rw [List.flatMap_cons, List.flatMap_cons, hblocks, block, hfile]

/-- Where no file fails, all of them are analyzed. -/
theorem untilFailure_eq_self {files : List FoundFile} (h : ∀ f ∈ files, f.failure? = none) :
    untilFailure files = files := by
  induction files with
  | nil => rfl
  | cons f files ih =>
    obtain ⟨hf, hfiles⟩ := List.forall_mem_cons.1 h
    rw [untilFailure, hf, ih hfiles]
    rfl

/-- The first call that is made for files starts the first of them in a known language. -/
theorem exists_blocks_untilFailure (namedOnly : Bool) {files : List FoundFile} {source : SourceFile}
    {others : List SourceFile} (h : files.filterMap FoundFile.source? = source :: others) :
    ∃ calls, blocks namedOnly (untilFailure files) = .start source :: calls := by
  have hsources : ∃ more, (untilFailure files).filterMap FoundFile.source? = source :: more := by
    induction files with
    | nil => cases h
    | cons f files ih =>
      unfold untilFailure
      cases hsource : f.source? with
      | none =>
        rw [List.filterMap_cons_none hsource] at h
        have hfailure : f.failure? = none := by rw [FoundFile.failure?, hsource, Option.bind_none]
        rw [hfailure, Option.isSome_none, if_neg Bool.false_ne_true, List.filterMap_cons_none hsource]
        exact ih h
      | some first =>
        rw [List.filterMap_cons_some hsource] at h
        cases h
        split <;> rw [List.filterMap_cons_some hsource] <;> exact ⟨_, rfl⟩
  obtain ⟨more, hmore⟩ := hsources
  obtain ⟨calls, hcalls⟩ := exists_block namedOnly source ⟨UInt64.ofNat 1⟩
  rw [blocks, numbered, hmore, List.zipIdx_cons, List.map_cons, List.flatMap_cons, hcalls]
  exact ⟨_, rfl⟩

/-! ## One file -/

/-- Performing the calls for a file is what the handlers do in turn. -/
theorem foldl_perform_showing (s : Survey σ) (file : ParsedFile) (kept : σ) :
    (showing s.namedOnly file).foldl s.perform kept =
      s.perform
        (file.root.visit s.namedOnly (fun n kept ↦ s.perform kept (.node file n))
          (s.perform kept (.start file.source))).1
        (.stop file.source) := by
  simp only [showing, List.foldl_append, List.foldl_cons, List.foldl_nil, List.foldl_map,
    SyntaxNode.visit_eq]

theorem foldl_perform_filter (s : Survey σ) (calls : List Call) (kept : σ) :
    (calls.filter s.hears).foldl s.perform kept = calls.foldl s.perform kept := by
  induction calls generalizing kept with
  | nil => rfl
  | cons call calls ih =>
    by_cases hheard : s.hears call
    · simp only [List.filter_cons_of_pos hheard, List.foldl_cons, ih]
    · have hsame : s.perform kept call = kept := by
        cases call <;> simp_all [hears, perform]
      simp only [List.filter_cons_of_neg hheard, List.foldl_cons, ih, hsame]

/-- What is reported when the analysis of a file begins. -/
def beginning (source : SourceFile) : LogEvent :=
  ⟨.debug, "analyzing file", [("path", source.path), ("language", source.language.name)]⟩

/-- What is reported while a file is analyzed. -/
def fileEvents (file : ParsedFile) : List LogEvent :=
  beginning file.source ::
    if file.hasErrors then [⟨.warn, "file has syntax errors", [("path", file.source.path)]⟩] else []

/-- The totals with one more file. -/
def counting (t : Summary) (namedOnly : Bool) (file : ParsedFile) : Summary :=
  ⟨t.filesAnalyzed + 1, t.nodesVisited + UInt64.ofNat (file.root.visited namedOnly).length,
    t.filesWithErrors + if file.hasErrors then 1 else 0⟩

/-- The number of a file is taken in any case; it is counted if it has a tree. -/
theorem analyzeFile_on (s : Survey σ) (source : SourceFile) (world : World (Progress σ)) :
    (s.analyzeFile source).on world =
      match ParsedFile.parse ⟨world.kept.nextId⟩ source with
      | .error e =>
        (.error e, ⟨world.tree, [beginning source].foldl Array.push world.log,
          ⟨s.perform world.kept.kept (.start source), world.kept.summary, world.kept.nextId + 1⟩⟩)
      | .ok file =>
        (.ok (), ⟨world.tree, (fileEvents file).foldl Array.push world.log,
          ⟨(showing s.namedOnly file).foldl s.perform world.kept.kept,
            counting world.kept.summary s.namedOnly file, world.kept.nextId + 1⟩⟩) := by
  cases hparse : ParsedFile.parse ⟨world.kept.nextId⟩ source with
  | error e =>
    rcases s with ⟨settings, namedOnly, _ | onStart, onNode, onEnd⟩ <;>
      simp [analyzeFile, takeId, Run.on_bind, hparse, perform, beginning, handle, World.logged]
  | ok file =>
    obtain ⟨-, hsource⟩ := ParsedFile.eq_of_parse_eq_ok hparse
    have hcount (showNode : SyntaxNode → σ → σ) (kept : σ) :
        (file.root.visit s.namedOnly showNode kept).2 = (file.root.visited s.namedOnly).length := by
      rw [SyntaxNode.visit_eq, SyntaxNode.visited_eq_filter]
    dsimp only
    rw [foldl_perform_showing]
    rcases s with ⟨settings, namedOnly, onStart, onNode, onEnd⟩
    -- each handler is there or not, and so is the warning
    by_cases herrors : file.hasErrors <;> rcases onStart with _ | onStart <;>
      rcases onNode with _ | onNode <;> rcases onEnd with _ | onEnd <;>
      simp [analyzeFile, takeId, Run.on_bind, hparse, hsource, herrors, hcount, perform, fileEvents,
        beginning, counting, count, handle, World.logged]

theorem analyzeFound_of_source? (s : Survey σ) {f : FoundFile} {source : SourceFile}
    (h : f.source? = some source) : s.analyzeFound f = s.analyzeFile source := by
  obtain ⟨language, hlanguage, rfl⟩ := Option.map_eq_some_iff.1 h
  rw [analyzeFound, hlanguage]

theorem analyzeFound_of_no_source? (s : Survey σ) {f : FoundFile} (h : f.source? = none) :
    s.analyzeFound f =
      report .debug "no grammar for file, skipping" [("path", f.path.display)] := by
  rw [analyzeFound, Option.map_eq_none_iff.1 h]

/-- Analyzing a found file leaves the tree alone. If its language is known, its block is performed, and
its number is taken. -/
theorem analyzeFound_on (s : Survey σ) (f : FoundFile) (world : World (Progress σ)) :
    let after := ((s.analyzeFound f).on world).2
    ((s.analyzeFound f).on world).1 = f.outcome ∧ after.tree = world.tree ∧
      after.kept.kept = (f.source?.elim [] fun source ↦
        block s.namedOnly source ⟨world.kept.nextId⟩).foldl s.perform world.kept.kept ∧
      after.kept.nextId = world.kept.nextId + UInt64.ofNat f.source?.toList.length := by
  cases hsource : f.source? with
  | none =>
    rw [s.analyzeFound_of_no_source? hsource, Run.on_report, FoundFile.outcome,
      FoundFile.failure?, hsource]
    exact ⟨rfl, rfl, rfl, (UInt64.add_zero _).symm⟩
  | some source =>
    rw [s.analyzeFound_of_source? hsource, analyzeFile_on, FoundFile.outcome,
      FoundFile.failure?_of_source? hsource ⟨world.kept.nextId⟩, Option.elim_some, block]
    cases ParsedFile.parse ⟨world.kept.nextId⟩ source <;> exact ⟨rfl, rfl, rfl, rfl⟩

/-! ## The walk of a survey -/

theorem leavesTree_analyzeFound (s : Survey σ) : Walk.LeavesTree s.analyzeFound :=
  fun f world ↦ (s.analyzeFound_on f world).2.1

/-- Where calls end as the analyses of their files do, they go as far as the first file that fails. -/
theorem untilFailure_of_keeps {ending result : Except SurveyError (Option Nat)}
    {files : List FoundFile} {made : List Delivery} (h : Walk.Keeps ending files made result)
    (houtcomes : ∀ d ∈ made, d.outcome = d.file.outcome) :
    made.map (·.file) = untilFailure files ∧
      result = (files.findSome? FoundFile.failure?).elim ending .error := by
  induction h with
  | ends => exact ⟨rfl, rfl⟩
  | @call file files made result h ih =>
    obtain ⟨hfirst, hrest⟩ := List.forall_mem_cons.1 houtcomes
    obtain ⟨hmade, hresult⟩ := ih hrest
    have hnone : file.failure? = none := FoundFile.outcome_eq_ok_iff.1 hfirst.symm
    rw [List.map_cons, hmade, untilFailure, hnone, List.findSome?_cons_of_isNone, hresult]
    · exact ⟨rfl, rfl⟩
    · rw [hnone, Option.isNone_none]
  | fails file files e =>
    have hfailure : file.failure? = some e :=
      FoundFile.outcome_eq_error_iff.1 (houtcomes _ (List.mem_singleton_self _)).symm
    rw [untilFailure, hfailure, List.findSome?_cons_of_isSome, hfailure]
    · exact ⟨rfl, rfl⟩
    · rw [hfailure, Option.isSome_some]

/-- The walk of a survey is handed the files of a bare walk, as far as the first one that fails, and
ends with its failure, or as the bare walk does. -/
theorem deliveries_analyzeFound (s : Survey σ) (steps : Nat) (root : Path)
    (world : World (Progress σ)) :
    let found := handedOut s.settings steps root world.tree
    (deliveries s.settings steps root s.analyzeFound world).map (·.file) = untilFailure found ∧
      ((walk s.settings steps root s.analyzeFound).on world).1 =
        (found.findSome? FoundFile.failure?).elim
          ((walk s.settings steps root ignore).on ⟨world.tree, #[], ()⟩).1 .error := by
  let P (w : World (Progress σ × List Delivery)) := ∀ d ∈ w.kept.2, d.outcome = d.file.outcome
  have hpreserves (plan : Walk.Plan) : Walk.Preserves plan (watch s.analyzeFound) P := by
    refine ⟨fun hw _ ↦ hw, fun {w frames entry events file} hw _ ↦ ?_⟩
    obtain ⟨houtcome, -⟩ := s.analyzeFound_on file (w.logged events).unwatched
    rw [watch_on]
    generalize (s.analyzeFound file).on (w.logged events).unwatched = run at houtcome ⊢
    exact List.forall_mem_append.2 ⟨hw, List.forall_mem_singleton.2 houtcome⟩
  have hbegun : P world.watched := by simp [P, World.watched]
  have houtcomes : P ((walk s.settings steps root (watch s.analyzeFound)).on world.watched).2 :=
    Walk.Preserves.walk (fun plan _ ↦ hpreserves plan) steps hbegun
  exact untilFailure_of_keeps
    (walk_keeps s.leavesTree_analyzeFound isSteady_ignore s.settings steps root rfl) houtcomes

/-- So far a survey that began with what was kept has performed the blocks of the files handed out,
and has numbered them. -/
structure Performed (s : Survey σ) (kept : σ) (w : World (Progress σ × List Delivery)) : Prop where
  kept : w.kept.1.kept = (blocks s.namedOnly (w.kept.2.map (·.file))).foldl s.perform kept
  number : w.kept.1.nextId = UInt64.ofNat (numbered (w.kept.2.map (·.file))).length + 1

theorem Performed.logged {s : Survey σ} {kept : σ} {w : World (Progress σ × List Delivery)}
    (h : s.Performed kept w) (events : List LogEvent) : s.Performed kept (w.logged events) :=
  ⟨h.kept, h.number⟩

theorem Performed.analyzeFound {s : Survey σ} {kept : σ} {w : World (Progress σ × List Delivery)}
    (h : s.Performed kept w) (f : FoundFile) :
    s.Performed kept ((watch s.analyzeFound f).on w).2 := by
  obtain ⟨-, -, hkept, hnumber⟩ := s.analyzeFound_on f w.unwatched
  rw [watch_on]
  generalize (s.analyzeFound f).on w.unwatched = run at hkept hnumber ⊢
  constructor
  · rw [List.map_append, List.map_singleton, blocks_concat, List.foldl_append, ← h.number, ← h.kept]
    exact hkept
  · rw [List.map_append, List.map_singleton, numbered_concat, List.length_append, List.length_map,
      UInt64.ofNat_add, add_right_comm, ← h.number]
    exact hnumber

/-- The world of a survey that has announced itself, with its totals at zero. -/
def announced (s : Survey σ) (root : Path) (world : World (Progress σ)) : World (Progress σ) :=
  let begun := world.logged [⟨.info, "analyzing source tree",
    [("root", root.display), ("file_types", Text.Quoted.quoteList s.settings.fileTypes),
      ("excluded", Text.Quoted.quoteList s.settings.excluded), ("encoding", s.settings.encoding)]⟩]
  { begun with kept := ⟨world.kept.kept, .zero, 1⟩ }

/-- What a survey that ends well reports. -/
def conclusion (t : Summary) : LogEvent :=
  ⟨.info, "analysis complete",
    [("files", toString t.filesAnalyzed), ("nodes", toString t.nodesVisited),
      ("files_with_errors", toString t.filesWithErrors)]⟩

/-- Behind its announcement a survey ends as its walk does. -/
theorem analyze_on_of_supported {s : Survey σ} (hsupported : s.unsupported? = none) (steps : Nat)
    (root : Path) (world : World (Progress σ)) :
    (s.analyze steps root).on world =
      match (walk s.settings steps root s.analyzeFound).on (s.announced root world) with
      | (.error e, after) => (.error e, after)
      | (.ok none, after) => (.ok none, after)
      | (.ok (some _), after) =>
        (.ok (some after.kept.summary), after.logged [conclusion after.kept.summary]) := by
  unfold analyze
  simp only [hsupported, Run.on_bind, Run.on_report, begin, Run.on_modify]
  generalize hbegun : World.mk _ _ _ = begun
  have hannounced : s.announced root world = begun := hbegun
  rw [hannounced]
  rcases (walk s.settings steps root s.analyzeFound).on begun with ⟨e | _ | n, after⟩
  · rfl
  · rfl
  · simp only [Run.on_bind, Run.on_get, Run.on_report, Run.on_pure, conclusion]

/-- Whatever the walk of a survey keeps of its progress, the survey leaves. -/
theorem kept_analyze_of_supported {s : Survey σ} (hsupported : s.unsupported? = none) (steps : Nat)
    (root : Path) (world : World (Progress σ)) :
    ((s.analyze steps root).on world).2.kept =
      ((walk s.settings steps root s.analyzeFound).on (s.announced root world)).2.kept := by
  rw [analyze_on_of_supported hsupported]
  rcases (walk s.settings steps root s.analyzeFound).on (s.announced root world) with
    ⟨_ | _ | _, after⟩ <;> rfl

/-! ## A whole survey -/

/-- A walk has performed the blocks of the files that it was handed. -/
theorem performed_walk (s : Survey σ) (steps : Nat) (root : Path) (world : World (Progress σ)) :
    s.Performed world.kept.kept
      ((walk s.settings steps root (watch s.analyzeFound)).on (s.announced root world).watched).2 := by
  have hpreserves (plan : Walk.Plan) :
      Walk.Preserves plan (watch s.analyzeFound) (s.Performed world.kept.kept) :=
    ⟨fun h _ ↦ h.logged _, fun h _ ↦ (h.logged _).analyzeFound _⟩
  exact Walk.Preserves.walk (fun plan _ ↦ hpreserves plan) steps ⟨rfl, rfl⟩

/-- What the handlers of a survey have made of what its caller kept, however the survey ends. -/
theorem kept_analyze (s : Survey σ) (steps : Nat) (root : Path) (world : World (Progress σ)) :
    ((s.analyze steps root).on world).2.kept.kept =
      (if s.settings.fileTypes.any fun t ↦ (Language.ofExtension? t).isNone then []
        else blocks s.namedOnly (untilFailure (handedOut s.settings steps root world.tree))).foldl
          s.perform world.kept.kept := by
  cases hunsupported : s.unsupported? with
  | some t =>
    have hany : (s.settings.fileTypes.any fun t ↦ (Language.ofExtension? t).isNone) = true := by
      have hnone := List.find?_some hunsupported
      rw [List.any_eq_true]
      exact ⟨t, List.mem_of_find?_eq_some hunsupported, hnone⟩
    simp [analyze, hunsupported, hany]
  | none =>
    have hany : (s.settings.fileTypes.any fun t ↦ (Language.ofExtension? t).isNone) = false := by
      rw [List.any_eq_false]
      exact List.find?_eq_none.1 hunsupported
    have hfiles : (deliveries s.settings steps root s.analyzeFound (s.announced root world)).map
        (·.file) = untilFailure (handedOut s.settings steps root world.tree) :=
      (s.deliveries_analyzeFound steps root (s.announced root world)).1
    have hkept := (s.performed_walk steps root world).kept
    rw [deliveries] at hfiles
    rw [hfiles] at hkept
    rw [kept_analyze_of_supported hunsupported, walk_watch, hany, if_neg Bool.false_ne_true]
    exact hkept

theorem foldl_perform_recorded (s : Survey σ) (calls : List Call) (kept : σ × List Call) :
    calls.foldl s.recorded.perform kept =
      (calls.foldl s.perform kept.1, kept.2 ++ calls.filter s.hears) := by
  induction calls generalizing kept with
  | nil => simp
  | cons call calls ih =>
    have hcall : s.recorded.perform kept call =
        (s.perform kept.1 call, kept.2 ++ [call].filter s.hears) := by
      rcases s with ⟨settings, namedOnly, onStart, onNode, onEnd⟩
      cases call with
      | start => cases onStart <;> simp [recorded, perform, hears, List.filter_cons]
      | node => cases onNode <;> simp [recorded, perform, hears, List.filter_cons]
      | stop => cases onEnd <;> simp [recorded, perform, hears, List.filter_cons]
    rw [List.foldl_cons, hcall, ih, List.append_assoc, ← List.filter_append]
    rfl

theorem callsMade_eq (s : Survey σ) (steps : Nat) (root : Path) (world : World (Progress σ)) :
    s.callsMade steps root world =
      (if s.settings.fileTypes.any fun t ↦ (Language.ofExtension? t).isNone then []
        else blocks s.namedOnly
          (untilFailure (handedOut s.settings steps root world.tree))).filter s.hears := by
  unfold callsMade
  rw [kept_analyze, foldl_perform_recorded]
  rfl

/-- The calls that a survey makes of its handlers. Nothing is called if a file type has no language.
Otherwise the files that a bare walk hands out are shown block by block, as far as the first one that
has no tree, however the survey ends; and what the caller keeps is what these calls make of it. Where
all of the files have a tree, each block is whole, and the files are numbered from one. -/
theorem callsMade_eq_blocks (s : Survey σ) (steps : Nat) (root : Path)
    (world : World (Progress σ)) :
    let found := handedOut s.settings steps root world.tree
    s.callsMade steps root world =
        (if s.settings.fileTypes.any fun t ↦ (Language.ofExtension? t).isNone then []
          else blocks s.namedOnly (untilFailure found)).filter s.hears ∧
      ((s.analyze steps root).on world).2.kept.kept =
        (s.callsMade steps root world).foldl s.perform world.kept.kept ∧
      ((∀ f ∈ found, f.failure? = none) →
        blocks s.namedOnly (untilFailure found) =
            (parsedFiles found).flatMap (showing s.namedOnly) ∧
          (parsedFiles found).map (fun file ↦ (file.source, file.id)) = numbered found) := by
  intro found
  refine ⟨s.callsMade_eq steps root world, ?_, fun hparsed ↦ ?_⟩
  · rw [callsMade_eq, foldl_perform_filter, kept_analyze]
  · obtain ⟨hsources, hblocks⟩ := map_parsedFiles hparsed
    rw [untilFailure_eq_self hparsed]
    exact ⟨hblocks s.namedOnly, hsources⟩

end Survey

end SourceSurvey
