import SourceSurvey.Proofs.Survey.Calls
import SourceSurvey.Proofs.Walk.Order

/-!
# Totals of a survey

What the totals of a survey count. They are sums over the files that a bare walk with the same settings
hands out, as far as these are in a known language; so nothing that handlers do has a part in them. The
warnings about syntax errors are counted beside them.
-/

namespace SourceSurvey

variable {σ : Type}

/-! ## Warnings -/

/-- Whether an event warns of syntax errors. -/
def LogEvent.isSyntaxWarning (event : LogEvent) : Bool :=
  event.level = .warn && event.message = "file has syntax errors"

namespace Walk

/-- What is reported by a move. -/
def Move.events : Move → List LogEvent
  | pass events => events
  | enter => []
  | hand events _ => events

/-- A walk itself never warns of syntax errors. -/
theorem countP_events_of_move {plan : Plan} {tree : Node} {frames : List Frame} {entry : Entry}
    {m : Move} (h : move plan tree frames entry = .ok m) :
    m.events.countP (·.isSyntaxWarning) = 0 := by
  have hdecoding (bytes : List UInt8) :
      (decodingEvents plan.encoding entry bytes).countP (·.isSyntaxWarning) = 0 := by
    unfold decodingEvents
    simp only []
    split <;> simp [LogEvent.isSyntaxWarning]
  rcases move_cases h with rfl | rfl | ⟨bytes, -, -, rfl⟩ | rfl
  · simp [Move.events, LogEvent.isSyntaxWarning]
  · rfl
  · exact hdecoding bytes
  · rfl

end Walk

/-- A walk that ends well gives back how many files it has handed out. -/
theorem length_handedOut {settings : WalkSettings} {steps : Nat} {root : Path} {tree : Node}
    {n : Nat} (h : ((walk settings steps root ignore).on ⟨tree, #[], ()⟩).1 = .ok (some n)) :
    (handedOut settings steps root tree).length = n := by
  rw [walk_watch, walk_on] at h
  rw [handedOut, deliveries, List.length_map, walk_on]
  cases hprepare : Walk.prepare settings root (World.watched ⟨tree, #[], ()⟩).tree with
  | error e =>
    rw [hprepare] at h
    cases h
  | ok plan =>
    rw [hprepare] at h
    obtain ⟨more, hmore, hn, -⟩ := Walk.go_count ignore plan steps _ 0 n _ h
    simp only [hmore, hn]
    simp [World.watched]

namespace Survey

/-! ## Counting files -/

theorem length_numbered (files : List FoundFile) :
    (numbered files).length = files.countP fun f ↦ (Language.ofExtension? f.extension).isSome := by
  rw [numbered, List.length_map, List.length_zipIdx, List.length_filterMap_eq_countP]
  simp [FoundFile.source?]

theorem length_parsedFiles {files : List FoundFile} (h : ∀ f ∈ files, f.failure? = none) :
    (parsedFiles files).length = (numbered files).length := by
  rw [← (map_parsedFiles h).1, List.length_map]

theorem parsedFiles_concat (files : List FoundFile) (f : FoundFile) :
    parsedFiles (files ++ [f]) = parsedFiles files ++ (f.source?.bind fun source ↦
      (ParsedFile.parse ⟨UInt64.ofNat (numbered files).length + 1⟩ source).toOption).toList := by
  rw [parsedFiles, numbered_concat, List.filterMap_append, parsedFiles]
  cases f.source? with
  | none => rfl
  | some source => simp [List.filterMap_cons, Option.toList]; split <;> simp [*]

/-- The totals of files. -/
def totals (namedOnly : Bool) (files : List ParsedFile) : Summary where
  filesAnalyzed := UInt64.ofNat files.length
  nodesVisited := UInt64.ofNat (files.map fun file ↦ (file.root.visited namedOnly).length).sum
  filesWithErrors := UInt64.ofNat (files.countP (·.hasErrors))

theorem totals_concat (namedOnly : Bool) (files : List ParsedFile) (file : ParsedFile) :
    totals namedOnly (files ++ [file]) = counting (totals namedOnly files) namedOnly file := by
  unfold totals counting
  cases herrors : file.hasErrors <;> simp [herrors, UInt64.ofNat_add]

section

variable (namedOnly : Bool) (files : List ParsedFile) (found : List FoundFile)

@[simp] theorem filesAnalyzed_totals :
    (totals namedOnly files).filesAnalyzed = UInt64.ofNat files.length := rfl

@[simp] theorem filesWithErrors_totals :
    (totals namedOnly files).filesWithErrors = UInt64.ofNat (files.countP (·.hasErrors)) := rfl

theorem nodesVisited_totals : (totals namedOnly files).nodesVisited = UInt64.ofNat
    (files.map fun file ↦ file.root.nodes.countP fun n ↦ !namedOnly || n.info.isNamed).sum := by
  simp only [totals, SyntaxNode.visited_eq_filter, List.countP_eq_length_filter]

/-- The files that are analyzed, and those that are not. -/
theorem filesAnalyzed_add_skipped (h : ∀ f ∈ found, f.failure? = none) :
    (totals namedOnly (parsedFiles found)).filesAnalyzed +
        UInt64.ofNat (found.countP fun f ↦ (Language.ofExtension? f.extension).isNone) =
      UInt64.ofNat found.length := by
  rw [filesAnalyzed_totals, length_parsedFiles h, length_numbered, ← UInt64.ofNat_add,
    List.length_eq_countP_add_countP (fun f : FoundFile ↦ (Language.ofExtension? f.extension).isSome)]
  congr 4
  funext f
  cases Language.ofExtension? f.extension <;> rfl

end

theorem countP_fileEvents (file : ParsedFile) :
    (fileEvents file).countP (·.isSyntaxWarning) = if file.hasErrors then 1 else 0 := by
  unfold fileEvents
  cases file.hasErrors <;> simp [beginning, LogEvent.isSyntaxWarning]

theorem countP_conclusion (t : Summary) : [conclusion t].countP (·.isSyntaxWarning) = 0 := by
  simp [conclusion, LogEvent.isSyntaxWarning]

/-- One more file found is one more counted, if it has a tree, and warned about if there is something
to warn about. -/
theorem analyzeFound_counts (s : Survey σ) (files : List FoundFile) (f : FoundFile)
    (world : World (Progress σ))
    (hnumber : world.kept.nextId = UInt64.ofNat (numbered files).length + 1)
    (hsummary : world.kept.summary = totals s.namedOnly (parsedFiles files)) :
    ((s.analyzeFound f).on world).2.kept.summary = totals s.namedOnly (parsedFiles (files ++ [f])) ∧
      ∃ events, ((s.analyzeFound f).on world).2.log.toList = world.log.toList ++ events ∧
        (parsedFiles (files ++ [f])).countP (·.hasErrors) =
          (parsedFiles files).countP (·.hasErrors) + events.countP (·.isSyntaxWarning) := by
  cases hsource : f.source? with
  | none =>
    have hsame : parsedFiles (files ++ [f]) = parsedFiles files := by
      simp [parsedFiles_concat, hsource]
    rw [s.analyzeFound_of_no_source? hsource, Run.on_report, hsame]
    exact ⟨hsummary, _, World.toList_logged _ _, by simp [LogEvent.isSyntaxWarning]⟩
  | some source =>
    rw [s.analyzeFound_of_source? hsource, analyzeFile_on, hnumber, parsedFiles_concat, hsource,
      Option.bind_some]
    cases ParsedFile.parse ⟨UInt64.ofNat (numbered files).length + 1⟩ source with
    | error e =>
      have hnone : (Except.error e : Except SurveyError ParsedFile).toOption.toList = [] := rfl
      rw [hnone, List.append_nil]
      refine ⟨hsummary, _, World.toList_logged world [beginning source], ?_⟩
      simp [beginning, LogEvent.isSyntaxWarning]
    | ok file =>
      have hsome : (Except.ok file : Except SurveyError ParsedFile).toOption.toList = [file] := rfl
      rw [hsome]
      refine ⟨?_, fileEvents file, World.toList_logged world _, ?_⟩
      · rw [hsummary]
        exact (totals_concat s.namedOnly (parsedFiles files) file).symm
      · rw [countP_fileEvents, List.countP_append, List.countP_singleton]

/-! ## A whole survey -/

/-- How a survey keeps count, since it began with some events: its totals are those of the files handed
out so far, and there is one warning for each of them with errors. -/
structure Counted (s : Survey σ) (kept : σ) (begun : List LogEvent)
    (w : World (Progress σ × List Delivery)) : Prop extends Performed s kept w where
  summary : w.kept.1.summary = totals s.namedOnly (parsedFiles (w.kept.2.map (·.file)))
  log : ∃ events, w.log.toList = begun ++ events ∧ events.countP (·.isSyntaxWarning) =
    (parsedFiles (w.kept.2.map (·.file))).countP (·.hasErrors)

namespace Counted

variable {s : Survey σ} {kept : σ} {begun : List LogEvent} {w : World (Progress σ × List Delivery)}

theorem logged (h : s.Counted kept begun w) {events : List LogEvent}
    (hevents : events.countP (·.isSyntaxWarning) = 0) : s.Counted kept begun (w.logged events) where
  toPerformed := h.toPerformed.logged events
  summary := h.summary
  log := by
    obtain ⟨before, hlog, hcount⟩ := h.log
    refine ⟨before ++ events, ?_, ?_⟩
    · rw [World.toList_logged, hlog, List.append_assoc]
    · rw [List.countP_append, hcount, hevents]
      rfl

theorem analyzeFound (h : s.Counted kept begun w) (f : FoundFile) :
    s.Counted kept begun ((watch s.analyzeFound f).on w).2 := by
  obtain ⟨events, hlog, hcount⟩ := h.log
  obtain ⟨hsummary, more, hmore, herrors⟩ :=
    s.analyzeFound_counts _ f w.unwatched h.number h.summary
  have hperformed := h.toPerformed.analyzeFound f
  rw [watch_on] at hperformed ⊢
  generalize (s.analyzeFound f).on w.unwatched = run at hsummary hmore hperformed ⊢
  refine ⟨hperformed, ?_, events ++ more, ?_, ?_⟩
  · rw [List.map_append, List.map_singleton]
    exact hsummary
  · rw [← List.append_assoc, ← hlog]
    exact hmore
  · rw [List.map_append, List.map_singleton, herrors, List.countP_append, hcount]

theorem preserves (s : Survey σ) (kept : σ) (begun : List LogEvent) (plan : Walk.Plan) :
    Walk.Preserves plan (watch s.analyzeFound) (s.Counted kept begun) where
  passed h hmove := h.logged (Walk.countP_events_of_move hmove)
  handed h hmove := (h.logged (Walk.countP_events_of_move hmove)).analyzeFound _

end Counted

/-- What a survey with known file types has counted when its walk is over. -/
theorem counted_walk (s : Survey σ) {steps : Nat} {root : Path} {world : World (Progress σ)}
    {found : List FoundFile} (hfound : handedOut s.settings steps root world.tree = found) :
    let after := ((walk s.settings steps root s.analyzeFound).on (s.announced root world)).2
    after.kept.nextId = UInt64.ofNat (numbered (untilFailure found)).length + 1 ∧
      after.kept.summary = totals s.namedOnly (parsedFiles (untilFailure found)) ∧
      ∃ events, after.log.toList = world.log.toList ++ events ∧
        events.countP (·.isSyntaxWarning) =
          (parsedFiles (untilFailure found)).countP (·.hasErrors) := by
  intro after
  have hbegun : s.Counted world.kept.kept world.log.toList (s.announced root world).watched :=
    ⟨⟨rfl, rfl⟩, rfl, _, World.toList_logged world _, by
      simp [World.watched, parsedFiles, numbered, LogEvent.isSyntaxWarning]⟩
  have hcounted : s.Counted world.kept.kept world.log.toList
      ((walk s.settings steps root (watch s.analyzeFound)).on (s.announced root world).watched).2 :=
    Walk.Preserves.walk (fun plan _ ↦ Counted.preserves s _ _ plan) steps hbegun
  have hfiles : (deliveries s.settings steps root s.analyzeFound (s.announced root world)).map
      (·.file) = untilFailure found :=
    hfound ▸ (s.deliveries_analyzeFound steps root (s.announced root world)).1
  rw [deliveries] at hfiles
  simp only [after]
  rw [walk_watch, ← hfiles]
  exact ⟨hcounted.number, hcounted.summary, hcounted.log⟩

theorem unsupported?_congr {τ : Type} (s : Survey σ) (s' : Survey τ)
    (h : s'.settings = s.settings) : s'.unsupported? = s.unsupported? := by
  rw [unsupported?, h, unsupported?]

/-- A survey with known file types ends as its walk does, unless a file fails first. Where the walk ends
well, it gives back the totals of the files handed out; and it has warned of syntax errors for as many
files as have some. -/
theorem analyze_on_of_walk (s : Survey σ) {steps : Nat} {root : Path} {world : World (Progress σ)}
    (hsupported : s.unsupported? = none) {found : List FoundFile}
    (hfound : handedOut s.settings steps root world.tree = found)
    {walked : Except SurveyError (Option Nat)}
    (hwalked : ((walk s.settings steps root ignore).on ⟨world.tree, #[], ()⟩).1 = walked) :
    let t := totals s.namedOnly (parsedFiles (untilFailure found))
    ((s.analyze steps root).on world).1 =
        (found.findSome? FoundFile.failure?).elim (walked.map (·.map fun _ ↦ t)) .error ∧
      ∃ events, ((s.analyze steps root).on world).2.log.toList = world.log.toList ++ events ∧
        events.countP (·.isSyntaxWarning) =
          (parsedFiles (untilFailure found)).countP (·.hasErrors) := by
  intro t
  have hresult : ((walk s.settings steps root s.analyzeFound).on (s.announced root world)).1 =
      (found.findSome? FoundFile.failure?).elim walked .error :=
    hfound ▸ hwalked ▸ (s.deliveries_analyzeFound steps root (s.announced root world)).2
  obtain ⟨-, hsummary, events, hlog, hcount⟩ := s.counted_walk hfound
  have hmap : ((found.findSome? FoundFile.failure?).elim walked .error).map (·.map fun _ ↦ t) =
      (found.findSome? FoundFile.failure?).elim (walked.map (·.map fun _ ↦ t)) .error := by
    cases found.findSome? FoundFile.failure? <;> rfl
  rw [analyze_on_of_supported hsupported, ← hmap, ← hresult]
  -- what follows the walk is one report if it has ended
  generalize (walk s.settings steps root s.analyzeFound).on (s.announced root world) = run
    at hsummary hlog ⊢
  rcases run with ⟨_ | _ | n, after⟩
  · exact ⟨rfl, events, hlog, hcount⟩
  · exact ⟨rfl, events, hlog, hcount⟩
  · dsimp only at hsummary hlog ⊢
    refine ⟨by rw [hsummary]; rfl, events ++ [conclusion after.kept.summary], ?_, ?_⟩
    · rw [World.toList_logged, hlog, List.append_assoc]
    · rw [List.countP_append, hcount, countP_conclusion, Nat.add_zero]

/-- What a survey that ends well gives back: none of its files has failed, and its totals are theirs. -/
theorem eq_totals_of_analyze {s : Survey σ} {steps : Nat} {root : Path} {world : World (Progress σ)}
    {t : Summary} (h : ((s.analyze steps root).on world).1 = .ok (some t)) {found : List FoundFile}
    (hfound : handedOut s.settings steps root world.tree = found) :
    s.unsupported? = none ∧ (∀ f ∈ found, f.failure? = none) ∧
      ((walk s.settings steps root ignore).on ⟨world.tree, #[], ()⟩).1 = .ok (some found.length) ∧
      t = totals s.namedOnly (parsedFiles found) := by
  have hsupported : s.unsupported? = none := by
    cases hunsupported : s.unsupported? with
    | none => rfl
    | some type =>
      simp only [analyze, hunsupported, Run.on_throw] at h
      cases h
  rw [(s.analyze_on_of_walk hsupported hfound rfl).1] at h
  cases hfailure : found.findSome? FoundFile.failure? with
  | some e =>
    rw [hfailure] at h
    cases h
  | none =>
    have hparsed := List.findSome?_eq_none_iff.1 hfailure
    rw [hfailure, Option.elim_none, untilFailure_eq_self hparsed] at h
    rcases hwalked : ((walk s.settings steps root ignore).on ⟨world.tree, #[], ()⟩).1 with
      e | _ | n <;> rw [hwalked] at h <;> cases h
    rw [← length_handedOut hwalked, hfound]
    exact ⟨hsupported, hparsed, rfl, rfl⟩

/-- As long as every file has a tree, the number that comes next is one more than the files counted,
however the survey ends. -/
theorem nextId_analyze (s : Survey σ) (steps : Nat) (root : Path) (world : World (Progress σ))
    (hsupported : s.unsupported? = none)
    (hparsed : ∀ f ∈ handedOut s.settings steps root world.tree, f.failure? = none) :
    let after := ((s.analyze steps root).on world).2
    after.kept.nextId = after.kept.summary.filesAnalyzed + 1 := by
  intro after
  obtain ⟨hnumber, hsummary, -⟩ := s.counted_walk rfl
  rw [show after.kept = _ from kept_analyze_of_supported hsupported steps root world, hnumber,
    hsummary, filesAnalyzed_totals, untilFailure_eq_self hparsed, length_parsedFiles hparsed]

/-- What the totals of a survey that ends well are. The walk gives back the number of files that it has
handed out; those in a known language are analyzed, and counted with their nodes and errors, which are
warned about one by one. Other handlers change none of this, and showing all nodes or only the named
ones changes the number of nodes alone. -/
theorem analyze_totals (s : Survey σ) (steps : Nat) (root : Path) (world : World (Progress σ))
    {t : Summary} (h : ((s.analyze steps root).on world).1 = .ok (some t)) :
    let found := handedOut s.settings steps root world.tree
    let files := parsedFiles found
    ((walk s.settings steps root ignore).on ⟨world.tree, #[], ()⟩).1 = .ok (some found.length) ∧
      t.filesAnalyzed =
        UInt64.ofNat (found.countP fun f ↦ (Language.ofExtension? f.extension).isSome) ∧
      t.filesAnalyzed +
          UInt64.ofNat (found.countP fun f ↦ (Language.ofExtension? f.extension).isNone) =
        UInt64.ofNat found.length ∧
      t.nodesVisited = UInt64.ofNat
        (files.map fun file ↦ file.root.nodes.countP fun n ↦ !s.namedOnly || n.info.isNamed).sum ∧
      t.filesWithErrors = UInt64.ofNat (files.countP (·.hasErrors)) ∧
      files.map (fun file ↦ (file.source, file.id)) = numbered found ∧
      (∃ events, ((s.analyze steps root).on world).2.log.toList = world.log.toList ++ events ∧
        events.countP (·.isSyntaxWarning) = files.countP (·.hasErrors)) ∧
      ∀ {τ : Type} (s' : Survey τ) (world' : World (Progress τ)), s'.settings = s.settings →
        world'.tree = world.tree → ∃ t', ((s'.analyze steps root).on world').1 = .ok (some t') ∧
          t'.filesAnalyzed = t.filesAnalyzed ∧ t'.filesWithErrors = t.filesWithErrors ∧
          (s'.namedOnly = s.namedOnly → t' = t) := by
  intro found files
  obtain ⟨hsupported, hparsed, hwalked, rfl⟩ := eq_totals_of_analyze h (rfl : _ = found)
  obtain ⟨-, hlog⟩ := s.analyze_on_of_walk hsupported (rfl : _ = found) hwalked
  rw [untilFailure_eq_self hparsed] at hlog
  refine ⟨hwalked, ?_, filesAnalyzed_add_skipped s.namedOnly found hparsed,
    nodesVisited_totals s.namedOnly files, filesWithErrors_totals s.namedOnly files,
    (map_parsedFiles hparsed).1, hlog, ?_⟩
  · rw [filesAnalyzed_totals, length_parsedFiles hparsed, length_numbered]
  · intro τ s' world' hsettings htree
    have hfound : handedOut s'.settings steps root world'.tree = found := by rw [hsettings, htree]
    have hwalked' : ((walk s'.settings steps root ignore).on ⟨world'.tree, #[], ()⟩).1 =
        .ok (some found.length) := by rw [hsettings, htree, hwalked]
    obtain ⟨hresult', -⟩ := s'.analyze_on_of_walk
      ((s.unsupported?_congr s' hsettings).trans hsupported) hfound hwalked'
    rw [List.findSome?_eq_none_iff.2 hparsed, untilFailure_eq_self hparsed] at hresult'
    refine ⟨_, hresult', ?_, ?_, fun hnamed ↦ by rw [hnamed]⟩
    · rw [filesAnalyzed_totals, filesAnalyzed_totals]
    · rw [filesWithErrors_totals, filesWithErrors_totals]

/-- A file in a known language, and one in none. -/
def pairTree : Node := .directory none [(Path.ofString "r", .directory none
  [(Path.ofString "a.json", .file (.ok "[1]".toUTF8.toList)), (Path.ofString "b.txt", .file (.ok []))])]

/-- Two files in no known language. -/
def strangeTree : Node := .directory none [(Path.ofString "r", .directory none
  [(Path.ofString "b.txt", .file (.ok [])), (Path.ofString "c", .file (.ok []))])]

/-- Counts the files and their nodes. -/
def pairSurvey : Survey Nat :=
  ⟨.default, true, some fun _ shown ↦ shown + 1, some fun _ _ shown ↦ shown + 1, none⟩

/-- What the totals say where the extensions of the files are these. -/
theorem counts_of_extensions {found : List FoundFile} {extensions : List String}
    (h : found.map (·.extension) = extensions) :
    (found.countP fun f ↦ (Language.ofExtension? f.extension).isSome) =
        extensions.countP (fun e ↦ (Language.ofExtension? e).isSome) ∧
      (found.countP fun f ↦ (Language.ofExtension? f.extension).isNone) =
        extensions.countP (fun e ↦ (Language.ofExtension? e).isNone) ∧
      found.length = extensions.length := by
  subst h
  simp [List.countP_map, Function.comp_def]

/-- With files in no known language, which are skipped, and with one that is analyzed. -/
theorem analyze_totals_pair :
    (∃ t, ((pairSurvey.analyze 10 (Path.ofString "r")).on ⟨strangeTree, #[], ⟨0, .zero, 1⟩⟩).1 =
        .ok (some t) ∧ t.filesAnalyzed = 0 ∧ t.filesAnalyzed + 2 = 2) ∧
      ∀ t, ((pairSurvey.analyze 10 (Path.ofString "r")).on ⟨pairTree, #[], ⟨0, .zero, 1⟩⟩).1 =
        .ok (some t) → t.filesAnalyzed = 1 ∧ t.filesAnalyzed + 1 = 2 := by
  constructor
  · have hextensions : (handedOut .default 10 (Path.ofString "r") strangeTree).map (·.extension) =
        [".txt", ""] := by cbv
    have hresult : ((pairSurvey.analyze 10 (Path.ofString "r")).on
        ⟨strangeTree, #[], ⟨0, .zero, 1⟩⟩).1 = .ok (some .zero) := by cbv
    obtain ⟨-, hanalyzed, hskipped, -⟩ := analyze_totals pairSurvey 10 (Path.ofString "r") _ hresult
    obtain ⟨hknown, hother, hlength⟩ := counts_of_extensions hextensions
    simp only [pairSurvey, hknown, hother, hlength] at hanalyzed hskipped
    exact ⟨_, hresult, hanalyzed, hskipped⟩
  · intro t h
    have hextensions : (handedOut .default 10 (Path.ofString "r") pairTree).map (·.extension) =
        [".json", ".txt"] := by cbv
    obtain ⟨-, hanalyzed, hskipped, -⟩ := analyze_totals pairSurvey 10 (Path.ofString "r") _ h
    obtain ⟨hknown, hother, hlength⟩ := counts_of_extensions hextensions
    simp only [pairSurvey, hknown, hother, hlength] at hanalyzed hskipped
    exact ⟨hanalyzed, hskipped⟩

end Survey

end SourceSurvey
