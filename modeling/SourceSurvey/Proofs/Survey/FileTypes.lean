import SourceSurvey.Proofs.Encoding.Utf8
import SourceSurvey.Proofs.Survey.Faults
import SourceSurvey.Proofs.Survey.Totals
import SourceSurvey.Proofs.Text.Trimming
import SourceSurvey.Proofs.Walk.Listing

/-!
# File types and languages

An extension is brought into a form that can be compared at three places: when file types are stored,
when a walk decides about a file, and when the language of a file is looked up. Blanks, dots in front and
the case of letters are seen to at different ones of them, and still they agree: what is stored and has a
language accepts files of that language only.
-/

namespace SourceSurvey

variable {σ τ : Type}

/-! ## Case -/

/-- A text in lower case. -/
def lowered (text : String) : String := String.ofList (text.toList.map Char.toLower)

namespace Language

theorem canonicalExtension_lowered (text : String) :
    canonicalExtension (lowered text) = canonicalExtension text := by
  simp only [canonicalExtension, lowered, String.toList_ofList, Text.dropWhile_dot_toLower,
    List.map_map, Function.comp_def, Text.toLower_toLower]

/-- Neither a dot in front of an extension nor its case has a part in its language. -/
theorem ofExtension?_dot (text : String) :
    ofExtension? ("." ++ text) = ofExtension? (lowered text) := by
  have hdot : canonicalExtension ("." ++ text) = canonicalExtension text := by
    rw [canonicalExtension, canonicalExtension, String.toList_append]
    rfl
  rw [ofExtension?, ofExtension?, hdot, canonicalExtension_lowered]

end Language

/-! ## What a walk hands on -/

namespace Walk

/-- What a walk hands on is the file of a wanted entry. -/
theorem wanted_of_move {plan : Plan} {tree : Node} {frames : List Frame} {entry : Entry}
    {events : List LogEvent} {file : FoundFile}
    (h : move plan tree frames entry = .ok (.hand events file)) :
    ∃ entry bytes, IsWanted plan.settings.fileTypes entry.name ∧
      file = foundFile plan.encoding entry bytes := by
  obtain ⟨bytes, haccepted, -, -, rfl⟩ := hand_of_move h
  exact ⟨entry, bytes, (accepts_iff _ _).1 haccepted, rfl⟩

end Walk

/-- The files that a walk hands on are those of wanted entries, whatever is done to the tree. -/
theorem wanted_of_mem_deliveries {settings : WalkSettings} {steps : Nat} {root : Path}
    {onFile : FoundFile → Run σ Unit} {world : World σ} {d : Delivery}
    (h : d ∈ deliveries settings steps root onFile world) :
    ∃ encoding entry bytes, Walk.IsWanted settings.fileTypes entry.name ∧
      d.file = Walk.foundFile encoding entry bytes := by
  have hpreserves (plan : Walk.Plan) (hplan : plan.settings = settings) :
      Walk.Preserves plan (watch onFile) fun w ↦ ∀ d ∈ w.kept.2, ∃ encoding entry bytes,
        Walk.IsWanted settings.fileTypes entry.name ∧
          d.file = Walk.foundFile encoding entry bytes := by
    refine ⟨fun hw _ ↦ hw, fun hw hmove ↦ ?_⟩
    obtain ⟨entry, bytes, hwanted, rfl⟩ := Walk.wanted_of_move hmove
    refine List.forall_mem_append.2 ⟨hw, List.forall_mem_singleton.2 ?_⟩
    exact ⟨plan.encoding, entry, bytes, hplan ▸ hwanted, rfl⟩
  exact Walk.Preserves.walk (fun plan hprepare ↦ hpreserves plan (Walk.settings_of_prepare hprepare))
    steps (by simp [World.watched]) d h

/-! ## Languages -/

/-- Whether the extension of a file is a file type, in some case. -/
def FoundFile.Matches (file : FoundFile) (fileType : String) : Prop :=
  ∃ text, file.extension = "." ++ text ∧ lowered text = fileType

theorem FoundFile.Matches.eq {file : FoundFile} {fileType fileType' : String}
    (h : file.Matches fileType) (h' : file.Matches fileType') : fileType' = fileType := by
  obtain ⟨text, htext, rfl⟩ := h
  obtain ⟨text', htext', rfl⟩ := h'
  rw [(String.append_right_inj ".").1 (htext'.symm.trans htext)]

/-- The language of a file is that of the type that its extension matches. -/
theorem FoundFile.Matches.ofExtension? {file : FoundFile} {fileType : String}
    (h : file.Matches fileType) :
    Language.ofExtension? file.extension = Language.ofExtension? fileType := by
  obtain ⟨text, htext, rfl⟩ := h
  rw [htext, Language.ofExtension?_dot]

/-- A file of a wanted entry matches one of the types, if there are any. -/
theorem Walk.matches_of_isWanted {fileTypes : List String} (hne : fileTypes ≠ []) {entry : Walk.Entry}
    (h : Walk.IsWanted fileTypes entry.name) (encoding : Encoding) (bytes : List UInt8) :
    ∃ fileType ∈ fileTypes, (Walk.foundFile encoding entry bytes).Matches fileType := by
  obtain ⟨extension, text, hextension, htext, hmem⟩ := h.resolve_left hne
  refine ⟨_, hmem, text, ?_, rfl⟩
  simp only [Walk.foundFile, hextension, Option.elim_some, Encoding.Utf8.lossy_of_strict? htext]

/-- If every file type has a language, then so has every file that a walk hands on. -/
theorem exists_language_of_mem_deliveries {settings : WalkSettings} (hne : settings.fileTypes ≠ [])
    (hsupported : ∀ t ∈ settings.fileTypes, (Language.ofExtension? t).isSome) {steps : Nat}
    {root : Path} {onFile : FoundFile → Run τ Unit} {world : World τ} {d : Delivery}
    (hd : d ∈ deliveries settings steps root onFile world) :
    ∃ fileType ∈ settings.fileTypes, d.file.Matches fileType ∧
      ∃ language, Language.ofExtension? fileType = some language ∧
        Language.ofExtension? d.file.extension = some language := by
  obtain ⟨encoding, entry, bytes, hwanted, hfile⟩ := wanted_of_mem_deliveries hd
  obtain ⟨fileType, hmem, hmatches⟩ := Walk.matches_of_isWanted hne hwanted encoding bytes
  obtain ⟨language, hlanguage⟩ := Option.isSome_iff_exists.1 (hsupported fileType hmem)
  rw [← hfile] at hmatches
  exact ⟨fileType, hmem, hmatches, language, hlanguage, hmatches.ofExtension?.trans hlanguage⟩

namespace Survey

/-- If all of the file types that are stored have a language, then so has every file that a walk hands
on, whatever is done to the tree meanwhile: it is that of the one type which its extension matches, and
the file is analyzed as a source in that language. A survey that ends well has then analyzed as many
files as were handed out. -/
theorem analyzeFound_of_supported (s : Survey σ) (extensions : List String)
    (hstored : s.settings.fileTypes = canonicalFileTypes extensions)
    (hne : canonicalFileTypes extensions ≠ []) (hsupported : s.unsupported? = none) (steps : Nat)
    (root : Path) :
    (∀ (onFile : FoundFile → Run τ Unit) (world : World τ),
      ∀ d ∈ deliveries s.settings steps root onFile world,
        ∃ fileType ∈ canonicalFileTypes extensions, d.file.Matches fileType ∧
          (∀ other, d.file.Matches other → other = fileType) ∧
          ∃ source language, d.file.source? = some source ∧ source.language = language ∧
            Language.ofExtension? fileType = some language ∧
            s.analyzeFound d.file = s.analyzeFile source) ∧
    ∀ (world : World (Progress σ)) t, ((s.analyze steps root).on world).1 = .ok (some t) →
      t.filesAnalyzed = UInt64.ofNat (handedOut s.settings steps root world.tree).length := by
  rw [← hstored] at hne ⊢
  have hlanguages := unsupported?_eq_none_iff.1 hsupported
  refine ⟨fun onFile world d hd ↦ ?_, fun world t h ↦ ?_⟩
  · obtain ⟨fileType, hmem, hmatches, language, hlanguage, hfile⟩ :=
      exists_language_of_mem_deliveries hne hlanguages hd
    have hsource : d.file.source? =
        some ⟨d.file.path.display, d.file.stem, d.file.extension, language, d.file.content⟩ := by
      rw [FoundFile.source?, hfile, Option.map_some]
    exact ⟨fileType, hmem, hmatches, fun other ↦ hmatches.eq, _, language, hsource, rfl, hlanguage,
      s.analyzeFound_of_source? hsource⟩
  · have hall : ∀ f ∈ handedOut s.settings steps root world.tree,
        (Language.ofExtension? f.extension).isSome := by
      intro f hf
      obtain ⟨d, hd, rfl⟩ := List.mem_map.1 hf
      obtain ⟨-, -, -, language, -, hfile⟩ := exists_language_of_mem_deliveries hne hlanguages hd
      rw [hfile, Option.isSome_some]
    obtain ⟨-, hparsed, -, rfl⟩ := eq_totals_of_analyze h rfl
    rw [filesAnalyzed_totals, length_parsedFiles hparsed, length_numbered,
      List.countP_eq_length.2 hall]

/-- A source with a capital in its extension, and a file without an extension. -/
def capitalTree : Node := .directory none [(Path.ofString "r", .directory none
  [(Path.ofString "a.Rs", .file (.ok [])), (Path.ofString "b", .file (.ok []))])]

/-- Two file types with blanks, dots and capitals. -/
def capitalSurvey : Survey Unit :=
  ⟨WalkSettings.default.withFileTypes [" .RS\t", "..Json", "."], true, none, none, none⟩

theorem analyzeFound_of_supported_capitals :
    (deliveries capitalSurvey.settings 10 (Path.ofString "r") ignore ⟨capitalTree, #[], ()⟩).map
        (·.file.extension) = [".Rs"] ∧
      ∀ d ∈ deliveries capitalSurvey.settings 10 (Path.ofString "r") ignore ⟨capitalTree, #[], ()⟩,
        ∃ fileType ∈ ["rs", "json"], d.file.Matches fileType ∧
          ∃ source, d.file.source? = some source ∧
            capitalSurvey.analyzeFound d.file = capitalSurvey.analyzeFile source := by
  have hstored : canonicalFileTypes [" .RS\t", "..Json", "."] = ["rs", "json"] := by decide
  refine ⟨by cbv, fun d hd ↦ ?_⟩
  obtain ⟨fileType, hmem, hmatches, -, source, -, hsource, -, -, hanalyze⟩ :=
    (analyzeFound_of_supported capitalSurvey [" .RS\t", "..Json", "."] rfl (by decide) (by decide) 10
      (Path.ofString "r")).1 ignore ⟨capitalTree, #[], ()⟩ d hd
  exact ⟨fileType, hstored ▸ hmem, hmatches, source, hsource, hanalyze⟩

end Survey

end SourceSurvey
