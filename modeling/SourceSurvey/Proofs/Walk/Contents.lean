import SourceSurvey.Proofs.Encoding.Malformed
import SourceSurvey.Proofs.Encoding.Marks
import SourceSurvey.Proofs.Walk.Handovers

/-!
# The contents of files

What a walk hands over of a file's bytes. A byte order mark says how the text behind it is written: that
text is handed over as it is, whatever encoding the walk was asked to read, and nothing is warned about.
Bytes behind no mark of UTF-16 are read as UTF-8 if that is asked for: every character that stands there
is kept, each malformed place becomes one replacement character, and there is a warning exactly if there
is a malformed place.
-/

namespace SourceSurvey

variable {σ : Type}

namespace Handover.IsRead

variable {h : Handover} {encoding : Encoding} {bytes : List UInt8}

/-- The bytes from which a file was read are those at its path. -/
theorem bytes_eq (hread : h.IsRead encoding bytes) {bytes' : List UInt8}
    (hat : h.tree.readAt h.file.path = .ok bytes') : bytes = bytes' :=
  Except.ok.inj (hread.read.symm.trans hat)

theorem warned_iff (hread : h.IsRead encoding bytes) :
    (∃ event ∈ h.reported, event.isDecodingWarning) ↔ (encoding.decode bytes).malformed := by
  have hwarnings := hread.warnings
  unfold decodingWarnings at hwarnings
  cases hmalformed : (encoding.decode bytes).malformed with
  | false =>
    rw [hmalformed, if_neg Bool.false_ne_true, List.filter_eq_nil_iff] at hwarnings
    simpa using hwarnings
  | true =>
    rw [hmalformed, if_pos rfl] at hwarnings
    have hmem := hwarnings ▸ List.mem_singleton_self _
    simpa using ⟨_, List.mem_filter.1 hmem⟩

/-- The warning about a file names its path. -/
theorem path_mem_fields (hread : h.IsRead encoding bytes) {event : LogEvent}
    (hmem : event ∈ h.reported) (hwarns : event.isDecodingWarning) :
    ("path", h.file.path.display) ∈ event.fields := by
  have hfilter := List.mem_filter.2 ⟨hmem, hwarns⟩
  rw [hread.warnings, decodingWarnings] at hfilter
  split at hfilter
  · cases List.mem_singleton.1 hfilter
    simp
  · cases hfilter

end Handover.IsRead

theorem not_warns_of_mem_reportedLast {settings : WalkSettings} {encoding : Encoding}
    (hlabel : Encoding.ofLabel? settings.encoding = some encoding) {steps : Nat} {root : Path}
    {onFile : FoundFile → Run σ Unit} {world : World σ} :
    ∀ event ∈ reportedLast settings steps root onFile world, ¬event.isDecodingWarning :=
  List.filter_eq_nil_iff.1 (filter_reportedLast hlabel steps root onFile world)

/-! ## A tree with one file -/

def loneTree (bytes : List UInt8) : Node :=
  .directory none [(Path.ofString "r", .directory none [(Path.ofString "a", .file (.ok bytes))])]

def loneSettings (label : String) : WalkSettings := ⟨[], label, [], false⟩

theorem wellFormed_loneTree (bytes : List UInt8) : (loneTree bytes).WellFormed := by
  have hmade : Node.empty.apply (.write (Path.ofString "r/a") bytes) = loneTree bytes := by cbv
  exact hmade ▸ Node.wellFormed_empty.apply _

/-- Whatever is in it, a walk comes to the file, in any encoding. -/
theorem comesTo_loneTree (bytes : List UInt8) {label : String} {encoding : Encoding}
    (hlabel : Encoding.ofLabel? label = some encoding) :
    Walk.ComesTo (loneSettings label) (loneTree bytes) (Path.ofString "r") (Path.ofString "r/a") := by
  let plan : Walk.Plan := ⟨loneSettings label, encoding, ⟨Path.ofString "r", []⟩⟩
  have hprepare : Walk.prepare (loneSettings label) (Path.ofString "r") (loneTree bytes) = .ok plan :=
    Walk.prepare_eq_ok_iff.2 ⟨rfl, hlabel, rfl, by cbv⟩
  have hsights : Walk.sights plan (loneTree bytes) ⟨Path.ofString "r", [Path.ofString "r"]⟩ []
      [(Path.ofString "a", .file (.ok bytes))] =
        [] ++ [⟨Path.ofString "r/a", Path.ofString "a", .ok (.file (.ok bytes))⟩] := by
    rw [Walk.sights_eq]
    cbv
  refine ⟨plan, _, _, _, _, _, hprepare, by cbv, ?_, hsights, by simp, rfl, by cbv⟩
  rw [hsights, List.nil_append, List.forall_mem_singleton]
  cbv

/-! ## Marked files -/

/-- A text behind a byte order mark is handed over as it is, for any label that selects an encoding, and
nothing is warned about: no character is lost or changed, and no second mark is taken off. A file that a
walk comes to is handed over. -/
theorem content_of_marked {settings : WalkSettings} {asked : Encoding}
    (hlabel : Encoding.ofLabel? settings.encoding = some asked) (steps : Nat) (root : Path)
    (onFile : FoundFile → Run σ Unit) (world : World σ) (form : Encoding.MarkedForm) (text : String) :
    let made := handovers settings steps root onFile world
    made.map (·.file) = (deliveries settings steps root onFile world).map (·.file) ∧
      (∀ h ∈ made, h.tree.readAt h.file.path = .ok (form.write text.toList) →
        h.file.content = text ∧ ∀ event ∈ h.reported, ¬event.isDecodingWarning) ∧
      (∀ event ∈ reportedLast settings steps root onFile world, ¬event.isDecodingWarning) ∧
      (IsSteady onFile → world.tree.WellFormed → Walk.stepBound world.tree ≤ steps →
        ∀ path, Walk.ComesTo settings world.tree root path →
          world.tree.readAt path = .ok (form.write text.toList) →
            ∃ h ∈ made, h.file.path = path ∧ h.tree = world.tree ∧ h.file.content = text) := by
  intro made
  have hcontent : ∀ h ∈ made, h.tree.readAt h.file.path = .ok (form.write text.toList) →
      h.file.content = text ∧ ∀ event ∈ h.reported, ¬event.isDecodingWarning := by
    intro h hmem hat
    obtain ⟨bytes, hread⟩ := exists_isRead hlabel steps root onFile world hmem
    obtain rfl := hread.bytes_eq hat
    have hdecode := Encoding.decode_write asked form text.toList
    constructor
    · rw [hread.content, hdecode, String.ofList_toList]
    · intro event hevent hwarns
      have hmalformed := hread.warned_iff.1 ⟨event, hevent, hwarns⟩
      rw [hdecode] at hmalformed
      cases hmalformed
  refine ⟨map_file_handovers settings steps root onFile world, hcontent,
    not_warns_of_mem_reportedLast hlabel, ?_⟩
  intro hsteady htree hsteps path hcomes hat
  obtain ⟨h, hmem, rfl, hsame⟩ := exists_handover hsteady htree hsteps hcomes
  exact ⟨h, hmem, rfl, hsame, (hcontent h hmem (hsame ▸ hat)).1⟩

/-- A text that begins with the mark itself, in a file that was asked to be read byte by byte. -/
theorem content_of_marked_again :
    ∃ h ∈ handovers (loneSettings "windows-1252") 10 (Path.ofString "r") ignore
        ⟨loneTree (Encoding.MarkedForm.write (.utf16 .littleEndian) "\ufeffé😀".toList), #[], ()⟩,
      h.file.path = Path.ofString "r/a" ∧ h.file.content = "\ufeffé😀" ∧
        ∀ event ∈ h.reported, ¬event.isDecodingWarning := by
  have hlabel : Encoding.ofLabel? (loneSettings "windows-1252").encoding = some .windows1252 := by
    cbv
  obtain ⟨-, hcontent, -, hcomes⟩ := content_of_marked hlabel 10 (Path.ofString "r") ignore
    ⟨loneTree (Encoding.MarkedForm.write (.utf16 .littleEndian) "\ufeffé😀".toList), #[], ()⟩
    (.utf16 .littleEndian) "\ufeffé😀"
  obtain ⟨h, hmem, hpath, hsame, htext⟩ := hcomes isSteady_ignore (wellFormed_loneTree _) (by cbv)
    (Path.ofString "r/a") (comesTo_loneTree _ hlabel) (by cbv)
  refine ⟨h, hmem, hpath, htext, (hcontent h hmem ?_).2⟩
  rw [hsame, hpath]
  cbv

/-! ## Files without a mark of UTF-16 -/

/-- Bytes behind no mark of UTF-16 that are read with the label that is set at first: behind at most one
mark of UTF-8, they are read piece by piece, in one way only, and what is handed over has the characters
that are read and one replacement character for each malformed place. There is a warning exactly if
these bytes are not those of a text, and it names the path of the file. A file that a walk comes to is
handed over. -/
theorem content_of_unmarked {settings : WalkSettings}
    (hlabel : settings.encoding = WalkSettings.default.encoding) (steps : Nat) (root : Path)
    (onFile : FoundFile → Run σ Unit) (world : World σ) {bytes : List UInt8}
    (hbig : ¬Encoding.utf16BE.mark <+: bytes) (hlittle : ¬Encoding.utf16LE.mark <+: bytes) :
    let made := handovers settings steps root onFile world
    let body := Encoding.withoutMark bytes
    made.map (·.file) = (deliveries settings steps root onFile world).map (·.file) ∧
      (∀ h ∈ made, h.tree.readAt h.file.path = .ok bytes →
        (∃ reading, (∀ other, Encoding.Utf8.Reads body other ↔ other = reading) ∧
          h.file.content = String.ofList reading.text) ∧
        h.file.content = Encoding.Utf8.lossy body ∧
        ((∃ event ∈ h.reported, event.isDecodingWarning) ↔ ¬∃ s, body = Encoding.Utf8.encode s) ∧
        ∀ event ∈ h.reported, event.isDecodingWarning →
          ("path", h.file.path.display) ∈ event.fields) ∧
      (∀ event ∈ reportedLast settings steps root onFile world, ¬event.isDecodingWarning) ∧
      (IsSteady onFile → world.tree.WellFormed → Walk.stepBound world.tree ≤ steps →
        ∀ path, Walk.ComesTo settings world.tree root path → world.tree.readAt path = .ok bytes →
          ∃ h ∈ made, h.file.path = path ∧ h.tree = world.tree ∧
            h.file.content = Encoding.Utf8.lossy body) := by
  intro made body
  have hutf8 : Encoding.ofLabel? settings.encoding = some .utf8 := by
    rw [hlabel]
    cbv
  have hdecode := Encoding.decode_utf8 hbig hlittle
  have hread : ∀ h ∈ made, h.tree.readAt h.file.path = .ok bytes → h.IsRead .utf8 bytes := by
    intro h hmem hat
    obtain ⟨bytes', hread⟩ := exists_isRead hutf8 steps root onFile world hmem
    exact hread.bytes_eq hat ▸ hread
  have hcontent {h : Handover} (hread : h.IsRead .utf8 bytes) :
      h.file.content = Encoding.Utf8.lossy body := by rw [hread.content, hdecode]
  refine ⟨map_file_handovers settings steps root onFile world, ?_,
    not_warns_of_mem_reportedLast hutf8, ?_⟩
  · intro h hmem hat
    have hread := hread h hmem hat
    refine ⟨⟨Encoding.Utf8.decode body, ?_, hcontent hread⟩, hcontent hread, ?_, ?_⟩
    · intro other
      rw [Encoding.Utf8.reads_iff, eq_comm]
    · rw [hread.warned_iff, hdecode]
      exact Encoding.Utf8.malformed_decode_iff
    · intro event hevent hwarns
      exact hread.path_mem_fields hevent hwarns
  · intro hsteady htree hsteps path hcomes hat
    obtain ⟨h, hmem, rfl, hsame⟩ := exists_handover hsteady htree hsteps hcomes
    exact ⟨h, hmem, rfl, hsame, hcontent (hread h hmem (hsame ▸ hat))⟩

/-- A mark, a character of its own, and one that breaks off. -/
theorem content_of_unmarked_broken :
    ∃ h ∈ handovers (loneSettings "utf-8") 10 (Path.ofString "r") ignore
        ⟨loneTree [0xEF, 0xBB, 0xBF, 0x61, 0xE2, 0x82], #[], ()⟩,
      h.file.path = Path.ofString "r/a" ∧ h.file.content = "a\ufffd" ∧
        ∃ event ∈ h.reported, event.isDecodingWarning := by
  have hlabel : (loneSettings "utf-8").encoding = WalkSettings.default.encoding := rfl
  have hbig : ¬Encoding.utf16BE.mark <+: [0xEF, 0xBB, 0xBF, 0x61, 0xE2, 0x82] := by decide
  have hlittle : ¬Encoding.utf16LE.mark <+: [0xEF, 0xBB, 0xBF, 0x61, 0xE2, 0x82] := by decide
  obtain ⟨-, hcontent, -, hcomes⟩ := content_of_unmarked hlabel 10 (Path.ofString "r") ignore
    ⟨loneTree [0xEF, 0xBB, 0xBF, 0x61, 0xE2, 0x82], #[], ()⟩ hbig hlittle
  obtain ⟨h, hmem, hpath, hsame, htext⟩ := hcomes isSteady_ignore (wellFormed_loneTree _) (by cbv)
    (Path.ofString "r/a") (comesTo_loneTree _ (by cbv)) (by cbv)
  have hat : h.tree.readAt h.file.path = .ok [0xEF, 0xBB, 0xBF, 0x61, 0xE2, 0x82] := by
    rw [hsame, hpath]
    cbv
  refine ⟨h, hmem, hpath, htext.trans (by cbv), (hcontent h hmem hat).2.2.1.2 ?_⟩
  exact Encoding.Utf8.malformed_decode_iff.1 (by cbv)

end SourceSurvey
