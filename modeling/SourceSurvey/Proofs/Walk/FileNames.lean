import SourceSurvey.Proofs.Encoding.Malformed
import SourceSurvey.Proofs.Walk.Order

/-!
# The names of files

A file name is cut in two at its last dot, if this is not its first byte, and each half is shown by
itself. Since a dot is a character of its own wherever it stands, what is shown of the halves is what is
shown of the name, whatever its other bytes are. A walk hands a file over under the last name of its
path, so this holds of every file that it hands over.
-/

namespace SourceSurvey

variable {σ : Type}

/-! ## Cuts at the last dot -/

namespace Path

/-- No dot is behind the last dot of a name. -/
theorem dot_not_mem_behind (name : Name) : dot ∉ (name.reverse.takeWhile (· != dot)).reverse := by
  intro hdot
  have hne := List.mem_takeWhile_imp (List.mem_reverse.1 hdot)
  simp at hne

/-- A name is cut at its last dot if this is behind its first byte, and is not cut otherwise. -/
theorem cut_cases {name : Name} (hup : name ≠ [dot, dot]) :
    (cut name = (name, none) ∧ dot ∉ name.tail) ∨
      ∃ front back, cut name = (front, some back) ∧ front ≠ [] ∧ dot ∉ back ∧
        name = front ++ dot :: back := by
  have hparts := congrArg List.reverse
    (List.takeWhile_append_dropWhile (p := (· != dot)) (l := name.reverse))
  rw [List.reverse_append, List.reverse_reverse] at hparts
  have hback := dot_not_mem_behind name
  have hhead := List.head?_dropWhile_not (· != dot) name.reverse
  unfold cut
  simp only []
  generalize (name.reverse.takeWhile (· != dot)).reverse = back at hparts hback ⊢
  generalize name.reverse.dropWhile (· != dot) = front at hparts hhead ⊢
  cases front with
  | nil =>
    -- there is no dot at all
    rw [List.reverse_nil, List.nil_append] at hparts
    refine .inl ⟨by simp, fun hmem ↦ hback ?_⟩
    rw [hparts]
    exact List.mem_of_mem_tail hmem
  | cons b front =>
    obtain rfl : b = dot := by simpa using hhead
    rw [List.reverse_cons, List.append_assoc, List.singleton_append] at hparts
    by_cases hfront : front = []
    · -- the last dot is the first byte
      subst hfront
      refine .inl ⟨by simp, ?_⟩
      rw [← hparts]
      exact hback
    · refine .inr ⟨front.reverse, back, ?_, by simpa using hfront, hback, hparts.symm⟩
      rw [if_neg]
      · simp
      · simp [hup, hfront]

/-- No dot is in an extension. -/
theorem dot_not_mem_extension {name extension : Name} (h : extension? name = some extension) :
    dot ∉ extension := by
  rw [extension?, cut] at h
  split at h
  · cases h
  · cases h
    exact dot_not_mem_behind name

/-- What is joined to a path is its last name. -/
theorem getLast?_pieces_join {name : Name} (h : slash ∉ name) (path : Path) :
    (path.join name).pieces.getLast? = some name := by
  have hslash (front : Path) : (front ++ slash :: name).pieces.getLast? = some name := by
    rw [pieces_append_slash, pieces_of_no_slash h, List.getLast?_concat]
  rw [join]
  split
  · rename_i hends
    rw [Bool.or_eq_true, List.isEmpty_iff, decide_eq_true_eq] at hends
    by_cases hempty : path = []
    · rw [hempty, List.nil_append, pieces_of_no_slash h]
      rfl
    · obtain ⟨front, rfl⟩ := List.getLast?_eq_some_iff.1 (hends.resolve_left hempty)
      rw [List.append_assoc]
      exact hslash front
  · exact hslash path

end Path

theorem Encoding.Utf8.dot_not_mem_lossy {bytes : Bytes} (h : Path.dot ∉ bytes) :
    '.' ∉ (lossy bytes).toList := by
  rw [lossy, String.toList_ofList, Reading.text, List.mem_map]
  rintro ⟨c, hc, hdot⟩
  cases c with
  | none => cases hdot
  | some c =>
    cases hdot
    exact h (mem_of_some_mem_decode (by decide) (by decide) hc)

/-! ## What is shown of a name -/

/-- How a file with this name is called: its stem and its extension make up what is shown of the name,
and the extension is what begins at the last dot. -/
structure FoundFile.IsCalled (file : FoundFile) (name : Name) : Prop where
  last : file.path.pieces.getLast? = some name
  whole : file.stem ++ file.extension = Encoding.Utf8.lossy name
  stem : file.stem ≠ ""
  extension : file.extension = "" ∨ ∃ text : String, '.' ∉ text.toList ∧ file.extension = "." ++ text
  bare : file.extension = "" ↔ Path.dot ∉ name.tail

namespace Walk

open SourceSurvey.Path (IsPlain)

/-- An entry with a plain name that is the last one of its path. -/
structure Entry.IsNamed (entry : Entry) : Prop where
  plain : IsPlain entry.name
  last : entry.path.pieces.getLast? = some entry.name

theorem Entry.IsNamed.isCalled {entry : Entry} (h : entry.IsNamed) (encoding : Encoding)
    (bytes : List UInt8) : (foundFile encoding entry bytes).IsCalled entry.name := by
  have hne : Encoding.Utf8.lossy entry.name ≠ "" := fun hempty ↦
    h.plain.ne_nil (Encoding.Utf8.lossy_eq_empty_iff.1 hempty)
  rcases Path.cut_cases h.plain.ne_up with ⟨hcut, htail⟩ | ⟨front, back, hcut, hfront, hback, hname⟩
  · have hstem : (foundFile encoding entry bytes).stem = Encoding.Utf8.lossy entry.name := by
      rw [foundFile, Path.stem, hcut]
    have hextension : (foundFile encoding entry bytes).extension = "" := by
      rw [foundFile, Path.extension?, hcut]
      rfl
    refine ⟨h.last, ?_, ?_, .inl hextension, iff_of_true hextension htail⟩
    · rw [hstem, hextension, String.append_empty]
    · rw [hstem]
      exact hne
  · have hstem : (foundFile encoding entry bytes).stem = Encoding.Utf8.lossy front := by
      rw [foundFile, Path.stem, hcut]
    have hextension : (foundFile encoding entry bytes).extension =
        "." ++ Encoding.Utf8.lossy back := by
      rw [foundFile, Path.extension?, hcut]
      rfl
    refine ⟨h.last, ?_, ?_, .inr ⟨_, Encoding.Utf8.dot_not_mem_lossy hback, hextension⟩, ?_⟩
    · rw [hstem, hextension, hname]
      exact (Encoding.Utf8.lossy_append_ascii (n := 0x2E) (by decide) front back).symm
    · rw [hstem]
      exact fun hempty ↦ hfront (Encoding.Utf8.lossy_eq_empty_iff.1 hempty)
    · apply iff_of_false
      · rw [hextension, ← String.toList_inj, String.toList_append]
        exact List.cons_ne_nil _ _
      · rw [not_not, hname, List.tail_append_of_ne_nil hfront]
        simp

/-! ## Names along a walk -/

theorem isNamed_openDirectory {tree : Node} (htree : tree.WellFormed) (path : Path) :
    ∀ entry ∈ (openDirectory tree path).entries, entry.IsNamed := by
  obtain ⟨listing, hentries, -, hplain⟩ := entries_openDirectory htree path
  intro entry hentry
  rw [hentries] at hentry
  obtain ⟨listed, hlisted, rfl⟩ := List.mem_map.1 hentry
  have hname := hplain listed hlisted
  exact ⟨hname, Path.getLast?_pieces_join hname.no_slash path⟩

/-- Every entry that is still to come is named, and every file handed on is called so. -/
structure AllNamed (frames : List Frame) (w : World (σ × List Delivery)) : Prop where
  tree : w.tree.WellFormed
  pending : ∀ frame ∈ frames, ∀ entry ∈ frame.entries, entry.IsNamed
  called : ∀ d ∈ w.kept.2, ∃ name, d.file.IsCalled name

/-- The next entry is named, and so are those behind it. -/
theorem AllNamed.next {path : Path} {entry : Entry} {pending : List Entry} {frames : List Frame}
    {w : World (σ × List Delivery)} (h : AllNamed (⟨path, .ok (entry :: pending)⟩ :: frames) w) :
    entry.IsNamed ∧
      ∀ frame ∈ (⟨path, .ok pending⟩ : Frame) :: frames, ∀ entry ∈ frame.entries, entry.IsNamed := by
  obtain ⟨hfirst, hothers⟩ := List.forall_mem_cons.1 h.pending
  obtain ⟨hentry, hbehind⟩ := List.forall_mem_cons.1 hfirst
  exact ⟨hentry, List.forall_mem_cons.2 ⟨hbehind, hothers⟩⟩

theorem invariant_allNamed {onFile : FoundFile → Run σ Unit} (hkeeps : KeepsWellFormed onFile)
    (plan : Plan) : Invariant plan (watch onFile) AllNamed where
  leave h := ⟨h.tree, (List.forall_mem_cons.1 h.pending).2, h.called⟩
  pass h _ := ⟨h.tree, h.next.2, h.called⟩
  enter h _ :=
    ⟨h.tree, List.forall_mem_cons.2 ⟨isNamed_openDirectory h.tree _, h.next.2⟩, h.called⟩
  hand {w path entry pending frames events file} h hmove := by
    obtain ⟨bytes, -, -, -, rfl⟩ := hand_of_move hmove
    have hafter := hkeeps (foundFile plan.encoding entry bytes) (w.logged events).unwatched h.tree
    rw [watch_on]
    refine ⟨hafter, h.next.2, List.forall_mem_append.2 ⟨h.called, ?_⟩⟩
    exact List.forall_mem_singleton.2 ⟨entry.name, h.next.1.isCalled plan.encoding bytes⟩

/-- Every file that a walk hands over is called by the last name of its path, whatever the bytes of this
name are, and whatever the callback does to the tree, as long as it stays well-formed. -/
theorem isCalled_of_mem_deliveries (settings : WalkSettings) (steps : Nat) (root : Path)
    (onFile : FoundFile → Run σ Unit) (world : World σ) (hworld : world.tree.WellFormed)
    (hkeeps : KeepsWellFormed onFile) :
    ∀ d ∈ deliveries settings steps root onFile world, ∃ name, d.file.IsCalled name := by
  have hstart : AllNamed [openDirectory world.watched.tree root] world.watched :=
    ⟨hworld, List.forall_mem_singleton.2 (isNamed_openDirectory hworld root), by
      simp [World.watched]⟩
  obtain ⟨_, hafter⟩ := Invariant.walk (fun plan _ ↦ invariant_allNamed hkeeps plan) steps hstart
  exact hafter.called

/-- Names with dots at their ends, and one in which a character breaks off at the dot. -/
def dottedTree : Node := .directory none [(Path.ofString "r", .directory none
  [([0xE2, 0x82, 0x2E, 0xFF], .file (.ok [])), (Path.ofString "...", .file (.ok [])),
    (Path.ofString ".b", .file (.ok [])), (Path.ofString "..c", .file (.ok []))])]

theorem isCalled_of_mem_deliveries_dotted :
    let made := deliveries .default 10 (Path.ofString "r") ignore ⟨dottedTree, #[], ()⟩
    dottedTree.WellFormed ∧ KeepsWellFormed ignore ∧
      made.map (·.file.extension) = [".", ".c", "", ".\ufffd"] ∧
      ∀ d ∈ made, ∃ name, d.file.IsCalled name := by
  have hextensions : (deliveries .default 10 (Path.ofString "r") ignore ⟨dottedTree, #[], ()⟩).map
      (·.file.extension) = [".", ".c", "", ".\ufffd"] := by cbv
  have htree : dottedTree.WellFormed := by
    have hmade : [Node.Change.write (Path.ofString "r/" ++ [0xE2, 0x82, 0x2E, 0xFF]) [],
        .write (Path.ofString "r/...") [], .write (Path.ofString "r/.b") [],
        .write (Path.ofString "r/..c") []].foldl Node.apply .empty = dottedTree := by cbv
    exact hmade ▸ Node.wellFormed_empty.foldl_apply _
  have hkeeps : KeepsWellFormed ignore := .ofChanges fun file world ↦ ⟨[], rfl⟩
  refine ⟨htree, hkeeps, hextensions, ?_⟩
  exact isCalled_of_mem_deliveries .default 10 (Path.ofString "r") ignore _ htree hkeeps

end Walk

end SourceSurvey
