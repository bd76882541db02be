import SourceSurvey.Proofs.FileTree.Lookup
import SourceSurvey.Proofs.Walk.Deliveries

/-!
# The listing of a tree

The files that a walk hands out, given by recursion on the tree: the entries of a directory in the
byte order of their names, an excluded one left out with everything below it. Where links are not
followed, everything can be read and nothing changes, a walk hands out exactly this listing.
-/

namespace SourceSurvey.Walk

variable {σ : Type}

open Node (WellFormed Readable)
open SourceSurvey.Path (IsPlain below joinAll)

/-! ## The listing -/

/-- Any file is wanted if there are no file types; else its extension has to be text and, in lower
case, one of them. -/
def IsWanted (fileTypes : List String) (name : Name) : Prop :=
  fileTypes = [] ∨ ∃ bytes text, Path.extension? name = some bytes ∧
    Encoding.Utf8.strict? bytes = some text ∧
      String.ofList (text.toList.map Char.toLower) ∈ fileTypes

theorem accepts_iff (fileTypes : List String) (name : Name) :
    accepts fileTypes name ↔ IsWanted fileTypes name := by
  rw [accepts, IsWanted, Bool.or_eq_true, List.isEmpty_iff]
  apply or_congr_right
  cases Path.extension? name with
  | none => simp
  | some bytes => cases h : Encoding.Utf8.strict? bytes <;> simp [h]

instance (fileTypes : List String) (name : Name) : Decidable (IsWanted fileTypes name) :=
  decidable_of_iff _ (accepts_iff fileTypes name)

/-- Entries in the byte order of their names. -/
def ordered (entries : List (Name × Node)) : List (Name × Node) :=
  entries.mergeSort fun a b ↦ a.1 ≤ b.1

theorem mem_ordered {entries : List (Name × Node)} {entry : Name × Node} :
    entry ∈ ordered entries ↔ entry ∈ entries := List.mem_mergeSort

/-- The files below the directory with these entries that stands at a path. -/
def listing (plan : Plan) (path : Path) (entries : List (Name × Node)) : List FoundFile :=
  (ordered entries).attach.flatMap fun ⟨(name, child), _⟩ ↦
    if plan.exclusions.excludes (path.join name) (child.kind = .directory) then []
    else
      match child with
      | .directory _ inner => listing plan (path.join name) inner
      | .file (.ok bytes) =>
        if IsWanted plan.settings.fileTypes name then
          [foundFile plan.encoding ⟨path.join name, name, .file⟩ bytes]
        else []
      | .file (.error _) | .link _ | .special _ => []
termination_by entries
decreasing_by
  rename_i hmem
  have hsize := List.sizeOf_lt_of_mem (mem_ordered.1 hmem)
  simp only [Prod.mk.sizeOf_spec, Node.directory.sizeOf_spec] at hsize
  omega

/-- The files at an entry of the directory at a path, or below it. -/
def listingOf (plan : Plan) (path : Path) (name : Name) (child : Node) : List FoundFile :=
  if plan.exclusions.excludes (path.join name) (child.kind = .directory) then []
  else
    match child with
    | .directory _ inner => listing plan (path.join name) inner
    | .file (.ok bytes) =>
      if IsWanted plan.settings.fileTypes name then
        [foundFile plan.encoding ⟨path.join name, name, .file⟩ bytes]
      else []
    | .file (.error _) | .link _ | .special _ => []

theorem listing_eq (plan : Plan) (path : Path) (entries : List (Name × Node)) :
    listing plan path entries =
      (ordered entries).flatMap fun entry ↦ listingOf plan path entry.1 entry.2 := by
  rw [listing]
  refine (List.flatMap_subtype fun entry _ ↦ ?_).trans (by rw [List.unattach_attach])
  rcases entry with ⟨name, (_ | _) | _ | _ | _⟩ <;> rfl

/-! ## Frames -/

theorem nameBefore_eq (a b : Name) : nameBefore a b = decide (a ≤ b) := by
  fun_induction nameBefore a b <;> simp_all [List.cons_le_cons_iff]

/-- A directory that is listed with its own entries is opened with them, in order. -/
theorem openDirectory_eq {tree : Node} {path : Path} {entries : List (Name × Node)}
    (h : tree.listAt path = .ok (entries.map fun entry ↦ (entry.1, entry.2.kind))) :
    openDirectory tree path = ⟨path, .ok ((ordered entries).map fun entry ↦
      ⟨path.join entry.1, entry.1, entry.2.kind⟩)⟩ := by
  have hsorted : (entries.map fun entry ↦ (entry.1, entry.2.kind)).mergeSort
      (fun a b ↦ nameBefore a.1 b.1) =
        (ordered entries).map fun entry ↦ (entry.1, entry.2.kind) :=
    (List.map_mergeSort fun a _ b _ ↦ (nameBefore_eq a.1 b.1).symm).symm
  rw [openDirectory, h, Except.map, hsorted, List.map_map]
  rfl

/-- Going on with a frame on top hands out some files, one call each, and comes back to the frames
below it. -/
def Yields (plan : Plan) (tree : Node) (frame : Frame) (files : List FoundFile) : Prop :=
  ∃ k, ∀ steps frames count (world : World (Unit × List Delivery)), world.tree = tree →
    ∃ after : World (Unit × List Delivery), after.tree = tree ∧
      after.kept.2 = world.kept.2 ++ files.map (⟨·, .ok ()⟩) ∧
      (go plan (watch ignore) (steps + k) (frame :: frames) count).on world =
        (go plan (watch ignore) steps frames (count + files.length)).on after

namespace Yields

variable {plan : Plan} {tree : Node} {path : Path} {entry : Entry} {pending : List Entry}
  {files : List FoundFile}

theorem done : Yields plan tree ⟨path, .ok []⟩ [] :=
  ⟨1, fun steps frames count world htree ↦
    ⟨world, htree, by simp, go_done plan (watch ignore) steps count world path frames⟩⟩

/-- Where links are not followed, an entry is what it is listed as. -/
theorem move_eq (hfollow : plan.settings.followLinks = false) (frames : List Frame) :
    move plan tree frames entry = moveFor plan tree entry := by
  simp [move, seen, hfollow, Except.bind]

theorem pass (hfollow : plan.settings.followLinks = false) {events : List LogEvent}
    (hmove : moveFor plan tree entry = .ok (.pass events))
    (h : Yields plan tree ⟨path, .ok pending⟩ files) :
    Yields plan tree ⟨path, .ok (entry :: pending)⟩ files := by
  obtain ⟨k, hgo⟩ := h
  refine ⟨k + 1, fun steps frames count world htree ↦ ?_⟩
  obtain ⟨after, htree', hkept, hrest⟩ := hgo steps frames count (world.logged events) htree
  refine ⟨after, htree', hkept, ?_⟩
  rw [← Nat.add_assoc, go_entry, move_eq hfollow, htree, hmove]
  exact hrest

theorem hand (hfollow : plan.settings.followLinks = false) {events : List LogEvent}
    {file : FoundFile} (hmove : moveFor plan tree entry = .ok (.hand events file))
    (h : Yields plan tree ⟨path, .ok pending⟩ files) :
    Yields plan tree ⟨path, .ok (entry :: pending)⟩ (file :: files) := by
  obtain ⟨k, hgo⟩ := h
  refine ⟨k + 1, fun steps frames count world htree ↦ ?_⟩
  obtain ⟨after, htree', hkept, hrest⟩ := hgo steps frames (count + 1)
    ((watch ignore file).on (world.logged events)).2 htree
  refine ⟨after, htree', ?_, ?_⟩
  · rw [hkept, watch_on]
    simp [ignore]
  · rw [← Nat.add_assoc, go_entry, move_eq hfollow, htree, hmove]
    rw [List.length_cons, Nat.add_comm files.length, ← Nat.add_assoc]
    exact hrest

theorem enter (hfollow : plan.settings.followLinks = false)
    (hmove : moveFor plan tree entry = .ok .enter) {inner : List FoundFile}
    (hinner : Yields plan tree (openDirectory tree entry.path) inner)
    (h : Yields plan tree ⟨path, .ok pending⟩ files) :
    Yields plan tree ⟨path, .ok (entry :: pending)⟩ (inner ++ files) := by
  obtain ⟨k, hgo⟩ := h
  obtain ⟨k', hgo'⟩ := hinner
  refine ⟨k + k' + 1, fun steps frames count world htree ↦ ?_⟩
  obtain ⟨between, htree', hkept', hrest'⟩ := hgo' (steps + k) (⟨path, .ok pending⟩ :: frames)
    count world htree
  obtain ⟨after, htree'', hkept, hrest⟩ := hgo steps frames (count + inner.length) between htree'
  refine ⟨after, htree'', by simp [hkept, hkept'], ?_⟩
  rw [← Nat.add_assoc, ← Nat.add_assoc, go_entry, move_eq hfollow, htree, hmove,
    List.length_append, ← Nat.add_assoc]
  exact hrest'.trans hrest

/-- An entry yields its part of the listing. -/
theorem ofEntry (hfollow : plan.settings.followLinks = false) {name : Name} {child : Node}
    (hread : ∀ read, child = .file read →
      ∃ bytes, read = .ok bytes ∧ tree.readAt (path.join name) = .ok bytes)
    (hinner : ∀ bar inner, child = .directory bar inner →
      Yields plan tree (openDirectory tree (path.join name)) (listing plan (path.join name) inner))
    (h : Yields plan tree ⟨path, .ok pending⟩ files) :
    Yields plan tree ⟨path, .ok (⟨path.join name, name, child.kind⟩ :: pending)⟩
      (listingOf plan path name child ++ files) := by
  unfold listingOf
  by_cases hexcluded : plan.exclusions.excludes (path.join name) (child.kind = .directory)
  · rw [if_pos hexcluded]
    exact h.pass hfollow (by rw [moveFor, if_pos hexcluded])
  rw [if_neg hexcluded]
  cases child with
  | directory bar inner =>
    refine .enter hfollow ?_ (hinner bar inner rfl) h
    rw [moveFor, if_neg hexcluded]
    rfl
  | link | special =>
    refine h.pass hfollow (?_ : moveFor _ _ _ = .ok (.pass []))
    rw [moveFor, if_neg hexcluded]
    rfl
  | file read =>
    obtain ⟨bytes, rfl, hbytes⟩ := hread read rfl
    have hmove : moveFor plan tree ⟨path.join name, name, (Node.file (.ok bytes)).kind⟩ =
        if IsWanted plan.settings.fileTypes name then
          .ok (.hand (decodingEvents plan.encoding ⟨path.join name, name, .file⟩ bytes)
            (foundFile plan.encoding ⟨path.join name, name, .file⟩ bytes))
        else .ok (.pass []) := by
      rw [moveFor, if_neg hexcluded, hbytes]
      simp [Node.kind, accepts_iff]
    dsimp only
    by_cases hwanted : IsWanted plan.settings.fileTypes name
    · rw [if_pos hwanted] at hmove ⊢
      exact h.hand hfollow hmove
    · rw [if_neg hwanted] at hmove ⊢
      exact h.pass hfollow hmove

end Yields

/-- A directory below the root yields its listing. -/
theorem yields_listing (plan : Plan) {tree node inner : Node} {root : Path} {place : Trail}
    (hfollow : plan.settings.followLinks = false) (htree : tree.WellFormed)
    (hroot : tree.locate true root = .ok (place, node)) (hread : tree.Readable root node)
    (hinner : inner.WellFormed) (names : List Name) {bar : Option IoError}
    {entries : List (Name × Node)} (hentries : inner = .directory bar entries)
    (hunder : node.under? names = some inner) :
    Yields plan tree (openDirectory tree (joinAll root names))
      (listing plan (joinAll root names) entries) := by
  induction hinner generalizing names bar entries with
  | file | link | special => cases hentries
  | directory bar entries nodup plain below ih =>
    cases hentries
    rw [openDirectory_eq (hread.listAt htree hroot hunder).2, listing_eq]
    have hmem : ∀ entry ∈ ordered entries, entry ∈ entries := fun _ ↦ mem_ordered.1
    generalize ordered entries = rest at hmem ⊢
    -- from the last entry back, since each entry is followed by what the later ones yield
    induction rest with
    | nil => exact .done
    | cons entry rest ihrest =>
      obtain ⟨name, child⟩ := entry
      have hentry := hmem _ List.mem_cons_self
      have hchild : node.under? (names ++ [name]) = some child := by
        rw [Node.under?_concat, hunder, Option.bind_some, Node.child?]
        exact Node.lookup_of_mem nodup hentry
      rw [List.map_cons, List.flatMap_cons]
      refine .ofEntry hfollow (fun read hfile ↦ ?_) (fun bar inner hdirectory ↦ ?_)
        (ihrest fun entry h ↦ hmem entry (List.mem_cons_of_mem _ h))
      · rw [← Path.joinAll_concat]
        exact hread.readAt htree hroot (hfile ▸ hchild)
      · rw [← Path.joinAll_concat]
        exact ih _ hentry _ hdirectory hchild

/-- A file of a listing lies below the directory listed, and no directory in between is excluded. -/
theorem path_of_mem_listing {plan : Plan} {root : Path} {inner : Node} (hinner : inner.WellFormed)
    (names : List Name) {bar : Option IoError} {entries : List (Name × Node)}
    (hentries : inner = .directory bar entries) {file : FoundFile}
    (hfile : file ∈ listing plan (joinAll root names) entries) :
    ∃ more, (∀ name ∈ more, IsPlain name) ∧ file.path = joinAll root (names ++ more) ∧
      ∀ front back, front ≠ [] → back ≠ [] → more = front ++ back →
        plan.exclusions.excludes (joinAll root (names ++ front)) true = false := by
  induction hinner generalizing names bar entries with
  | file | link | special => cases hentries
  | directory bar entries nodup plain below ih =>
    cases hentries
    rw [listing_eq, List.mem_flatMap] at hfile
    obtain ⟨⟨name, child⟩, hentry, hfile⟩ := hfile
    rw [mem_ordered] at hentry
    unfold listingOf at hfile
    by_cases hexcluded : plan.exclusions.excludes ((joinAll root names).join name)
        (child.kind = .directory)
    · simp [hexcluded] at hfile
    rw [if_neg hexcluded, ← Path.joinAll_concat] at hfile
    rw [← Path.joinAll_concat] at hexcluded
    cases child with
    | directory bar inner =>
      obtain ⟨more, hplain, hpath, hclear⟩ := ih _ hentry _ rfl hfile
      refine ⟨name :: more, by simpa using ⟨plain _ hentry, hplain⟩, by simpa using hpath, ?_⟩
      intro front back hfront hback heq
      obtain ⟨first, front, rfl⟩ := List.exists_cons_of_ne_nil hfront
      obtain ⟨rfl, htail⟩ := List.cons.inj heq
      by_cases hnil : front = []
      · subst hnil
        simpa [Node.kind] using hexcluded
      · simpa using hclear front back hnil hback htail
    | link | special => cases hfile
    | file read =>
      have hpath : file.path = joinAll root (names ++ [name]) := by
        cases read with
        | error e => cases hfile
        | ok bytes =>
          dsimp only at hfile
          split at hfile
          · rw [List.mem_singleton.1 hfile]
            rfl
          · cases hfile
      refine ⟨[name], by simpa using plain _ hentry, hpath, ?_⟩
      intro front back hfront hback heq
      have hlength := congrArg List.length heq
      have := List.length_pos_iff.2 hfront
      have := List.length_pos_iff.2 hback
      rw [List.length_append, List.length_singleton] at hlength
      omega

/-- A walk that does not follow links, in a tree in which everything below the root can be read and
which its callback leaves alone, hands out the listing of the root and gives back its length. The root
itself may be excluded or not; whatever other patterns say, nothing comes from below a directory that
is excluded. -/
theorem deliveries_eq_listing (settings : WalkSettings) (root : Path)
    (onFile : FoundFile → Run σ Unit) (world : World σ) (encoding : Encoding)
    (exclusions : Exclusions) (place : Trail) (bar : Option IoError) (entries : List (Name × Node))
    (hfollow : settings.followLinks = false) (hsteady : IsSteady onFile)
    (htree : world.tree.WellFormed)
    (hencoding : Encoding.ofLabel? settings.encoding = some encoding)
    (hexclusions : Exclusions.compile root settings.excluded = .ok exclusions)
    (hroot : world.tree.locate true root = .ok (place, .directory bar entries))
    (hread : world.tree.Readable root (.directory bar entries)) :
    let files := listing ⟨settings, encoding, exclusions⟩ root entries
    (∃ enough, ∀ steps ≥ enough,
      ((walk settings steps root onFile).on world).1 = .ok (some files.length) ∧
        deliveries settings steps root onFile world = files.map fun file ↦ ⟨file, .ok ()⟩) ∧
      ∀ names, names ≠ [] → exclusions.excludes (joinAll root names) true →
        ∀ file ∈ files, ∀ more ≠ [], below root file.path ≠ names ++ more := by
  intro files
  have hdirectory := (htree.at (Node.find_found (Node.locate_eq_ok_iff.1 hroot))).1
  refine ⟨?_, fun names hnames hexcluded file hfile more hmore hbelow ↦ ?_⟩
  · obtain ⟨k, hgo⟩ := yields_listing ⟨settings, encoding, exclusions⟩ hfollow htree hroot hread
      hdirectory [] rfl rfl
    have hprepare : prepare settings root world.tree = .ok ⟨settings, encoding, exclusions⟩ := by
      simp [prepare, hencoding, hexclusions, Node.kindAt, hroot, Except.map, Node.kind]
    refine ⟨k, fun steps hsteps ↦ ?_⟩
    obtain ⟨after, -, hkept, hrun⟩ := hgo (steps - k) [] 0
      (World.watched ⟨world.tree, #[], ()⟩) rfl
    rw [Nat.sub_add_cancel hsteps, go_nil, Nat.zero_add] at hrun
    have hwalk : (walk settings steps root (watch ignore)).on (World.watched ⟨world.tree, #[], ()⟩) =
        (.ok (some files.length), after) := by
      rw [walk_on]
      simp only [World.watched, hprepare]
      exact hrun
    obtain ⟨hresult, hmade⟩ := walk_steady hsteady settings steps root world
    rw [hresult, hmade, walk_watch, deliveries, hwalk]
    exact ⟨rfl, by simpa [World.watched] using hkept⟩
  · obtain ⟨trail, hplain, hpath, hclear⟩ := path_of_mem_listing hdirectory [] rfl hfile
    rw [hpath, List.nil_append, Path.below_joinAll root hplain] at hbelow
    have hfree := hclear names more hnames hmore hbelow
    rw [List.nil_append] at hfree
    exact absurd hexcluded (by simp [hfree])

/-- Entries out of order, with a directory to exclude, an ending in capitals and a link. -/
def mixedEntries : List (Name × Node) :=
  [(Path.ofString "b.p", .file (.ok [])),
    (Path.ofString "c", .directory none [(Path.ofString "y.P", .file (.ok [])),
      (Path.ofString "l.p", .link (Path.ofString "y.P"))]),
    (Path.ofString "a", .directory none [(Path.ofString "x.p", .file (.ok []))])]

def mixedTree : Node := .directory none [(Path.ofString "r", .directory none mixedEntries)]

def mixedSettings : WalkSettings := ⟨["p"], "utf-8", ["a/", "!a/x.p"], false⟩

def mixedExclusions : Exclusions := ⟨Path.ofString "r",
  [⟨[.upper, .literal 'a'], false, true⟩, ⟨"a/x.p".toList.map .literal, true, false⟩]⟩

theorem deliveries_eq_listing_mixed :
    ∃ enough, ∀ steps ≥ enough,
      ((walk mixedSettings steps (Path.ofString "r") ignore).on ⟨mixedTree, #[], ()⟩).1 =
          .ok (some 2) ∧
        (deliveries mixedSettings steps (Path.ofString "r") ignore ⟨mixedTree, #[], ()⟩).map
          (·.file.path) = [Path.ofString "r/b.p", Path.ofString "r/c/y.P"] := by
  have htree : mixedTree.WellFormed := by
    have hmade : [Node.Change.write (Path.ofString "r/b.p") [],
        .write (Path.ofString "r/c/y.P") [],
        .makeLink (Path.ofString "r/c/l.p") (Path.ofString "y.P"),
        .write (Path.ofString "r/a/x.p") []].foldl Node.apply .empty = mixedTree := by cbv
    exact hmade ▸ Node.wellFormed_empty.foldl_apply _
  have hroot : mixedTree.locate true (Path.ofString "r") =
      .ok ([Path.ofString "r"], .directory none mixedEntries) := by cbv
  have hread : mixedTree.Readable (Path.ofString "r") (.directory none mixedEntries) := by
    refine .ofEntries (by cbv) ?_
    simp only [mixedEntries, List.forall_mem_cons]
    refine ⟨.ofFile (by cbv), .ofEntries (by cbv) ?_, .ofEntries (by cbv) ?_, by simp⟩
    · simp only [List.forall_mem_cons]
      exact ⟨.ofFile (by cbv), .ofLink, by simp⟩
    · simp only [List.forall_mem_cons]
      exact ⟨.ofFile (by cbv), by simp⟩
  have hfiles (encoding : Encoding) :
      (listing ⟨mixedSettings, encoding, mixedExclusions⟩ (Path.ofString "r") mixedEntries).map
        (·.path) = [Path.ofString "r/b.p", Path.ofString "r/c/y.P"] := by cbv
  have hlength := congrArg List.length (hfiles .utf8)
  rw [List.length_map] at hlength
  obtain ⟨⟨enough, hwalk⟩, -⟩ := deliveries_eq_listing mixedSettings (Path.ofString "r") ignore
    ⟨mixedTree, #[], ()⟩ .utf8 mixedExclusions _ _ _ rfl isSteady_ignore htree (by cbv) rfl hroot hread
  refine ⟨enough, fun steps hsteps ↦ ?_⟩
  obtain ⟨hresult, hmade⟩ := hwalk steps hsteps
  rw [hresult, hmade, hlength]
  exact ⟨rfl, by simpa [Function.comp_def] using hfiles .utf8⟩

end SourceSurvey.Walk
