import SourceSurvey.Proofs.FileTree.WellFormed
import SourceSurvey.Proofs.Walk.Deliveries

/-!
# The order of a walk

The paths that a walk hands out, read as names below the root, come in the order of their names, the
first name that differs deciding. Each directory is sorted by itself; what ties the directories
together is that everything pending, from the innermost directory outwards, lies to the right of
everything handed out so far. This survives any change of the tree between two steps, since a listing
is made once and its entries keep their paths.
-/

namespace SourceSurvey

variable {σ : Type}

open SourceSurvey.Path (IsPlain below joinAll)

/-! ## Names and lists of names -/

/-- The order of names by their bytes. -/
abbrev nameLt : Name → Name → Prop := List.Lex (· < ·)

/-- Two lists of names part at a name that is smaller in the first one. -/
inductive LeftOf : List Name → List Name → Prop where
  | parting {a b : Name} (as bs : List Name) (h : nameLt a b) : LeftOf (a :: as) (b :: bs)
  | common {as bs : List Name} (a : Name) (h : LeftOf as bs) : LeftOf (a :: as) (a :: bs)

namespace LeftOf

theorem lex {as bs : List Name} (h : LeftOf as bs) : List.Lex nameLt as bs := by
  induction h with
  | parting _ _ h => exact .rel h
  | common _ _ ih => exact .cons ih

theorem append_left {as bs : List Name} (h : LeftOf as bs) (more : List Name) :
    LeftOf (as ++ more) bs := by
  induction h with
  | parting as bs h => exact .parting _ _ h
  | common a _ ih => exact .common a ih

theorem append_right {as bs : List Name} (h : LeftOf as bs) (more : List Name) :
    LeftOf as (bs ++ more) := by
  induction h with
  | parting as bs h => exact .parting _ _ h
  | common a _ ih => exact .common a ih

theorem append_same {as bs : List Name} (h : LeftOf as bs) (front : List Name) :
    LeftOf (front ++ as) (front ++ bs) := by
  induction front with
  | nil => exact h
  | cons a front ih => exact .common a ih

theorem ne {as bs : List Name} (h : LeftOf as bs) : as ≠ bs := by
  rintro rfl
  exact List.lex_irrefl (fun name ↦ List.lex_irrefl UInt8.lt_irrefl name) as h.lex

end LeftOf

namespace Walk

theorem nameBefore_trans (a b c : Name) (hab : nameBefore a b) (hbc : nameBefore b c) :
    nameBefore a c := by
  fun_induction nameBefore a b generalizing c <;> cases c <;> grind [nameBefore]

theorem nameBefore_total (a b : Name) : nameBefore a b || nameBefore b a := by
  fun_induction nameBefore a b <;> grind [nameBefore]

theorem nameLt_of_nameBefore {a b : Name} (h : nameBefore a b) (hne : a ≠ b) : nameLt a b := by
  fun_induction nameBefore a b with
  | case1 b =>
    cases b with
    | nil => exact absurd rfl hne
    | cons => exact .nil
  | case2 => cases h
  | case3 as b bs ih => exact .cons (ih h (by simpa using hne))
  | case4 a as b bs hab => exact .rel (by simpa using h)

/-! ## Listings -/

/-- The entries of a frame that are still to come. -/
def Frame.entries (frame : Frame) : List Entry := frame.pending.toOption.getD []

/-- The listing of a directory in a well-formed tree is in the strict order of plain names. -/
theorem entries_openDirectory {tree : Node} (h : tree.WellFormed) (path : Path) :
    ∃ listing : List (Name × Node.Kind),
      (openDirectory tree path).entries = listing.map (fun e ↦ ⟨path.join e.1, e.1, e.2⟩) ∧
        listing.Pairwise (fun a b ↦ nameLt a.1 b.1) ∧ ∀ e ∈ listing, IsPlain e.1 := by
  unfold openDirectory Frame.entries
  cases hlist : tree.listAt path with
  | error e => exact ⟨[], rfl, .nil, by simp⟩
  | ok listing =>
    obtain ⟨hnodup, hplain⟩ := h.listAt hlist
    refine ⟨listing.mergeSort fun a b ↦ nameBefore a.1 b.1, rfl, ?_, ?_⟩
    · have hsorted : (listing.mergeSort fun a b ↦ nameBefore a.1 b.1).Pairwise
          (fun a b ↦ nameBefore a.1 b.1) :=
        List.pairwise_mergeSort (fun a b c ↦ nameBefore_trans a.1 b.1 c.1)
          (fun a b ↦ nameBefore_total a.1 b.1) listing
      have hdistinct : (listing.mergeSort fun a b ↦ nameBefore a.1 b.1).Pairwise (·.1 ≠ ·.1) :=
        List.pairwise_map.1 (((List.mergeSort_perm listing _).map _).nodup_iff.2 hnodup)
      exact hsorted.imp₂ (fun _ _ ↦ nameLt_of_nameBefore) hdistinct
    · exact fun e he ↦ hplain e (List.mem_mergeSort.1 he)

/-! ## What is still to come -/

/-- The names below the root of everything pending, from the innermost directory outwards. -/
def upcoming (root : Path) (frames : List Frame) : List (List Name) :=
  frames.flatMap fun frame ↦ frame.entries.map fun entry ↦ below root entry.path

/-- A path is the root joined with plain names. -/
def IsBelow (root path : Path) : Prop :=
  ∃ names, (∀ name ∈ names, IsPlain name) ∧ path = joinAll root names

theorem IsBelow.eq_joinAll {root path : Path} (h : IsBelow root path) :
    path = joinAll root (below root path) := by
  obtain ⟨names, hplain, rfl⟩ := h
  rw [Path.below_joinAll root hplain]

theorem IsBelow.join {root path : Path} (h : IsBelow root path) {name : Name}
    (hname : IsPlain name) :
    IsBelow root (path.join name) ∧ below root (path.join name) = below root path ++ [name] := by
  obtain ⟨names, hplain, rfl⟩ := h
  have hall : ∀ n ∈ names ++ [name], IsPlain n := by
    simpa [or_imp, forall_and] using ⟨hplain, hname⟩
  rw [← Path.joinAll_concat, Path.below_joinAll root hall, Path.below_joinAll root hplain]
  exact ⟨⟨_, hall, rfl⟩, rfl⟩

/-- What was handed out, then what is pending: everything lies to the left of what comes later. -/
structure InOrder (root : Path) (done : List (List Name)) (frames : List Frame) : Prop where
  apart : (done ++ upcoming root frames).Pairwise LeftOf
  rooted : ∀ frame ∈ frames, ∀ entry ∈ frame.entries, IsBelow root entry.path

namespace InOrder

variable {root path : Path} {done : List (List Name)} {entry : Entry} {pending : List Entry}
  {frames : List Frame} {tree : Node}

theorem nil : InOrder root [] [] := ⟨.nil, by simp⟩

/-- The entries of the directory just opened come in front of what is pending outside it. -/
theorem openDirectory (h : InOrder root done frames) (htree : tree.WellFormed)
    (hpath : IsBelow root path) (hleft : ∀ names ∈ done, LeftOf names (below root path))
    (hright : ∀ names ∈ upcoming root frames, LeftOf (below root path) names) :
    InOrder root done (openDirectory tree path :: frames) := by
  obtain ⟨listing, hentries, hsorted, hplain⟩ := entries_openDirectory htree path
  have hlisted : listing.map (fun e ↦ below root (path.join e.1)) =
      listing.map (fun e ↦ below root path ++ [e.1]) :=
    List.map_congr_left fun e he ↦ (hpath.join (hplain e he)).2
  have hupcoming : upcoming root (Walk.openDirectory tree path :: frames) =
      listing.map (fun e ↦ below root path ++ [e.1]) ++ upcoming root frames := by
    simp only [upcoming, List.flatMap_cons, hentries, List.map_map, Function.comp_def, hlisted]
  obtain ⟨hdone, hpending, hacross⟩ := List.pairwise_append.1 h.apart
  constructor
  · rw [hupcoming, List.pairwise_append, List.pairwise_append, List.pairwise_map]
    refine ⟨hdone, ⟨?_, hpending, ?_⟩, ?_⟩
    · exact hsorted.imp fun hlt ↦ (LeftOf.parting [] [] hlt).append_same _
    · intro names hnames later hlater
      obtain ⟨e, -, rfl⟩ := List.mem_map.1 hnames
      exact (hright later hlater).append_left _
    · intro names hnames later hlater
      rcases List.mem_append.1 hlater with hlater | hlater
      · obtain ⟨e, -, rfl⟩ := List.mem_map.1 hlater
        exact (hleft names hnames).append_right _
      · exact hacross names hnames later hlater
  · intro frame hframe
    rcases List.mem_cons.1 hframe with rfl | hframe
    · intro e he
      rw [hentries] at he
      obtain ⟨listed, hlisted, rfl⟩ := List.mem_map.1 he
      exact (hpath.join (hplain listed hlisted)).1
    · exact h.rooted frame hframe

theorem start (htree : tree.WellFormed) : InOrder root [] [Walk.openDirectory tree root] :=
  nil.openDirectory htree ⟨[], by simp, rfl⟩ (by simp) (by simp [upcoming])

/-- What there is to know about the entry at hand. -/
theorem entry_left (h : InOrder root done (⟨path, .ok (entry :: pending)⟩ :: frames)) :
    IsBelow root entry.path ∧ (∀ names ∈ done, LeftOf names (below root entry.path)) ∧
      ∀ names ∈ upcoming root (⟨path, .ok pending⟩ :: frames),
        LeftOf (below root entry.path) names := by
  obtain ⟨-, hpending, hacross⟩ := List.pairwise_append.1 h.apart
  exact ⟨h.rooted _ List.mem_cons_self entry List.mem_cons_self,
    fun names hnames ↦ hacross names hnames _ List.mem_cons_self,
    fun names hnames ↦ List.rel_of_pairwise_cons hpending hnames⟩

theorem hand (h : InOrder root done (⟨path, .ok (entry :: pending)⟩ :: frames)) :
    InOrder root (done ++ [below root entry.path]) (⟨path, .ok pending⟩ :: frames) := by
  constructor
  · rw [List.append_assoc]
    exact h.apart
  · intro frame hframe
    rcases List.mem_cons.1 hframe with rfl | hframe
    · exact fun e he ↦ h.rooted _ List.mem_cons_self e (List.mem_cons_of_mem entry he)
    · exact h.rooted frame (List.mem_cons_of_mem _ hframe)

theorem pass (h : InOrder root done (⟨path, .ok (entry :: pending)⟩ :: frames)) :
    InOrder root done (⟨path, .ok pending⟩ :: frames) :=
  ⟨h.hand.apart.sublist ((List.sublist_append_left done _).append_right _), h.hand.rooted⟩

theorem enter (h : InOrder root done (⟨path, .ok (entry :: pending)⟩ :: frames))
    (htree : tree.WellFormed) :
    InOrder root done (Walk.openDirectory tree entry.path :: ⟨path, .ok pending⟩ :: frames) := by
  obtain ⟨hbelow, hleft, hright⟩ := h.entry_left
  exact h.pass.openDirectory htree hbelow hleft hright

theorem leave (h : InOrder root done (⟨path, .ok []⟩ :: frames)) : InOrder root done frames :=
  ⟨h.apart, fun frame hframe ↦ h.rooted frame (List.mem_cons_of_mem _ hframe)⟩

end InOrder

/-! ## Runs -/

/-- A file is handed on under the path of its entry. -/
theorem path_of_move {plan : Plan} {tree : Node} {frames : List Frame} {entry : Entry}
    {events : List LogEvent} {file : FoundFile}
    (h : move plan tree frames entry = .ok (.hand events file)) : file.path = entry.path := by
  obtain ⟨bytes, -, -, -, rfl⟩ := hand_of_move h
  rfl

/-- The names below the root of the files handed out so far. -/
def trails (root : Path) (made : List Delivery) : List (List Name) :=
  made.map fun d ↦ below root d.file.path

/-- A callback that keeps well-formed trees well-formed, whatever else it does to them. -/
def KeepsWellFormed (onFile : FoundFile → Run σ Unit) : Prop :=
  ∀ file world, world.tree.WellFormed → ((onFile file).on world).2.tree.WellFormed

/-- Any changes that a callback makes to the tree keep it well-formed. -/
theorem KeepsWellFormed.ofChanges {onFile : FoundFile → Run σ Unit}
    (h : ∀ file world, ∃ changes : List Node.Change,
      ((onFile file).on world).2.tree = changes.foldl Node.apply world.tree) :
    KeepsWellFormed onFile := by
  intro file world hworld
  obtain ⟨changes, hchanges⟩ := h file world
  exact hchanges ▸ hworld.foldl_apply changes

/-- Every step keeps everything in order. -/
theorem invariant_inOrder {onFile : FoundFile → Run σ Unit} (hkeeps : KeepsWellFormed onFile)
    (plan : Plan) (root : Path) :
    Invariant plan (watch onFile) fun frames w ↦ w.tree.WellFormed ∧
      InOrder root (trails root w.kept.2) frames ∧ ∀ d ∈ w.kept.2, IsBelow root d.file.path where
  leave h := ⟨h.1, h.2.1.leave, h.2.2⟩
  pass h _ := ⟨h.1, h.2.1.pass, h.2.2⟩
  enter h _ := ⟨h.1, h.2.1.enter h.1, h.2.2⟩
  hand {w path entry pending frames events file} h hmove := by
    -- the call is written down, whether it succeeds or not
    have hpath := path_of_move hmove
    have hafter := hkeeps file (w.logged events).unwatched h.1
    rw [watch_on]
    generalize (onFile file).on (w.logged events).unwatched = run at hafter ⊢
    refine ⟨hafter, ?_, ?_⟩
    · simpa [trails, hpath] using h.2.1.hand
    · simpa [or_imp, forall_and, hpath] using ⟨h.2.2, h.2.1.entry_left.1⟩

/-- Going on keeps everything in order. -/
theorem go_inOrder {onFile : FoundFile → Run σ Unit} (hkeeps : KeepsWellFormed onFile)
    (plan : Plan) (root : Path) (steps : Nat) (frames : List Frame) (count : Nat)
    (world : World (σ × List Delivery)) (htree : world.tree.WellFormed)
    (h : InOrder root (trails root world.kept.2) frames)
    (hbelow : ∀ d ∈ world.kept.2, IsBelow root d.file.path) :
    let made := ((go plan (watch onFile) steps frames count).on world).2.kept.2
    (trails root made).Pairwise LeftOf ∧ ∀ d ∈ made, IsBelow root d.file.path := by
  obtain ⟨frames', -, horder, hbelow'⟩ :=
    (invariant_inOrder hkeeps plan root).go steps count ⟨htree, h, hbelow⟩
  exact ⟨(List.pairwise_append.1 horder.apart).1, hbelow'⟩

/-- A walk that ends well has counted the calls that it made, and all of them succeeded. -/
theorem go_count (onFile : FoundFile → Run σ Unit) (plan : Plan) (steps : Nat)
    (frames : List Frame) (count n : Nat) (world : World (σ × List Delivery))
    (h : ((go plan (watch onFile) steps frames count).on world).1 = .ok (some n)) :
    ∃ more, ((go plan (watch onFile) steps frames count).on world).2.kept.2 =
        world.kept.2 ++ more ∧
      n = count + more.length ∧ ∀ d ∈ more, d.outcome = .ok () := by
  induction steps generalizing frames count world with
  | zero =>
    cases frames with
    | nil =>
      rw [go_nil] at h ⊢
      cases h
      exact ⟨[], by simp⟩
    | cons frame frames => cases h
  | succ steps ih =>
    match frames with
    | [] =>
      rw [go_nil] at h ⊢
      cases h
      exact ⟨[], by simp⟩
    | ⟨path, .error e⟩ :: frames => cases h
    | ⟨path, .ok []⟩ :: frames => exact ih frames count world h
    | ⟨path, .ok (entry :: pending)⟩ :: frames =>
      simp only [go_entry] at h ⊢
      rcases hmove : move plan world.tree (⟨path, .ok pending⟩ :: frames) entry with
        e | events | _ | ⟨events, file⟩ <;> simp only [hmove] at h ⊢
      · cases h
      · exact ih _ count (world.logged events) h
      · exact ih _ count world h
      · simp only [watch_on] at h ⊢
        rcases hrun : (onFile file).on (world.logged events).unwatched with ⟨_ | _, after⟩ <;>
          simp only [hrun] at h ⊢
        · cases h
        · obtain ⟨more, hmore, hn, hok⟩ := ih _ (count + 1) _ h
          refine ⟨⟨file, .ok ()⟩ :: more, ?_, ?_, ?_⟩
          · simpa using hmore
          · rw [hn, List.length_cons]
            omega
          · simpa using hok

/-- However a walk goes and whatever its callback does to the tree, as long as it stays well-formed:
the paths handed out are the root joined with names, these come in strictly increasing order, and so
no path comes twice; if the walk ends well, it gives back how many calls it made, all of which
succeeded. -/
theorem deliveries_increasing (settings : WalkSettings) (steps : Nat) (root : Path)
    (onFile : FoundFile → Run σ Unit) (world : World σ) (hworld : world.tree.WellFormed)
    (hkeeps : KeepsWellFormed onFile) :
    let made := deliveries settings steps root onFile world
    (∀ d ∈ made, d.file.path = joinAll root (below root d.file.path)) ∧
      (made.map fun d ↦ below root d.file.path).Pairwise (List.Lex (List.Lex (· < ·))) ∧
      (made.map fun d ↦ d.file.path).Nodup ∧
      ∀ n, ((walk settings steps root onFile).on world).1 = .ok (some n) →
        made.length = n ∧ ∀ d ∈ made, d.outcome = .ok () := by
  intro made
  have hresult : ((walk settings steps root onFile).on world).1 =
      ((walk settings steps root (watch onFile)).on world.watched).1 := by
    rw [walk_watch settings steps root onFile world]
  have hmade : made = ((walk settings steps root (watch onFile)).on world.watched).2.kept.2 := rfl
  rw [hresult]
  rw [walk_on] at hmade ⊢
  cases hprepare : prepare settings root world.watched.tree with
  | error e =>
    rw [hprepare] at hmade
    rw [hmade]
    simp [World.watched]
  | ok plan =>
    rw [hprepare] at hmade
    obtain ⟨hapart, hbelow⟩ := go_inOrder hkeeps plan root steps
      [Walk.openDirectory world.watched.tree root] 0 world.watched hworld (.start hworld)
      (by simp [World.watched])
    rw [hmade]
    refine ⟨fun d hd ↦ (hbelow d hd).eq_joinAll, hapart.imp LeftOf.lex, ?_, fun n hn ↦ ?_⟩
    · have hdistinct := List.pairwise_map.1 (hapart.imp LeftOf.ne)
      exact List.pairwise_map.2 (hdistinct.imp fun hne heq ↦ hne (by rw [heq]))
    · obtain ⟨more, hmore, hcount, hok⟩ := go_count onFile plan steps _ 0 n world.watched hn
      rw [hmore]
      exact ⟨by simp [hcount, World.watched], by simpa [World.watched] using hok⟩

/-- Counts the files, and puts new ones beside and above the place of each. -/
def disturb (file : FoundFile) : Run Nat Unit :=
  modify fun world ↦ ⟨(world.tree.apply (.remove file.path)).apply
    (.write (file.path ++ Path.ofString "x/y") []), world.log, world.kept + 1⟩

/-- Two files with a link to a directory between them. -/
def disturbedTree : Node := [Node.Change.write (Path.ofString "r/b") [],
  .write (Path.ofString "r/a/y") [], .makeLink (Path.ofString "r/a/l") (Path.ofString "../c"),
  .makeDirectory (Path.ofString "r/c")].foldl Node.apply .empty

def disturbedSettings : WalkSettings := ⟨[], "utf-8", [], true⟩

theorem deliveries_increasing_disturbed :
    let made := deliveries disturbedSettings 100 (Path.ofString "r") disturb ⟨disturbedTree, #[], 0⟩
    disturbedTree.WellFormed ∧ KeepsWellFormed disturb ∧
      made.map (·.file.path) = [Path.ofString "r/a/y", Path.ofString "r/b"] ∧
      (made.map fun d ↦ below (Path.ofString "r") d.file.path).Pairwise
        (List.Lex (List.Lex (· < ·))) ∧
      ((walk disturbedSettings 100 (Path.ofString "r") disturb).on ⟨disturbedTree, #[], 0⟩).1 =
        .ok (some 2) ∧
      ∀ d ∈ made, d.outcome = .ok () := by
  have htree : disturbedTree.WellFormed := Node.wellFormed_empty.foldl_apply _
  have hkeeps : KeepsWellFormed disturb := .ofChanges fun file world ↦
    ⟨[.remove file.path, .write (file.path ++ Path.ofString "x/y") []], rfl⟩
  have hpaths : (deliveries disturbedSettings 100 (Path.ofString "r") disturb
      ⟨disturbedTree, #[], 0⟩).map (·.file.path) = [Path.ofString "r/a/y", Path.ofString "r/b"] := by cbv
  have hresult : ((walk disturbedSettings 100 (Path.ofString "r") disturb).on
      ⟨disturbedTree, #[], 0⟩).1 = .ok (some 2) := by cbv
  obtain ⟨-, hincreasing, -, hcount⟩ := deliveries_increasing disturbedSettings 100 (Path.ofString "r")
    disturb ⟨disturbedTree, #[], 0⟩ htree hkeeps
  exact ⟨htree, hkeeps, hpaths, hincreasing, hresult, (hcount 2 hresult).2⟩

end Walk

end SourceSurvey
