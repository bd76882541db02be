import SourceSurvey.Proofs.Walk.Termination

/-!
# Calls that fail

A walk beside one whose callback never fails, over the same tree. Call for call they are handed the
same files, and they end alike; only where a call fails, the walk stops at once with what that call
failed with.
-/

namespace SourceSurvey

variable {σ τ : Type}

namespace Walk

/-- How the calls and the result of a walk stand to the files and the ending of one that no call
stops: the calls that succeed go through the files in their order, and the first one that fails
decides the result. -/
inductive Keeps (ending : Except SurveyError (Option Nat)) :
    List FoundFile → List Delivery → Except SurveyError (Option Nat) → Prop where
  | ends : Keeps ending [] [] ending
  | call (file : FoundFile) {files : List FoundFile} {made : List Delivery}
      {result : Except SurveyError (Option Nat)} (h : Keeps ending files made result) :
      Keeps ending (file :: files) (⟨file, .ok ()⟩ :: made) result
  | fails (file : FoundFile) (files : List FoundFile) (e : SurveyError) :
      Keeps ending (file :: files) [⟨file, .error e⟩] (.error e)

/-- Where the first calls succeed and the next one fails, if it is made at all, the walk stops there,
or else it comes to the other's ending before. -/
theorem Keeps.take_or_all {ending result : Except SurveyError (Option Nat)} {files : List FoundFile}
    {made : List Delivery} (h : Keeps ending files made result) {n : Nat} {e : SurveyError}
    (hok : ∀ i < n, ∀ d, made[i]? = some d → d.outcome = .ok ())
    (herror : ∀ d, made[n]? = some d → d.outcome = .error e) :
    (n < files.length ∧ result = .error e ∧ made.map (·.file) = files.take (n + 1)) ∨
      (files.length ≤ n ∧ result = ending ∧ made.map (·.file) = files) := by
  induction h generalizing n with
  | ends => exact Or.inr ⟨Nat.zero_le n, rfl, rfl⟩
  | @call file files made result h ih =>
    cases n with
    | zero => cases herror ⟨file, .ok ()⟩ rfl
    | succ n =>
      have hrest := ih (n := n) (fun i hi d hd ↦ hok (i + 1) (Nat.succ_lt_succ hi) d hd) herror
      simpa using hrest
  | fails file files e' =>
    cases n with
    | zero =>
      cases herror ⟨file, .error e'⟩ rfl
      left
      simp
    | succ n => cases hok 0 (Nat.succ_pos n) ⟨file, .error e'⟩ rfl

/-- A walk under way keeps to one in the same tree whose callback never fails. -/
theorem go_keeps {onFile : FoundFile → Run σ Unit} (hleaves : LeavesTree onFile)
    {onFile' : FoundFile → Run τ Unit} (hsteady : IsSteady onFile') (plan : Plan) (steps : Nat)
    (frames : List Frame) (count : Nat) {w : World (σ × List Delivery)}
    {v : World (τ × List Delivery)} (htree : w.tree = v.tree) :
    ∃ files made,
      ((go plan (watch onFile) steps frames count).on w).2.kept.2 = w.kept.2 ++ made ∧
      ((go plan (watch onFile') steps frames count).on v).2.kept.2 =
        v.kept.2 ++ files.map (⟨·, .ok ()⟩) ∧
      Keeps ((go plan (watch onFile') steps frames count).on v).1 files made
        ((go plan (watch onFile) steps frames count).on w).1 := by
  have hstop (ending : Except SurveyError (Option Nat)) (before before' : List Delivery) :
      ∃ files made, before = before ++ made ∧ before' = before' ++ files.map (⟨·, .ok ()⟩) ∧
        Keeps ending files made ending :=
    ⟨[], [], by simp, by simp, .ends⟩
  induction steps generalizing frames count w v with
  | zero =>
    cases frames with
    | nil => simpa only [go_nil] using hstop _ _ _
    | cons frame frames => exact hstop _ _ _
  | succ steps ih =>
    match frames with
    | [] => simpa only [go_nil] using hstop _ _ _
    | ⟨path, .error e⟩ :: frames => exact hstop _ _ _
    | ⟨path, .ok []⟩ :: frames =>
      simp only [go_done]
      exact ih frames count htree
    | ⟨path, .ok (entry :: pending)⟩ :: frames =>
      simp only [go_entry, htree]
      rcases move plan v.tree (⟨path, .ok pending⟩ :: frames) entry with
        e | events | _ | ⟨events, file⟩
      · exact hstop _ _ _
      · exact ih _ count (w := w.logged events) (v := v.logged events) htree
      · exact ih _ count htree
      · obtain ⟨hok, htree'⟩ := hsteady file (v.logged events).unwatched
        have hleft := hleaves file (w.logged events).unwatched
        simp only [watch_on, hok]
        rcases hrun : (onFile file).on (w.logged events).unwatched with ⟨outcome, after⟩
        rw [hrun] at hleft
        generalize ((onFile' file).on (v.logged events).unwatched).2 = after' at htree' ⊢
        have hsame : after.tree = after'.tree := hleft.trans (htree.trans htree'.symm)
        -- the other walk goes on, whether or not this call has failed
        obtain ⟨files, made, hmade, hfiles, hkeeps⟩ := ih (⟨path, .ok pending⟩ :: frames) (count + 1)
          (w := ⟨after.tree, after.log, (after.kept, w.kept.2 ++ [⟨file, outcome⟩])⟩)
          (v := ⟨after'.tree, after'.log, (after'.kept, v.kept.2 ++ [⟨file, .ok ()⟩])⟩) hsame
        cases outcome with
        | ok =>
          refine ⟨file :: files, ⟨file, .ok ()⟩ :: made, ?_, ?_, .call file hkeeps⟩
          · simpa using hmade
          · simpa using hfiles
        | error e =>
          refine ⟨file :: files, [⟨file, .error e⟩], rfl, ?_, .fails file files e⟩
          simpa using hfiles

end Walk

/-- Calls go through the files that a walk whose callback never fails hands out in the same tree. -/
theorem walk_keeps {onFile : FoundFile → Run σ Unit} (hleaves : Walk.LeavesTree onFile)
    {onFile' : FoundFile → Run τ Unit} (hsteady : IsSteady onFile') (settings : WalkSettings)
    (steps : Nat) (root : Path) {world : World σ} {world' : World τ}
    (htree : world.tree = world'.tree) :
    Walk.Keeps ((walk settings steps root onFile').on world').1
      ((deliveries settings steps root onFile' world').map (·.file))
      (deliveries settings steps root onFile world)
      ((walk settings steps root onFile).on world).1 := by
  rw [walk_watch settings steps root onFile, walk_watch settings steps root onFile']
  simp only [deliveries, walk_on, World.watched, htree]
  cases Walk.prepare settings root world'.tree with
  | error e => exact .ends
  | ok plan =>
    obtain ⟨files, made, hmade, hfiles, hkeeps⟩ := Walk.go_keeps hleaves hsteady plan steps
      [Walk.openDirectory world'.tree root] 0 (w := world.watched) (v := world'.watched) htree
    simp only [World.watched, htree, List.nil_append] at hmade hfiles hkeeps
    rw [hmade, hfiles]
    simpa [Function.comp_def] using hkeeps

/-- A walk in a tree that its callback leaves alone, when the first `n` calls succeed and the next one
fails: if a walk whose callback never fails hands out more than `n` files there, this one hands out the
first `n + 1` of them, and its result is what that call failed with; if not, it hands out the same
files and has the same result. With enough steps it comes to an end. -/
theorem deliveries_eq_take_of_failure (settings : WalkSettings) (steps : Nat) (root : Path)
    {onFile : FoundFile → Run σ Unit} (hleaves : Walk.LeavesTree onFile)
    {onFile' : FoundFile → Run τ Unit} (hsteady : IsSteady onFile') (world : World σ)
    (world' : World τ) (htree : world.tree = world'.tree) {n : Nat} {e : SurveyError}
    (hok : ∀ i < n, ∀ d, (deliveries settings steps root onFile world)[i]? = some d →
      d.outcome = .ok ())
    (herror : ∀ d, (deliveries settings steps root onFile world)[n]? = some d →
      d.outcome = .error e) :
    let result := ((walk settings steps root onFile).on world).1
    let result' := ((walk settings steps root onFile').on world').1
    let handed := (deliveries settings steps root onFile world).map (·.file)
    let handed' := (deliveries settings steps root onFile' world').map (·.file)
    ((n < handed'.length ∧ result = .error e ∧ handed = handed'.take (n + 1)) ∨
        (handed'.length ≤ n ∧ result = result' ∧ handed = handed')) ∧
      (world.tree.WellFormed → Walk.stepBound world.tree ≤ steps → result ≠ .ok none) := by
  intro result result' handed handed'
  constructor
  · exact (walk_keeps hleaves hsteady settings steps root htree).take_or_all hok herror
  · intro hformed hsteps
    simp only [result, walk_on]
    cases hprepare : Walk.prepare settings root world.tree with
    | error e => simp
    | ok plan =>
      obtain ⟨place, bar, entries, hroot⟩ := Walk.locate_of_prepare hprepare
      exact Walk.go_root_ends hleaves hformed hroot rfl hsteps

/-- Counts the files, and fails at the second one. -/
def failAtSecond (file : FoundFile) : Run Nat Unit := do
  modify fun world ↦ { world with kept := world.kept + 1 }
  if (← get).kept = 2 then throw (.notADirectory file.path)

/-- Three files, the second one in a directory. -/
def nestedTree : Node := .directory none [(Path.ofString "r", .directory none
  [(Path.ofString "c", .file (.ok [])),
    (Path.ofString "b", .directory none [(Path.ofString "x", .file (.ok []))]),
    (Path.ofString "a", .file (.ok []))])]

theorem deliveries_eq_take_of_failure_second :
    let made := deliveries .default 10 (Path.ofString "r") failAtSecond ⟨nestedTree, #[], 0⟩
    made.map (·.outcome) = [.ok (), .error (.notADirectory (Path.ofString "r/b/x"))] ∧
      ((walk .default 10 (Path.ofString "r") failAtSecond).on ⟨nestedTree, #[], 0⟩).1 =
        .error (.notADirectory (Path.ofString "r/b/x")) ∧
      made.map (·.file.path) =
        [Path.ofString "r/a", Path.ofString "r/b/x", Path.ofString "r/c"].take 2 := by
  have hleaves : Walk.LeavesTree failAtSecond := by
    intro file world
    simp only [failAtSecond, Run.on_bind, Run.on_modify, Run.on_get]
    split <;> rfl
  have houtcomes : (deliveries .default 10 (Path.ofString "r") failAtSecond
      ⟨nestedTree, #[], 0⟩).map (·.outcome) =
        [.ok (), .error (.notADirectory (Path.ofString "r/b/x"))] := by cbv
  intro made
  have houtcome (i : Nat) (d : Delivery) (hd : made[i]? = some d) :
      [.ok (), .error (.notADirectory (Path.ofString "r/b/x"))][i]? = some d.outcome := by
    exact houtcomes ▸ (List.getElem?_map ..).trans (congrArg (Option.map _) hd)
  have hok : ∀ i < 1, ∀ d, made[i]? = some d → d.outcome = .ok () := by
    intro i hi d hd
    obtain rfl : i = 0 := Nat.lt_one_iff.1 hi
    exact (Option.some.inj (houtcome 0 d hd)).symm
  have herror : ∀ d, made[1]? = some d →
      d.outcome = .error (.notADirectory (Path.ofString "r/b/x")) := by
    intro d hd
    exact (Option.some.inj (houtcome 1 d hd)).symm
  have hall : (deliveries .default 10 (Path.ofString "r") ignore ⟨nestedTree, #[], ()⟩).map
      (·.file.path) = [Path.ofString "r/a", Path.ofString "r/b/x", Path.ofString "r/c"] := by cbv
  have hlength := congrArg List.length hall
  rw [List.length_map] at hlength
  obtain ⟨⟨-, hresult, hhanded⟩ | ⟨hfew, -⟩, -⟩ := deliveries_eq_take_of_failure .default 10
    (Path.ofString "r") hleaves isSteady_ignore _ ⟨nestedTree, #[], ()⟩ rfl hok herror
  · refine ⟨houtcomes, hresult, ?_⟩
    have hpaths := congrArg (List.map (·.path)) hhanded
    rwa [List.map_take, List.map_map, List.map_map, Function.comp_def, hall] at hpaths
  · rw [List.length_map, hlength] at hfew
    simp at hfew

end SourceSurvey
