import SourceSurvey.Proofs.Walk.Moves

/-!
# Deliveries of a walk

The calls that a walk makes of what it hands its files to, written down beside the run: the files in
their order, and how each call ended. Writing them down changes nothing about the run. What each move
and each call keep holds when the walk has ended. A simulation between two callbacks carries over to the
walks that hand files to them; with it, callbacks that never fail and leave the tree alone are all handed
the same files.
-/

namespace SourceSurvey

variable {σ τ : Type}

/-! ## Preserved properties -/

namespace Walk

/-- A property of what is under way and of the world that every step of a walk keeps. -/
structure Invariant (plan : Plan) (onFile : FoundFile → Run σ Unit)
    (P : List Frame → World σ → Prop) : Prop where
  leave : ∀ {w path frames}, P (⟨path, .ok []⟩ :: frames) w → P frames w
  pass : ∀ {w path entry pending frames events}, P (⟨path, .ok (entry :: pending)⟩ :: frames) w →
    move plan w.tree (⟨path, .ok pending⟩ :: frames) entry = .ok (.pass events) →
    P (⟨path, .ok pending⟩ :: frames) (w.logged events)
  enter : ∀ {w path entry pending frames}, P (⟨path, .ok (entry :: pending)⟩ :: frames) w →
    move plan w.tree (⟨path, .ok pending⟩ :: frames) entry = .ok .enter →
    P (openDirectory w.tree entry.path :: ⟨path, .ok pending⟩ :: frames) w
  hand : ∀ {w path entry pending frames events file},
    P (⟨path, .ok (entry :: pending)⟩ :: frames) w →
    move plan w.tree (⟨path, .ok pending⟩ :: frames) entry = .ok (.hand events file) →
    P (⟨path, .ok pending⟩ :: frames) ((onFile file).on (w.logged events)).2

namespace Invariant

variable {onFile : FoundFile → Run σ Unit} {P : List Frame → World σ → Prop}

theorem go {plan : Plan} (h : Invariant plan onFile P) (steps : Nat) {frames : List Frame}
    (count : Nat) {world : World σ} (hworld : P frames world) :
    ∃ frames', P frames' ((Walk.go plan onFile steps frames count).on world).2 := by
  induction steps generalizing frames count world with
  | zero =>
    cases frames with
    | nil => exact ⟨_, hworld⟩
    | cons frame frames => exact ⟨_, hworld⟩
  | succ steps ih =>
    match frames with
    | [] => exact ⟨_, hworld⟩
    | ⟨path, .error e⟩ :: frames => exact ⟨_, hworld⟩
    | ⟨path, .ok []⟩ :: frames => exact ih count (h.leave hworld)
    | ⟨path, .ok (entry :: pending)⟩ :: frames =>
      rw [go_entry]
      rcases hmove : move plan world.tree (⟨path, .ok pending⟩ :: frames) entry with
        e | events | _ | ⟨events, file⟩
      · exact ⟨_, hworld⟩
      · exact ih count (h.pass hworld hmove)
      · exact ih count (h.enter hworld hmove)
      · have hafter := h.hand hworld hmove
        rcases hrun : (onFile file).on (world.logged events) with ⟨_ | _, after⟩ <;>
          simp only [hrun] at hafter ⊢
        · exact ⟨_, hafter⟩
        · exact ih (count + 1) hafter

theorem walk {settings : WalkSettings} {root : Path} {world : World σ}
    (h : ∀ plan, prepare settings root world.tree = .ok plan → Invariant plan onFile P)
    (steps : Nat) (hworld : P [openDirectory world.tree root] world) :
    ∃ frames', P frames' ((SourceSurvey.walk settings steps root onFile).on world).2 := by
  rw [walk_on]
  cases hprepare : prepare settings root world.tree with
  | error e => exact ⟨_, hworld⟩
  | ok plan => exact (h plan hprepare).go steps 0 hworld

end Invariant

/-- A property of worlds that the moves of a walk keep, and what its callback does with a file. -/
structure Preserves (plan : Plan) (onFile : FoundFile → Run σ Unit) (P : World σ → Prop) :
    Prop where
  passed : ∀ {w frames entry events}, P w → move plan w.tree frames entry = .ok (.pass events) →
    P (w.logged events)
  handed : ∀ {w frames entry events file}, P w →
    move plan w.tree frames entry = .ok (.hand events file) → P ((onFile file).on (w.logged events)).2

namespace Preserves

variable {onFile : FoundFile → Run σ Unit} {P : World σ → Prop}

theorem invariant {plan : Plan} (h : Preserves plan onFile P) :
    Invariant plan onFile fun _ w ↦ P w where
  leave hw := hw
  pass hw hmove := h.passed hw hmove
  enter hw _ := hw
  hand hw hmove := h.handed hw hmove

theorem walk {settings : WalkSettings} {root : Path} {world : World σ}
    (h : ∀ plan, prepare settings root world.tree = .ok plan → Preserves plan onFile P)
    (steps : Nat) (hworld : P world) :
    P ((SourceSurvey.walk settings steps root onFile).on world).2 := by
  obtain ⟨_, hafter⟩ := Invariant.walk (fun plan hprepare ↦ (h plan hprepare).invariant) steps hworld
  exact hafter

end Preserves

end Walk

/-! ## Simulation -/

/-- Two callbacks that cannot be told apart by what a walk sees of them. -/
structure Simulation (R : World σ → World τ → Prop) (left : FoundFile → Run σ Unit)
    (right : FoundFile → Run τ Unit) : Prop where
  tree : ∀ {w v}, R w v → w.tree = v.tree
  logged : ∀ {w v}, R w v → ∀ events, R (w.logged events) (v.logged events)
  handed : ∀ {w v}, R w v → ∀ file,
    ((left file).on w).1 = ((right file).on v).1 ∧ R ((left file).on w).2 ((right file).on v).2

namespace Simulation

variable {R : World σ → World τ → Prop} {left : FoundFile → Run σ Unit}
  {right : FoundFile → Run τ Unit}

theorem go (h : Simulation R left right) (plan : Walk.Plan) (steps : Nat)
    (frames : List Walk.Frame) (count : Nat) {w : World σ} {v : World τ} (hR : R w v) :
    ((Walk.go plan left steps frames count).on w).1 =
        ((Walk.go plan right steps frames count).on v).1 ∧
      R ((Walk.go plan left steps frames count).on w).2
        ((Walk.go plan right steps frames count).on v).2 := by
  induction steps generalizing frames count w v with
  | zero =>
    cases frames with
    | nil => simpa only [Walk.go_nil] using ⟨trivial, hR⟩
    | cons frame frames => simpa only [Walk.go_zero] using ⟨trivial, hR⟩
  | succ steps ih =>
    match frames with
    | [] => simpa only [Walk.go_nil] using ⟨trivial, hR⟩
    | ⟨path, .error e⟩ :: frames => simpa only [Walk.go_failed] using ⟨trivial, hR⟩
    | ⟨path, .ok []⟩ :: frames => simpa only [Walk.go_done] using ih frames count hR
    | ⟨path, .ok (entry :: pending)⟩ :: frames =>
      simp only [Walk.go_entry, h.tree hR]
      rcases Walk.move plan v.tree (⟨path, .ok pending⟩ :: frames) entry with
        e | events | _ | ⟨events, file⟩
      · exact ⟨rfl, hR⟩
      · exact ih _ _ (h.logged hR events)
      · exact ih _ _ hR
      · obtain ⟨houtcome, hafter⟩ := h.handed (h.logged hR events) file
        rcases hl : (left file).on (w.logged events) with ⟨outcome, after⟩
        rcases hr : (right file).on (v.logged events) with ⟨outcome', after'⟩
        simp only [hl, hr] at houtcome hafter ⊢
        subst houtcome
        cases outcome with
        | error e => exact ⟨rfl, hafter⟩
        | ok => exact ih _ _ hafter

/-- Walks that hand files to callbacks that simulate each other end alike. -/
theorem walk (h : Simulation R left right) (settings : WalkSettings) (steps : Nat) (root : Path)
    {w : World σ} {v : World τ} (hR : R w v) :
    ((walk settings steps root left).on w).1 = ((walk settings steps root right).on v).1 ∧
      R ((walk settings steps root left).on w).2 ((walk settings steps root right).on v).2 := by
  simp only [walk_on, h.tree hR]
  cases Walk.prepare settings root v.tree with
  | error e => exact ⟨rfl, hR⟩
  | ok plan => exact h.go plan steps _ 0 hR

end Simulation

/-! ## Deliveries -/

/-- A call of a walk's callback: the file it was handed, and how it ended. -/
structure Delivery where
  file : FoundFile
  outcome : Except SurveyError Unit

/-- A callback whose calls are written down. -/
def watch (onFile : FoundFile → Run σ Unit) (file : FoundFile) :
    Run (σ × List Delivery) Unit := fun world ↦
  let (outcome, after) := (onFile file).on ⟨world.tree, world.log, world.kept.1⟩
  (outcome, ⟨after.tree, after.log, (after.kept, world.kept.2 ++ [⟨file, outcome⟩])⟩)

namespace World

/-- A world beside which no call has been written down yet. -/
def watched (world : World σ) : World (σ × List Delivery) :=
  ⟨world.tree, world.log, (world.kept, [])⟩

def unwatched (world : World (σ × List Delivery)) : World σ :=
  ⟨world.tree, world.log, world.kept.1⟩

end World

theorem watch_on (onFile : FoundFile → Run σ Unit) (file : FoundFile)
    (world : World (σ × List Delivery)) :
    (watch onFile file).on world =
      let (outcome, after) := (onFile file).on world.unwatched
      (outcome, ⟨after.tree, after.log, (after.kept, world.kept.2 ++ [⟨file, outcome⟩])⟩) := rfl

/-- The calls that a walk makes of its callback, in their order. -/
def deliveries (settings : WalkSettings) (steps : Nat) (root : Path)
    (onFile : FoundFile → Run σ Unit) (world : World σ) : List Delivery :=
  ((walk settings steps root (watch onFile)).on world.watched).2.kept.2

theorem simulation_watch (onFile : FoundFile → Run σ Unit) :
    Simulation (fun w v ↦ w.unwatched = v) (watch onFile) onFile where
  tree h := h ▸ rfl
  logged h events := h ▸ rfl
  handed h file := by
    subst h
    exact ⟨rfl, rfl⟩

/-- Writing the calls down changes nothing about a walk. -/
theorem walk_watch (settings : WalkSettings) (steps : Nat) (root : Path)
    (onFile : FoundFile → Run σ Unit) (world : World σ) :
    (walk settings steps root onFile).on world =
      (((walk settings steps root (watch onFile)).on world.watched).1,
        ((walk settings steps root (watch onFile)).on world.watched).2.unwatched) := by
  obtain ⟨hresult, hafter⟩ := (simulation_watch onFile).walk settings steps root
    (w := world.watched) (v := world) rfl
  exact Prod.ext hresult.symm hafter.symm

/-! ## Callbacks that never fail -/

/-- A callback that always succeeds and leaves the tree as it is. -/
def IsSteady (onFile : FoundFile → Run σ Unit) : Prop :=
  ∀ file world, ((onFile file).on world).1 = .ok () ∧ ((onFile file).on world).2.tree = world.tree

/-- The callback that does nothing. -/
def ignore (_ : FoundFile) : Run Unit Unit := pure ()

theorem isSteady_ignore : IsSteady ignore := fun _ _ ↦ ⟨rfl, rfl⟩

/-- The files that a walk of an unchanging tree hands out before it stops. -/
def handedOut (settings : WalkSettings) (steps : Nat) (root : Path) (tree : Node) :
    List FoundFile :=
  (deliveries settings steps root ignore ⟨tree, #[], ()⟩).map (·.file)

theorem simulation_steady {onFile : FoundFile → Run σ Unit} {onFile' : FoundFile → Run τ Unit}
    (h : IsSteady onFile) (h' : IsSteady onFile') :
    Simulation (fun w v ↦ w.tree = v.tree ∧ w.kept.2 = v.kept.2) (watch onFile)
      (watch onFile') where
  tree hR := hR.1
  logged hR _ := hR
  handed {w v} hR file := by
    obtain ⟨hok, htree⟩ := h file w.unwatched
    obtain ⟨hok', htree'⟩ := h' file v.unwatched
    simp only [watch_on, hok, hok', htree, htree']
    exact ⟨trivial, hR.1, by rw [hR.2]⟩

/-- Callbacks that always succeed and leave the tree alone are handed the same files, and the walk
gives back the same. -/
theorem walk_steady {onFile : FoundFile → Run σ Unit} (h : IsSteady onFile)
    (settings : WalkSettings) (steps : Nat) (root : Path) (world : World σ) :
    ((walk settings steps root onFile).on world).1 =
        ((walk settings steps root ignore).on ⟨world.tree, #[], ()⟩).1 ∧
      deliveries settings steps root onFile world =
        deliveries settings steps root ignore ⟨world.tree, #[], ()⟩ := by
  obtain ⟨hresult, -, hkept⟩ := (simulation_steady h isSteady_ignore).walk settings steps root
    (w := world.watched) (v := World.watched ⟨world.tree, #[], ()⟩) ⟨rfl, rfl⟩
  refine ⟨?_, hkept⟩
  rw [walk_watch settings steps root onFile, walk_watch settings steps root ignore]
  exact hresult

end SourceSurvey
