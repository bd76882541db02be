import SourceSurvey.Proofs.FileTree.Part
import SourceSurvey.Proofs.Walk.Termination

/-!
# What a walk does not see

Two trees may differ in what excluded entries are or contain. Walks of the one and of the other, step by
step, are at the same entry and do the same about it. A link is followed before it is known whether it
is excluded, so an excluded link must not fail where links are followed.
-/

namespace SourceSurvey.Walk

variable {σ : Type}

open Node (Alike SameOutside SameBelow Avoids LeadsAlike WellFormed)

/-! ## Hidden parts -/

/-- An entry is outside a part, and a link that is followed does not lead through it. -/
def IsClear (plan : Plan) (part : Trail → Prop) (tree : Node) (here : Level) (name : Name)
    (child : Node) : Prop :=
  ¬ part (name :: here.place) ∧
    (plan.settings.followLinks → child.kind = .link → Avoids part tree (here.path.join name))

/-- An entry is met without a failure, and is excluded as what is met. -/
def IsHidden (plan : Plan) (tree : Node) (here : Level) (above : List Level) (name : Name)
    (child : Node) : Prop :=
  ∃ place node, meet plan.settings.followLinks tree here above name child = .ok (place, node) ∧
    plan.exclusions.excludes (here.path.join name) (node.kind = .directory)

/-- A part of two trees is not seen by the walks of a root: the directories that are gone through have
the same entries, and an entry that is not clear of the part is hidden in both trees. -/
structure IsUnseen (plan : Plan) (root : Path) (part : Trail → Prop) (tree tree' : Node) : Prop where
  names : ∀ here above name, Descent plan tree root (here :: above) →
    ((tree.at? (name :: here.place)).isSome ↔ (tree'.at? (name :: here.place)).isSome)
  hidden : ∀ here above name child child', Descent plan tree root (here :: above) →
    tree.at? (name :: here.place) = some child → tree'.at? (name :: here.place) = some child' →
      IsClear plan part tree here name child ∨
        (IsHidden plan tree here above name child ∧ IsHidden plan tree' here above name child')

section

variable {plan : Plan} {root : Path} {part : Trail → Prop} {tree tree' : Node} {here : Level}
  {above : List Level} {name : Name} {child child' : Node}

/-- What is clear of the part is met alike in both trees. -/
theorem meet_congr (hsame : SameOutside part tree tree') (hchild : Alike child child')
    (hclear : IsClear plan part tree here name child) :
    (∃ e, meet plan.settings.followLinks tree here above name child = .error e ∧
        meet plan.settings.followLinks tree' here above name child' = .error e) ∨
      ∃ place node node',
        meet plan.settings.followLinks tree here above name child = .ok (place, node) ∧
        meet plan.settings.followLinks tree' here above name child' = .ok (place, node') ∧
        Alike node node' := by
  unfold meet
  rw [← hchild.kind_eq]
  by_cases hfollowed : plan.settings.followLinks && child.kind = .link
  · rw [if_pos hfollowed, if_pos hfollowed]
    have hway : Avoids part tree (here.path.join name) := by
      rw [Bool.and_eq_true_iff, decide_eq_true_iff] at hfollowed
      exact hclear.2 hfollowed.1 hfollowed.2
    rcases hsame.leadsAlike hway with
      ⟨e, hleft, hright⟩ | ⟨place, node, node', hleft, hright, halike⟩
    · rw [hleft, hright]
      exact Or.inl ⟨_, rfl, rfl⟩
    · rw [hleft, hright]
      simp only [← halike.bar?_eq, ← halike.kind_eq]
      cases node.bar? with
      | some e => exact Or.inl ⟨_, rfl, rfl⟩
      | none =>
        cases (here :: above).find? fun level ↦ node.kind = .directory ∧ level.place = place with
        | some level => exact Or.inl ⟨_, rfl, rfl⟩
        | none => exact Or.inr ⟨_, _, _, rfl, rfl, halike⟩
  · rw [if_neg hfollowed, if_neg hfollowed]
    exact Or.inr ⟨_, _, _, rfl, rfl, hchild⟩

theorem moveFor_congr {entry : Entry}
    (hread : entry.kind = .file → tree.readAt entry.path = tree'.readAt entry.path) :
    moveFor plan tree entry = moveFor plan tree' entry := by
  unfold moveFor
  by_cases hfile : entry.kind = .file
  · rw [hread hfile]
  · simp [hfile]

/-- A walk passes over what is hidden. -/
theorem move_of_isHidden {frames : List Frame}
    (hframes : List.Forall₂ (Shows tree) frames (here :: above))
    (h : IsHidden plan tree here above name child) :
    move plan tree frames (listed here.path (name, child)) =
      .ok (.pass [⟨.debug, "excluded", [("path", (here.path.join name).display)]⟩]) := by
  obtain ⟨place, node, hmeet, hexcluded⟩ := h
  rw [move_eq hframes, hmeet]
  exact if_pos hexcluded

/-- The directory gone through is listed in a tree with this entry. -/
def HasEntry (tree : Node) (here : Level) (name : Name) (child : Node) : Prop :=
  ∃ entries, tree.locate true here.path = .ok (here.place, .directory none entries) ∧
    entries.lookup name = some child

theorem HasEntry.at? (h : HasEntry tree here name child) :
    tree.at? (name :: here.place) = some child := by
  obtain ⟨entries, hhere, hchild⟩ := h
  exact (Node.at?_cons (Node.at?_of_locate hhere) name).trans hchild

theorem alike_of_isClear (hsame : SameOutside part tree tree')
    (hclear : IsClear plan part tree here name child) (hentry : HasEntry tree here name child)
    (hentry' : HasEntry tree' here name child') : Alike child child' := by
  obtain ⟨child'', hat, halike⟩ := hsame.at?_eq_some hclear.1 hentry.at?
  obtain rfl : child'' = child' := Option.some.inj (hat.symm.trans hentry'.at?)
  exact halike

/-- The path of what is met clear of the part leads to the same in both trees. -/
theorem leadsAlike_of_meet (hsame : SameOutside part tree tree') (htree : tree.WellFormed)
    (htree' : tree'.WellFormed) (hclear : IsClear plan part tree here name child)
    (hentry : HasEntry tree here name child) (hentry' : HasEntry tree' here name child')
    {place : Trail} {node : Node}
    (hmeet : meet plan.settings.followLinks tree here above name child = .ok (place, node))
    (hkind : node.kind ≠ .link) : LeadsAlike tree tree' (here.path.join name) := by
  rcases meet_ok hmeet with ⟨rfl, -⟩ | ⟨⟨hfollow, hlink⟩, -⟩
  · have halike := alike_of_isClear hsame hclear hentry hentry'
    obtain ⟨entries, hhere, hchild⟩ := hentry
    obtain ⟨entries', hhere', hchild'⟩ := hentry'
    exact .join htree htree' hhere hhere' hchild hchild' halike hkind
  · exact hsame.leadsAlike (hclear.2 hfollow hlink)

/-- At an entry of a directory gone through, the walks of both trees have the same move. -/
theorem move_congr (hsame : SameOutside part tree tree')
    (hunseen : IsUnseen plan root part tree tree') (htree : tree.WellFormed)
    (htree' : tree'.WellFormed) {frames frames' : List Frame}
    (hdescent : Descent plan tree root (here :: above))
    (hframes : List.Forall₂ (Shows tree) frames (here :: above))
    (hframes' : List.Forall₂ (Shows tree') frames' (here :: above))
    (hentry : HasEntry tree here name child) (hentry' : HasEntry tree' here name child') :
    move plan tree frames (listed here.path (name, child)) =
      move plan tree' frames' (listed here.path (name, child')) := by
  rcases hunseen.hidden here above name child child' hdescent hentry.at? hentry'.at? with
    hclear | ⟨hhidden, hhidden'⟩
  · rw [move_eq hframes, move_eq hframes']
    rcases meet_congr hsame (alike_of_isClear hsame hclear hentry hentry') hclear with
      ⟨e, hmeet, hmeet'⟩ | ⟨place, node, node', hmeet, hmeet', hnode⟩
    · rw [hmeet, hmeet']
    · rw [hmeet, hmeet']
      dsimp only
      rw [← hnode.kind_eq]
      apply moveFor_congr
      intro hfile
      have hkind : node.kind ≠ .link := by
        rw [show node.kind = .file from hfile]
        decide
      exact (leadsAlike_of_meet hsame htree htree' hclear hentry hentry' hmeet hkind).readAt_eq
  · rw [move_of_isHidden hframes hhidden, move_of_isHidden hframes' hhidden']

end

/-! ## In step -/

/-- Directories with entries of the same names are listed in the same order. -/
theorem ordered_congr {entries entries' : List (Name × Node)}
    (hnodup : (entries.map (·.1)).Nodup) (hnodup' : (entries'.map (·.1)).Nodup)
    (h : ∀ name, (entries.lookup name).isSome ↔ (entries'.lookup name).isSome) :
    (ordered entries).map (·.1) = (ordered entries').map (·.1) := by
  have hsorted (entries : List (Name × Node)) :
      ((ordered entries).map (·.1)).Pairwise (· ≤ ·) := by
    have hmerged : (ordered entries).Pairwise fun a b ↦ decide (a.1 ≤ b.1) = true := by
      apply List.pairwise_mergeSort
      · intro a b c hab hbc
        exact decide_eq_true (List.le_trans (of_decide_eq_true hab) (of_decide_eq_true hbc))
      · intro a b
        simpa using List.le_total a.1 b.1
    rw [List.pairwise_map]
    exact hmerged.imp of_decide_eq_true
  have hmem (entries : List (Name × Node)) (name : Name) :
      name ∈ entries.map (·.1) ↔ (entries.lookup name).isSome := by
    rw [List.mem_map, List.lookup_isSome_iff]
    apply exists_congr
    intro entry
    rw [beq_iff_eq, eq_comm]
  have hperm : (entries.map (·.1)).Perm (entries'.map (·.1)) := by
    rw [List.perm_ext_iff_of_nodup hnodup hnodup']
    intro name
    rw [hmem, hmem, h]
  apply List.Perm.eq_of_pairwise _ (hsorted entries) (hsorted entries')
  · exact ((List.mergeSort_perm _ _).map _).trans (hperm.trans ((List.mergeSort_perm _ _).map _).symm)
  · intro a b _ _ hab hba
    exact List.le_antisymm hab hba

/-- Two frames show the same directory of two trees, with entries of the same names still to come. -/
structure Twins (tree tree' : Node) (pair : Frame × Frame) (level : Level) : Prop where
  left : Shows tree pair.1 level
  right : Shows tree' pair.2 level
  names : pair.1.entries.map (·.name) = pair.2.entries.map (·.name)

/-- Twins have both come to their end, or are at entries of one name. -/
theorem Twins.done_or_entry {tree tree' : Node} (htree : tree.WellFormed)
    (htree' : tree'.WellFormed) {pair : Frame × Frame} {here : Level}
    (h : Twins tree tree' pair here) :
    pair = (⟨here.path, .ok []⟩, ⟨here.path, .ok []⟩) ∨
      ∃ name child child' pending pending',
        pair = (⟨here.path, .ok (listed here.path (name, child) :: pending)⟩,
          ⟨here.path, .ok (listed here.path (name, child') :: pending')⟩) ∧
        Twins tree tree' (⟨here.path, .ok pending⟩, ⟨here.path, .ok pending'⟩) here ∧
        HasEntry tree here name child ∧ HasEntry tree' here name child' := by
  obtain ⟨⟨path, pending⟩, ⟨path', pending'⟩⟩ := pair
  obtain ⟨⟨hpath, entries, rest, hlocate, hrest, hpending⟩,
    ⟨hpath', entries', rest', hlocate', hrest', hpending'⟩, hnames⟩ := h
  dsimp only at hpath hpath' hpending hpending'
  subst hpath hpath' hpending hpending'
  have hrestNames : rest.map (·.1) = rest'.map (·.1) := by
    simpa [Frame.entries, Except.toOption, listed, Function.comp_def] using hnames
  rcases rest with _ | ⟨⟨name, child⟩, rest⟩ <;> rcases rest' with _ | ⟨⟨name', child'⟩, rest'⟩
  · exact Or.inl rfl
  · cases hrestNames
  · cases hrestNames
  · obtain ⟨rfl, hrestNames⟩ : name = name' ∧ rest.map (·.1) = rest'.map (·.1) := by
      simpa using hrestNames
    have hchild := lookup_of_mem_ordered htree (Node.at?_of_locate hlocate)
      (hrest.subset List.mem_cons_self)
    have hchild' := lookup_of_mem_ordered htree' (Node.at?_of_locate hlocate')
      (hrest'.subset List.mem_cons_self)
    refine Or.inr ⟨name, child, child', _, _, rfl, ⟨?_, ?_, ?_⟩, ⟨entries, hlocate, hchild⟩,
      ⟨entries', hlocate', hchild'⟩⟩
    · exact ⟨rfl, entries, rest, hlocate, (List.suffix_cons _ _).trans hrest, rfl⟩
    · exact ⟨rfl, entries', rest', hlocate', (List.suffix_cons _ _).trans hrest', rfl⟩
    · simpa [Frame.entries, Except.toOption, listed, Function.comp_def] using hrestNames

/-- The directories under way in walks of two trees. Only the innermost may turn out not to be listed,
and then in both. -/
inductive InStep (plan : Plan) (root : Path) (tree tree' : Node) : List (Frame × Frame) → Prop where
  | listing {pairs : List (Frame × Frame)} {levels : List Level}
      (hdescent : Descent plan tree root levels)
      (htwins : List.Forall₂ (Twins tree tree') pairs levels) :
      InStep plan root tree tree' pairs
  | failed (path : Path) (e : IoError) (pairs : List (Frame × Frame)) :
      InStep plan root tree tree' ((⟨path, .error e⟩, ⟨path, .error e⟩) :: pairs)

section

variable {plan : Plan} {root : Path} {part : Trail → Prop} {tree tree' : Node}
  {pairs : List (Frame × Frame)} {levels : List Level}

theorem shows_left (h : List.Forall₂ (Twins tree tree') pairs levels) :
    List.Forall₂ (Shows tree) (pairs.map (·.1)) levels := by
  rw [List.forall₂_map_left_iff]
  exact h.imp fun _ _ htwins ↦ htwins.left

theorem shows_right (h : List.Forall₂ (Twins tree tree') pairs levels) :
    List.Forall₂ (Shows tree') (pairs.map (·.2)) levels := by
  rw [List.forall₂_map_left_iff]
  exact h.imp fun _ _ htwins ↦ htwins.right

theorem openDirectory_of_error {path : Path} {e : IoError} (h : tree.listAt path = .error e) :
    openDirectory tree path = ⟨path, .error e⟩ := by
  rw [openDirectory, h]
  rfl

/-- A directory that its path leads to in both trees is opened alike. -/
theorem InStep.openDirectory (hunseen : IsUnseen plan root part tree tree') (htree : tree.WellFormed)
    (htree' : tree'.WellFormed) {path : Path} {place : Trail}
    (hdescent : Descent plan tree root (⟨path, place⟩ :: levels))
    (htwins : List.Forall₂ (Twins tree tree') pairs levels) (hleads : LeadsAlike tree tree' path)
    (hplace : ∀ place' node, tree.locate true path = .ok (place', node) → place' = place) :
    InStep plan root tree tree'
      ((Walk.openDirectory tree path, Walk.openDirectory tree' path) :: pairs) := by
  have hfailed {e : IoError} (hleft : tree.listAt path = .error e)
      (hright : tree'.listAt path = .error e) : InStep plan root tree tree'
        ((Walk.openDirectory tree path, Walk.openDirectory tree' path) :: pairs) := by
    rw [openDirectory_of_error hleft, openDirectory_of_error hright]
    exact .failed path e pairs
  rcases hleads with ⟨e, hleft, hright⟩ | ⟨place', node, node', hleft, hright, halike⟩
  · apply hfailed (e := e)
    · rw [Node.listAt, hleft]
    · rw [Node.listAt, hright]
  · obtain rfl := hplace place' node hleft
    cases halike with
    | file | link | special =>
      apply hfailed (e := .notDirectory)
      · rw [Node.listAt, hleft]
      · rw [Node.listAt, hright]
    | directory bar entries entries' =>
      cases bar with
      | some e =>
        apply hfailed (e := e)
        · rw [Node.listAt, hleft]
        · rw [Node.listAt, hright]
      | none =>
        have hopen : Walk.openDirectory tree path =
            ⟨path, .ok ((ordered entries).map (listed path))⟩ := by
          apply openDirectory_eq
          rw [Node.listAt, hleft]
        have hopen' : Walk.openDirectory tree' path =
            ⟨path, .ok ((ordered entries').map (listed path))⟩ := by
          apply openDirectory_eq
          rw [Node.listAt, hright]
        have hat := Node.at?_of_locate hleft
        have hat' := Node.at?_of_locate hright
        have hnames : (ordered entries).map (·.1) = (ordered entries').map (·.1) := by
          apply ordered_congr (htree.at hat).1.nodup (htree'.at hat').1.nodup
          intro name
          rw [← Node.at?_cons hat, ← Node.at?_cons hat']
          exact hunseen.names _ _ name hdescent
        rw [hopen, hopen']
        refine .listing hdescent (.cons ⟨?_, ?_, ?_⟩ htwins)
        · exact ⟨rfl, entries, _, hleft, List.suffix_refl _, rfl⟩
        · exact ⟨rfl, entries', _, hright, List.suffix_refl _, rfl⟩
        · simpa [Frame.entries, Except.toOption, listed, Function.comp_def] using hnames

/-- A directory that is gone into is opened alike. -/
theorem InStep.enter (hsame : SameOutside part tree tree')
    (hunseen : IsUnseen plan root part tree tree') (htree : tree.WellFormed)
    (htree' : tree'.WellFormed) {here : Level} {above : List Level} {name : Name}
    {child child' : Node} (hdescent : Descent plan tree root (here :: above))
    (htwins : List.Forall₂ (Twins tree tree') pairs (here :: above))
    (hentry : HasEntry tree here name child) (hentry' : HasEntry tree' here name child')
    (hmove : move plan tree (pairs.map (·.1)) (listed here.path (name, child)) = .ok .enter) :
    InStep plan root tree tree' ((Walk.openDirectory tree (here.path.join name),
      Walk.openDirectory tree' (here.path.join name)) :: pairs) := by
  rcases hunseen.hidden here above name child child' hdescent hentry.at? hentry'.at? with
    hclear | ⟨hhidden, -⟩
  · rw [move_eq (shows_left htwins)] at hmove
    cases hmeet : meet plan.settings.followLinks tree here above name child with
    | error e =>
      rw [hmeet] at hmove
      cases hmove
    | ok met =>
      obtain ⟨place, node⟩ := met
      rw [hmeet] at hmove
      obtain ⟨hkind, hopen⟩ := kind_of_moveFor_enter hmove
      cases node with
      | file | link | special => cases hkind
      | directory bar inner =>
        have hlink : (Node.directory bar inner).kind ≠ .link := by simp [Node.kind]
        apply InStep.openDirectory hunseen htree htree' (hdescent.enter hentry.at? hmeet hopen) htwins
        · exact leadsAlike_of_meet hsame htree htree' hclear hentry hentry' hmeet hlink
        · intro place' node' h
          obtain ⟨entries, hhere, hchild⟩ := hentry
          exact congrArg Prod.fst (locate_of_meet htree hhere hchild hmeet hlink h)
  · rw [move_of_isHidden (shows_left htwins) hhidden] at hmove
    cases hmove

end

/-- Worlds with one tree and with another, which are the same otherwise. -/
structure Beside (tree tree' : Node) (w w' : World σ) : Prop where
  left : w.tree = tree
  right : w'.tree = tree'
  log : w.log = w'.log
  kept : w.kept = w'.kept

/-- A callback that leaves the tree as it is and does the same whatever the tree is. -/
def IsBlind (onFile : FoundFile → Run σ Unit) : Prop :=
  ∀ file tree tree' w w', Beside tree tree' w w' →
    ((onFile file).on w).1 = ((onFile file).on w').1 ∧
      Beside tree tree' ((onFile file).on w).2 ((onFile file).on w').2

theorem Beside.logged {tree tree' : Node} {w w' : World σ} (h : Beside tree tree' w w')
    (events : List LogEvent) : Beside tree tree' (w.logged events) (w'.logged events) where
  left := h.left
  right := h.right
  log := by rw [World.logged, World.logged, h.log]
  kept := h.kept

theorem IsBlind.watch {onFile : FoundFile → Run σ Unit} (h : IsBlind onFile) :
    IsBlind (watch onFile) := by
  intro file tree tree' w w' hbeside
  have hunder : Beside tree tree' w.unwatched w'.unwatched :=
    ⟨hbeside.left, hbeside.right, hbeside.log, congrArg Prod.fst hbeside.kept⟩
  obtain ⟨houtcome, hafter⟩ := h file tree tree' _ _ hunder
  simp only [watch_on]
  refine ⟨houtcome, hafter.left, hafter.right, hafter.log, ?_⟩
  rw [houtcome, hafter.kept, hbeside.kept]

/-- A callback that is shown the files and nothing else of the world. -/
def shown (f : FoundFile → σ → Except SurveyError Unit × σ) (file : FoundFile) : Run σ Unit :=
  fun world ↦
    let (outcome, kept) := f file world.kept
    (outcome, { world with kept })

theorem isBlind_shown (f : FoundFile → σ → Except SurveyError Unit × σ) : IsBlind (shown f) := by
  intro file tree tree' w w' h
  have hon (w : World σ) : (shown f file).on w =
      ((f file w.kept).1, { w with kept := (f file w.kept).2 }) := rfl
  rw [hon, hon, h.kept]
  exact ⟨rfl, h.left, h.right, h.log, rfl⟩

/-- The walks of both trees take the same steps. -/
theorem go_congr {plan : Plan} {root : Path} {part : Trail → Prop} {tree tree' : Node}
    (hsame : SameOutside part tree tree')
    (hunseen : IsUnseen plan root part tree tree') (htree : tree.WellFormed)
    (htree' : tree'.WellFormed) {onFile : FoundFile → Run σ Unit} (hblind : IsBlind onFile)
    (steps : Nat) {pairs : List (Frame × Frame)} (h : InStep plan root tree tree' pairs)
    (count : Nat) {w w' : World σ} (hbeside : Beside tree tree' w w') :
    ((go plan onFile steps (pairs.map (·.1)) count).on w).1 =
        ((go plan onFile steps (pairs.map (·.2)) count).on w').1 ∧
      Beside tree tree' ((go plan onFile steps (pairs.map (·.1)) count).on w).2
        ((go plan onFile steps (pairs.map (·.2)) count).on w').2 := by
  induction steps generalizing pairs count w w' with
  | zero =>
    cases pairs with
    | nil => simpa only [List.map_nil, go_nil] using ⟨trivial, hbeside⟩
    | cons pair pairs => simpa only [List.map_cons, go_zero] using ⟨trivial, hbeside⟩
  | succ steps ih =>
    cases h with
    | failed path e pairs => simpa only [List.map_cons, go_failed] using ⟨trivial, hbeside⟩
    | listing hdescent htwins =>
      cases htwins with
      | nil => simpa only [List.map_nil, go_nil] using ⟨trivial, hbeside⟩
      | @cons pair here pairs above hpair htwins =>
        rcases hpair.done_or_entry htree htree' with
          rfl | ⟨name, child, child', pending, pending', rfl, hrest, hentry, hentry'⟩
        · simp only [List.map_cons, go_done]
          exact ih (.listing hdescent.tail htwins) count hbeside
        have htwins' := List.Forall₂.cons hrest htwins
        have hstay := InStep.listing hdescent htwins'
        have hmoves := move_congr hsame hunseen htree htree' hdescent (shows_left htwins')
          (shows_right htwins') hentry hentry'
        have henter := InStep.enter hsame hunseen htree htree' hdescent htwins' hentry hentry'
        simp only [List.map_cons, go_entry, hbeside.left, hbeside.right] at hmoves henter ⊢
        rw [← hmoves]
        rcases hmove : move plan tree _ (listed here.path (name, child)) with
          e | events | _ | ⟨events, file⟩
        · exact ⟨rfl, hbeside⟩
        · exact ih hstay count (hbeside.logged events)
        · exact ih (henter hmove) count hbeside
        · obtain ⟨houtcome, hafter⟩ := hblind file tree tree' _ _ (hbeside.logged events)
          rcases hl : (onFile file).on (w.logged events) with ⟨outcome, after⟩
          rcases hr : (onFile file).on (w'.logged events) with ⟨outcome', after'⟩
          simp only [hl, hr] at houtcome hafter ⊢
          subst houtcome
          cases outcome with
          | error e => exact ⟨rfl, hafter⟩
          | ok => exact ih hstay (count + 1) hafter

/-- Walks of both trees go the same way. -/
theorem walk_congr {settings : WalkSettings} {root : Path} {part : Trail → Prop} {tree tree' : Node}
    (htree : tree.WellFormed) (htree' : tree'.WellFormed) (hsame : SameOutside part tree tree')
    (hroot : LeadsAlike tree tree' root)
    (hunseen : ∀ plan, prepare settings root tree = .ok plan → IsUnseen plan root part tree tree')
    {onFile : FoundFile → Run σ Unit} (hblind : IsBlind onFile) (steps : Nat) {w w' : World σ}
    (hbeside : Beside tree tree' w w') :
    ((walk settings steps root onFile).on w).1 = ((walk settings steps root onFile).on w').1 ∧
      Beside tree tree' ((walk settings steps root onFile).on w).2
        ((walk settings steps root onFile).on w').2 := by
  have hprepare : prepare settings root tree = prepare settings root tree' := by
    unfold prepare
    rw [hroot.kindAt_eq]
  rw [walk_on, walk_on, hbeside.left, hbeside.right, ← hprepare]
  cases hplan : prepare settings root tree with
  | error e => exact ⟨rfl, hbeside⟩
  | ok plan =>
    obtain ⟨place, bar, entries, hlocate⟩ := locate_of_prepare hplan
    have hstart : InStep plan root tree tree'
        [(openDirectory tree root, openDirectory tree' root)] := by
      apply InStep.openDirectory (hunseen plan hplan) htree htree' (.root hlocate) .nil hroot
      intro place' node h
      rw [hlocate] at h
      cases h
      rfl
    exact go_congr hsame (hunseen plan hplan) htree htree' hblind steps hstart 0 hbeside

/-- What a walk does not see makes no difference to it: in two trees that differ in a part of which
the walk sees nothing, with a root that leads to the same, it gives back the same, and hands on the
same files, whatever the settings. -/
theorem deliveries_congr_of_unseen (settings : WalkSettings) (root : Path) (part : Trail → Prop)
    (tree tree' : Node) (f : FoundFile → σ → Except SurveyError Unit × σ) (log : Array LogEvent)
    (kept : σ) (htree : tree.WellFormed) (htree' : tree'.WellFormed)
    (hsame : SameOutside part tree tree') (hroot : LeadsAlike tree tree' root)
    (hunseen : ∀ plan, prepare settings root tree = .ok plan → IsUnseen plan root part tree tree')
    (steps : Nat) :
    ((walk settings steps root (shown f)).on ⟨tree, log, kept⟩).1 =
        ((walk settings steps root (shown f)).on ⟨tree', log, kept⟩).1 ∧
      deliveries settings steps root (shown f) ⟨tree, log, kept⟩ =
        deliveries settings steps root (shown f) ⟨tree', log, kept⟩ := by
  have hbeside : Beside tree tree' (World.watched ⟨tree, log, kept⟩)
      (World.watched ⟨tree', log, kept⟩) := ⟨rfl, rfl, rfl, rfl⟩
  obtain ⟨hresult, hafter⟩ :=
    walk_congr htree htree' hsame hroot hunseen (isBlind_shown f).watch steps hbeside
  constructor
  · rw [walk_watch, walk_watch settings steps root (shown f) ⟨tree', log, kept⟩]
    exact hresult
  · exact congrArg Prod.snd hafter.kept

def forkedSettings (followLinks : Bool) : WalkSettings := ⟨["p"], "utf-8", ["k", "l"], followLinks⟩

def forkedRules : List Exclusion.Rule :=
  [⟨[.upper, .literal 'k'], false, false⟩, ⟨[.upper, .literal 'l'], false, false⟩]

theorem compile_forked (root : Path) : Exclusions.compile root ["k", "l"] =
    .ok ⟨(Path.strip? Exclusions.here root).getD root, forkedRules⟩ := rfl

/-- A file, a directory with a file, and what is to be excluded: an entry and a link. -/
def forkedEntries (inner : Node) (target : Path) : List (Name × Node) :=
  [(Path.ofString "a.p", .file (.ok [])),
    (Path.ofString "d", .directory none [(Path.ofString "b.p", .file (.ok []))]),
    (Path.ofString "k", inner), (Path.ofString "l", .link target)]

theorem eq_of_lookup_forkedEntries {inner : Node} {target : Path} {name : Name} {child : Node}
    (h : (forkedEntries inner target).lookup name = some child) :
    (name = Path.ofString "a.p" ∧ child = .file (.ok [])) ∨
      (name = Path.ofString "d" ∧
        child = .directory none [(Path.ofString "b.p", .file (.ok []))]) ∨
      (name = Path.ofString "k" ∧ child = inner) ∨
      (name = Path.ofString "l" ∧ child = .link target) := by
  simpa [forkedEntries] using Node.mem_of_lookup h

def forkedTree (inner : Node) (target : Path) : Node :=
  .directory none [(Path.ofString "r", .directory none (forkedEntries inner target))]

def forkedPart (place : Trail) : Prop :=
  [Path.ofString "k", Path.ofString "r"] <:+ place ∨ [Path.ofString "l", Path.ofString "r"] <:+ place

theorem sameOutside_forked (inner inner' : Node) (target target' : Path) :
    SameOutside forkedPart (forkedTree inner target) (forkedTree inner' target') := by
  refine SameBelow.sameOutside (.directory _ (.cons ⟨rfl, .directory _ ?_⟩ .nil))
  refine .cons ⟨rfl, .refl _ _ _⟩ (.cons ⟨rfl, .refl _ _ _⟩ (.cons ⟨rfl, ?_⟩ (.cons ⟨rfl, ?_⟩ .nil)))
  · exact .inside (fun names ↦ Or.inl (List.suffix_append names _)) _ _
  · exact .inside (fun names ↦ Or.inr (List.suffix_append names _)) _ _

/-- A link that is followed fails even if it is excluded: where it leads nowhere, back to a directory
under way, or to a directory that cannot be opened. So does a root behind it, followed or not. -/
theorem excluded_link_not_unseen :
    let whole := forkedTree (.directory none []) (Path.ofString "d")
    let broken := forkedTree (.directory none []) (Path.ofString "none")
    let looped := forkedTree (.directory none []) (Path.ofString ".")
    let barred := forkedTree (.directory (some (.system 13)) []) (Path.ofString "k")
    (∀ tree ∈ [broken, looped, barred], SameOutside forkedPart whole tree) ∧
      (∀ root ∈ [Path.ofString "r", Path.ofString "r/l/.."], ∀ followLinks, ∃ exclusions,
        Exclusions.compile root (forkedSettings followLinks).excluded = .ok exclusions ∧
          ∀ name ∈ [Path.ofString "k", Path.ofString "l"], ∀ isDirectory,
            exclusions.excludes (root.join name) isDirectory) ∧
      ((walk (forkedSettings true) 9 (Path.ofString "r") ignore).on ⟨whole, #[], ()⟩).1 =
        .ok (some 2) ∧
      ((walk (forkedSettings true) 9 (Path.ofString "r") ignore).on ⟨broken, #[], ()⟩).1 =
        .error (.walk (.io (some (Path.ofString "r/l")) .notFound)) ∧
      ((walk (forkedSettings true) 9 (Path.ofString "r") ignore).on ⟨looped, #[], ()⟩).1 =
        .error (.walk (.loop (Path.ofString "r/l") (Path.ofString "r"))) ∧
      ((walk (forkedSettings true) 9 (Path.ofString "r") ignore).on ⟨barred, #[], ()⟩).1 =
        .error (.walk (.io none (.system 13))) ∧
      ((walk (forkedSettings false) 9 (Path.ofString "r/l/..") ignore).on ⟨whole, #[], ()⟩).1 =
        .ok (some 2) ∧
      ((walk (forkedSettings false) 9 (Path.ofString "r/l/..") ignore).on ⟨broken, #[], ()⟩).1 =
        .error (.io (Path.ofString "r/l/..") .notFound) := by
  refine ⟨?_, ?_, ?_, ?_, ?_, ?_, ?_, ?_⟩
  · intro tree htree
    simp only [List.mem_cons, List.not_mem_nil, or_false] at htree
    rcases htree with rfl | rfl | rfl <;> exact sameOutside_forked _ _ _ _
  · intro root hroot followLinks
    refine ⟨_, compile_forked root, fun name hname isDirectory ↦ ?_⟩
    rw [List.mem_pair] at hroot hname
    rcases hroot with rfl | rfl <;> rcases hname with rfl | rfl <;> cases isDirectory <;> cbv
  all_goals
    rw [walk_on, prepare, forkedSettings, compile_forked]
    cbv

/-- A directory to exclude, and a link to exclude that leads to the other directory. -/
def forkedLeft : Node :=
  forkedTree (.directory none [(Path.ofString "y.p", .file (.ok []))]) (Path.ofString "d")

/-- A file to exclude, and a link to exclude that leads to the other file. -/
def forkedRight : Node := forkedTree (.file (.ok [])) (Path.ofString "a.p")

def forkedPlan : Plan := ⟨forkedSettings true, .utf8, ⟨Path.ofString "r", forkedRules⟩⟩

def forkedRoot : Level := ⟨Path.ofString "r", [Path.ofString "r"]⟩

def forkedBelow : Level := ⟨Path.ofString "r/d", [Path.ofString "d", Path.ofString "r"]⟩

theorem descent_forked {levels : List Level}
    (h : Descent forkedPlan forkedLeft (Path.ofString "r") levels) :
    levels = [] ∨ levels = [forkedRoot] ∨ levels = [forkedBelow, forkedRoot] := by
  induction h with
  | nil => exact Or.inl rfl
  | @root place bar entries h =>
    have hplace : forkedLeft.placeAt (Path.ofString "r") = .ok [Path.ofString "r"] := by cbv
    rw [Node.placeAt, h] at hplace
    cases bar <;> cases hplace
    exact Or.inr (Or.inl rfl)
  | @enter here above name child place bar entries h hchild hmeet hopen ih =>
    rcases ih with ih | ih | ih
    · cases ih
    · cases ih
      rcases eq_of_lookup_forkedEntries hchild with
        ⟨rfl, rfl⟩ | ⟨rfl, rfl⟩ | ⟨rfl, rfl⟩ | ⟨rfl, rfl⟩
      · cases hmeet
      · cases hmeet
        exact Or.inr (Or.inr rfl)
      · have hexcluded : forkedPlan.exclusions.excludes
            (forkedRoot.path.join (Path.ofString "k")) true := by cbv
        rw [hopen] at hexcluded
        cases hexcluded
      · have hexcluded : forkedPlan.exclusions.excludes
            (forkedRoot.path.join (Path.ofString "l")) true := by cbv
        rw [hopen] at hexcluded
        cases hexcluded
    · cases ih
      have hmem := Node.mem_of_lookup hchild
      change (name, child) ∈ [(Path.ofString "b.p", Node.file (.ok []))] at hmem
      rw [List.mem_singleton] at hmem
      cases hmem
      cases hmeet

theorem isUnseen_forked :
    IsUnseen forkedPlan (Path.ofString "r") forkedPart forkedLeft forkedRight where
  names here above name hdescent := by
    rcases descent_forked hdescent with h | h | h
    · cases h
    · cases h
      change (List.lookup name (forkedEntries _ _)).isSome ↔
        (List.lookup name (forkedEntries _ _)).isSome
      simp [forkedEntries, List.lookup_isSome_iff]
    · cases h
      exact Iff.rfl
  hidden here above name child child' hdescent hchild hchild' := by
    rcases descent_forked hdescent with h | h | h
    · cases h
    · cases h
      rcases eq_of_lookup_forkedEntries hchild with
        ⟨rfl, rfl⟩ | ⟨rfl, rfl⟩ | ⟨rfl, rfl⟩ | ⟨rfl, rfl⟩
      · refine Or.inl ⟨?_, by simp [Node.kind]⟩
        unfold forkedPart
        decide +kernel
      · refine Or.inl ⟨?_, by simp [Node.kind]⟩
        unfold forkedPart
        decide +kernel
      · cases hchild'
        exact Or.inr ⟨⟨_, _, rfl, by cbv⟩, ⟨_, _, rfl, by cbv⟩⟩
      · cases hchild'
        refine Or.inr ⟨⟨[Path.ofString "d", Path.ofString "r"],
          .directory none [(Path.ofString "b.p", .file (.ok []))], by cbv, by cbv⟩,
          ⟨[Path.ofString "a.p", Path.ofString "r"], .file (.ok []), by cbv, by cbv⟩⟩
    · cases h
      have hmem := Node.mem_of_lookup hchild
      change (name, child) ∈ [(Path.ofString "b.p", Node.file (.ok []))] at hmem
      rw [List.mem_singleton] at hmem
      cases hmem
      refine Or.inl ⟨?_, by simp [Node.kind]⟩
      unfold forkedPart
      decide +kernel

/-- Notes the path of a file. -/
def collectPath (file : FoundFile) (paths : List Path) : Except SurveyError Unit × List Path :=
  (.ok (), paths ++ [file.path])

theorem deliveries_congr_of_unseen_forked :
    ((walk (forkedSettings true) 9 (Path.ofString "r") (shown collectPath)).on ⟨forkedRight, #[], []⟩).1 =
        .ok (some 2) ∧
      (deliveries (forkedSettings true) 9 (Path.ofString "r") (shown collectPath)
        ⟨forkedRight, #[], []⟩).map (·.file.path) = [Path.ofString "r/a.p", Path.ofString "r/d/b.p"] := by
  have hleft : forkedLeft.WellFormed := by
    have hmade : [Node.Change.write (Path.ofString "r/a.p") [],
        .write (Path.ofString "r/d/b.p") [], .write (Path.ofString "r/k/y.p") [],
        .makeLink (Path.ofString "r/l") (Path.ofString "d")].foldl Node.apply .empty =
          forkedLeft := by cbv
    exact hmade ▸ Node.wellFormed_empty.foldl_apply _
  have hright : forkedRight.WellFormed := by
    have hmade : [Node.Change.write (Path.ofString "r/a.p") [],
        .write (Path.ofString "r/d/b.p") [], .write (Path.ofString "r/k") [],
        .makeLink (Path.ofString "r/l") (Path.ofString "a.p")].foldl Node.apply .empty =
          forkedRight := by cbv
    exact hmade ▸ Node.wellFormed_empty.foldl_apply _
  have hroot : LeadsAlike forkedLeft forkedRight (Path.ofString "r") := by
    exact Or.inr ⟨_, _, _, by cbv, by cbv, .directory none _ _⟩
  have hunseen (plan : Plan)
      (hplan : prepare (forkedSettings true) (Path.ofString "r") forkedLeft = .ok plan) :
      IsUnseen plan (Path.ofString "r") forkedPart forkedLeft forkedRight := by
    have hprepare : prepare (forkedSettings true) (Path.ofString "r") forkedLeft =
        .ok forkedPlan := by
      rw [prepare, forkedSettings, compile_forked]
      cbv
    cases hprepare.symm.trans hplan
    exact isUnseen_forked
  obtain ⟨hresult, hmade⟩ := deliveries_congr_of_unseen (forkedSettings true) (Path.ofString "r")
    forkedPart forkedLeft forkedRight collectPath #[] [] hleft hright (sameOutside_forked _ _ _ _) hroot
    hunseen 9
  rw [← hresult, ← hmade]
  constructor
  · rw [walk_on, prepare, forkedSettings, compile_forked]
    cbv
  · rw [deliveries, walk_on, prepare, forkedSettings, compile_forked]
    cbv

end SourceSurvey.Walk
