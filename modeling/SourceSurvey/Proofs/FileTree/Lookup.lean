import SourceSurvey.Proofs.FileTree.Way

/-!
# Looking up what lies below a root

A path is followed from the top of a tree, through links. Behind the root, plain names that lead
through directories lead to the same place as one goes down the tree itself. So, where every directory
below the root can be listed and every file read, what the tree shows under joined paths is the part of
the tree that stands at the root.
-/

namespace SourceSurvey.Node

open SourceSurvey.Path (IsPlain joinAll)

/-- What lies below a node under the given names, one inside the other, no link being followed. -/
def under? (node : Node) : List Name → Option Node
  | [] => some node
  | name :: names => (node.child? name).bind fun child ↦ child.under? names

theorem under?_concat (node : Node) (names : List Name) (name : Name) :
    node.under? (names ++ [name]) = (node.under? names).bind fun inner ↦ inner.child? name := by
  induction names generalizing node with
  | nil => cases h : node.child? name <;> simp [under?, h]
  | cons first names ih =>
    rw [List.cons_append, under?, under?]
    cases node.child? first with
    | none => rfl
    | some child => exact ih child

theorem WellFormed.under {node inner : Node} {names : List Name} (h : node.WellFormed)
    (hunder : node.under? names = some inner) :
    inner.WellFormed ∧ ∀ name ∈ names, IsPlain name := by
  induction names generalizing node with
  | nil => exact ⟨Option.some.inj hunder ▸ h, by simp⟩
  | cons name names ih =>
    rw [under?, Option.bind_eq_some_iff] at hunder
    obtain ⟨child, hchild, hunder⟩ := hunder
    obtain ⟨hwf, hplain⟩ := h.child hchild
    exact ⟨(ih hwf hunder).1, by simpa using ⟨hplain, (ih hwf hunder).2⟩⟩

theorem lookup_of_mem {entries : List (Name × Node)} (hnodup : (entries.map (·.1)).Nodup)
    {name : Name} {child : Node} (h : (name, child) ∈ entries) :
    entries.lookup name = some child := by
  induction entries with
  | nil => cases h
  | cons entry entries ih =>
    rw [List.map_cons, List.nodup_cons] at hnodup
    rcases List.mem_cons.1 h with rfl | hrest
    · simp
    · have hne : name ≠ entry.1 := by
        rintro rfl
        exact hnodup.1 (List.mem_map.2 ⟨_, hrest, rfl⟩)
      rw [List.lookup_cons, beq_false_of_ne hne]
      exact ih hnodup.2 hrest

/-! ## Following -/

/-- Following plain names goes down the tree, as long as no name is too long. -/
theorem follow_under {top node inner : Node} {place : Trail} {names : List Name}
    (hnode : node.WellFormed) (hat : top.at? place = some node)
    (hunder : node.under? names = some inner) (hlink : inner.kind ≠ .link) (links : Nat) :
    top.follow true links place names = .found (names.reverse ++ place) inner ∨
      top.follow true links place names = .failed .nameTooLong := by
  induction names generalizing node place with
  | nil =>
    rw [under?, Option.some_inj] at hunder
    rw [follow.eq_def, hat, hunder]
    exact Or.inl rfl
  | cons name names ih =>
    rw [under?, Option.bind_eq_some_iff] at hunder
    obtain ⟨child, hchild, hunder⟩ := hunder
    obtain ⟨hwf, hplain⟩ := hnode.child hchild
    have hat' : top.at? (name :: place) = some child := by rw [at?, hat, Option.bind_some, hchild]
    have hgo := ih hwf hat' hunder
    rw [List.reverse_cons, List.append_assoc, List.singleton_append]
    cases node with
    | file | link | special => cases hchild
    | directory bar entries =>
      rw [child?] at hchild
      rw [follow.eq_def, hat]
      by_cases hlong : maxName < name.length
      · exact Or.inr (by simp [hplain.ne_here, hplain.ne_up, hlong])
      · cases child with
        | file | special | directory => simpa [hplain.ne_here, hplain.ne_up, hlong, hchild] using hgo
        | link target =>
          -- nothing lies below a link
          cases names with
          | nil =>
            cases hunder
            exact absurd rfl hlink
          | cons => cases hunder

/-! ## Joined paths -/

theorem pathSteps_joinAll {root : Path} {names : List Name} (hplain : ∀ name ∈ names, IsPlain name)
    (hne : names ≠ []) : pathSteps (joinAll root names) = root.steps ++ names := by
  obtain ⟨init, name, rfl⟩ := (List.eq_nil_or_concat names).resolve_left hne
  rw [List.concat_eq_append] at hplain ⊢
  have hname := hplain name (by simp)
  have hlast : (joinAll root (init ++ [name])).getLast? ≠ some Path.slash := by
    rw [Path.joinAll_concat, Path.join]
    split
    · exact hname.getLast?_append _
    · rw [List.append_cons]
      exact hname.getLast?_append _
  have hsteps := Path.steps_drop_joinAll (Nat.zero_le root.length) hplain
  rw [pathSteps, if_neg hlast, List.append_nil]
  simpa using hsteps

/-- A root that leads to a node, joined with the names of something below it, leads to that thing or
is refused. -/
theorem locate_joinAll {top node inner : Node} {root : Path} {place : Trail} {names : List Name}
    (htop : top.WellFormed) (hroot : top.locate true root = .ok (place, node))
    (hunder : node.under? names = some inner) (hlink : inner.kind ≠ .link) :
    top.locate true (joinAll root names) = .ok (names.reverse ++ place, inner) ∨
      ∃ e, top.locate true (joinAll root names) = .error e := by
  have hat := at?_of_locate hroot
  have hnode := (htop.at hat).1
  have hplain := (hnode.under hunder).2
  by_cases hne : names = []
  · subst hne
    rw [under?, Option.some_inj] at hunder
    exact Or.inl (hunder ▸ hroot)
  obtain ⟨left, hleft⟩ := goesOn_of_locate hroot
  rw [locate]
  rcases find_eq_follow top true (joinAll root names) with ⟨e, hfailed⟩ | hfollow
  · exact Or.inr ⟨e, by rw [hfailed]⟩
  · rw [hfollow, pathSteps_joinAll hplain hne, hleft true names (Or.inl rfl)]
    rcases follow_under hnode hat hunder hlink left with hfound | hfailed
    · exact Or.inl (by rw [hfound])
    · exact Or.inr ⟨_, by rw [hfailed]⟩

/-- An entry of a directory that is no link is at its place, unless its path or its name is refused. -/
theorem locate_join {top child : Node} {path : Path} {place : Trail} {bar : Option IoError}
    {entries : List (Name × Node)} {name : Name} (htop : top.WellFormed)
    (h : top.locate true path = .ok (place, .directory bar entries))
    (hchild : entries.lookup name = some child) (hlink : child.kind ≠ .link) :
    top.locate true (path.join name) =
      if (path.join name).contains 0 then .error .zeroInName
      else if maxPath < (path.join name).length ∨ maxName < name.length then .error .nameTooLong
      else .ok (name :: place, child) := by
  have hat := at?_of_locate h
  have hname : IsPlain name := ((htop.at hat).1.child hchild).2
  have hnames : ∀ n ∈ [name], IsPlain n := by simpa using hname
  obtain ⟨left, hgo⟩ := goesOn_of_locate h
  have hsteps : pathSteps (path.join name) = path.steps ++ [name] :=
    pathSteps_joinAll hnames (List.cons_ne_nil name [])
  have hhere : top.follow true left (name :: place) [] = .found (name :: place) child := by
    rw [follow.eq_def, at?, hat, Option.bind_some, child?, hchild]
  have hlast : top.follow true left place [name] =
      if maxName < name.length then .failed .nameTooLong else .found (name :: place) child := by
    rw [follow.eq_def, hat]
    cases child with
    | link target => exact absurd rfl hlink
    | file | special | directory => simp [hname.ne_here, hname.ne_up, hchild, hhere]
  have hne : (path.join name).isEmpty = false := by
    unfold Path.join
    split <;> simp [hname.ne_nil]
  rw [locate, find, hsteps, hgo true [name] (Or.inl rfl), hlast, hne]
  -- a name that is too long is refused as a path that is too long
  by_cases hlong : maxName < name.length
  · simp only [hlong, or_true, if_true]
    grind
  · simp only [hlong, or_false]
    grind

/-- Looked at by itself, an entry of a directory is what the directory has under its name. -/
theorem ownKindAt_join {top child : Node} {path : Path} {place : Trail} {bar : Option IoError}
    {entries : List (Name × Node)} {name : Name} (htop : top.WellFormed)
    (h : top.locate true path = .ok (place, .directory bar entries))
    (hchild : entries.lookup name = some child) :
    top.ownKindAt (path.join name) = .ok child.kind ∨
      ∃ e, top.ownKindAt (path.join name) = .error e := by
  have hat := at?_of_locate h
  have hname : IsPlain name := ((htop.at hat).1.child hchild).2
  obtain ⟨left, hgo⟩ := goesOn_of_locate h
  have hnames : ∀ n ∈ [name], IsPlain n := by simpa using hname
  have hsteps : pathSteps (path.join name) = path.steps ++ [name] :=
    pathSteps_joinAll hnames (List.cons_ne_nil name [])
  rw [ownKindAt, locate]
  rcases find_eq_follow top false (path.join name) with ⟨e, hfailed⟩ | hfollow
  · rw [hfailed]
    exact Or.inr ⟨e, rfl⟩
  · rw [hfollow, hsteps, hgo false [name] (Or.inr (List.cons_ne_nil name [])), follow.eq_def, hat]
    by_cases hlong : maxName < name.length
    · exact Or.inr ⟨.nameTooLong, by simp [hname.ne_here, hname.ne_up, hlong, Except.map]⟩
    · have hhere : top.follow false left (name :: place) [] = .found (name :: place) child := by
        rw [follow.eq_def, at?, hat, Option.bind_some, child?, hchild]
      refine Or.inl ?_
      cases child with
      | link target => simp [hname.ne_here, hname.ne_up, hlong, hchild, Except.map]
      | file | special | directory =>
        simp [hname.ne_here, hname.ne_up, hlong, hchild, hhere, Except.map]

/-- Every directory below a root can be listed, and every file read. -/
structure Readable (top : Node) (root : Path) (node : Node) : Prop where
  listed : ∀ names bar entries, node.under? names = some (.directory bar entries) →
    (top.listAt (joinAll root names)).isOk
  read : ∀ names content, node.under? names = some (.file content) →
    (top.readAt (joinAll root names)).isOk

theorem Readable.ofFile {top : Node} {root : Path} {read : Except IoError (List UInt8)}
    (h : (top.readAt root).isOk) : top.Readable root (.file read) where
  listed names _ _ hunder := by cases names <;> cases hunder
  read names _ hunder := by
    cases names with
    | nil => exact h
    | cons => cases hunder

theorem Readable.ofLink {top : Node} {root target : Path} : top.Readable root (.link target) where
  listed names _ _ hunder := by cases names <;> cases hunder
  read names _ hunder := by cases names <;> cases hunder

theorem Readable.ofEntries {top : Node} {root : Path} {bar : Option IoError}
    {entries : List (Name × Node)} (hroot : (top.listAt root).isOk)
    (h : ∀ entry ∈ entries, top.Readable (root.join entry.1) entry.2) :
    top.Readable root (.directory bar entries) := by
  have hbelow {name : Name} {names : List Name} {inner : Node}
      (hunder : (Node.directory bar entries).under? (name :: names) = some inner) :
      ∃ child, top.Readable (root.join name) child ∧ child.under? names = some inner := by
    rw [under?, Option.bind_eq_some_iff] at hunder
    obtain ⟨child, hchild, hunder⟩ := hunder
    exact ⟨child, h _ (mem_of_lookup hchild), hunder⟩
  constructor
  · intro names bar inner hunder
    cases names with
    | nil => exact hroot
    | cons name names =>
      obtain ⟨child, hread, hunder⟩ := hbelow hunder
      exact hread.listed names bar inner hunder
  · intro names content hunder
    cases names with
    | nil => cases hunder
    | cons name names =>
      obtain ⟨child, hread, hunder⟩ := hbelow hunder
      exact hread.read names content hunder

section

variable {top node : Node} {root : Path} {place : Trail}

/-- A directory below the root is not barred, and is listed with its own entries. -/
theorem Readable.listAt (h : top.Readable root node) (htop : top.WellFormed)
    (hroot : top.locate true root = .ok (place, node)) {names : List Name} {bar : Option IoError}
    {entries : List (Name × Node)} (hunder : node.under? names = some (.directory bar entries)) :
    bar = none ∧
      top.listAt (joinAll root names) = .ok (entries.map fun entry ↦ (entry.1, entry.2.kind)) := by
  have hlisted := h.listed names bar entries hunder
  rcases locate_joinAll htop hroot hunder (by simp [kind]) with hfound | ⟨e, hfailed⟩
  · obtain rfl := bar_eq_none hfound hlisted
    exact ⟨rfl, by rw [Node.listAt, hfound]⟩
  · rw [Node.listAt, hfailed] at hlisted
    cases hlisted

/-- Reading a file below the root gives its own content. -/
theorem Readable.readAt (h : top.Readable root node) (htop : top.WellFormed)
    (hroot : top.locate true root = .ok (place, node)) {names : List Name}
    {read : Except IoError (List UInt8)} (hunder : node.under? names = some (.file read)) :
    ∃ content, read = .ok content ∧ top.readAt (joinAll root names) = .ok content := by
  have hread := h.read names read hunder
  rw [Node.readAt] at hread ⊢
  rcases locate_joinAll htop hroot hunder (by simp [kind]) with hfound | ⟨e, hfailed⟩
  · rw [hfound] at hread ⊢
    cases read with
    | ok content => exact ⟨content, rfl, rfl⟩
    | error e => cases hread
  · rw [hfailed] at hread
    cases hread

end

end SourceSurvey.Node
