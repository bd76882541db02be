import Mathlib
import SourceSurvey.FileTree
import SourceSurvey.Proofs.FileTree.Components

/-!
# Well-formed trees

In a well-formed tree the entries of every directory have plain names, all different. Every change
of a tree keeps it well-formed, so that all trees that are made by changes are.
-/

namespace SourceSurvey.Node

open SourceSurvey.Path (IsPlain)

inductive WellFormed : Node → Prop where
  | file (read : Except IoError (List UInt8)) : WellFormed (.file read)
  | link (target : Path) : WellFormed (.link target)
  | special (read : Except IoError (List UInt8)) : WellFormed (.special read)
  | directory (bar : Option IoError) (entries : List (Name × Node))
      (nodup : (entries.map (·.1)).Nodup) (plain : ∀ entry ∈ entries, IsPlain entry.1)
      (below : ∀ entry ∈ entries, WellFormed entry.2) : WellFormed (.directory bar entries)

theorem wellFormed_empty : WellFormed empty := .directory none [] (by simp) (by simp) (by simp)

/-! ## Looking up -/

theorem mem_of_lookup {entries : List (Name × Node)} {name : Name} {child : Node}
    (h : entries.lookup name = some child) : (name, child) ∈ entries := by
  induction entries with
  | nil => simp at h
  | cons entry entries ih =>
    rw [List.lookup_cons] at h
    split at h
    · rename_i heq
      rw [Option.some_inj] at h
      rw [beq_iff_eq] at heq
      subst heq h
      exact List.mem_cons_self
    · exact List.mem_cons_of_mem _ (ih h)

theorem WellFormed.child {node child : Node} {name : Name} (h : node.WellFormed)
    (hchild : node.child? name = some child) : child.WellFormed ∧ IsPlain name := by
  cases h with
  | file | link | special => simp [child?] at hchild
  | directory bar entries nodup plain below =>
    have hmem := mem_of_lookup hchild
    exact ⟨below _ hmem, plain _ hmem⟩

theorem WellFormed.nodup {bar : Option IoError} {entries : List (Name × Node)}
    (h : (Node.directory bar entries).WellFormed) : (entries.map (·.1)).Nodup := by
  cases h with
  | directory _ _ nodup => exact nodup

theorem WellFormed.at {top node : Node} {place : Trail} (h : top.WellFormed)
    (hat : top.at? place = some node) : node.WellFormed ∧ ∀ name ∈ place, IsPlain name := by
  induction place generalizing node with
  | nil =>
    rw [at?, Option.some_inj] at hat
    exact ⟨hat ▸ h, by simp⟩
  | cons name place ih =>
    rw [at?, Option.bind_eq_some_iff] at hat
    obtain ⟨parent, hparent, hchild⟩ := hat
    obtain ⟨hnode, hname⟩ := (ih hparent).1.child hchild
    exact ⟨hnode, by simpa using ⟨hname, (ih hparent).2⟩⟩

/-- What a path leads to is the node at the place that it leads to. -/
theorem follow_found {top : Node} {last : Bool} {links : Nat} {place place' : Trail}
    {steps : List Name} {node : Node} (h : top.follow last links place steps = .found place' node) :
    top.at? place' = some node := by
  fun_induction follow top last links place steps <;> grind [at?, child?]

theorem mem_pathSteps {path : Path} {step : Name} (h : step ∈ pathSteps path) :
    step ≠ [] ∧ Path.slash ∉ step := by
  rw [pathSteps, List.mem_append] at h
  rcases h with h | h
  · exact Path.mem_steps h
  · have hdot : step = [Path.dot] := by
      split at h
      · simpa using h
      · simp at h
    rw [hdot]
    decide

/-- Unless a path is refused as it stands, it is followed from the top. -/
theorem find_eq_follow (top : Node) (last : Bool) (path : Path) :
    (∃ e, top.find last path = .failed e) ∨
      top.find last path = top.follow last maxLinks [] (pathSteps path) := by
  rw [find]
  grind

theorem find_found {top node : Node} {last : Bool} {path : Path} {place : Trail}
    (h : top.find last path = .found place node) : top.at? place = some node := by
  rcases find_eq_follow top last path with ⟨e, hfailed⟩ | hfollow
  · rw [hfailed] at h
    cases h
  · exact follow_found (hfollow ▸ h)

theorem locate_eq_ok_iff {top node : Node} {last : Bool} {path : Path} {place : Trail} :
    top.locate last path = .ok (place, node) ↔ top.find last path = .found place node := by
  rw [locate]
  cases top.find last path <;> simp

theorem at?_of_locate {top node : Node} {last : Bool} {path : Path} {place : Trail}
    (h : top.locate last path = .ok (place, node)) : top.at? place = some node :=
  find_found (locate_eq_ok_iff.1 h)

/-- At an entry of a directory stands what the directory has under its name. -/
theorem at?_cons {top : Node} {place : Trail} {bar : Option IoError} {entries : List (Name × Node)}
    (h : top.at? place = some (.directory bar entries)) (name : Name) :
    top.at? (name :: place) = entries.lookup name := by
  rw [at?, h]
  rfl

/-- A name that is missing at the end of a path is a plain one. -/
theorem follow_missing {top : Node} {last : Bool} {links : Nat} {place place' : Trail}
    {steps : List Name} {name : Name} (hsteps : ∀ step ∈ steps, step ≠ [] ∧ Path.slash ∉ step)
    (h : top.follow last links place steps = .missing place' name) : IsPlain name := by
  fun_induction follow top last links place steps with
  | case9 links place step rest bar entries hhere hup hlong hlookup hrest hat =>
    cases h
    obtain ⟨hne, hslash⟩ := hsteps _ List.mem_cons_self
    exact ⟨hne, hslash, hhere, hup⟩
  | case14 place step rest bar entries hhere hup hlong target hlookup hlast links htarget from_ hat ih =>
    refine ih (fun step hstep ↦ ?_) h
    rcases List.mem_append.1 hstep with hstep | hstep
    · exact mem_pathSteps hstep
    · exact hsteps _ (List.mem_cons_of_mem _ hstep)
  | case6 | case7 | case15 => grind
  | _ => cases h

/-! ## Changing -/

theorem map_fst_setEntry (name : Name) (node : Node) (entries : List (Name × Node)) :
    (setEntry name node entries).map (·.1) =
      if name ∈ entries.map (·.1) then entries.map (·.1) else entries.map (·.1) ++ [name] := by
  induction entries with
  | nil => rfl
  | cons entry entries ih =>
    rw [setEntry]
    grind

theorem mem_setEntry {name : Name} {node : Node} {entries : List (Name × Node)}
    {entry : Name × Node} (h : entry ∈ setEntry name node entries) :
    entry = (name, node) ∨ entry ∈ entries := by
  induction entries with
  | nil => exact Or.inl (by simpa [setEntry] using h)
  | cons first entries ih =>
    rw [setEntry] at h
    grind

section

variable {bar : Option IoError} {entries : List (Name × Node)}

theorem WellFormed.setEntry {name : Name} {node : Node} (h : (Node.directory bar entries).WellFormed)
    (hname : IsPlain name) (hnode : node.WellFormed) :
    (Node.directory bar (Node.setEntry name node entries)).WellFormed := by
  cases h with
  | directory _ _ nodup plain below =>
    refine .directory _ _ ?_ (fun entry hentry ↦ ?_) (fun entry hentry ↦ ?_)
    · rw [map_fst_setEntry]
      split
      · exact nodup
      · rename_i hnew
        exact List.nodup_append.2 ⟨nodup, by simp, by grind⟩
    · rcases mem_setEntry hentry with rfl | hold
      · exact hname
      · exact plain entry hold
    · rcases mem_setEntry hentry with rfl | hold
      · exact hnode
      · exact below entry hold

theorem WellFormed.filter (h : (Node.directory bar entries).WellFormed) (p : Name × Node → Bool) :
    (Node.directory bar (entries.filter p)).WellFormed := by
  cases h with
  | directory _ _ nodup plain below =>
    exact .directory _ _ (nodup.sublist (List.filter_sublist.map _))
      (fun entry hentry ↦ plain entry (List.mem_filter.1 hentry).1)
      (fun entry hentry ↦ below entry (List.mem_filter.1 hentry).1)

end

/-- Changing one directory keeps a tree well-formed, if it keeps the directory so. -/
theorem WellFormed.mapAt {f : List (Name × Node) → List (Name × Node)}
    (hf : ∀ bar entries, (Node.directory bar entries).WellFormed →
      (Node.directory bar (f entries)).WellFormed) (names : List Name) {node : Node}
    (h : node.WellFormed) : (mapAt f names node).WellFormed := by
  fun_induction Node.mapAt f names node with
  | case1 node =>
    cases node with
    | directory bar entries => exact hf bar entries h
    | file | link | special => exact h
  | case2 name names bar entries child hlookup ih =>
    have hchild : child.WellFormed ∧ IsPlain name := h.child hlookup
    exact h.setEntry hchild.2 (ih hchild.1)
  | case3 | case4 => exact h

theorem WellFormed.put {top node : Node} {name : Name} (h : top.WellFormed) (place : Trail)
    (hname : IsPlain name) (hnode : node.WellFormed) : (top.put place name node).WellFormed :=
  h.mapAt (fun _ _ hentries ↦ hentries.setEntry hname hnode) place.reverse

theorem WellFormed.drop {top : Node} (h : top.WellFormed) (place : Trail) (name : Name) :
    (top.drop place name).WellFormed :=
  h.mapAt (fun _ _ hentries ↦ hentries.filter _) place.reverse

theorem WellFormed.makeDirectories {top : Node} (h : top.WellFormed) {place : Trail}
    {steps : List Name} (hsteps : ∀ step ∈ steps, step ≠ [] ∧ Path.slash ∉ step) :
    ∀ after ∈ top.makeDirectories? place steps, after.WellFormed := by
  fun_induction makeDirectories? top place steps with
  | case1 => exact fun after hafter ↦ Option.some.inj hafter ▸ h
  | case3 top place step rest next node hfound ih =>
    exact ih h fun s hs ↦ hsteps s (List.mem_cons_of_mem step hs)
  | case4 top place step rest at_ name hmissing ih =>
    have hname := follow_missing (by simpa using hsteps step List.mem_cons_self) hmissing
    exact ih (h.put at_ hname wellFormed_empty) fun s hs ↦ hsteps s (List.mem_cons_of_mem step hs)
  | case2 | case5 => exact nofun

/-- The last name on the way to what a path leads to is a plain one. -/
theorem WellFormed.plain_of_found {top node : Node} (h : top.WellFormed) {last : Bool} {path : Path}
    {name : Name} {place : Trail} (hfound : top.find last path = .found (name :: place) node) :
    IsPlain name := by
  exact (h.at (find_found hfound)).2 name List.mem_cons_self

theorem find_missing {top : Node} {last : Bool} {path : Path} {name : Name} {place : Trail}
    (hmissing : top.find last path = .missing place name) : IsPlain name := by
  rcases find_eq_follow top last path with ⟨e, hfailed⟩ | hfollow
  · rw [hfailed] at hmissing
    cases hmissing
  · exact follow_missing (fun _ ↦ mem_pathSteps) (hfollow ▸ hmissing)

theorem WellFormed.writeFile {top : Node} (h : top.WellFormed) {path : Path}
    {content : List UInt8} : ∀ after ∈ top.writeFile? path content, after.WellFormed := by
  rw [writeFile?]
  split
  next hfound =>
    exact fun after hafter ↦ Option.some.inj hafter ▸ h.put _ (h.plain_of_found hfound) (.file _)
  next hmissing =>
    exact fun after hafter ↦ Option.some.inj hafter ▸ h.put _ (find_missing hmissing) (.file _)
  next => exact nofun

theorem WellFormed.makeLink {top : Node} (h : top.WellFormed) {path target : Path} :
    ∀ after ∈ top.makeLink? path target, after.WellFormed := by
  rw [makeLink?]
  split
  next hmissing =>
    exact fun after hafter ↦ Option.some.inj hafter ▸ h.put _ (find_missing hmissing) (.link target)
  next => exact nofun

theorem WellFormed.remove {top : Node} (h : top.WellFormed) {path : Path} :
    ∀ after ∈ top.remove? path, after.WellFormed := by
  rw [remove?]
  split
  next => exact fun after hafter ↦ Option.some.inj hafter ▸ h.drop _ _
  next => exact nofun

theorem WellFormed.after {top : Node} (h : top.WellFormed) (change : Change) :
    ∀ after ∈ top.after? change, after.WellFormed := by
  have hparents (path : Path) : ∀ step ∈ path.steps.dropLast, step ≠ [] ∧ Path.slash ∉ step :=
    fun step hstep ↦ Path.mem_steps ((List.dropLast_sublist _).subset hstep)
  intro after hafter
  cases change with
  | write path content =>
    obtain ⟨above, habove, hafter⟩ := Option.bind_eq_some_iff.1 hafter
    exact (h.makeDirectories (hparents path) above habove).writeFile after hafter
  | makeDirectory path => exact h.makeDirectories (fun _ ↦ Path.mem_steps) after hafter
  | makeLink path target =>
    obtain ⟨above, habove, hafter⟩ := Option.bind_eq_some_iff.1 hafter
    exact (h.makeDirectories (hparents path) above habove).makeLink after hafter
  | remove path => exact h.remove after hafter

/-- Every change keeps a tree well-formed. -/
theorem WellFormed.apply {top : Node} (h : top.WellFormed) (change : Change) :
    (top.apply change).WellFormed := by
  rw [Node.apply]
  cases hafter : top.after? change with
  | none => exact h
  | some after => exact h.after change after hafter

theorem WellFormed.foldl_apply {top : Node} (h : top.WellFormed) (changes : List Change) :
    (changes.foldl Node.apply top).WellFormed := by
  induction changes generalizing top with
  | nil => exact h
  | cons change changes ih => exact ih (h.apply change)

/-! ## Listing -/

/-- Why a node cannot be opened, if it is a barred directory. -/
def bar? : Node → Option IoError
  | directory bar _ => bar
  | _ => none

theorem placeAt_eq_ok {top node : Node} {path : Path} {place : Trail}
    (h : top.locate true path = .ok (place, node)) (hbar : node.bar? = none) :
    top.placeAt path = .ok place := by
  rw [placeAt, h]
  cases node with
  | file | link | special => rfl
  | directory bar entries =>
    cases hbar
    rfl

/-- A directory that can be listed is not barred. -/
theorem bar_eq_none {top : Node} {path : Path} {place : Trail} {bar : Option IoError}
    {entries : List (Name × Node)} (h : top.locate true path = .ok (place, .directory bar entries))
    (hlist : (top.listAt path).isOk) : bar = none := by
  rw [Node.listAt, h] at hlist
  cases bar with
  | none => rfl
  | some e => cases hlist

/-- The names in a listing are plain and all different. -/
theorem WellFormed.listAt {top : Node} (h : top.WellFormed) {path : Path}
    {entries : List (Name × Kind)} (hlist : top.listAt path = .ok entries) :
    (entries.map (·.1)).Nodup ∧ ∀ entry ∈ entries, IsPlain entry.1 := by
  rw [Node.listAt] at hlist
  split at hlist
  · cases hlist
  · rename_i place inner hlocate
    cases hlist
    have hdirectory := (h.at (find_found (locate_eq_ok_iff.1 hlocate))).1
    cases hdirectory with
    | directory _ _ nodup plain below =>
      refine ⟨by simpa [Function.comp_def] using nodup, fun entry hentry ↦ ?_⟩
      obtain ⟨whole, hwhole, rfl⟩ := List.mem_map.1 hentry
      exact plain whole hwhole
  · cases hlist
  · cases hlist

end SourceSurvey.Node
