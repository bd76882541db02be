import SourceSurvey.Proofs.FileTree.Lookup

/-!
# Trees that differ in a part

Two trees that are the same outside a part show the same under every path that does not lead through
that part. Where a path leads to the same directory in both, so do the paths of the entries that are alike
in it, whatever the path leads through.
-/

namespace SourceSurvey.Node

open SourceSurvey.Path (IsPlain joinAll)

/-- Nodes of one kind, files and special files that read the same, links to the same target, directories
that are barred alike. What is in a directory does not count. -/
inductive Alike : Node → Node → Prop where
  | file (read : Except IoError (List UInt8)) : Alike (.file read) (.file read)
  | link (target : Path) : Alike (.link target) (.link target)
  | special (read : Except IoError (List UInt8)) : Alike (.special read) (.special read)
  | directory (bar : Option IoError) (entries entries' : List (Name × Node)) :
    Alike (.directory bar entries) (.directory bar entries')

theorem Alike.kind_eq {node node' : Node} (h : Alike node node') : node.kind = node'.kind := by
  cases h <;> rfl

theorem Alike.bar?_eq {node node' : Node} (h : Alike node node') : node.bar? = node'.bar? := by
  cases h <;> rfl

/-- At no place outside a part do two trees differ. -/
def SameOutside (part : Trail → Prop) (top top' : Node) : Prop :=
  ∀ place, ¬ part place → Option.Rel Alike (top.at? place) (top'.at? place)

/-- Below a place, two nodes do not differ outside a part. -/
def SameBelow (part : Trail → Prop) (place : Trail) (node node' : Node) : Prop :=
  ∀ names, ¬ part (names.reverse ++ place) →
    Option.Rel Alike (node.under? names) (node'.under? names)

/-- A path does not lead through a part. -/
def Avoids (part : Trail → Prop) (top : Node) (path : Path) : Prop :=
  ∀ place ∈ top.wayOf true path, ¬ part place

theorem at?_eq_under? (top : Node) (place : Trail) : top.at? place = top.under? place.reverse := by
  induction place with
  | nil => rfl
  | cons name place ih => rw [at?, List.reverse_cons, under?_concat, ih]

section

variable {part : Trail → Prop} {top top' : Node} {place : Trail}

namespace SameBelow

theorem refl (part : Trail → Prop) (place : Trail) (node : Node) : SameBelow part place node node := by
  intro names _
  cases node.under? names with
  | none => exact .none
  | some inner => cases inner <;> exact .some (by constructor)

/-- It does not matter what stands in the part. -/
theorem inside (hpart : ∀ names, part (names ++ place)) (node node' : Node) :
    SameBelow part place node node' := fun names hnot ↦ absurd (hpart names.reverse) hnot

theorem directory (bar : Option IoError) {entries entries' : List (Name × Node)}
    (h : List.Forall₂ (fun entry entry' ↦
      entry.1 = entry'.1 ∧ SameBelow part (entry.1 :: place) entry.2 entry'.2) entries entries') :
    SameBelow part place (.directory bar entries) (.directory bar entries') := by
  intro names hnot
  cases names with
  | nil => exact .some (.directory bar entries entries')
  | cons name names =>
    rw [List.reverse_cons, List.append_assoc, List.singleton_append] at hnot
    rw [under?, under?, child?, child?]
    induction h with
    | nil => exact .none
    | @cons entry entry' entries entries' hentry _ ih =>
      rw [List.lookup_cons, List.lookup_cons, ← hentry.1]
      by_cases hname : name = entry.1
      · subst hname
        simpa using hentry.2 names hnot
      · simpa [beq_false_of_ne hname] using ih

/-- Trees are the same outside a part if they are so from the top down. -/
theorem sameOutside (h : SameBelow part [] top top') : SameOutside part top top' := by
  intro place hpart
  rw [at?_eq_under?, at?_eq_under?]
  exact h place.reverse (by simpa using hpart)

end SameBelow

namespace SameOutside

theorem at?_eq_none (h : SameOutside part top top') (hpart : ¬ part place)
    (hat : top.at? place = none) : top'.at? place = none := by
  have hplace := h place hpart
  rw [hat] at hplace
  generalize top'.at? place = found at hplace
  cases hplace
  rfl

theorem at?_eq_some {node : Node} (h : SameOutside part top top') (hpart : ¬ part place)
    (hat : top.at? place = some node) : ∃ node', top'.at? place = some node' ∧ Alike node node' := by
  have hplace := h place hpart
  rw [hat] at hplace
  generalize top'.at? place = found at hplace
  cases hplace with
  | some halike => exact ⟨_, rfl, halike⟩

/-- What a plain step leads to in the one tree and in the other. -/
theorem step {last : Bool} {links : Nat} {name : Name} {rest : List Name} {bar : Option IoError}
    {entries : List (Name × Node)} (h : SameOutside part top top')
    (hway : ∀ p ∈ top.way last links place (name :: rest), ¬ part p)
    (hat : top.at? place = some (.directory bar entries)) (hdot : ¬ name = [Path.dot])
    (hup : ¬ name = [Path.dot, Path.dot]) (hlong : ¬ maxName < name.length) :
    ¬ part (name :: place) ∧ ∃ entries', top'.at? place = some (.directory bar entries') ∧
      ∀ found, entries.lookup name = found →
        ∃ found', entries'.lookup name = found' ∧ Option.Rel Alike found found' := by
  rw [way.eq_def, hat] at hway
  simp only [if_neg hdot, if_neg hup, if_neg hlong, List.forall_mem_cons] at hway
  obtain ⟨node', hat', ⟨⟩⟩ := h.at?_eq_some hway.1 hat
  refine ⟨hway.2.1, _, hat', ?_⟩
  rintro found rfl
  have hplace := h (name :: place) hway.2.1
  rw [at?_cons hat, at?_cons hat'] at hplace
  exact ⟨_, rfl, hplace⟩

end SameOutside

/-- What is found in the one tree and in the other. -/
inductive SameFound : Found → Found → Prop where
  | found {place : Trail} {node node' : Node} (halike : Alike node node') :
      SameFound (.found place node) (.found place node')
  | missing (place : Trail) (name : Name) : SameFound (.missing place name) (.missing place name)
  | failed (e : IoError) : SameFound (.failed e) (.failed e)

/-- Steps that do not lead through the part lead to the same. -/
theorem follow_congr (h : SameOutside part top top') (last : Bool) (links : Nat) (place : Trail)
    (steps : List Name) (hway : ∀ p ∈ top.way last links place steps, ¬ part p) :
    SameFound (top.follow last links place steps) (top'.follow last links place steps) := by
  have hhere : ¬ part place := hway place (mem_way_self ..)
  fun_induction follow top last links place steps with
  | case1 links place steps hat =>
    rw [follow.eq_def top', h.at?_eq_none hhere hat]
    exact .failed _
  | case2 links place node hat =>
    obtain ⟨node', hat', halike⟩ := h.at?_eq_some hhere hat
    rw [follow.eq_def top', hat']
    exact .found halike
  | case3 links place step rest content hat | case4 links place step rest target hat
  | case5 links place step rest read hat =>
    -- no step leads on from what is no directory
    obtain ⟨node', hat', ⟨⟩⟩ := h.at?_eq_some hhere hat
    rw [follow.eq_def top', hat']
    exact .failed _
  | case6 links place rest bar entries hat ih =>
    obtain ⟨node', hat', ⟨⟩⟩ := h.at?_eq_some hhere hat
    rw [way.eq_def, hat] at hway
    rw [follow.eq_def top', hat']
    simp only [if_true, List.forall_mem_cons] at hway ⊢
    exact ih hway.2 (hway.2 _ (mem_way_self ..))
  | case7 links place rest bar entries hat hup ih =>
    obtain ⟨node', hat', ⟨⟩⟩ := h.at?_eq_some hhere hat
    rw [way.eq_def, hat] at hway
    rw [follow.eq_def top', hat']
    simp only [if_neg hup, if_true, List.forall_mem_cons] at hway ⊢
    exact ih hway.2 (hway.2 _ (mem_way_self ..))
  | case8 links place step rest bar entries hdot hup hlong hat =>
    obtain ⟨node', hat', ⟨⟩⟩ := h.at?_eq_some hhere hat
    rw [follow.eq_def top', hat']
    simp only [if_neg hdot, if_neg hup, if_pos hlong]
    exact .failed _
  | case9 links place step rest bar entries hdot hup hlong hlookup hrest hat =>
    obtain ⟨-, entries', hat', hfound⟩ := h.step hway hat hdot hup hlong
    obtain ⟨_, hlookup', ⟨⟩⟩ := hfound _ hlookup
    rw [follow.eq_def top', hat']
    simp only [if_neg hdot, if_neg hup, if_neg hlong, hlookup', if_pos hrest]
    exact .missing _ _
  | case10 links place step rest bar entries hdot hup hlong hlookup hrest hat =>
    obtain ⟨-, entries', hat', hfound⟩ := h.step hway hat hdot hup hlong
    obtain ⟨_, hlookup', ⟨⟩⟩ := hfound _ hlookup
    rw [follow.eq_def top', hat']
    simp only [if_neg hdot, if_neg hup, if_neg hlong, hlookup', if_neg hrest]
    exact .failed _
  | case11 links place step rest bar entries hdot hup hlong target hlookup hlast hat =>
    obtain ⟨-, entries', hat', hfound⟩ := h.step hway hat hdot hup hlong
    obtain ⟨_, hlookup', ⟨⟨⟩⟩⟩ := hfound _ hlookup
    rw [follow.eq_def top', hat']
    simp only [if_neg hdot, if_neg hup, if_neg hlong, hlookup', if_pos hlast]
    exact .found (.link target)
  | case12 place step rest bar entries hdot hup hlong target hlookup hlast hat =>
    obtain ⟨-, entries', hat', hfound⟩ := h.step hway hat hdot hup hlong
    obtain ⟨_, hlookup', ⟨⟨⟩⟩⟩ := hfound _ hlookup
    rw [follow.eq_def top', hat']
    simp only [if_neg hdot, if_neg hup, if_neg hlong, hlookup', if_neg hlast]
    exact .failed _
  | case13 place step rest bar entries hdot hup hlong target hlookup hlast links htarget hat =>
    obtain ⟨-, entries', hat', hfound⟩ := h.step hway hat hdot hup hlong
    obtain ⟨_, hlookup', ⟨⟨⟩⟩⟩ := hfound _ hlookup
    rw [follow.eq_def top', hat']
    simp only [if_neg hdot, if_neg hup, if_neg hlong, hlookup', if_neg hlast, if_pos htarget]
    exact .failed _
  | case14 place step rest bar entries hdot hup hlong target hlookup hlast links htarget from_ hat ih =>
    obtain ⟨-, entries', hat', hfound⟩ := h.step hway hat hdot hup hlong
    obtain ⟨_, hlookup', ⟨⟨⟩⟩⟩ := hfound _ hlookup
    rw [way.eq_def, hat] at hway
    simp only [if_neg hdot, if_neg hup, if_neg hlong, hlookup, if_neg hlast, if_neg htarget,
      List.forall_mem_cons] at hway
    rw [follow.eq_def top', hat']
    simp only [if_neg hdot, if_neg hup, if_neg hlong, hlookup', if_neg hlast, if_neg htarget]
    exact ih hway.2.2 (hway.2.2 _ (mem_way_self ..))
  | case15 links place step rest bar entries hdot hup hlong child hlink hlookup hat ih =>
    obtain ⟨-, entries', hat', hfound⟩ := h.step hway hat hdot hup hlong
    obtain ⟨_, hlookup', ⟨halike⟩⟩ := hfound _ hlookup
    rw [way.eq_def, hat] at hway
    simp only [if_neg hdot, if_neg hup, if_neg hlong, hlookup, List.forall_mem_cons] at hway
    rw [follow.eq_def top', hat']
    cases halike with
    | link target => exact absurd rfl (hlink target)
    | file | special | directory =>
      simp only [if_neg hdot, if_neg hup, if_neg hlong, hlookup']
      exact ih hway.2.2 (hway.2.2 _ (mem_way_self ..))

/-- A path leads to the same place in two trees, to nodes that are alike, or fails alike. -/
def LeadsAlike (top top' : Node) (path : Path) : Prop :=
  (∃ e, top.locate true path = .error e ∧ top'.locate true path = .error e) ∨
    ∃ place node node', top.locate true path = .ok (place, node) ∧
      top'.locate true path = .ok (place, node') ∧ Alike node node'

/-- A path that does not lead through the part leads to the same. -/
theorem SameOutside.leadsAlike (h : SameOutside part top top') {path : Path}
    (hway : Avoids part top path) : LeadsAlike top top' path := by
  have hfind : SameFound (top.find true path) (top'.find true path) := by
    unfold find
    split
    · exact .failed _
    split
    · exact .failed _
    split
    · exact .failed _
    exact follow_congr h true maxLinks [] (pathSteps path) hway
  unfold LeadsAlike locate
  generalize top.find true path = found, top'.find true path = found' at hfind
  cases hfind with
  | found halike => exact Or.inr ⟨_, _, _, rfl, rfl, halike⟩
  | missing => exact Or.inl ⟨_, rfl, rfl⟩
  | failed e => exact Or.inl ⟨e, rfl, rfl⟩

end

namespace LeadsAlike

variable {top top' : Node} {path : Path}

theorem kindAt_eq (h : LeadsAlike top top' path) : top.kindAt path = top'.kindAt path := by
  unfold kindAt
  rcases h with ⟨e, hleft, hright⟩ | ⟨place, node, node', hleft, hright, halike⟩
  · rw [hleft, hright]
  · rw [hleft, hright]
    exact congrArg Except.ok halike.kind_eq

theorem readAt_eq (h : LeadsAlike top top' path) : top.readAt path = top'.readAt path := by
  unfold readAt
  rcases h with ⟨e, hleft, hright⟩ | ⟨place, node, node', hleft, hright, halike⟩
  · rw [hleft, hright]
  · rw [hleft, hright]
    cases halike <;> rfl

/-- Entries that are alike in the same directory are led to alike, unless they are links. -/
theorem join (htop : top.WellFormed) (htop' : top'.WellFormed) {place : Trail}
    {bar bar' : Option IoError} {entries entries' : List (Name × Node)}
    (hpath : top.locate true path = .ok (place, .directory bar entries))
    (hpath' : top'.locate true path = .ok (place, .directory bar' entries')) {name : Name}
    {child child' : Node} (hchild : entries.lookup name = some child)
    (hchild' : entries'.lookup name = some child') (halike : Alike child child')
    (hlink : child.kind ≠ .link) : LeadsAlike top top' (path.join name) := by
  have hlink' : child'.kind ≠ .link := halike.kind_eq ▸ hlink
  unfold LeadsAlike
  rw [locate_join htop hpath hchild hlink, locate_join htop' hpath' hchild' hlink']
  split_ifs
  · exact Or.inl ⟨_, rfl, rfl⟩
  · exact Or.inl ⟨_, rfl, rfl⟩
  · exact Or.inr ⟨_, _, _, rfl, rfl, halike⟩

end LeadsAlike

end SourceSurvey.Node
