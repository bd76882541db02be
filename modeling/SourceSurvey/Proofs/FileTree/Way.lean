import SourceSurvey.Proofs.FileTree.WellFormed

/-!
# The way along a path

Where a path leads is found by looking at one place after the other. What is found at the end of some
steps, and what has been looked at until then, does not depend on the steps behind them.
-/

namespace SourceSurvey.Node

/-- The places that are looked at on the way along steps. -/
def way (top : Node) (last : Bool) (links : Nat) (place : Trail) (steps : List Name) : List Trail :=
  place ::
    match top.at? place, steps with
    | some (.directory _ entries), step :: rest =>
      if step = [Path.dot] then top.way last links place rest
      else if step = [Path.dot, Path.dot] then top.way last links place.tail rest
      else if maxName < step.length then []
      else
        (step :: place) ::
          match entries.lookup step with
          | none => []
          | some (.link target) =>
            if rest.isEmpty && !last then []
            else
              match links with
              | 0 => []
              | links + 1 =>
                if target.isEmpty then []
                else
                  let from_ := if target.isAbsolute then [] else place
                  top.way last links from_ (pathSteps target ++ rest)
          | some _ => top.way last links (step :: place) rest
    | _, _ => []
termination_by (links, steps.length)

/-- The places that are looked at on the way along a path. -/
def wayOf (top : Node) (last : Bool) (path : Path) : List Trail :=
  top.way last maxLinks [] (pathSteps path)

@[simp] theorem way_nil (top : Node) (last : Bool) (links : Nat) (place : Trail) :
    top.way last links place [] = [place] := by
  rw [way.eq_def]
  split <;> simp_all

theorem mem_way_self (top : Node) (last : Bool) (links : Nat) (place : Trail) (steps : List Name) :
    place ∈ top.way last links place steps := by
  rw [way.eq_def]
  exact List.mem_cons_self

theorem follow_dots {top node : Node} {links : Nat} {place place' : Trail} {dots : List Name}
    (hdots : ∀ step ∈ dots, step = [Path.dot])
    (h : top.follow true links place dots = .found place' node) : place' = place := by
  induction dots with
  | nil =>
    rw [follow.eq_def] at h
    grind
  | cons step dots ih =>
    rw [hdots step List.mem_cons_self, follow.eq_def] at h
    grind

/-- Behind some steps everything goes on from the place that they lead to. -/
def GoesOn (top : Node) (links : Nat) (place : Trail) (steps : List Name) (place' : Trail) : Prop :=
  ∃ left, ∀ (last : Bool) more, (last ∨ more ≠ []) →
    top.follow last links place (steps ++ more) = top.follow last left place' more

theorem GoesOn.of_step {top : Node} {links links' : Nat} {place from_ place' : Trail}
    {steps rest : List Name} (h : top.GoesOn links' from_ rest place')
    (hstep : ∀ (last : Bool) more, (last ∨ more ≠ []) →
      top.follow last links place (steps ++ more) = top.follow last links' from_ (rest ++ more)) :
    top.GoesOn links place steps place' := by
  obtain ⟨left, hgo⟩ := h
  exact ⟨left, fun last more hmore ↦ (hstep last more hmore).trans (hgo last more hmore)⟩

/-- Where steps lead, more steps go on from there; dots behind the steps ask for a directory and lead
no further. -/
theorem follow_append {top node : Node} {links : Nat} {place place' : Trail}
    {steps dots : List Name} (hdots : ∀ step ∈ dots, step = [Path.dot])
    (h : top.follow true links place (steps ++ dots) = .found place' node) :
    top.GoesOn links place steps place' := by
  fun_induction follow top true links place steps with
  | case1 =>
    rw [follow.eq_def] at h
    grind
  | case2 links place inner hat =>
    rw [List.nil_append] at h
    rw [follow_dots hdots h]
    exact ⟨links, fun last more _ ↦ rfl⟩
  | case6 links place rest bar entries hat ih =>
    have hstep (last : Bool) (more : List Name) (_ : last ∨ more ≠ []) :
        top.follow last links place ([Path.dot] :: rest ++ more) =
          top.follow last links place (rest ++ more) := by
      rw [List.cons_append, follow.eq_def, hat]
      simp
    exact (ih (hstep true dots (Or.inl rfl) ▸ h)).of_step hstep
  | case7 links place rest bar entries hat hup ih =>
    have hstep (last : Bool) (more : List Name) (_ : last ∨ more ≠ []) :
        top.follow last links place ([Path.dot, Path.dot] :: rest ++ more) =
          top.follow last links place.tail (rest ++ more) := by
      rw [List.cons_append, follow.eq_def, hat]
      simp [hup]
    exact (ih (hstep true dots (Or.inl rfl) ▸ h)).of_step hstep
  | case14 place step rest bar entries hhere hup hlong target hlookup hlast links htarget from_ hat ih =>
    have hstep (last : Bool) (more : List Name) (hmore : last ∨ more ≠ []) :
        top.follow last (links + 1) place (step :: rest ++ more) =
          top.follow last links from_ (pathSteps target ++ rest ++ more) := by
      have hend : ((rest ++ more).isEmpty && !last) = false := by
        rcases hmore with hlast | hmore
        · simp [hlast]
        · simp [hmore]
      rw [List.cons_append, follow.eq_def, hat]
      simp [hhere, hup, hlong, hlookup, htarget, from_, hend]
    exact (ih (hstep true dots (Or.inl rfl) ▸ h)).of_step hstep
  | case15 links place step rest bar entries hhere hup hlong child hlink hlookup hat ih =>
    have hstep (last : Bool) (more : List Name) (_ : last ∨ more ≠ []) :
        top.follow last links place (step :: rest ++ more) =
          top.follow last links (step :: place) (rest ++ more) := by
      rw [List.cons_append, follow.eq_def, hat]
      cases child with
      | link target => exact absurd rfl (hlink target)
      | file | special | directory => simp [hhere, hup, hlong, hlookup]
    exact (ih (hstep true dots (Or.inl rfl) ▸ h)).of_step hstep
  | case3 | case4 | case5 | case8 | case9 | case10 | case11 | case12 | case13 =>
    -- the steps fail before the dots are reached
    rw [List.cons_append, follow.eq_def] at h
    grind

/-- Behind a path that leads to a place, more steps go on from there. -/
theorem goesOn_of_locate {top node : Node} {path : Path} {place : Trail}
    (h : top.locate true path = .ok (place, node)) : top.GoesOn maxLinks [] path.steps place := by
  rw [locate_eq_ok_iff] at h
  rcases find_eq_follow top true path with ⟨e, hfailed⟩ | hfollow
  · rw [hfailed] at h
    cases h
  · refine follow_append (fun step hstep ↦ ?_) (hfollow ▸ h)
    split at hstep
    · simpa using hstep
    · simp at hstep

end SourceSurvey.Node
