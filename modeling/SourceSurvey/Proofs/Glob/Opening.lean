import SourceSurvey.Proofs.Glob.Names

/-!
# What a pattern opens with

What has been read of a pattern is built upon, and only its last piece is ever replaced: two stars take
the separator before them into one piece with them. So what stands before a separator stays, whatever
follows, and a pattern whose text has a dot and a separator in front is about paths with a dot and a
separator in front.
-/

namespace SourceSurvey.Glob

open Encoding (Bytes)

/-- What has been read outside of the choices that are open. -/
def outermost (current : Pattern) : List Opened → Pattern
  | [] => current
  | choice :: opened => outermost choice.before opened

/-- A piece that begins with a separator. -/
def IsSeparating : Token → Prop
  | .literal c => c = '/'
  | .middle | .lower => True
  | _ => False

/-- A state in which pieces have been read, and behind them one that begins with a separator. -/
def StandsOn (base : Pattern) (s : State) : Prop :=
  ∃ above t, outermost s.current s.opened = above ++ t :: base ∧ IsSeparating t

namespace StandsOn

variable {base : Pattern} {s : State} {rest : List Char}

theorem push (h : StandsOn base s) (t : Token) (c : Char) : StandsOn base (s.push t c) := by
  obtain ⟨above, u, hread, hu⟩ := h
  unfold StandsOn State.push
  cases hopened : s.opened with
  | nil =>
    rw [hopened, outermost] at hread
    exact ⟨t :: above, u, by simp [outermost, hread], hu⟩
  | cons choice opened =>
    rw [hopened] at hread
    exact ⟨above, u, hread, hu⟩

/-- Two stars may close up with the last piece; if that one begins with a separator, so do they. -/
theorem closed (h : StandsOn base s) {u : Token} (hu : IsSeparating u) {before : Pattern}
    {t : Token} (hcurrent : s.current = t :: before) (previous : Option Char) :
    StandsOn base { s with current := u :: before, previous } := by
  obtain ⟨above, v, hread, hv⟩ := h
  unfold StandsOn
  cases hopened : s.opened with
  | nil =>
    rw [hopened, outermost, hcurrent] at hread
    cases above with
    | nil =>
      rw [List.nil_append, List.cons.injEq] at hread
      exact ⟨[], u, by simp [outermost, hread.2], hu⟩
    | cons a above =>
      rw [List.cons_append, List.cons.injEq] at hread
      exact ⟨u :: above, v, by simp [outermost, hread.2], hv⟩
  | cons choice opened =>
    rw [hopened] at hread
    exact ⟨above, v, hread, hv⟩

theorem stars (h : StandsOn base s) : StandsOn base (s.stars rest).1 := by
  have hpushed : StandsOn base s.pushStars := (h.push .star '*').push .star '*'
  unfold State.stars
  split_ifs with hempty
  · split <;> first | exact h.push _ _ | exact hpushed
  · exact hpushed
  · obtain ⟨t, before, hcurrent⟩ : ∃ t before, s.current = t :: before := by
      rw [List.isEmpty_iff] at hempty
      exact List.exists_cons_of_ne_nil hempty
    have hsame (previous : Option Char) : StandsOn base ⟨t :: before, s.opened, previous⟩ :=
      hcurrent ▸ h
    have hmiddle (previous : Option Char) :
        StandsOn base ⟨.middle :: before, s.opened, previous⟩ :=
      h.closed (u := .middle) trivial hcurrent previous
    have hlower (previous : Option Char) :
        StandsOn base ⟨.lower :: before, s.opened, previous⟩ :=
      h.closed (u := .lower) trivial hcurrent previous
    simp only [hcurrent]
    cases t <;> grind

theorem openChoice (h : StandsOn base s) : StandsOn base s.openChoice := h

theorem comma (h : StandsOn base s) : StandsOn base s.comma := by
  unfold State.comma
  cases hopened : s.opened with
  | nil => exact h.push _ _
  | cons choice opened =>
    unfold StandsOn at h ⊢
    rw [hopened] at h
    exact h

theorem closeChoice (h : StandsOn base s) {s' : State} (hclose : s.closeChoice = .ok s') :
    StandsOn base s' := by
  unfold State.closeChoice at hclose
  cases hopened : s.opened with
  | nil =>
    rw [hopened] at hclose
    cases hclose
  | cons choice opened =>
    rw [hopened] at hclose
    cases hclose
    have hbefore : StandsOn base ⟨choice.before, opened, s.previous⟩ := by
      unfold StandsOn at h ⊢
      rw [hopened] at h
      exact h
    exact hbefore.push _ '}'

theorem step (h : StandsOn base s) {s' : State} {c : Char} {rest' : List Char}
    (hstep : s.step c rest = .ok (s', rest')) : StandsOn base s' := by
  unfold State.step at hstep
  split at hstep
  · cases hstep
    exact h.push _ _
  · split at hstep
    · rename_i more
      have hstars : StandsOn base (s.stars more).1 := h.stars
      rwa [Except.ok.inj hstep] at hstars
    · cases hstep
      exact h.push _ _
  · obtain ⟨-, negated, ranges, rfl⟩ := State.bracket_eq_ok hstep
    exact h.push _ _
  · cases hstep
    exact h.openChoice
  · cases hclose : s.closeChoice with
    | error => simp [hclose, Except.map] at hstep
    | ok =>
      rw [hclose] at hstep
      cases hstep
      exact h.closeChoice hclose
  · cases hstep
    exact h.comma
  · cases hstep
    exact h.push _ _

/-- What has been read before a separator is where the pattern begins. -/
theorem readFrom {fuel : Nat} {text : List Char} (h : StandsOn base s) (hfuel : text.length ≤ fuel)
    {pattern : Pattern} (hread : readFrom fuel s text = .ok pattern) :
    ∃ t more, pattern = base.reverse ++ t :: more ∧ IsSeparating t := by
  obtain ⟨s', ⟨above, t, hcurrent, ht⟩, hclosed, rfl⟩ :=
    exists_of_readFrom (P := fun s _ ↦ StandsOn base s) (fun h hstep ↦ h.step hstep) h hfuel hread
  rw [hclosed, outermost] at hcurrent
  exact ⟨t, above.reverse, by simp [hcurrent], ht⟩

end StandsOn

/-- What a piece that begins with a separator stands for begins with one. -/
theorem exists_slash_of_spells {t : Token} (ht : IsSeparating t) {bytes : Bytes}
    (h : Spells t bytes) : ∃ more, bytes = slash :: more := by
  cases t with
  | literal c =>
    obtain rfl : c = '/' := ht
    simp only [Spells] at h
    exact ⟨[], h⟩
  | middle =>
    simp only [Spells] at h
    rcases h with rfl | ⟨front, rfl⟩
    · exact ⟨[], rfl⟩
    · exact ⟨front ++ [slash], rfl⟩
  | lower =>
    simp only [Spells] at h
    exact h
  | any | star | upper | set | choice => exact absurd ht id

/-- A pattern with a dot and a separator in front is about paths with a dot and a separator in
front. -/
theorem exists_here_of_isMatch {rest : List Char} {pattern : Pattern}
    (hread : read ('.' :: '/' :: rest) = .ok pattern) {path : Bytes} (h : isMatch pattern path) :
    ∃ more, path = String.utf8EncodeChar '.' ++ slash :: more := by
  have hbegin : StandsOn [.literal '.'] ⟨[.literal '/', .literal '.'], [], some '/'⟩ :=
    ⟨[], .literal '/', rfl, rfl⟩
  have hlength : rest.length ≤ rest.length := Nat.le_refl _
  obtain ⟨t, more, rfl, ht⟩ := hbegin.readFrom hlength hread
  rw [isMatch_iff, or_iff_right (by simp)] at h
  obtain ⟨-, dotted, behind, rfl, hdotted, hbehind⟩ := h
  obtain ⟨front, back, rfl, hfront, -⟩ := hbehind
  obtain ⟨inner, rfl⟩ := exists_slash_of_spells ht hfront
  simp only [Spells] at hdotted
  exact ⟨inner ++ back, by rw [hdotted, List.cons_append]⟩

end SourceSurvey.Glob
