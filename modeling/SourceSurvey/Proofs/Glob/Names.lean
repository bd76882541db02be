import SourceSurvey.Proofs.Glob.Reading

/-!
# Patterns of names

A pattern without a separator is sought in every directory. Read behind `**/`, its pieces stand for no
separator, but for the sets in it: a set stands for every byte that it holds, and a separator may be
one of them. Where no set does, such a pattern matches a path exactly if it matches the last name of it.
-/

namespace SourceSurvey.Glob

open Encoding (Bytes)

/-! ## Pieces at any depth -/

mutual

/-- Whether something is true of a piece, or of all pieces of the branches of a choice. -/
def Everywhere (p : Token → Prop) : Token → Prop
  | .choice branches => EverywhereAny p branches
  | t => p t

def EverywhereAll (p : Token → Prop) : List Token → Prop
  | [] => True
  | t :: ts => Everywhere p t ∧ EverywhereAll p ts

def EverywhereAny (p : Token → Prop) : List (List Token) → Prop
  | [] => True
  | branch :: branches => EverywhereAll p branch ∧ EverywhereAny p branches

end

theorem everywhereAll_iff {p : Token → Prop} {ts : List Token} :
    EverywhereAll p ts ↔ ∀ t ∈ ts, Everywhere p t := by
  induction ts with
  | nil => simp [EverywhereAll]
  | cons t ts ih => simp [EverywhereAll, ih]

theorem everywhereAny_iff {p : Token → Prop} {branches : List (List Token)} :
    EverywhereAny p branches ↔ ∀ branch ∈ branches, EverywhereAll p branch := by
  induction branches with
  | nil => simp [EverywhereAny]
  | cons branch branches ih => simp [EverywhereAny, ih]

/-- A piece that is no separator and does not span directories. -/
def IsOfName : Token → Prop
  | .literal c => c ≠ '/'
  | .upper | .middle | .lower => False
  | _ => True

/-- A set that does not stand for a separator. -/
def IsClosedSet : Token → Prop
  | .set negated ranges => inSet ranges slash = negated
  | _ => True

/-! ## Texts -/

mutual

theorem slash_not_mem_of_spells {t : Token} (hname : Everywhere IsOfName t)
    (hset : Everywhere IsClosedSet t) {bytes : Bytes} (h : Spells t bytes) : slash ∉ bytes := by
  cases t with
  | literal c =>
    simp only [Everywhere, IsOfName] at hname
    simp only [Spells] at h
    rw [h, slash_mem_utf8EncodeChar]
    exact hname
  | any =>
    obtain ⟨b, hb, rfl⟩ := h
    simpa using hb.symm
  | star => exact h
  | set negated ranges =>
    simp only [Everywhere, IsClosedSet] at hset
    obtain ⟨b, hb, rfl⟩ := h
    rw [List.mem_singleton]
    rintro rfl
    exact hb hset
  | choice branches =>
    cases branches with
    | nil =>
      simp only [Spells] at h
      simp [h]
    | cons branch branches =>
      simp only [Everywhere] at hname hset
      simp only [Spells] at h
      exact slash_not_mem_of_spellsAny hname hset h
  | upper | middle | lower => simp [Everywhere, IsOfName] at hname

theorem slash_not_mem_of_spellsAll {ts : List Token} (hname : EverywhereAll IsOfName ts)
    (hset : EverywhereAll IsClosedSet ts) {bytes : Bytes} (h : SpellsAll ts bytes) :
    slash ∉ bytes := by
  cases ts with
  | nil =>
    simp only [SpellsAll] at h
    simp [h]
  | cons t ts =>
    simp only [EverywhereAll] at hname hset
    simp only [SpellsAll] at h
    obtain ⟨front, back, rfl, hfront, hback⟩ := h
    rw [List.mem_append, not_or]
    exact ⟨slash_not_mem_of_spells hname.1 hset.1 hfront,
      slash_not_mem_of_spellsAll hname.2 hset.2 hback⟩

theorem slash_not_mem_of_spellsAny {branches : List (List Token)}
    (hname : EverywhereAny IsOfName branches) (hset : EverywhereAny IsClosedSet branches)
    {bytes : Bytes} (h : SpellsAny branches bytes) : slash ∉ bytes := by
  cases branches with
  | nil => simp [SpellsAny] at h
  | cons branch branches =>
    simp only [EverywhereAny] at hname hset
    simp only [SpellsAny] at h
    rcases h with h | h
    · exact slash_not_mem_of_spellsAll hname.1 hset.1 h
    · exact slash_not_mem_of_spellsAny hname.2 hset.2 h

end

/-- A pattern that is sought in every directory, with pieces of a name; or one of nothing at all. -/
def IsAboutName (pattern : Pattern) : Prop :=
  pattern = [] ∨ ∃ inner, pattern = .upper :: inner ∧ EverywhereAll IsOfName inner

/-- A pattern of a name matches a path exactly if it matches the last name of the path. -/
theorem isMatch_append_name {pattern : Pattern} (habout : IsAboutName pattern)
    (hset : EverywhereAll IsClosedSet pattern) {front name : Bytes} (hfront : IsFront front)
    (hne : name ≠ []) (hname : slash ∉ name) :
    isMatch pattern (front ++ name) = isMatch pattern name := by
  have hlast : lastName name = name := lastName_append hname (Or.inl rfl)
  rw [Bool.eq_iff_iff, isMatch_iff, isMatch_iff, lastName_append hname hfront, hlast]
  refine or_congr_right (and_congr_right fun _ ↦ ?_)
  rcases habout with rfl | ⟨inner, rfl, hinner⟩
  · simp [SpellsAll, hne]
  · -- what the pieces of a name stand for is the last name of the path
    have hseek {front : Bytes} (hfront : IsFront front) :
        SpellsAll (.upper :: inner) (front ++ name) ↔ SpellsAll inner name := by
      simp only [SpellsAll, Spells]
      constructor
      · rintro ⟨before, back, heq, hbefore, hback⟩
        have hslash := slash_not_mem_of_spellsAll hinner hset.2 hback
        have hsame : name = back := by
          rw [← lastName_append hname hfront, heq, lastName_append hslash hbefore]
        exact hsame ▸ hback
      · exact fun h ↦ ⟨front, name, rfl, hfront, h⟩
    rw [hseek hfront]
    exact (hseek (Or.inl rfl)).symm

/-! ## Reading -/

theorem suffix_of_readSet {first dash : Bool} {ranges ranges' : List (Char × Char)}
    {text rest : List Char} (h : readSet first ranges dash text = .ok (ranges', rest)) :
    rest <:+ text := by
  induction text generalizing first dash ranges with
  | nil => simp [readSet] at h
  | cons c tail ih =>
    have htail {first dash : Bool} {ranges : List (Char × Char)}
        (h : readSet first ranges dash tail = .ok (ranges', rest)) : rest <:+ c :: tail :=
      (ih h).trans (List.suffix_cons c tail)
    unfold readSet at h
    split_ifs at h
    · exact htail h
    · cases h
      exact List.suffix_cons c _
    · cases h
      exact List.suffix_cons c _
    · split at h
      · exact htail h
      · cases h
    · exact htail h
    · exact htail h

theorem State.bracket_eq_ok {s s' : State} {text rest : List Char}
    (h : s.bracket text = .ok (s', rest)) :
    rest <:+ text ∧ ∃ negated ranges, s' = s.push (.set negated ranges) ']' := by
  unfold State.bracket at h
  simp only at h
  generalize hnegated : (decide (text.head? = some '!') || decide (text.head? = some '^')) =
    negated at h
  cases hset : readSet true [] false (if negated then text.drop 1 else text) with
  | error e =>
    rw [hset] at h
    cases h
  | ok found =>
    rw [hset] at h
    cases h
    refine ⟨(suffix_of_readSet hset).trans ?_, _, _, rfl⟩
    split
    · exact List.drop_suffix 1 text
    · exact List.suffix_refl text

/-- Reads one piece, or one sign of a choice, that begins with a character. -/
def State.step (s : State) (c : Char) (rest : List Char) : Except Error (State × List Char) :=
  match c with
  | '?' => .ok (s.push .any '?', rest)
  | '*' =>
    match rest with
    | '*' :: rest => .ok (s.stars rest)
    | _ => .ok (s.push .star '*', rest)
  | '[' => s.bracket rest
  | '{' => .ok (s.openChoice, rest)
  | '}' => s.closeChoice.map fun s ↦ (s, rest)
  | ',' => .ok (s.comma, rest)
  | _ => .ok (s.push (.literal c) c, rest)

/-- A pattern is read step by step. -/
theorem readFrom_cons (fuel : Nat) (s : State) (c : Char) (rest : List Char) :
    readFrom (fuel + 1) s (c :: rest) =
      (s.step c rest).bind fun next ↦ readFrom fuel next.1 next.2 := by
  rw [readFrom.eq_def]
  unfold State.step
  simp only
  split
  · rfl
  · split <;> simp_all [Except.bind]
  · rfl
  · rfl
  · cases s.closeChoice <;> rfl
  · rfl
  · simp_all [Except.bind]

theorem State.suffix_of_step {s s' : State} {c : Char} {rest rest' : List Char}
    (h : s.step c rest = .ok (s', rest')) : rest' <:+ rest := by
  unfold State.step at h
  split at h
  · cases h
    exact List.suffix_refl _
  · split at h
    · rename_i more
      have hstars : (s.stars more).2 <:+ more := by
        unfold State.stars
        grind [List.suffix_refl, List.suffix_cons]
      rw [Except.ok.inj h] at hstars
      exact hstars.trans (List.suffix_cons '*' more)
    · cases h
      exact List.suffix_refl _
  · exact (State.bracket_eq_ok h).1
  · cases h
    exact List.suffix_refl _
  · cases hclose : s.closeChoice with
    | error => simp [hclose, Except.map] at h
    | ok =>
      rw [hclose] at h
      cases h
      exact List.suffix_refl _
  · cases h
    exact List.suffix_refl _
  · cases h
    exact List.suffix_refl _

/-- What every step keeps is true at the end of the text, where no choice is open. -/
theorem exists_of_readFrom {P : State → List Char → Prop}
    (hkept : ∀ {s s' : State} {c : Char} {rest rest' : List Char}, P s (c :: rest) →
      s.step c rest = .ok (s', rest') → P s' rest')
    {fuel : Nat} {s : State} {text : List Char} (h : P s text) (hfuel : text.length ≤ fuel)
    {pattern : Pattern} (hread : readFrom fuel s text = .ok pattern) :
    ∃ s', P s' [] ∧ s'.opened = [] ∧ pattern = s'.current.reverse := by
  have hend {fuel : Nat} {s : State} (h : P s []) (hread : readFrom fuel s [] = .ok pattern) :
      ∃ s', P s' [] ∧ s'.opened = [] ∧ pattern = s'.current.reverse := by
    rw [readFrom.eq_def] at hread
    cases hopened : s.opened with
    | nil =>
      simp only [hopened] at hread
      cases hread
      exact ⟨s, h, hopened, rfl⟩
    | cons => simp [hopened] at hread
  induction fuel generalizing s text with
  | zero =>
    obtain rfl : text = [] := List.eq_nil_of_length_eq_zero (Nat.le_zero.1 hfuel)
    exact hend h hread
  | succ fuel ih =>
    cases text with
    | nil => exact hend h hread
    | cons c rest =>
      rw [readFrom_cons] at hread
      cases hstep : s.step c rest with
      | error => simp [hstep, Except.bind] at hread
      | ok next =>
        obtain ⟨s', rest'⟩ := next
        rw [hstep] at hread
        have hlength : rest'.length ≤ fuel :=
          Nat.le_trans (State.suffix_of_step hstep).length_le (Nat.le_of_succ_le_succ hfuel)
        exact ih (hkept h hstep) hlength hread

@[simp] theorem everywhereAll_reverse {p : Token → Prop} {ts : List Token} :
    EverywhereAll p ts.reverse ↔ EverywhereAll p ts := by
  simp [everywhereAll_iff]

/-- What has been read of a pattern, with pieces of names only on top of what was there before. -/
inductive OnTop (base : Pattern) : Pattern → List Opened → Prop where
  | outer {current : Pattern} (h : EverywhereAll IsOfName current) :
      OnTop base (current ++ base) []
  | inner {current : Pattern} (h : EverywhereAll IsOfName current) {choice : Opened}
      (hbranches : EverywhereAny IsOfName choice.branches) {opened : List Opened}
      (hbefore : OnTop base choice.before opened) : OnTop base current (choice :: opened)

namespace OnTop

variable {base current : Pattern} {opened : List Opened}

theorem push (h : OnTop base current opened) {t : Token} (ht : Everywhere IsOfName t) :
    OnTop base (t :: current) opened := by
  cases h with
  | @outer upon hcurrent =>
    have hpushed : EverywhereAll IsOfName (t :: upon) := ⟨ht, hcurrent⟩
    exact .outer hpushed
  | inner hcurrent hbranches hbefore =>
    have hpushed : EverywhereAll IsOfName (t :: current) := ⟨ht, hcurrent⟩
    exact .inner hpushed hbranches hbefore

theorem openChoice (h : OnTop base current opened) : OnTop base [] (⟨current, []⟩ :: opened) :=
  .inner (by simp [EverywhereAll]) (by simp [EverywhereAny]) h

theorem comma {choice : Opened} (h : OnTop base current (choice :: opened)) :
    OnTop base [] ({ choice with branches := current.reverse :: choice.branches } :: opened) := by
  cases h with
  | inner hcurrent hbranches hbefore =>
    exact .inner (by simp [EverywhereAll])
      (by simpa [EverywhereAny] using ⟨hcurrent, hbranches⟩) hbefore

theorem closeChoice {choice : Opened} (h : OnTop base current (choice :: opened)) :
    OnTop base
      (.ofBranches (current.reverse :: choice.branches).reverse :: choice.before) opened := by
  cases h with
  | inner hcurrent hbranches hbefore =>
    refine hbefore.push ?_
    rw [Token.ofBranches, Everywhere, everywhereAny_iff]
    intro branch hbranch
    rw [List.mem_filter, List.mem_reverse, List.mem_cons] at hbranch
    rcases hbranch.1 with rfl | hmem
    · exact everywhereAll_reverse.2 hcurrent
    · exact everywhereAny_iff.1 hbranches branch hmem

end OnTop

/-- A state in which two stars that come next are single ones. -/
structure IsInside (base : Pattern) (s : State) (text : List Char) : Prop where
  onTop : OnTop base s.current s.opened
  /-- Behind a brace, or a comma between branches, a branch begins. -/
  fresh : s.opened ≠ [] → s.previous = some ',' ∨ s.previous = some '{' → s.current = []
  /-- Behind a separator stands more than two stars. -/
  more : s.previous = some '/' → s.opened = [] ∧ text ≠ ['*', '*']

namespace IsInside

variable {base : Pattern} {s : State} {text rest : List Char}

theorem push (h : IsInside base s text) {t : Token} (ht : Everywhere IsOfName t) {c : Char}
    (hc : c ∉ ['/', ',', '{']) : IsInside base (s.push t c) rest := by
  simp only [List.mem_cons, List.not_mem_nil, or_false, not_or] at hc
  exact ⟨h.onTop.push ht, by simp [State.push, hc], by simp [State.push, hc]⟩

theorem pushStars (h : IsInside base s text) : IsInside base s.pushStars rest := by
  have hstar : Everywhere IsOfName .star := by simp [Everywhere, IsOfName]
  have honce : IsInside base (s.push .star '*') text := h.push hstar (by decide)
  exact honce.push hstar (by decide)

theorem openChoice (h : IsInside base s text) : IsInside base s.openChoice rest :=
  ⟨h.onTop.openChoice, by simp [State.openChoice], by simp [State.openChoice]⟩

theorem comma (h : IsInside base s text) : IsInside base s.comma rest := by
  have honTop := h.onTop
  unfold State.comma
  cases hopened : s.opened with
  | nil =>
    have ht : Everywhere IsOfName (.literal ',') := by simp [Everywhere, IsOfName]
    exact ⟨honTop.push ht, by simp [State.push, hopened], by simp [State.push]⟩
  | cons choice opened =>
    rw [hopened] at honTop
    exact ⟨honTop.comma, by simp, by simp⟩

theorem closeChoice (h : IsInside base s text) {s' : State} (hclose : s.closeChoice = .ok s') :
    IsInside base s' rest := by
  have honTop := h.onTop
  unfold State.closeChoice at hclose
  cases hopened : s.opened with
  | nil =>
    rw [hopened] at hclose
    cases hclose
  | cons choice opened =>
    rw [hopened] at hclose honTop
    cases hclose
    exact ⟨honTop.closeChoice, by simp, by simp⟩

/-- Two stars are single ones, unless a choice ends before it is closed. -/
theorem stars (h : IsInside base s ('*' :: '*' :: rest)) (hbase : base ≠ []) (hrest : '/' ∉ rest) :
    s.stars rest = (s.pushStars, rest) ∨ s.opened ≠ [] ∧ rest = [] := by
  by_cases hnil : rest = []
  · by_cases hopened : s.opened = []
    · left
      subst hnil
      have hprevious : s.previous ≠ some '/' := fun hslash ↦ (h.more hslash).2 rfl
      have hcurrent : s.current ≠ [] := by
        have honTop := h.onTop
        rw [hopened] at honTop
        cases hcur : s.current with
        | cons => simp
        | nil =>
          rw [hcur] at honTop
          generalize hlist : ([] : Pattern) = list at honTop
          cases honTop with
          | outer => exact absurd (List.append_eq_nil_iff.1 hlist.symm).2 hbase
      simp [State.stars, hcurrent, hprevious, hopened]
    · exact Or.inr ⟨hopened, hnil⟩
  · left
    obtain ⟨c, more, rfl⟩ := List.exists_cons_of_ne_nil hnil
    have hc : c ≠ '/' := fun hslash ↦ hrest (hslash ▸ List.mem_cons_self)
    have hfresh := h.fresh
    have hmore := h.more
    unfold State.stars
    grind

end IsInside

theorem IsInside.step {base : Pattern} (hbase : base ≠ []) {s s' : State} {c : Char}
    {rest rest' : List Char} (h : IsInside base s (c :: rest)) (hslash : '/' ∉ c :: rest)
    (hstep : s.step c rest = .ok (s', rest')) :
    IsInside base s' rest' ∨ s'.opened ≠ [] ∧ rest' = [] := by
  rw [List.mem_cons, not_or] at hslash
  unfold State.step at hstep
  split at hstep
  · cases hstep
    exact Or.inl (h.push (by simp [Everywhere, IsOfName]) (by decide))
  · split at hstep
    · rename_i more
      rcases h.stars hbase (fun hmem ↦ hslash.2 (List.mem_cons_of_mem _ hmem)) with heq | hends
      · rw [heq] at hstep
        cases hstep
        exact Or.inl h.pushStars
      · obtain ⟨hopened, rfl⟩ := hends
        right
        have hstars : (s.stars []).1.opened = s.opened ∧ (s.stars []).2 = [] := by
          unfold State.stars
          grind [State.push, State.pushStars]
        rw [Except.ok.inj hstep] at hstars
        exact ⟨hstars.1 ▸ hopened, hstars.2⟩
    · cases hstep
      exact Or.inl (h.push (by simp [Everywhere, IsOfName]) (by decide))
  · obtain ⟨-, negated, ranges, rfl⟩ := State.bracket_eq_ok hstep
    exact Or.inl (h.push (by simp [Everywhere, IsOfName]) (by decide))
  · cases hstep
    exact Or.inl h.openChoice
  · cases hclose : s.closeChoice with
    | error => simp [hclose, Except.map] at hstep
    | ok =>
      rw [hclose] at hstep
      cases hstep
      exact Or.inl (h.closeChoice hclose)
  · cases hstep
    exact Or.inl h.comma
  · rename_i hbrace _ hcomma
    cases hstep
    refine Or.inl (h.push ?_ ?_)
    · simpa [Everywhere, IsOfName] using Ne.symm hslash.1
    · simpa using ⟨Ne.symm hslash.1, hcomma, hbrace⟩

/-- Text without a separator is left in a state inside a name, or nothing is left to close a choice. -/
def IsInsideOrEnds (base : Pattern) (s : State) (text : List Char) : Prop :=
  '/' ∉ text ∧ (IsInside base s text ∨ s.opened ≠ [] ∧ text = [])

theorem IsInsideOrEnds.step {base : Pattern} (hbase : base ≠ []) {s s' : State} {c : Char}
    {rest rest' : List Char} (h : IsInsideOrEnds base s (c :: rest))
    (hstep : s.step c rest = .ok (s', rest')) : IsInsideOrEnds base s' rest' := by
  obtain ⟨hslash, hinside | ⟨-, hnil⟩⟩ := h
  · refine ⟨fun hmem ↦ hslash ?_, hinside.step hbase hslash hstep⟩
    exact List.mem_cons_of_mem c ((State.suffix_of_step hstep).mem hmem)
  · cases hnil

/-- Text without a separator is read as pieces of names. -/
theorem IsInside.readFrom {base : Pattern} (hbase : base ≠ []) {fuel : Nat} {s : State}
    {text : List Char} (h : IsInside base s text) (hfuel : text.length ≤ fuel) (hslash : '/' ∉ text)
    {pattern : Pattern} (hread : readFrom fuel s text = .ok pattern) :
    ∃ inner, pattern = base.reverse ++ inner ∧ EverywhereAll IsOfName inner := by
  have hbegin : IsInsideOrEnds base s text := ⟨hslash, Or.inl h⟩
  obtain ⟨s', ⟨-, hinside | ⟨hopened, -⟩⟩, hclosed, rfl⟩ :=
    exists_of_readFrom (IsInsideOrEnds.step hbase) hbegin hfuel hread
  · have honTop := hinside.onTop
    rw [hclosed] at honTop
    generalize s'.current = list at honTop
    cases honTop with
    | outer hcurrent => exact ⟨_, List.reverse_append, everywhereAll_reverse.2 hcurrent⟩
  · exact absurd hclosed hopened

/-- Behind `**/`, text without a separator is about names. -/
theorem isAboutName_of_read {text : List Char} (hslash : '/' ∉ text) (hstars : text ≠ ['*', '*'])
    {pattern : Pattern} (hread : read ('*' :: '*' :: '/' :: text) = .ok pattern) :
    IsAboutName pattern := by
  have honTop : OnTop [.upper] ([] ++ [.upper]) [] := .outer (by simp [EverywhereAll])
  have hbegin : IsInside [.upper] ⟨[.upper], [], some '/'⟩ text :=
    ⟨honTop, by simp, fun _ ↦ ⟨rfl, hstars⟩⟩
  have hlength : text.length ≤ text.length + 2 := Nat.le_add_right _ _
  obtain ⟨inner, rfl, hinner⟩ := hbegin.readFrom (by simp) hlength hslash hread
  exact Or.inr ⟨inner, rfl, hinner⟩

end SourceSurvey.Glob
