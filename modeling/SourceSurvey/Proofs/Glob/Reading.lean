import SourceSurvey.Glob.Pattern
import SourceSurvey.Proofs.Glob.Segments

/-!
# Reading a pattern made of segments

A pattern is read from the front, one character or two stars at a step, and every step has a character
to itself. Read in this way, segments with separators between them give the pieces that stand for them.
-/

namespace SourceSurvey.Glob

/-! ## Steps -/

/-- Whatever number of steps is allowed, if it is enough, the rest of a pattern is read. -/
def Reads (s : State) (text : List Char) (pattern : Pattern) : Prop :=
  ∀ fuel, text.length ≤ fuel → readFrom fuel s text = .ok pattern

/-- A character that stands for itself outside brackets and choices. -/
def IsLiteral (c : Char) : Prop := c ∉ ['*', '?', '[', '{', '}']

theorem length_stars (s : State) (rest : List Char) : (s.stars rest).2.length ≤ rest.length := by
  unfold State.stars
  grind

namespace Reads

variable {s : State} {rest : List Char} {pattern : Pattern}

theorem read {text : List Char} (h : Reads .start text pattern) : read text = .ok pattern :=
  h text.length (Nat.le_refl _)

theorem nil (hopened : s.opened = []) : Reads s [] s.current.reverse := by
  intro fuel _
  rw [readFrom, hopened]
  rfl

theorem literal {c : Char} (hopened : s.opened = []) (hc : IsLiteral c)
    (h : Reads (s.push (.literal c) c) rest pattern) : Reads s (c :: rest) pattern := by
  intro fuel hfuel
  cases fuel with
  | zero => simp at hfuel
  | succ fuel =>
    have hrest := h fuel (Nat.le_of_succ_le_succ hfuel)
    simp only [IsLiteral, List.mem_cons, not_or] at hc
    by_cases hcomma : c = ','
    · subst hcomma
      rw [readFrom, State.comma, hopened]
      exact hrest
    · rw [readFrom]
      · exact hrest
      all_goals grind

theorem star (hrest : rest.head? ≠ some '*') (h : Reads (s.push .star '*') rest pattern) :
    Reads s ('*' :: rest) pattern := by
  intro fuel hfuel
  cases fuel with
  | zero => simp at hfuel
  | succ fuel =>
    rw [readFrom]
    · exact h fuel (Nat.le_of_succ_le_succ hfuel)
    · rintro more rfl
      exact hrest rfl

theorem any (h : Reads (s.push .any '?') rest pattern) : Reads s ('?' :: rest) pattern := by
  intro fuel hfuel
  cases fuel with
  | zero => simp at hfuel
  | succ fuel =>
    rw [readFrom]
    exact h fuel (Nat.le_of_succ_le_succ hfuel)

theorem stars (h : Reads (s.stars rest).1 (s.stars rest).2 pattern) :
    Reads s ('*' :: '*' :: rest) pattern := by
  intro fuel hfuel
  cases fuel with
  | zero => simp at hfuel
  | succ fuel =>
    have hlength := length_stars s rest
    rw [readFrom]
    refine h fuel ?_
    rw [List.length_cons, List.length_cons] at hfuel
    omega

end Reads

/-! ## Segments -/

/-- A separator or the end. -/
def IsBoundary (rest : List Char) : Prop := rest = [] ∨ ∃ more, rest = '/' :: more

theorem IsBoundary.head {rest : List Char} (h : IsBoundary rest) : rest.head? ≠ some '*' := by
  rcases h with rfl | ⟨more, rfl⟩ <;> simp

/-- Two stars are single ones, unless they are a whole segment. -/
theorem stars_eq {s : State} {chars rest : List Char} (hopened : s.opened = [])
    (hchars : '/' ∉ chars)
    (hwhole : chars = [] → s.current ≠ [] ∧ s.previous ≠ some '/') :
    s.stars (chars ++ rest) = (s.pushStars, chars ++ rest) := by
  by_cases hnil : chars = []
  · obtain ⟨hcurrent, hprevious⟩ := hwhole hnil
    simp [State.stars, hcurrent, hprevious, hopened]
  · obtain ⟨c, more, rfl⟩ := List.exists_cons_of_ne_nil hnil
    have hc : c ≠ '/' := fun h ↦ hchars (h ▸ List.mem_cons_self)
    unfold State.stars
    grind

/-- What characters without separators, sets and choices are read as. -/
def wildTokens (chars : List Char) : List Token :=
  chars.map fun c ↦ if c = '*' then .star else if c = '?' then .any else .literal c

theorem wildTokens_eq_pieceTokens {chars : List Char} (h : '?' ∉ chars) :
    wildTokens chars = pieceTokens chars := by
  apply List.map_congr_left
  intro c hc
  have hany : c ≠ '?' := fun heq ↦ h (heq ▸ hc)
  rw [if_neg hany]

/-- Reading one name, with stars and question marks in it. -/
theorem Reads.wild {s : State} {chars rest : List Char} {pattern : Pattern}
    (hopened : s.opened = []) (hplain : ∀ c ∈ chars, c ∉ ['/', '[', '{', '}'])
    (hrest : IsBoundary rest)
    (hwhole : chars = ['*', '*'] → s.current ≠ [] ∧ s.previous ≠ some '/')
    (h : ∀ previous, Reads ⟨(wildTokens chars).reverse ++ s.current, [], previous⟩ rest pattern) :
    Reads s (chars ++ rest) pattern := by
  match chars with
  | [] => simpa [wildTokens, ← hopened] using h s.previous
  | c :: chars =>
    have htail : ∀ c ∈ chars, c ∉ ['/', '[', '{', '}'] :=
      fun d hd ↦ hplain d (List.mem_cons_of_mem c hd)
    by_cases hstar : c = '*'
    · subst hstar
      by_cases hhead : chars.head? = some '*'
      · obtain ⟨more, rfl⟩ := List.head?_eq_some_iff.1 hhead
        have hmore : ∀ c ∈ more, c ∉ ['/', '[', '{', '}'] :=
          fun d hd ↦ htail d (List.mem_cons_of_mem '*' hd)
        have hslash : '/' ∉ more := fun hmem ↦ hmore '/' hmem (by simp)
        refine .stars ?_
        rw [List.append_eq, stars_eq hopened hslash fun hnil ↦ hwhole (by rw [hnil])]
        refine .wild hopened hmore hrest (fun _ ↦ ?_) fun previous ↦ ?_
        · exact ⟨List.cons_ne_nil _ _, by simp [State.pushStars, State.push]⟩
        · simpa [wildTokens, State.pushStars, State.push] using h previous
      · refine .star ?_ (.wild hopened htail hrest (fun _ ↦ ?_) fun previous ↦ ?_)
        · cases chars with
          | nil => exact hrest.head
          | cons => exact hhead
        · exact ⟨List.cons_ne_nil _ _, by simp [State.push]⟩
        · simpa [wildTokens, State.push] using h previous
    by_cases hany : c = '?'
    · subst hany
      refine .any (.wild hopened htail hrest (fun _ ↦ ?_) fun previous ↦ ?_)
      · exact ⟨List.cons_ne_nil _ _, by simp [State.push]⟩
      · simpa [wildTokens, State.push] using h previous
    · have hmem := hplain c List.mem_cons_self
      simp only [List.mem_cons, not_or] at hmem
      have hliteral : IsLiteral c := by
        simp [IsLiteral, hstar, hany, hmem]
      refine .literal hopened hliteral (.wild hopened htail hrest (fun _ ↦ ?_) fun previous ↦ ?_)
      · exact ⟨List.cons_ne_nil _ _, by simp [State.push, hmem.1]⟩
      · simpa [wildTokens, State.push, hstar, hany] using h previous
termination_by chars.length

/-- Reading a segment that is one name. -/
theorem Reads.piece {s : State} {chars rest : List Char} {pattern : Pattern}
    (hopened : s.opened = []) (hplain : ∀ c ∈ chars, c ∉ ['/', '?', '[', ']', '{', '}'])
    (hrest : IsBoundary rest)
    (hwhole : chars = ['*', '*'] → s.current ≠ [] ∧ s.previous ≠ some '/')
    (h : ∀ previous, Reads ⟨(pieceTokens chars).reverse ++ s.current, [], previous⟩ rest pattern) :
    Reads s (chars ++ rest) pattern := by
  have hany : '?' ∉ chars := fun hmem ↦ hplain '?' hmem (by simp)
  rw [← wildTokens_eq_pieceTokens hany] at h
  refine .wild hopened (fun c hc ↦ ?_) hrest hwhole h
  have hmem := hplain c hc
  simp only [List.mem_cons, not_or] at hmem ⊢
  simp [hmem]

theorem isBoundary_trailing (parts : List (List Char)) : IsBoundary (trailing '/' parts) := by
  cases parts with
  | nil => exact Or.inl rfl
  | cons part parts => exact Or.inr ⟨_, rfl⟩

/-- Two stars behind a separator close up with it, or with two stars before it. -/
theorem stars_between {t : Token} (cur : Pattern) (rest : List Char)
    (ht : t = .literal '/' ∨ t = .middle) :
    State.stars ⟨t :: cur, [], some '/'⟩ ('/' :: rest) = (⟨.middle :: cur, [], some '/'⟩, rest) := by
  rcases ht with rfl | rfl <;> rfl

theorem reads_segments {segments : List Segment} (hclosed : IsClosed segments)
    (hplain : ∀ segment ∈ segments, segment.IsPlain) (cur : Pattern) :
    (∀ previous, Reads ⟨cur, [], previous⟩ (trailing '/' (segments.map Segment.chars))
        (cur.reverse ++ tokensAfter segments)) ∧
      (segments ≠ [] → ∀ t, t = .upper ∨ t = .middle →
        Reads ⟨t :: cur, [], some '/'⟩ (joined '/' (segments.map Segment.chars))
          ((t :: cur).reverse ++ tokensWithin segments)) := by
  induction segments generalizing cur with
  | nil =>
    refine ⟨fun previous ↦ ?_, fun h ↦ absurd rfl h⟩
    simpa [tokensAfter, trailing] using Reads.nil (s := ⟨cur, [], previous⟩) rfl
  | cons segment segments ih =>
    have hrest := ih hclosed.tail fun s hs ↦ hplain s (List.mem_cons_of_mem segment hs)
    have hslash : IsLiteral '/' := by simp [IsLiteral]
    cases segment with
    | anyDepth =>
      have hmap : segments.map Segment.chars ≠ [] := by simpa using hclosed.ne_nil
      refine ⟨fun previous ↦ .literal rfl hslash (.stars ?_), fun _ t ht ↦ .stars ?_⟩
      · have hwithin := (hrest cur).2 hclosed.ne_nil .middle (Or.inr rfl)
        change Reads (State.stars _ (trailing '/' _)).1 (State.stars _ (trailing '/' _)).2 _
        rw [trailing_eq hmap, State.push, stars_between cur _ (Or.inl rfl)]
        simpa [tokensAfter] using hwithin
      · have hwithin := (hrest cur).2 hclosed.ne_nil t ht
        change Reads (State.stars _ (trailing '/' _)).1 (State.stars _ (trailing '/' _)).2 _
        rw [trailing_eq hmap]
        rcases ht with rfl | rfl <;> exact hwithin
    | piece chars =>
      have hpiece : IsPiece chars := hplain _ List.mem_cons_self
      refine ⟨fun previous ↦ .literal rfl hslash ?_, fun _ t _ ↦ ?_⟩
      · refine .piece rfl hpiece.plain (isBoundary_trailing _) (fun h ↦ absurd h hpiece.ne_stars)
          fun previous ↦ ?_
        have hpattern : cur.reverse ++ tokensAfter (.piece chars :: segments) =
            ((pieceTokens chars).reverse ++ .literal '/' :: cur).reverse ++ tokensAfter segments := by
          simp [tokensAfter]
        rw [hpattern]
        exact (hrest _).1 previous
      · refine .piece rfl hpiece.plain (isBoundary_trailing _) (fun h ↦ absurd h hpiece.ne_stars)
          fun previous ↦ ?_
        have hpattern : (t :: cur).reverse ++ tokensWithin (.piece chars :: segments) =
            ((pieceTokens chars).reverse ++ t :: cur).reverse ++ tokensAfter segments := by
          simp [tokensWithin]
        rw [hpattern]
        exact (hrest _).1 previous

/-- Segments are read as the pieces that stand for them. -/
theorem read_segments {segments : List Segment} (hsegments : segments ≠ [])
    (hplain : ∀ segment ∈ segments, segment.IsPlain)
    (hlast : segments = [.anyDepth] ∨ segments.getLast? ≠ some .anyDepth) :
    read (joined '/' (segments.map Segment.chars)) = .ok (tokensOf segments) := by
  rcases hlast with rfl | hlast
  · rfl
  have hclosed : IsClosed segments := by
    refine ⟨fun chars hmem hslash ↦ ?_, hlast⟩
    exact (hplain _ hmem).plain '/' hslash (by simp)
  obtain ⟨segment, segments, rfl⟩ := List.exists_cons_of_ne_nil hsegments
  have hrest (cur : Pattern) := reads_segments hclosed.tail
    (fun s hs ↦ hplain s (List.mem_cons_of_mem segment hs)) cur
  apply Reads.read
  cases segment with
  | anyDepth =>
    have hmap : segments.map Segment.chars ≠ [] := by simpa using hclosed.ne_nil
    refine .stars ?_
    change Reads (State.stars _ (trailing '/' _)).1 (State.stars _ (trailing '/' _)).2 _
    rw [trailing_eq hmap]
    exact (hrest []).2 hclosed.ne_nil .upper (Or.inl rfl)
  | piece chars =>
    have hpiece : IsPiece chars := hplain _ List.mem_cons_self
    refine .piece rfl hpiece.plain (isBoundary_trailing _) (fun h ↦ absurd h hpiece.ne_stars)
      fun previous ↦ ?_
    have hpattern : tokensOf (.piece chars :: segments) =
        ((pieceTokens chars).reverse ++ []).reverse ++ tokensAfter segments := by
      simp [tokensOf]
    rw [hpattern]
    exact (hrest _).1 previous

end SourceSurvey.Glob
