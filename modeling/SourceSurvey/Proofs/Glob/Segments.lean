import SourceSurvey.Proofs.Encoding.Utf8
import SourceSurvey.Proofs.Glob.Language

/-!
# Patterns made of segments

A pattern of literal characters, stars and separators can be read segment by segment: two stars alone
are any number of names, and any other segment is one name. The pieces that stand for such a pattern
have exactly the texts that this reading says.
-/

namespace SourceSurvey.Glob

open Encoding (Bytes)

/-! ## Segments -/

/-- A segment of a pattern: two stars, or characters of which a star is any bytes and another one is
itself. -/
inductive Segment where
  | anyDepth
  | piece (chars : List Char)
deriving DecidableEq

/-- Characters that are a segment other than two stars. -/
structure IsPiece (chars : List Char) : Prop where
  ne_nil : chars ≠ []
  ne_stars : chars ≠ ['*', '*']
  plain : ∀ c ∈ chars, c ∉ ['/', '?', '[', ']', '{', '}']

namespace Segment

def chars : Segment → List Char
  | anyDepth => ['*', '*']
  | piece chars => chars

def IsPlain : Segment → Prop
  | anyDepth => True
  | piece chars => IsPiece chars

end Segment

/-- Characters stand for a name. -/
inductive Fills : List Char → Bytes → Prop where
  | nil : Fills [] []
  | star {chars : List Char} {name : Bytes} (front : Bytes) (h : Fills chars name) :
      Fills ('*' :: chars) (front ++ name)
  | literal {c : Char} (hc : c ≠ '*') {chars : List Char} {name : Bytes} (h : Fills chars name) :
      Fills (c :: chars) (String.utf8EncodeChar c ++ name)

/-- Segments stand for all of some names, one inside the other. Two stars at the end stand for at
least one name, if other segments come before them. -/
def Covers (inner : Bool) : List Segment → List Bytes → Prop
  | [], names => names = []
  | [.anyDepth], names => inner → names ≠ []
  | .anyDepth :: segments, names => ∃ k ≤ names.length, Covers true segments (names.drop k)
  | .piece _ :: _, [] => False
  | .piece chars :: segments, name :: names => Fills chars name ∧ Covers true segments names

theorem covers_anyDepth {inner : Bool} {segments : List Segment} (h : segments ≠ [])
    (names : List Bytes) : Covers inner (.anyDepth :: segments) names ↔
      ∃ k ≤ names.length, Covers true segments (names.drop k) := by
  cases segments with
  | nil => exact absurd rfl h
  | cons segment segments => rw [Covers]; simp

theorem fills_star_iff {chars : List Char} {name : Bytes} :
    Fills ('*' :: chars) name ↔ ∃ front back, name = front ++ back ∧ Fills chars back := by
  constructor
  · rintro (_ | ⟨front, h⟩ | ⟨hc, _⟩)
    · exact ⟨front, _, rfl, h⟩
    · exact absurd rfl hc
  · rintro ⟨front, back, rfl, h⟩
    exact .star front h

theorem fills_literal_iff {c : Char} (hc : c ≠ '*') {chars : List Char} {name : Bytes} :
    Fills (c :: chars) name ↔ ∃ back, name = String.utf8EncodeChar c ++ back ∧ Fills chars back := by
  constructor
  · rintro (_ | _ | ⟨_, h⟩)
    · exact absurd rfl hc
    · exact ⟨_, rfl, h⟩
  · rintro ⟨back, rfl, h⟩
    exact .literal hc h

theorem covers_star {names : List Bytes} :
    Covers true [.piece ['*']] names ↔ ∃ name, names = [name] := by
  have hfills (name : Bytes) : Fills ['*'] name := by
    rw [← List.append_nil name]
    exact .star name .nil
  match names with
  | [] => simp [Covers]
  | [name] => simp [Covers, hfills]
  | _ :: _ :: _ => simp [Covers]

/-- Two stars at the end stand for the same names as they do with a star behind them. -/
theorem covers_append_star {inner : Bool} {segments : List Segment} (h : segments = [] → inner)
    (names : List Bytes) : Covers inner (segments ++ [.anyDepth]) names ↔
      Covers inner (segments ++ [.anyDepth, .piece ['*']]) names := by
  induction segments generalizing inner names with
  | nil =>
    rw [List.nil_append, List.nil_append, covers_anyDepth (List.cons_ne_nil (.piece ['*']) []),
      Covers]
    simp only [h rfl, forall_const, covers_star]
    constructor
    · intro hne
      obtain ⟨front, name, rfl⟩ := (List.eq_nil_or_concat' names).resolve_left hne
      exact ⟨front.length, by simp, name, by simp⟩
    · rintro ⟨k, -, name, hname⟩ rfl
      simp at hname
  | cons segment segments ih =>
    cases segment with
    | anyDepth =>
      rw [List.cons_append, List.cons_append, covers_anyDepth (by simp), covers_anyDepth (by simp)]
      simp only [ih fun _ ↦ rfl]
    | piece chars =>
      cases names with
      | nil => simp [Covers]
      | cons name names =>
        rw [List.cons_append, List.cons_append, Covers, Covers, ih fun _ ↦ rfl]

/-! ## Pieces -/

/-- What stands for the characters of a segment. -/
def pieceTokens (chars : List Char) : List Token :=
  chars.map fun c ↦ if c = '*' then .star else .literal c

mutual

/-- What stands for segments with a separator before each. -/
def tokensAfter : List Segment → List Token
  | [] => []
  | .anyDepth :: segments => .middle :: tokensWithin segments
  | .piece chars :: segments => .literal '/' :: (pieceTokens chars ++ tokensAfter segments)

/-- What stands for segments behind two stars and a separator. -/
def tokensWithin : List Segment → List Token
  | [] => []
  | .anyDepth :: segments => tokensWithin segments
  | .piece chars :: segments => pieceTokens chars ++ tokensAfter segments

end

/-- What stands for a pattern made of segments. -/
def tokensOf : List Segment → List Token
  | [] => []
  | .anyDepth :: segments => .upper :: tokensWithin segments
  | .piece chars :: segments => pieceTokens chars ++ tokensAfter segments

theorem slash_mem_utf8EncodeChar {c : Char} : slash ∈ String.utf8EncodeChar c ↔ c = '/' := by
  have hslash : slash = UInt8.ofNat '/'.toNat := rfl
  rw [hslash, Encoding.Utf8.ofNat_mem_utf8EncodeChar (by decide), Char.toNat_inj]

theorem spellsAll_pieceTokens {chars : List Char} (hchars : '/' ∉ chars) {name : Bytes} :
    SpellsAll (pieceTokens chars) name ↔ Fills chars name ∧ slash ∉ name := by
  induction chars generalizing name with
  | nil =>
    rw [pieceTokens, List.map_nil, SpellsAll]
    constructor
    · rintro rfl
      exact ⟨.nil, List.not_mem_nil⟩
    · rintro ⟨_ | _ | _, -⟩
      rfl
  | cons c chars ih =>
    rw [List.mem_cons, not_or] at hchars
    have hrest {back : Bytes} : SpellsAll (chars.map fun c ↦ if c = '*' then .star else .literal c)
        back ↔ Fills chars back ∧ slash ∉ back := ih hchars.2
    rw [pieceTokens, List.map_cons]
    by_cases hc : c = '*'
    · subst hc
      simp only [if_true, SpellsAll, Spells, hrest, fills_star_iff]
      constructor
      · rintro ⟨front, back, rfl, hfront, hback, hslash⟩
        exact ⟨⟨front, back, rfl, hback⟩, by simp [hfront, hslash]⟩
      · rintro ⟨⟨front, back, rfl, hback⟩, hslash⟩
        rw [List.mem_append, not_or] at hslash
        exact ⟨front, back, rfl, hslash.1, hback, hslash.2⟩
    · have hnone : slash ∉ String.utf8EncodeChar c := fun h ↦
        hchars.1 (slash_mem_utf8EncodeChar.1 h).symm
      simp only [if_neg hc, SpellsAll, Spells, hrest, fills_literal_iff hc]
      constructor
      · rintro ⟨_, back, rfl, rfl, hback, hslash⟩
        exact ⟨⟨back, rfl, hback⟩, by simp [hnone, hslash]⟩
      · rintro ⟨⟨back, rfl, hback⟩, hslash⟩
        rw [List.mem_append, not_or] at hslash
        exact ⟨_, back, rfl, rfl, hback, hslash.2⟩

/-! ## Parts in a row -/

/-- Parts with a separator before each. -/
def trailing {α : Type} (sep : α) (parts : List (List α)) : List α :=
  parts.flatMap fun part ↦ sep :: part

/-- Parts with separators between them. -/
def joined {α : Type} (sep : α) : List (List α) → List α
  | [] => []
  | part :: parts => part ++ trailing sep parts

theorem trailing_eq {α : Type} {sep : α} {parts : List (List α)} (h : parts ≠ []) :
    trailing sep parts = sep :: joined sep parts := by
  obtain ⟨part, parts, rfl⟩ := List.exists_cons_of_ne_nil h
  rfl

theorem joined_concat {α : Type} {sep : α} {parts : List (List α)} (h : parts ≠ [])
    (part : List α) : joined sep (parts ++ [part]) = joined sep parts ++ sep :: part := by
  obtain ⟨first, parts, rfl⟩ := List.exists_cons_of_ne_nil h
  simp [joined, trailing]

/-- What stands up to the first separator can be told from what comes behind it. -/
theorem append_inj_of_sep {α : Type} {sep : α} {a a' b b' : List α} (ha : sep ∉ a) (ha' : sep ∉ a')
    (hb : b = [] ∨ ∃ r, b = sep :: r) (hb' : b' = [] ∨ ∃ r, b' = sep :: r)
    (h : a ++ b = a' ++ b') : a = a' ∧ b = b' := by
  induction a generalizing a' with
  | nil =>
    cases a' with
    | nil => exact ⟨rfl, h⟩
    | cons x a' =>
      rw [List.mem_cons, not_or] at ha'
      rcases hb with rfl | ⟨r, rfl⟩
      · simp at h
      · exact absurd (List.cons.inj h).1 ha'.1
  | cons x a ih =>
    rw [List.mem_cons, not_or] at ha
    cases a' with
    | nil =>
      rcases hb' with rfl | ⟨r, rfl⟩
      · simp at h
      · exact absurd (List.cons.inj h).1.symm ha.1
    | cons x' a' =>
      rw [List.mem_cons, not_or] at ha'
      obtain ⟨hx, hrest⟩ := List.cons.inj h
      obtain ⟨rfl, rfl⟩ := ih ha.2 ha'.2 hrest
      exact ⟨by rw [hx], rfl⟩

theorem trailing_head (names : List Bytes) :
    trailing slash names = [] ∨ ∃ r, trailing slash names = slash :: r := by
  cases names with
  | nil => exact Or.inl rfl
  | cons name names => exact Or.inr ⟨_, rfl⟩

/-- What is left of names in a row behind some separator, or of all of it, are the last few names. -/
theorem exists_drop_joined {names : List Bytes} (hne : names ≠ [])
    (hnames : ∀ name ∈ names, slash ∉ name) {back : Bytes} :
    (back = joined slash names ∨ ∃ front, joined slash names = front ++ slash :: back) ↔
      ∃ k < names.length, back = joined slash (names.drop k) := by
  induction names with
  | nil => exact absurd rfl hne
  | cons name names ih =>
    have hname := hnames name List.mem_cons_self
    have hbehind : (∃ front, joined slash (name :: names) = front ++ slash :: back) ↔
        ∃ k < names.length, back = joined slash (names.drop k) := by
      by_cases hnil : names = []
      · subst hnil
        simp only [List.length_nil, Nat.not_lt_zero, false_and, exists_false, iff_false]
        rintro ⟨front, hfront⟩
        rw [joined, trailing, List.flatMap_nil, List.append_nil] at hfront
        exact hname (hfront ▸ List.mem_append_right front List.mem_cons_self)
      · rw [← ih hnil fun n hn ↦ hnames n (List.mem_cons_of_mem name hn), joined,
          trailing_eq hnil]
        constructor
        · rintro ⟨front, hfront⟩
          rcases List.append_eq_append_iff.1 hfront with
            ⟨middle, rfl, hmiddle⟩ | ⟨middle, rfl, hmiddle⟩
          · rcases List.cons_eq_append_iff.1 hmiddle with ⟨rfl, hback⟩ | ⟨rest, rfl, hrest⟩
            · exact Or.inl (List.cons.inj hback).2
            · exact Or.inr ⟨rest, hrest⟩
          · rcases List.cons_eq_append_iff.1 hmiddle with ⟨rfl, hback⟩ | ⟨rest, rfl, hrest⟩
            · exact Or.inl (List.cons.inj hback).2.symm
            · exact absurd (List.mem_append_right front List.mem_cons_self) hname
        · rintro (rfl | ⟨front, hfront⟩)
          · exact ⟨name, rfl⟩
          · exact ⟨name ++ slash :: front, by simp [hfront]⟩
    rw [hbehind]
    constructor
    · rintro (rfl | ⟨k, hk, rfl⟩)
      · exact ⟨0, Nat.zero_lt_succ _, rfl⟩
      · exact ⟨k + 1, Nat.succ_lt_succ hk, rfl⟩
    · rintro ⟨_ | k, hk, rfl⟩
      · exact Or.inl rfl
      · exact Or.inr ⟨k, Nat.lt_of_succ_lt_succ hk, rfl⟩

/-! ## Texts -/

section

variable {names : List Bytes}

theorem spellsAll_upper (hne : names ≠ []) (hnames : ∀ name ∈ names, slash ∉ name)
    (ts : List Token) : SpellsAll (.upper :: ts) (joined slash names) ↔
      ∃ k < names.length, SpellsAll ts (joined slash (names.drop k)) := by
  have hsplit : SpellsAll (.upper :: ts) (joined slash names) ↔
      ∃ back, (back = joined slash names ∨ ∃ front, joined slash names = front ++ slash :: back) ∧
        SpellsAll ts back := by
    simp only [SpellsAll, Spells]
    constructor
    · rintro ⟨_, back, heq, rfl | ⟨front, rfl⟩, hback⟩
      · exact ⟨back, Or.inl heq.symm, hback⟩
      · exact ⟨back, Or.inr ⟨front, by simpa using heq⟩, hback⟩
    · rintro ⟨back, rfl | ⟨front, heq⟩, hback⟩
      · exact ⟨[], _, rfl, Or.inl rfl, hback⟩
      · exact ⟨front ++ [slash], back, by simpa using heq, Or.inr ⟨front, rfl⟩, hback⟩
  rw [hsplit]
  simp only [exists_drop_joined hne hnames]
  constructor
  · rintro ⟨_, ⟨k, hk, rfl⟩, hback⟩
    exact ⟨k, hk, hback⟩
  · rintro ⟨k, hk, hback⟩
    exact ⟨_, ⟨k, hk, rfl⟩, hback⟩

/-- Two stars between separators stand for a separator and whatever two stars at the front do. -/
theorem spellsAll_middle (ts : List Token) (text : Bytes) : SpellsAll (.middle :: ts) text ↔
    ∃ rest, text = slash :: rest ∧ SpellsAll (.upper :: ts) rest := by
  simp only [SpellsAll, Spells]
  constructor
  · rintro ⟨_, back, rfl, rfl | ⟨front, rfl⟩, hback⟩
    · exact ⟨back, rfl, [], back, rfl, Or.inl rfl, hback⟩
    · exact ⟨_, rfl, front ++ [slash], back, rfl, Or.inr ⟨front, rfl⟩, hback⟩
  · rintro ⟨_, rfl, _, back, rfl, rfl | ⟨front, rfl⟩, hback⟩
    · exact ⟨[slash], back, rfl, Or.inl rfl, hback⟩
    · exact ⟨_, back, rfl, Or.inr ⟨front, rfl⟩, hback⟩

theorem spellsAll_slash (ts : List Token) (text : Bytes) :
    SpellsAll (.literal '/' :: ts) text ↔ ∃ rest, text = slash :: rest ∧ SpellsAll ts rest := by
  simp only [SpellsAll, Spells]
  constructor
  · rintro ⟨_, rest, rfl, rfl, hrest⟩
    exact ⟨rest, rfl, hrest⟩
  · rintro ⟨rest, rfl, hrest⟩
    exact ⟨_, rest, rfl, rfl, hrest⟩

theorem head_of_spellsAll_tokensAfter {segments : List Segment} {text : Bytes}
    (h : SpellsAll (tokensAfter segments) text) : text = [] ∨ ∃ r, text = slash :: r := by
  match segments with
  | [] => exact Or.inl (by simpa [tokensAfter, SpellsAll] using h)
  | .anyDepth :: segments =>
    obtain ⟨rest, rfl, -⟩ := (spellsAll_middle _ _).1 (by simpa only [tokensAfter] using h)
    exact Or.inr ⟨rest, rfl⟩
  | .piece chars :: segments =>
    obtain ⟨rest, rfl, -⟩ := (spellsAll_slash _ _).1 (by simpa only [tokensAfter] using h)
    exact Or.inr ⟨rest, rfl⟩

/-- A segment that is one name stands for the first of several names. -/
theorem spellsAll_piece {chars : List Char} (hchars : '/' ∉ chars) {name : Bytes}
    (hname : slash ∉ name) (segments : List Segment) :
    SpellsAll (pieceTokens chars ++ tokensAfter segments) (name ++ trailing slash names) ↔
      Fills chars name ∧ SpellsAll (tokensAfter segments) (trailing slash names) := by
  rw [spellsAll_append]
  constructor
  · rintro ⟨front, back, heq, hfront, hback⟩
    obtain ⟨hfills, hslash⟩ := (spellsAll_pieceTokens hchars).1 hfront
    obtain ⟨rfl, rfl⟩ := append_inj_of_sep hname hslash (trailing_head names)
      (head_of_spellsAll_tokensAfter hback) heq
    exact ⟨hfills, hback⟩
  · rintro ⟨hfills, hback⟩
    exact ⟨name, _, rfl, (spellsAll_pieceTokens hchars).2 ⟨hfills, hname⟩, hback⟩

end

/-- Segments of which none holds a separator and the last one is a name. -/
structure IsClosed (segments : List Segment) : Prop where
  no_slash : ∀ chars, .piece chars ∈ segments → '/' ∉ chars
  last : segments.getLast? ≠ some .anyDepth

theorem IsClosed.tail {segment : Segment} {segments : List Segment}
    (h : IsClosed (segment :: segments)) : IsClosed segments where
  no_slash chars hmem := h.no_slash chars (List.mem_cons_of_mem segment hmem)
  last := by
    have hlast := h.last
    cases segments with
    | nil => simp
    | cons => rwa [List.getLast?_cons_cons] at hlast

theorem IsClosed.ne_nil {segments : List Segment} (h : IsClosed (.anyDepth :: segments)) :
    segments ≠ [] := by
  rintro rfl
  exact h.last rfl

theorem covers_anyDepth_anyDepth {inner : Bool} {segments : List Segment} (h : segments ≠ [])
    (names : List Bytes) : Covers inner (.anyDepth :: .anyDepth :: segments) names ↔
      Covers inner (.anyDepth :: segments) names := by
  rw [covers_anyDepth (by simp), covers_anyDepth h]
  simp only [covers_anyDepth h]
  constructor
  · rintro ⟨k, hk, j, hj, hcovers⟩
    rw [List.length_drop] at hj
    rw [List.drop_drop] at hcovers
    exact ⟨k + j, by omega, hcovers⟩
  · rintro ⟨k, hk, hcovers⟩
    exact ⟨0, Nat.zero_le _, k, hk, hcovers⟩

theorem spellsAll_tokensAfter {segments : List Segment} (hclosed : IsClosed segments)
    {names : List Bytes} (hnames : ∀ name ∈ names, slash ∉ name) :
    (SpellsAll (tokensAfter segments) (trailing slash names) ↔ Covers true segments names) ∧
      (segments ≠ [] →
        ((∃ k < names.length, SpellsAll (tokensWithin segments) (joined slash (names.drop k))) ↔
          Covers true (.anyDepth :: segments) names)) := by
  induction segments generalizing names with
  | nil =>
    refine ⟨?_, fun h ↦ absurd rfl h⟩
    rw [tokensAfter, SpellsAll, Covers]
    cases names <;> simp [trailing]
  | cons segment segments ih =>
    cases segment with
    | anyDepth =>
      have hrest := (ih hclosed.tail hnames).2 hclosed.ne_nil
      refine ⟨?_, fun _ ↦ ?_⟩
      · rw [tokensAfter, spellsAll_middle, ← hrest]
        by_cases hne : names = []
        · subst hne
          simp [trailing]
        · rw [trailing_eq hne, ← spellsAll_upper hne hnames]
          simp
      · rw [covers_anyDepth_anyDepth hclosed.ne_nil, ← hrest]
        simp only [tokensWithin]
    | piece chars =>
      -- for any names, as those behind two stars begin anywhere
      have hfirst {name : Bytes} {names : List Bytes} (h : ∀ n ∈ name :: names, slash ∉ n) :
          SpellsAll (pieceTokens chars ++ tokensAfter segments) (joined slash (name :: names)) ↔
            Covers true (.piece chars :: segments) (name :: names) := by
        rw [joined, spellsAll_piece (hclosed.no_slash chars List.mem_cons_self)
          (h name List.mem_cons_self),
          (ih hclosed.tail fun n hn ↦ h n (List.mem_cons_of_mem name hn)).1, Covers]
      refine ⟨?_, fun _ ↦ ?_⟩
      · rw [tokensAfter, spellsAll_slash]
        cases names with
        | nil => simp [trailing, Covers]
        | cons name names =>
          rw [← hfirst hnames, trailing_eq (by simp)]
          simp
      · rw [tokensWithin, covers_anyDepth (by simp)]
        refine exists_congr fun k ↦ ?_
        cases hdrop : names.drop k with
        | nil =>
          have hk : names.length ≤ k := List.drop_eq_nil_iff.1 hdrop
          simp [Covers, hk]
        | cons name rest =>
          have hk : k < names.length := by
            by_contra hge
            rw [List.drop_eq_nil_iff.2 (Nat.le_of_not_lt hge)] at hdrop
            cases hdrop
          have hrest : ∀ n ∈ name :: rest, slash ∉ n := fun n hn ↦
            hnames n (List.mem_of_mem_drop (hdrop ▸ hn))
          simp only [hfirst hrest, hk, hk.le]

/-- What stands for segments, the last of which is a name, has the texts that the segments cover. -/
theorem spellsAll_tokensOf {segments : List Segment} (hsegments : segments ≠ [])
    (hclosed : IsClosed segments) {names : List Bytes} (hne : names ≠ [])
    (hnames : ∀ name ∈ names, slash ∉ name) (inner : Bool) :
    SpellsAll (tokensOf segments) (joined slash names) ↔ Covers inner segments names := by
  obtain ⟨name, rest, rfl⟩ := List.exists_cons_of_ne_nil hne
  cases segments with
  | nil => exact absurd rfl hsegments
  | cons segment segments =>
    cases segment with
    | anyDepth =>
      rw [tokensOf, spellsAll_upper hne hnames,
        (spellsAll_tokensAfter hclosed.tail hnames).2 hclosed.ne_nil,
        covers_anyDepth hclosed.ne_nil, covers_anyDepth hclosed.ne_nil]
    | piece chars =>
      rw [tokensOf, joined, spellsAll_piece (hclosed.no_slash chars List.mem_cons_self)
        (hnames name List.mem_cons_self), (spellsAll_tokensAfter hclosed.tail
          fun n hn ↦ hnames n (List.mem_cons_of_mem name hn)).1, Covers]

theorem pieceTokens_ne {chars : List Char} (h : chars ≠ []) (ts : List Token) :
    ∃ t more, pieceTokens chars ++ ts = t :: more ∧ t ≠ .upper := by
  obtain ⟨c, chars, rfl⟩ := List.exists_cons_of_ne_nil h
  refine ⟨_, _, rfl, ?_⟩
  by_cases hc : c = '*' <;> simp [hc]

theorem tokensWithin_ne_nil {segments : List Segment} (hsegments : segments ≠ [])
    (hclosed : IsClosed segments) (hplain : ∀ segment ∈ segments, segment.IsPlain) :
    tokensWithin segments ≠ [] := by
  induction segments with
  | nil => exact absurd rfl hsegments
  | cons segment segments ih =>
    cases segment with
    | anyDepth =>
      exact ih hclosed.ne_nil hclosed.tail fun s hs ↦ hplain s (List.mem_cons_of_mem _ hs)
    | piece chars =>
      have hpiece : IsPiece chars := hplain _ List.mem_cons_self
      obtain ⟨t, more, heq, -⟩ := pieceTokens_ne hpiece.ne_nil (tokensAfter segments)
      rw [tokensWithin, heq]
      exact List.cons_ne_nil t more

/-- Segments of which the last one is a name are not sought everywhere. -/
theorem tokensOf_ne_upper {segments : List Segment} (hclosed : IsClosed segments)
    (hplain : ∀ segment ∈ segments, segment.IsPlain) : tokensOf segments ≠ [.upper] := by
  match segments with
  | [] => simp [tokensOf]
  | .anyDepth :: segments =>
    have hwithin := tokensWithin_ne_nil hclosed.ne_nil hclosed.tail
      fun s hs ↦ hplain s (List.mem_cons_of_mem _ hs)
    simpa [tokensOf] using hwithin
  | .piece chars :: segments =>
    have hpiece : IsPiece chars := hplain _ List.mem_cons_self
    obtain ⟨t, more, heq, ht⟩ := pieceTokens_ne hpiece.ne_nil (tokensAfter segments)
    rw [tokensOf, heq]
    simp [ht]

/-! ## Depth -/

theorem depthOfAll_append (ts us : List Token) :
    depthOfAll (ts ++ us) = max (depthOfAll ts) (depthOfAll us) := by
  induction ts with
  | nil => simp [depthOfAll]
  | cons t ts ih => rw [List.cons_append, depthOfAll, depthOfAll, ih, Nat.max_assoc]

theorem depthOfAll_pieceTokens (chars : List Char) : depthOfAll (pieceTokens chars) ≤ 4 := by
  induction chars with
  | nil => simp [pieceTokens, depthOfAll]
  | cons c chars ih =>
    rw [pieceTokens, List.map_cons, depthOfAll]
    refine Nat.max_le.2 ⟨?_, ih⟩
    by_cases hc : c = '*' <;> simp [hc, depthOf]

theorem depthOfAll_tokensAfter (segments : List Segment) :
    depthOfAll (tokensAfter segments) ≤ 4 ∧ depthOfAll (tokensWithin segments) ≤ 4 := by
  induction segments with
  | nil => simp [tokensAfter, tokensWithin, depthOfAll]
  | cons segment segments ih =>
    cases segment with
    | anyDepth => simpa [tokensAfter, tokensWithin, depthOfAll, depthOf] using ih.2
    | piece chars =>
      simpa [tokensAfter, tokensWithin, depthOfAll, depthOf, depthOfAll_append]
        using ⟨depthOfAll_pieceTokens chars, ih.1⟩

/-- Patterns made of segments are never too deep. -/
theorem isTooDeep_tokensOf (segments : List Segment) :
    isTooDeep (tokensOf segments) = false := by
  have hdepth : depthOfAll (tokensOf segments) ≤ 4 := by
    match segments with
    | [] => simp [tokensOf, depthOfAll]
    | .anyDepth :: segments =>
      simpa [tokensOf, depthOfAll, depthOf] using (depthOfAll_tokensAfter segments).2
    | .piece chars :: segments =>
      simpa [tokensOf, depthOfAll_append] using
        ⟨depthOfAll_pieceTokens chars, (depthOfAll_tokensAfter segments).1⟩
  rw [isTooDeep, decide_eq_false_iff_not, maxDepth]
  omega

/-- Patterns can be tried together if none that becomes an expression is too deep. -/
theorem refusal?_eq_none_iff {patterns : List Pattern} :
    refusal? patterns = none ↔
      ∀ pattern ∈ patterns, methodOf pattern ≠ .comparison → isTooDeep pattern = false := by
  have hown : patterns.find? (fun p ↦ methodOf p = .ownExpression && isTooDeep p) = none ↔
      ∀ p ∈ patterns, methodOf p = .ownExpression → isTooDeep p = false := by
    simp
  have hshared : (patterns.filter fun p ↦ methodOf p = .sharedExpression).findIdx?
      isTooDeep = none ↔ ∀ p ∈ patterns, methodOf p = .sharedExpression → isTooDeep p = false := by
    simp
  have hmethods (p : Pattern) : (methodOf p ≠ .comparison → isTooDeep p = false) ↔
      (methodOf p = .ownExpression → isTooDeep p = false) ∧
        (methodOf p = .sharedExpression → isTooDeep p = false) := by
    cases methodOf p <;> simp
  simp only [hmethods, forall_and, ← hown, ← hshared]
  rw [refusal?]
  split
  · rename_i p hfound
    simp [hfound]
  · rename_i hnone
    rw [Option.map_eq_none_iff, and_iff_right hnone]

theorem refusal?_eq_none {patterns : List Pattern}
    (h : ∀ pattern ∈ patterns, isTooDeep pattern = false) : refusal? patterns = none :=
  refusal?_eq_none_iff.2 fun pattern hpattern _ ↦ h pattern hpattern

end SourceSurvey.Glob
