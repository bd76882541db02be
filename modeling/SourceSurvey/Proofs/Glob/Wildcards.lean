import SourceSurvey.Proofs.Glob.Names

/-!
# Stars and question marks

What a pattern of literal characters, stars and question marks says about a name: the name is split
along the pattern. The name is made of bytes, and so a question mark stands for one byte of it. Where the
name is a text, the same split of its characters is meant; the two come to the same if the pattern has
no question mark or every character of the name is one byte.
-/

namespace SourceSurvey.Glob

open Encoding (Bytes)
open Encoding.Utf8 (encode)

/-! ## Splits -/

/-- Letters are split along the characters of a pattern: a star takes any of them, a question mark takes
one, and every other character those that it is spelled with. -/
inductive SplitsAlong {α : Type} (spell : Char → List α) : List Char → List α → Prop where
  | nil : SplitsAlong spell [] []
  | star {chars : List Char} {letters : List α} (front : List α)
      (h : SplitsAlong spell chars letters) : SplitsAlong spell ('*' :: chars) (front ++ letters)
  | any {chars : List Char} {letters : List α} (a : α) (h : SplitsAlong spell chars letters) :
      SplitsAlong spell ('?' :: chars) (a :: letters)
  | literal {c : Char} (hstar : c ≠ '*') (hany : c ≠ '?') {chars : List Char} {letters : List α}
      (h : SplitsAlong spell chars letters) : SplitsAlong spell (c :: chars) (spell c ++ letters)

section

variable {α : Type} {spell : Char → List α} {chars : List Char} {letters : List α}

theorem splitsAlong_nil_iff : SplitsAlong spell [] letters ↔ letters = [] := by
  constructor
  · intro h
    cases h
    rfl
  · rintro rfl
    exact .nil

theorem splitsAlong_star_iff : SplitsAlong spell ('*' :: chars) letters ↔
    ∃ front back, letters = front ++ back ∧ SplitsAlong spell chars back := by
  constructor
  · rintro (_ | ⟨front, h⟩ | _ | ⟨hstar, _, _⟩)
    · exact ⟨front, _, rfl, h⟩
    · exact absurd rfl hstar
  · rintro ⟨front, back, rfl, h⟩
    exact .star front h

theorem splitsAlong_any_iff : SplitsAlong spell ('?' :: chars) letters ↔
    ∃ a back, letters = a :: back ∧ SplitsAlong spell chars back := by
  constructor
  · rintro (_ | _ | ⟨a, h⟩ | ⟨_, hany, _⟩)
    · exact ⟨a, _, rfl, h⟩
    · exact absurd rfl hany
  · rintro ⟨a, back, rfl, h⟩
    exact .any a h

theorem splitsAlong_literal_iff {c : Char} (hstar : c ≠ '*') (hany : c ≠ '?') :
    SplitsAlong spell (c :: chars) letters ↔
      ∃ back, letters = spell c ++ back ∧ SplitsAlong spell chars back := by
  constructor
  · rintro (_ | _ | _ | ⟨_, _, h⟩)
    · exact absurd rfl hstar
    · exact absurd rfl hany
    · exact ⟨_, rfl, h⟩
  · rintro ⟨back, rfl, h⟩
    exact .literal hstar hany h

end

/-! ## Bytes and characters -/

/-- Whether a pattern has no question mark, or all characters of a text are one byte. -/
def IsBytewise (chars text : List Char) : Prop := '?' ∉ chars ∨ ∀ c ∈ text, c.toNat < 128

namespace IsBytewise

variable {chars text : List Char}

theorem mono (h : IsBytewise chars text) {more part : List Char} (hmore : more ⊆ chars)
    (hpart : part ⊆ text) : IsBytewise more part :=
  h.imp (fun hany hmem ↦ hany (hmore hmem)) fun hascii c hc ↦ hascii c (hpart hc)

theorem ascii_of_any (h : IsBytewise ('?' :: chars) text) : ∀ c ∈ text, c.toNat < 128 :=
  h.resolve_left fun hany ↦ hany List.mem_cons_self

end IsBytewise

theorem encode_cons (c : Char) (text : List Char) :
    encode (c :: text) = String.utf8EncodeChar c ++ encode text := rfl

theorem encode_eq_nil_iff {text : List Char} : encode text = [] ↔ text = [] := by
  cases text with
  | nil => simp [encode]
  | cons c text =>
    obtain ⟨lead, trail, hchar, -, -⟩ := Encoding.Utf8.exists_lead c
    simp [encode_cons, hchar]

theorem splitsAlong_encode {chars text : List Char} (hbytes : IsBytewise chars text)
    (h : SplitsAlong (fun c ↦ [c]) chars text) :
    SplitsAlong String.utf8EncodeChar chars (encode text) := by
  induction h with
  | nil => exact .nil
  | star front h ih =>
    rw [Encoding.Utf8.encode_append]
    apply SplitsAlong.star
    exact ih (hbytes.mono (List.subset_cons_self _ _) (List.subset_append_right _ _))
  | any c h ih =>
    have hascii : c.toNat < 128 := hbytes.ascii_of_any c List.mem_cons_self
    rw [encode_cons, Encoding.Utf8.utf8EncodeChar_of_ascii hascii]
    apply SplitsAlong.any
    exact ih (hbytes.mono (List.subset_cons_self _ _) (List.subset_cons_self _ _))
  | literal hstar hany h ih =>
    apply SplitsAlong.literal hstar hany
    exact ih (hbytes.mono (List.subset_cons_self _ _) (List.subset_append_right _ _))

/-- No byte goes on with a character where all characters are one byte. -/
theorem not_isTrail_of_ascii {text : List Char} (hascii : ∀ c ∈ text, c.toNat < 128) {b : UInt8}
    (hb : b ∈ encode text) : ¬Encoding.Utf8.IsTrail b := by
  obtain ⟨c, hc, hmem⟩ := List.mem_flatMap.1 hb
  obtain ⟨lead, trail, hchar, hlead, -⟩ := Encoding.Utf8.exists_lead c
  have hone := Encoding.Utf8.utf8EncodeChar_of_ascii (hascii c hc)
  rw [hchar, List.cons.injEq] at hone
  rw [hchar, hone.2, List.mem_singleton] at hmem
  rwa [hmem]

/-- The bytes of a text are split between characters, except where a star ends: then the star can be
taken to end between characters too. -/
theorem exists_splitsAlong_of_encode {chars text : List Char} (hbytes : IsBytewise chars text)
    {front back : Bytes} (htext : encode text = front ++ back)
    (h : SplitsAlong String.utf8EncodeChar chars back) :
    ∃ s₁ s₂, text = s₁ ++ s₂ ∧ SplitsAlong (fun c ↦ [c]) chars s₂ ∧ (front = [] → s₁ = []) := by
  induction h generalizing text front with
  | nil =>
    refine ⟨text, [], by simp, .nil, ?_⟩
    rintro rfl
    exact encode_eq_nil_iff.1 htext
  | @star chars back taken h ih =>
    rw [← List.append_assoc] at htext
    obtain ⟨s₁, s₂, rfl, hsplit, -⟩ :=
      ih (hbytes.mono (List.subset_cons_self _ _) (List.Subset.refl _)) htext
    exact ⟨[], s₁ ++ s₂, rfl, .star s₁ hsplit, fun _ ↦ rfl⟩
  | @any chars back b h ih =>
    have hb : ¬Encoding.Utf8.IsTrail b :=
      not_isTrail_of_ascii hbytes.ascii_of_any (by simp [htext])
    obtain ⟨s₁, s₂, rfl, hfront, hback⟩ :=
      Encoding.Utf8.exists_of_encode_eq_append (by simpa using hb) htext
    obtain ⟨c, s₂, rfl⟩ : ∃ c more, s₂ = c :: more :=
      List.exists_cons_of_ne_nil fun hnil ↦ by simp [hnil, encode] at hback
    have hascii : c.toNat < 128 := hbytes.ascii_of_any c (by simp)
    rw [encode_cons, Encoding.Utf8.utf8EncodeChar_of_ascii hascii, List.singleton_append,
      List.cons.injEq] at hback
    have hrest : IsBytewise chars s₂ :=
      hbytes.mono (List.subset_cons_self _ _) fun d hd ↦ by simp [hd]
    have htail : encode s₂ = [] ++ back := hback.2
    obtain ⟨t₁, t₂, rfl, hsplit, hnil⟩ := ih hrest htail
    rw [hnil rfl]
    exact ⟨s₁, c :: t₂, rfl, .any c hsplit, fun h ↦ encode_eq_nil_iff.1 (hfront.trans h)⟩
  | @literal c hstar hany chars back h ih =>
    obtain ⟨lead, trail, hchar, hlead, -⟩ := Encoding.Utf8.exists_lead c
    obtain ⟨s₁, s₂, rfl, hfront, hback⟩ :=
      Encoding.Utf8.exists_of_encode_eq_append (by simpa [hchar] using hlead) htext
    obtain ⟨d, s₂, rfl⟩ : ∃ d more, s₂ = d :: more :=
      List.exists_cons_of_ne_nil fun hnil ↦ by simp [hnil, encode, hchar] at hback
    rw [encode_cons] at hback
    obtain ⟨rfl, htail⟩ := Encoding.Utf8.utf8EncodeChar_append_inj hback
    have hrest : IsBytewise chars s₂ :=
      hbytes.mono (List.subset_cons_self _ _) fun c hc ↦ by simp [hc]
    rw [← List.nil_append back] at htail
    obtain ⟨t₁, t₂, rfl, hsplit, hnil⟩ := ih hrest htail
    rw [hnil rfl]
    exact ⟨s₁, d :: t₂, rfl, .literal hstar hany hsplit,
      fun h ↦ encode_eq_nil_iff.1 (hfront.trans h)⟩

/-- The bytes of a text are split along a pattern as its characters are, if the pattern has no question
mark or the characters are one byte each. -/
theorem splitsAlong_encode_iff {chars text : List Char} (hbytes : IsBytewise chars text) :
    SplitsAlong String.utf8EncodeChar chars (encode text) ↔
      SplitsAlong (fun c ↦ [c]) chars text := by
  constructor
  · intro h
    obtain ⟨s₁, s₂, rfl, hsplit, hnil⟩ :=
      exists_splitsAlong_of_encode hbytes (List.nil_append _).symm h
    rwa [hnil rfl]
  · exact splitsAlong_encode hbytes

/-! ## Matching -/

theorem wildTokens_cons (c : Char) (chars : List Char) : wildTokens (c :: chars) =
    (if c = '*' then .star else if c = '?' then .any else .literal c) :: wildTokens chars := rfl

/-- The pieces that stand for a pattern have the names that are split along it. -/
theorem spellsAll_wildTokens {chars : List Char} {name : Bytes} (hname : slash ∉ name) :
    SpellsAll (wildTokens chars) name ↔ SplitsAlong String.utf8EncodeChar chars name := by
  induction chars generalizing name with
  | nil => simp only [wildTokens, List.map_nil, SpellsAll, splitsAlong_nil_iff]
  | cons c chars ih =>
    have hback {front back : Bytes} (hsplit : name = front ++ back) :
        SpellsAll (wildTokens chars) back ↔ SplitsAlong String.utf8EncodeChar chars back :=
      ih fun hmem ↦ hname (hsplit ▸ List.mem_append_right front hmem)
    rw [wildTokens_cons, SpellsAll]
    by_cases hstar : c = '*'
    · subst hstar
      rw [splitsAlong_star_iff]
      refine exists₂_congr fun front back ↦ and_congr_right fun hsplit ↦ ?_
      have hfront : slash ∉ front := fun hmem ↦ hname (hsplit ▸ List.mem_append_left back hmem)
      simp [Spells, hfront, hback hsplit]
    by_cases hany : c = '?'
    · subst hany
      rw [splitsAlong_any_iff]
      simp only [if_neg hstar, if_true, Spells]
      constructor
      · rintro ⟨_, back, hsplit, ⟨b, -, rfl⟩, h⟩
        exact ⟨b, back, hsplit, (hback hsplit).1 h⟩
      · rintro ⟨b, back, hsplit, h⟩
        have hb : b ≠ slash := fun heq ↦ hname (by simp [hsplit, heq])
        have hname : name = [b] ++ back := hsplit
        exact ⟨[b], back, hname, ⟨b, hb, rfl⟩, (hback hname).2 h⟩
    · rw [splitsAlong_literal_iff hstar hany]
      simp only [if_neg hstar, if_neg hany, Spells]
      constructor
      · rintro ⟨_, back, hsplit, rfl, h⟩
        exact ⟨back, hsplit, (hback hsplit).1 h⟩
      · rintro ⟨back, hsplit, h⟩
        exact ⟨_, back, hsplit, rfl, (hback hsplit).2 h⟩

/-- A pattern of literal characters, stars and question marks, sought in every directory, matches the
paths whose last name is split along it. -/
theorem isMatch_wildTokens {chars : List Char} (hne : chars ≠ []) (hslash : '/' ∉ chars)
    {front name : Bytes} (hfront : IsFront front) (hempty : name ≠ []) (hname : slash ∉ name)
    (hdots : name ≠ dots) :
    isMatch (.upper :: wildTokens chars) (front ++ name) ↔
      SplitsAlong String.utf8EncodeChar chars name := by
  have htokens : ∀ t ∈ wildTokens chars, Everywhere IsOfName t ∧ Everywhere IsClosedSet t := by
    intro t ht
    obtain ⟨c, hc, rfl⟩ := List.mem_map.1 ht
    have hliteral : c ≠ '/' := fun h ↦ hslash (h ▸ hc)
    split_ifs <;> simp [Everywhere, IsOfName, IsClosedSet, hliteral]
  have habout : IsAboutName (.upper :: wildTokens chars) :=
    Or.inr ⟨_, rfl, everywhereAll_iff.2 fun t ht ↦ (htokens t ht).1⟩
  have hclosed : EverywhereAll IsClosedSet (.upper :: wildTokens chars) :=
    ⟨by simp [Everywhere, IsClosedSet], everywhereAll_iff.2 fun t ht ↦ (htokens t ht).2⟩
  have hupper : (.upper :: wildTokens chars : Pattern) ≠ [.upper] := by
    simpa [wildTokens] using hne
  have hlast : lastName name = name := lastName_append hname (Or.inl rfl)
  rw [isMatch_append_name habout hclosed hfront hempty hname, isMatch_iff, or_iff_right hupper,
    hlast, and_iff_right fun h ↦ hdots h.1, ← spellsAll_wildTokens hname, SpellsAll]
  constructor
  · rintro ⟨before, back, rfl, rfl | ⟨init, rfl⟩, h⟩
    · exact h
    · exact absurd (by simp) hname
  · intro h
    exact ⟨[], name, rfl, Or.inl rfl, h⟩

/-! ## Reading -/

theorem read_wild {chars : List Char} (hplain : ∀ c ∈ chars, c ∉ ['/', '[', '{', '}'])
    (hstars : chars ≠ ['*', '*']) :
    read ('*' :: '*' :: '/' :: chars) = .ok (.upper :: wildTokens chars) := by
  apply Reads.read
  apply Reads.stars
  change Reads ⟨[.upper], [], some '/'⟩ chars _
  rw [← List.append_nil chars]
  apply Reads.wild rfl hplain (Or.inl rfl)
  · exact fun h ↦ absurd h hstars
  · intro previous
    have hend := Reads.nil (s := ⟨(wildTokens chars).reverse ++ [.upper], [], previous⟩) rfl
    simpa using hend

theorem isTooDeep_wildTokens (chars : List Char) :
    isTooDeep (.upper :: wildTokens chars) = false := by
  have hdepth : depthOfAll (wildTokens chars) ≤ 2 := by
    induction chars with
    | nil => simp [wildTokens, depthOfAll]
    | cons c chars ih =>
      rw [wildTokens_cons, depthOfAll]
      refine Nat.max_le.2 ⟨?_, ih⟩
      split_ifs <;> simp [depthOf]
  rw [isTooDeep, decide_eq_false_iff_not, maxDepth, depthOfAll, depthOf]
  omega

end SourceSurvey.Glob
