import Mathlib
import SourceSurvey.Glob.Match

/-!
# The language of a pattern

Which bytes each piece of a pattern stands for, said without the way in which a path is tried. A path
matches a pattern exactly if it is one of the texts of the pattern, the special case of two dots apart.
-/

namespace SourceSurvey.Glob

open Encoding (Bytes)

mutual

/-- Whether a piece of a pattern stands for some bytes. -/
def Spells : Token → Bytes → Prop
  | .literal c, bytes => bytes = String.utf8EncodeChar c
  | .any, bytes => ∃ b, b ≠ slash ∧ bytes = [b]
  | .star, bytes => slash ∉ bytes
  | .upper, bytes => bytes = [] ∨ ∃ front, bytes = front ++ [slash]
  | .middle, bytes => bytes = [slash] ∨ ∃ front, bytes = slash :: (front ++ [slash])
  | .lower, bytes => ∃ rest, bytes = slash :: rest
  | .set negated ranges, bytes => ∃ b, inSet ranges b ≠ negated ∧ bytes = [b]
  | .choice [], bytes => bytes = []
  | .choice (branch :: branches), bytes => SpellsAny (branch :: branches) bytes

/-- Whether the pieces of a pattern stand for some bytes, one behind the other. -/
def SpellsAll : List Token → Bytes → Prop
  | [], bytes => bytes = []
  | t :: ts, bytes => ∃ front back, bytes = front ++ back ∧ Spells t front ∧ SpellsAll ts back

def SpellsAny : List (List Token) → Bytes → Prop
  | [], _ => False
  | branch :: branches, bytes => SpellsAll branch bytes ∨ SpellsAny branches bytes

end

theorem spellsAll_append (ts us : List Token) (bytes : Bytes) :
    SpellsAll (ts ++ us) bytes ↔
      ∃ front back, bytes = front ++ back ∧ SpellsAll ts front ∧ SpellsAll us back := by
  induction ts generalizing bytes with
  | nil => simp [SpellsAll]
  | cons t ts ih =>
    simp only [List.cons_append, SpellsAll, ih]
    constructor
    · rintro ⟨first, _, rfl, hfirst, front, back, rfl, hfront, hback⟩
      exact ⟨first ++ front, back, by simp, ⟨first, front, rfl, hfirst, hfront⟩, hback⟩
    · rintro ⟨_, back, rfl, ⟨first, front, rfl, hfirst, hfront⟩, hback⟩
      exact ⟨first, front ++ back, by simp, hfirst, front, back, rfl, hfront, hback⟩

/-! ## Rests -/

theorem strip?_eq_some_iff {bytes path r : Bytes} :
    strip? bytes path = some r ↔ path = bytes ++ r := by
  fun_induction strip? bytes path <;> simp_all [eq_comm]

theorem mem_afterName {path r : Bytes} :
    r ∈ afterName path ↔ ∃ front, path = front ++ r ∧ slash ∉ front := by
  induction path with
  | nil => simp [afterName]
  | cons b rest ih =>
    rw [afterName, List.mem_cons]
    constructor
    · rintro (rfl | h)
      · exact ⟨[], rfl, List.not_mem_nil⟩
      · by_cases hb : b = slash
      -- only what follows a separator is cut off there
        · simp [hb] at h
        · rw [if_neg hb] at h
          obtain ⟨front, rfl, hfront⟩ := ih.1 h
          exact ⟨b :: front, rfl, by simpa [Ne.symm hb] using hfront⟩
    · rintro ⟨front, hpath, hfront⟩
      rcases List.cons_eq_append_iff.1 hpath with ⟨rfl, rfl⟩ | ⟨front, rfl, rfl⟩
      · exact Or.inl rfl
      · rw [List.mem_cons, not_or] at hfront
        exact Or.inr (by simpa [Ne.symm hfront.1] using ih.2 ⟨front, rfl, hfront.2⟩)

theorem mem_behindSlashes {path r : Bytes} :
    r ∈ behindSlashes path ↔ ∃ front, path = front ++ slash :: r := by
  induction path with
  | nil => simp [behindSlashes]
  | cons b rest ih =>
    have hcons : (∃ front, b :: rest = front ++ slash :: r) ↔
        (b = slash ∧ rest = r) ∨ ∃ front, rest = front ++ slash :: r := by
      simp only [List.cons_eq_append_iff]
      grind
    rw [hcons, ← ih, behindSlashes]
    grind

theorem mem_suffixes {path r : Bytes} : r ∈ suffixes path ↔ ∃ front, path = front ++ r := by
  induction path with
  | nil => simp [suffixes]
  | cons b rest ih =>
    rw [suffixes, List.mem_cons, ih]
    simp only [List.cons_eq_append_iff]
    grind

/-- One rest of each length is enough, where rests of one length are equal. -/
theorem mem_distinct {paths : List Bytes} {r : Bytes}
    (h : ∀ a ∈ paths, ∀ b ∈ paths, a.length = b.length → a = b) :
    r ∈ distinct paths ↔ r ∈ paths := by
  have hkept (sized : List (Nat × Bytes)) (hsized : ∀ s ∈ sized, s.1 = s.2.length ∧ s.2 ∈ paths)
      (q : Bytes) :
      q ∈ sized.foldr (fun s kept ↦ if (kept.head?.map List.length) = some s.1 then kept
        else s.2 :: kept) [] ↔ q ∈ sized.map (·.2) := by
    induction sized generalizing q with
    | nil => rfl
    | cons s sized ih =>
      obtain ⟨hlength, hpath⟩ := hsized s List.mem_cons_self
      have hrest := ih fun s hs ↦ hsized s (List.mem_cons_of_mem _ hs)
      rw [List.foldr_cons, List.map_cons, List.mem_cons, ← hrest]
      generalize sized.foldr _ [] = kept at hrest ⊢
      split
      · -- a rest of that length is kept already, and it is the same one
        rename_i hhead
        obtain ⟨first, hfirst, hsame⟩ := Option.map_eq_some_iff.1 hhead
        have hmem : first ∈ kept := List.mem_of_head? hfirst
        obtain ⟨s', hs', rfl⟩ := List.mem_map.1 ((hrest first).1 hmem)
        have heq := h _ (hsized s' (List.mem_cons_of_mem _ hs')).2 _ hpath (hsame.trans hlength)
        rw [or_iff_right_of_imp]
        rintro rfl
        exact heq ▸ hmem
      · rw [List.mem_cons]
  rw [distinct, hkept]
  · simp [List.mem_mergeSort]
  · intro s hs
    rw [List.mem_mergeSort] at hs
    obtain ⟨path, hpath, rfl⟩ := List.mem_map.1 hs
    exact ⟨rfl, hpath⟩

/-- What is left behind some bytes is the whole path, or is left behind its first byte. -/
theorem exists_cons_eq_append {P : Bytes → Prop} {b : UInt8} {rest r : Bytes} :
    (∃ front, b :: rest = front ++ r ∧ P front) ↔
      (r = b :: rest ∧ P []) ∨ ∃ front, rest = front ++ r ∧ P (b :: front) := by
  simp only [List.cons_eq_append_iff]
  grind

/-! ## Matching -/

mutual

theorem mem_rests (path r : Bytes) (t : Token) :
    r ∈ rests path t ↔ ∃ front, path = front ++ r ∧ Spells t front := by
  cases t with
  | literal c => simp [rests, Spells, strip?_eq_some_iff]
  | star => simp [rests, Spells, mem_afterName]
  | upper =>
    rw [rests, List.mem_cons, mem_behindSlashes]
    simp only [Spells, exists_or, and_or_left]
    apply or_congr
    · simp [eq_comm]
    · simp
  | any =>
    cases path with
    | nil => simp [rests, Spells]
    | cons b rest =>
      rw [exists_cons_eq_append]
      by_cases hb : b = slash <;> simp [rests, Spells, hb, @eq_comm _ r rest]
  | middle =>
    cases path with
    | nil => simp [rests, Spells]
    | cons b rest =>
      rw [exists_cons_eq_append]
      by_cases hb : b = slash
      · simp [rests, Spells, hb, mem_behindSlashes, and_or_left, exists_or, @eq_comm _ r rest]
      · simp [rests, Spells, hb]
  | lower =>
    cases path with
    | nil => simp [rests, Spells]
    | cons b rest =>
      rw [exists_cons_eq_append]
      by_cases hb : b = slash <;> simp [rests, Spells, hb, mem_suffixes]
  | set negated ranges =>
    cases path with
    | nil => simp [rests, Spells]
    | cons b rest =>
      rw [exists_cons_eq_append]
      by_cases hb : inSet ranges b = negated <;> simp [rests, Spells, hb, @eq_comm _ r rest]
  | choice branches =>
    cases branches with
    | nil => simp [rests, Spells, eq_comm]
    | cons branch branches =>
      rw [rests]
      · simp only [Spells]
        exact mem_restsOfAny path r (branch :: branches)
      · simp

theorem mem_restsOfAll (whole r : Bytes) (paths : List Bytes) (hpaths : ∀ p ∈ paths, p <:+ whole)
    (ts : List Token) :
    r ∈ restsOfAll paths ts ↔ ∃ p ∈ paths, ∃ front, p = front ++ r ∧ SpellsAll ts front := by
  cases ts with
  | nil => simp [restsOfAll, SpellsAll]
  | cons t ts =>
    have heach (q : Bytes) : q ∈ restsOfEach t paths ↔
        ∃ p ∈ paths, ∃ front, p = front ++ q ∧ Spells t front := by
      induction paths with
      | nil => simp [restsOfEach]
      | cons p paths ih =>
        rw [restsOfEach, List.mem_append, mem_rests p q t,
          ih fun p hp ↦ hpaths p (List.mem_cons_of_mem _ hp), List.exists_mem_cons_iff]
    have hsuffix (q : Bytes) (hq : q ∈ restsOfEach t paths) : q <:+ whole := by
      obtain ⟨p, hp, front, rfl, -⟩ := (heach q).1 hq
      exact (List.suffix_append front q).trans (hpaths _ hp)
    have hdistinct (q : Bytes) : q ∈ distinct (restsOfEach t paths) ↔ q ∈ restsOfEach t paths :=
      mem_distinct fun a ha b hb hlength ↦
        (List.suffix_of_suffix_length_le (hsuffix a ha) (hsuffix b hb) hlength.le).eq_of_length hlength
    rw [restsOfAll, mem_restsOfAll whole r _ (fun q hq ↦ hsuffix q ((hdistinct q).1 hq)) ts]
    simp only [hdistinct, heach, SpellsAll]
    constructor
    · rintro ⟨_, ⟨p, hp, first, rfl, hfirst⟩, front, rfl, hfront⟩
      exact ⟨_, hp, first ++ front, by simp, first, front, rfl, hfirst, hfront⟩
    · rintro ⟨p, hp, _, rfl, first, front, rfl, hfirst, hfront⟩
      exact ⟨front ++ r, ⟨_, hp, first, by simp, hfirst⟩, front, rfl, hfront⟩

theorem mem_restsOfAny (path r : Bytes) (branches : List (List Token)) :
    r ∈ restsOfAny path branches ↔ ∃ front, path = front ++ r ∧ SpellsAny branches front := by
  cases branches with
  | nil => simp [restsOfAny, SpellsAny]
  | cons branch branches =>
    rw [restsOfAny, List.mem_append, mem_restsOfAny path r branches,
      mem_restsOfAll path r [path] (by simp) branch]
    simp only [SpellsAny]
    grind

end

/-- A path matches a pattern if it is one of its texts, unless it ends in two dots and the pattern is
about the name of an entry; the pattern of two stars matches any path. -/
theorem isMatch_iff {pattern : Pattern} {path : Bytes} :
    isMatch pattern path ↔ pattern = [.upper] ∨
      ¬(lastName path = dots ∧ needsName pattern) ∧ SpellsAll pattern path := by
  have hrests : (restsOfAll [path] pattern).any List.isEmpty ↔ SpellsAll pattern path := by
    rw [List.any_eq_true]
    simp only [List.isEmpty_iff, exists_eq_right]
    rw [mem_restsOfAll path [] [path] (by simp) pattern]
    simp
  unfold isMatch
  split
  · simp
  · rename_i hupper
    rw [or_iff_right hupper, Bool.and_eq_true, hrests]
    simp [imp_iff_not_or]

/-! ## The last name -/

/-- What a path ends in: the empty text, or something with a separator at its end, comes before it. -/
def IsFront (front : Bytes) : Prop := front = [] ∨ ∃ init, front = init ++ [slash]

theorem lastName_append {name : Bytes} (hname : slash ∉ name) {front : Bytes}
    (hfront : IsFront front) : lastName (front ++ name) = name := by
  have hall : ∀ b ∈ name.reverse, (b != slash) := by
    intro b hb
    rw [bne_iff_ne]
    rintro rfl
    exact hname (List.mem_reverse.1 hb)
  rw [lastName, List.reverse_append, List.takeWhile_append_of_pos hall]
  rcases hfront with rfl | ⟨init, rfl⟩ <;> simp

end SourceSurvey.Glob
