import Mathlib
import SourceSurvey.Text.Blank

/-!
# Trimmed and lowered texts

Trimming the end of a text commutes with dropping characters in front of it, so each end can be looked
at by itself: a text is indented if blanks are left in front once its end is trimmed. Blanks and dots
stay what they are in lower case.
-/

namespace SourceSurvey.Text

/-! ## The end -/

theorem trimEnd_eq_self_iff {text : List Char} :
    trimEnd text = text ↔ ∀ h : text ≠ [], ¬isBlank (text.getLast h) :=
  List.rdropWhile_eq_self_iff

theorem trimEnd_eq_nil_iff {text : List Char} : trimEnd text = [] ↔ ∀ c ∈ text, isBlank c := by
  rw [trimEnd, dropEndWhile, List.reverse_eq_nil_iff, List.dropWhile_eq_nil_iff]
  simp

theorem trimEnd_trimEnd (text : List Char) : trimEnd (trimEnd text) = trimEnd text :=
  List.rdropWhile_idempotent _ _

theorem trimEnd_tail {c : Char} {text : List Char} (h : trimEnd (c :: text) = c :: text) :
    trimEnd text = text := by
  rw [trimEnd_eq_self_iff] at h ⊢
  intro hne
  rw [← List.getLast_cons hne]
  exact h (List.cons_ne_nil c text)

/-- A character in front stays, unless all of the text is blank. -/
theorem trimEnd_cons_eq {c : Char} {text : List Char} (h : trimEnd text ≠ [] ∨ ¬isBlank c) :
    trimEnd (c :: text) = c :: trimEnd text := by
  rw [trimEnd, trimEnd, dropEndWhile, dropEndWhile, List.reverse_cons, List.dropWhile_append]
  rw [trimEnd, dropEndWhile, Ne, List.reverse_eq_nil_iff] at h
  by_cases hnil : text.reverse.dropWhile isBlank = []
  · have hc : ¬isBlank c := h.resolve_left fun hne ↦ hne hnil
    rw [hnil, List.isEmpty_nil, if_pos rfl, List.dropWhile_cons_of_neg hc]
    rfl
  · rw [if_neg (by rwa [List.isEmpty_iff]), List.reverse_append]
    rfl

theorem trimEnd_cons {c : Char} {text : List Char} (h : trimEnd text = text) (hne : text ≠ []) :
    trimEnd (c :: text) = c :: text := by
  rw [trimEnd_cons_eq (Or.inl (by rwa [h])), h]

theorem trimEnd_dropWhile (p : Char → Bool) (text : List Char) :
    trimEnd (text.dropWhile p) = (trimEnd text).dropWhile p := by
  induction text with
  | nil => rfl
  | cons c text ih =>
    by_cases hkept : trimEnd text ≠ [] ∨ ¬isBlank c
    · rw [trimEnd_cons_eq hkept]
      by_cases hc : p c
      · rw [List.dropWhile_cons_of_pos hc, List.dropWhile_cons_of_pos hc, ih]
      · rw [List.dropWhile_cons_of_neg hc, List.dropWhile_cons_of_neg hc, trimEnd_cons_eq hkept]
    · -- only blanks are dropped, whichever of the two comes first
      have hblank : trimEnd (c :: text) = [] := by
        rw [not_or, not_not, not_not, trimEnd_eq_nil_iff] at hkept
        rw [trimEnd_eq_nil_iff]
        exact List.forall_mem_cons.2 ⟨hkept.2, hkept.1⟩
      rw [hblank, List.dropWhile_nil]
      rw [trimEnd_eq_nil_iff] at hblank ⊢
      exact fun d hd ↦ hblank d ((List.dropWhile_suffix p).subset hd)

theorem head?_trimEnd {text : List Char} (h : trimEnd text ≠ []) :
    (trimEnd text).head? = text.head? := by
  obtain ⟨blanks, hblanks⟩ : trimEnd text <+: text := List.rdropWhile_prefix _ _
  calc
    (trimEnd text).head? = (trimEnd text ++ blanks).head? := (List.head?_append_of_ne_nil _ h).symm
    _ = text.head? := congrArg List.head? hblanks

theorem trimEnd_map {f : Char → Char} (hf : isBlank ∘ f = isBlank) (text : List Char) :
    trimEnd (text.map f) = (trimEnd text).map f := by
  simp only [trimEnd, dropEndWhile, ← List.map_reverse, List.dropWhile_map, hf]

/-! ## Both ends -/

theorem trim_eq (text : List Char) : trim text = (trimEnd text).dropWhile isBlank :=
  trimEnd_dropWhile isBlank text

theorem trimEnd_trim (text : List Char) : trimEnd (trim text) = trim text :=
  trimEnd_trimEnd _

theorem trimEnd_of_trim {text : List Char} (h : trim text = text) : trimEnd text = text := by
  have htrim := trimEnd_trim text
  rwa [h] at htrim

theorem trim_cons {c : Char} (hc : ¬isBlank c) {text : List Char} (h : trimEnd text = text)
    (hne : text ≠ []) : trim (c :: text) = c :: text := by
  rw [trim, List.dropWhile_cons_of_neg hc]
  exact trimEnd_cons h hne

theorem trim_map {f : Char → Char} (hf : isBlank ∘ f = isBlank) (text : List Char) :
    trim (text.map f) = (trim text).map f := by
  rw [trim, trim, List.dropWhile_map, hf, trimEnd_map hf]

theorem length_dropWhile_lt {p : Char → Bool} {text : List Char} (h : ∃ c ∈ text.head?, p c) :
    (text.dropWhile p).length < text.length := by
  obtain ⟨c, hc, hp⟩ := h
  obtain ⟨rest, rfl⟩ := List.head?_eq_some_iff.1 hc
  rw [List.dropWhile_cons_of_pos hp, List.length_cons]
  exact Nat.lt_succ_of_le (List.dropWhile_suffix p).length_le

theorem not_isBlank_head {c : Char} {text : List Char} (htrim : trim (c :: text) = c :: text) :
    ¬isBlank c := by
  intro hc
  have hend : trimEnd (c :: text) = c :: text := trimEnd_of_trim htrim
  have hshorter : ((c :: text).dropWhile isBlank).length < (c :: text).length :=
    length_dropWhile_lt ⟨c, rfl, hc⟩
  rw [trim_eq, hend] at htrim
  rw [htrim] at hshorter
  exact lt_irrefl _ hshorter

/-- A text that is not blank, with a blank in front. -/
def IsIndented (text : List Char) : Prop :=
  (∃ c ∈ text.head?, isBlank c) ∧ ∃ c ∈ text, ¬isBlank c

theorem isIndented_iff {text : List Char} :
    IsIndented text ↔ ∃ c ∈ (trimEnd text).head?, isBlank c := by
  have hsome : (∃ c ∈ text, ¬isBlank c) ↔ trimEnd text ≠ [] := by
    rw [Ne, trimEnd_eq_nil_iff]
    push Not
    rfl
  rw [IsIndented, hsome]
  by_cases hnil : trimEnd text = []
  · simp [hnil]
  · rw [head?_trimEnd hnil]
    exact and_iff_left hnil

/-! ## Lower case -/

theorem toNat_toLower (c : Char) :
    c.toLower.toNat = if 65 ≤ c.toNat ∧ c.toNat ≤ 90 then c.toNat + 32 else c.toNat := by
  have hrange : (c.val ≥ 'A'.val ∧ c.val ≤ 'Z'.val) ↔ 65 ≤ c.toNat ∧ c.toNat ≤ 90 := Iff.rfl
  unfold Char.toLower
  simp only [hrange]
  split
  · rename_i h
    have hsum : (c.val + ('a'.val - 'A'.val)).toNat = (c.val.toNat + 32) % 2 ^ 32 :=
      UInt32.toNat_add c.val 32
    have hle : c.val.toNat ≤ 90 := h.2
    change (c.val + ('a'.val - 'A'.val)).toNat = c.val.toNat + 32
    omega
  · rfl

theorem toLower_toLower (c : Char) : c.toLower.toLower = c.toLower := by
  rw [← Char.toNat_inj]
  simp only [toNat_toLower]
  split_ifs <;> omega

theorem toLower_eq_dot_iff {c : Char} : c.toLower = '.' ↔ c = '.' := by
  simp only [← Char.toNat_inj, toNat_toLower, Char.reduceToNat]
  split_ifs <;> omega

theorem isBlank_comp_toLower : isBlank ∘ Char.toLower = isBlank := by
  funext c
  rw [Function.comp_apply, Bool.eq_iff_iff]
  simp only [isBlank, toNat_toLower, Bool.or_eq_true, Bool.and_eq_true, decide_eq_true_eq, beq_iff_eq]
  split_ifs <;> omega

/-- The dots in front of a text are those in front of it in lower case. -/
theorem dropWhile_dot_toLower (text : List Char) :
    (text.map Char.toLower).dropWhile (fun c ↦ c = '.') =
      (text.dropWhile fun c ↦ c = '.').map Char.toLower := by
  have hdot : ((fun c ↦ decide (c = '.')) ∘ Char.toLower) = fun c ↦ decide (c = '.') := by
    funext c
    simp [toLower_eq_dot_iff]
  rw [List.dropWhile_map, hdot]

end SourceSurvey.Text
