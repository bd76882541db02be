import Mathlib
import SourceSurvey.Proofs.Encoding.Utf8

/-!
# Malformed places of UTF-8

Bytes that need be no text are read piece by piece. Where the bytes of a character stand at the front,
that character is read; where none stands there, as many bytes as begin a character together are one
malformed place, or a single byte if it begins none. The machine reads all bytes in this way and in no
other, so it finds no malformed place exactly in the bytes of a text. A byte below 128 ends a malformed
place in front of it: bytes can be cut there and read apart.
-/

namespace SourceSurvey.Encoding.Utf8

/-! ## Pieces -/

/-- The bytes are the first ones of some character, or all of them. -/
def Begins (bytes : Bytes) : Prop := ∃ c, bytes <+: String.utf8EncodeChar c

/-- A malformed place in front of some bytes: no character stands there, and no longer run of bytes
begins one. -/
structure IsMalformed (place bytes : Bytes) : Prop where
  front : place <+: bytes
  ne_nil : place ≠ []
  no_char : ∀ c, ¬String.utf8EncodeChar c <+: bytes
  begins : Begins place ∨ place.length = 1
  longest : ∀ longer, longer <+: bytes → Begins longer → longer.length ≤ place.length

/-- What is read from bytes, piece by piece. -/
inductive Reads : Bytes → Reading → Prop
  | nil : Reads [] []
  | char (c : Char) {rest : Bytes} {reading : Reading} (h : Reads rest reading) :
      Reads (String.utf8EncodeChar c ++ rest) (some c :: reading)
  | malformed {place rest : Bytes} {reading : Reading} (hplace : IsMalformed place (place ++ rest))
      (h : Reads rest reading) : Reads (place ++ rest) (none :: reading)

/-- Where bytes are left and no character stands, there is a malformed place. -/
theorem exists_isMalformed {bytes : Bytes} (hne : bytes ≠ [])
    (hno_char : ∀ c, ¬String.utf8EncodeChar c <+: bytes) :
    ∃ place rest, bytes = place ++ rest ∧ IsMalformed place bytes := by
  classical
  have hpos : 0 < bytes.length := List.length_pos_iff.2 hne
  let k := Nat.findGreatest (fun k ↦ Begins (bytes.take k)) bytes.length
  have hk : Begins (bytes.take k) :=
    Nat.findGreatest_spec (P := fun k ↦ Begins (bytes.take k)) (Nat.zero_le _) ⟨'a', by simp⟩
  have hle : k ≤ bytes.length := Nat.findGreatest_le _
  have hlength : (bytes.take (max 1 k)).length = max 1 k := by
    rw [List.length_take]
    omega
  refine ⟨bytes.take (max 1 k), bytes.drop (max 1 k), (List.take_append_drop _ _).symm, ?_⟩
  constructor
  · exact List.take_prefix _ _
  · apply List.length_pos_iff.1
    omega
  · exact hno_char
  · by_cases hzero : k = 0
    · right
      omega
    · left
      rwa [max_eq_right (Nat.one_le_iff_ne_zero.2 hzero)]
  · intro longer hfront hlonger
    have hgreatest : longer.length ≤ k := by
      apply Nat.le_findGreatest hfront.length_le
      rwa [← List.prefix_iff_eq_take.1 hfront]
    omega

/-- Any bytes can be read in pieces. -/
theorem exists_reads (bytes : Bytes) : ∃ reading, Reads bytes reading := by
  induction hlength : bytes.length using Nat.strong_induction_on generalizing bytes with
  | h n ih =>
    by_cases hne : bytes = []
    · exact ⟨[], hne ▸ .nil⟩
    by_cases hchar : ∃ c, String.utf8EncodeChar c <+: bytes
    · obtain ⟨c, rest, rfl⟩ := hchar
      have hpos := List.length_pos_iff.2 (String.utf8EncodeChar_ne_nil (c := c))
      rw [List.length_append] at hlength
      obtain ⟨reading, hreading⟩ := ih rest.length (by omega) rest rfl
      exact ⟨some c :: reading, .char c hreading⟩
    · obtain ⟨place, rest, rfl, hplace⟩ := exists_isMalformed hne (not_exists.1 hchar)
      have hpos := List.length_pos_iff.2 hplace.ne_nil
      rw [List.length_append] at hlength
      obtain ⟨reading, hreading⟩ := ih rest.length (by omega) rest rfl
      exact ⟨none :: reading, .malformed hplace hreading⟩

/-! ## Bytes within their bounds -/

/-- The bytes of the character with a given number. -/
theorem utf8EncodeChar_ofNat {v : Nat} (h : v < 0xD800 ∨ 0xDFFF < v ∧ v < 0x110000) :
    String.utf8EncodeChar (Char.ofNat v) =
      if v ≤ 0x7F then [.ofNat v]
      else if v ≤ 0x7FF then [.ofNat (v / 64 % 32 + 192), .ofNat (v % 64 + 128)]
      else if v ≤ 0xFFFF then
        [.ofNat (v / 4096 % 16 + 224), .ofNat (v / 64 % 64 + 128), .ofNat (v % 64 + 128)]
      else
        [.ofNat (v / 262144 % 8 + 240), .ofNat (v / 4096 % 64 + 128), .ofNat (v / 64 % 64 + 128),
          .ofNat (v % 64 + 128)] := by
  have hnumber : (Char.ofNat v).val.toNat = v := by rw [Char.toNat_val, Char.toNat_ofNat, if_pos h]
  unfold String.utf8EncodeChar
  simp only [hnumber]

section

variable {n m k l : Nat}

theorem exists_char_two (hn : 0xC2 ≤ n ∧ n < 0xE0) (hm : 0x80 ≤ m ∧ m ≤ 0xBF) :
    ∃ c, String.utf8EncodeChar c = [.ofNat n, .ofNat m] := by
  obtain ⟨v, hv⟩ : ∃ v, v = (n - 0xC0) * 64 + (m - 0x80) := ⟨_, rfl⟩
  have hfirst : v / 64 % 32 + 192 = n := by omega
  have hsecond : v % 64 + 128 = m := by omega
  refine ⟨Char.ofNat v, ?_⟩
  rw [utf8EncodeChar_ofNat (by omega), if_neg (by omega), if_pos (by omega), hfirst, hsecond]

theorem exists_char_three (hn : 0xE0 ≤ n ∧ n < 0xF0)
    (hm : (if n = 0xE0 then 0xA0 else 0x80) ≤ m ∧ m ≤ if n = 0xED then 0x9F else 0xBF)
    (hk : 0x80 ≤ k ∧ k ≤ 0xBF) :
    ∃ c, String.utf8EncodeChar c = [.ofNat n, .ofNat m, .ofNat k] := by
  obtain ⟨v, hv⟩ : ∃ v, v = (n - 0xE0) * 4096 + (m - 0x80) * 64 + (k - 0x80) := ⟨_, rfl⟩
  have hm' : 0x80 ≤ m ∧ m ≤ 0xBF := by split_ifs at hm <;> omega
  have hvalid : 0x7FF < v ∧ (v < 0xD800 ∨ 0xDFFF < v) := by split_ifs at hm <;> omega
  have hfirst : v / 4096 % 16 + 224 = n := by omega
  have hsecond : v / 64 % 64 + 128 = m := by omega
  have hthird : v % 64 + 128 = k := by omega
  refine ⟨Char.ofNat v, ?_⟩
  rw [utf8EncodeChar_ofNat (by omega), if_neg (by omega), if_neg (by omega), if_pos (by omega),
    hfirst, hsecond, hthird]

theorem exists_char_four (hn : 0xF0 ≤ n ∧ n < 0xF5)
    (hm : (if n = 0xF0 then 0x90 else 0x80) ≤ m ∧ m ≤ if n = 0xF4 then 0x8F else 0xBF)
    (hk : 0x80 ≤ k ∧ k ≤ 0xBF) (hl : 0x80 ≤ l ∧ l ≤ 0xBF) :
    ∃ c, String.utf8EncodeChar c = [.ofNat n, .ofNat m, .ofNat k, .ofNat l] := by
  obtain ⟨v, hv⟩ : ∃ v, v = (n - 0xF0) * 262144 + (m - 0x80) * 4096 + (k - 0x80) * 64 + (l - 0x80) :=
    ⟨_, rfl⟩
  have hm' : 0x80 ≤ m ∧ m ≤ 0xBF := by split_ifs at hm <;> omega
  have hvalid : 0xFFFF < v ∧ v < 0x110000 := by split_ifs at hm <;> omega
  have hfirst : v / 262144 % 8 + 240 = n := by omega
  have hsecond : v / 4096 % 64 + 128 = m := by omega
  have hthird : v / 64 % 64 + 128 = k := by omega
  have hfourth : v % 64 + 128 = l := by omega
  refine ⟨Char.ofNat v, ?_⟩
  rw [utf8EncodeChar_ofNat (by omega), if_neg (by omega), if_neg (by omega), if_neg (by omega),
    hfirst, hsecond, hthird, hfourth]

end

/-- A byte below 128 is a character, and one of those that are within bounds begins some. -/
theorem begins_lead {n : Nat} (hn : n < 0x80 ∨ 0xC2 ≤ n ∧ n < 0xF5) : Begins [.ofNat n] := by
  by_cases hone : n < 0x80
  · refine ⟨Char.ofNat n, ?_⟩
    rw [utf8EncodeChar_ofNat (by omega), if_pos (by omega)]
  by_cases htwo : n < 0xE0
  · obtain ⟨c, hc⟩ := exists_char_two (n := n) (m := 0x80) (by omega) (by omega)
    exact ⟨c, hc ▸ by simp⟩
  by_cases hthree : n < 0xF0
  · obtain ⟨c, hc⟩ := exists_char_three (n := n) (m := if n = 0xE0 then 0xA0 else 0x80) (k := 0x80)
      (by omega) (by split_ifs <;> omega) (by omega)
    exact ⟨c, hc ▸ by simp⟩
  · obtain ⟨c, hc⟩ := exists_char_four (n := n) (m := if n = 0xF0 then 0x90 else 0x80) (k := 0x80)
      (l := 0x80) (by omega) (by split_ifs <;> omega) (by omega) (by omega)
    exact ⟨c, hc ▸ by simp⟩

/-! ## Characters under way -/

/-- What is owed when the first bytes of a character have been read: with any byte within the bounds
they still begin a character. -/
structure IsUnderWay (front : Bytes) (owed : Owed) : Prop where
  reads : ∀ rest, readFrom none (front ++ rest) = readFrom (some owed) rest
  goesOn : ∀ n, owed.low.toNat ≤ n → n ≤ owed.high.toNat → Begins (front ++ [.ofNat n])

namespace IsUnderWay

variable {n : Nat}

theorem two (hn : 0xC2 ≤ n ∧ n < 0xE0) : IsUnderWay [.ofNat n] ⟨0x80, 0xBF, 0, n - 0xC0⟩ where
  reads rest := readFrom_two rest hn
  goesOn m hlow hhigh := by
    obtain ⟨c, hc⟩ := exists_char_two hn ⟨hlow, hhigh⟩
    exact ⟨c, hc ▸ List.prefix_rfl⟩

theorem three (hn : 0xE0 ≤ n ∧ n < 0xF0) :
    IsUnderWay [.ofNat n] ⟨if n = 0xE0 then 0xA0 else 0x80, if n = 0xED then 0x9F else 0xBF, 1,
      n - 0xE0⟩ where
  reads rest := readFrom_three rest hn
  goesOn m hlow hhigh := by
    obtain ⟨c, hc⟩ := exists_char_three (m := m) (k := 0x80) hn
      (by split_ifs at hlow hhigh ⊢ <;> exact ⟨hlow, hhigh⟩) (by omega)
    exact ⟨c, hc ▸ by simp⟩

theorem four (hn : 0xF0 ≤ n ∧ n < 0xF5) :
    IsUnderWay [.ofNat n] ⟨if n = 0xF0 then 0x90 else 0x80, if n = 0xF4 then 0x8F else 0xBF, 2,
      n - 0xF0⟩ where
  reads rest := readFrom_four rest hn
  goesOn m hlow hhigh := by
    obtain ⟨c, hc⟩ := exists_char_four (m := m) (k := 0x80) (l := 0x80) hn
      (by split_ifs at hlow hhigh ⊢ <;> exact ⟨hlow, hhigh⟩) (by omega) (by omega)
    exact ⟨c, hc ▸ by simp⟩

/-- One more byte within the bounds. -/
theorem concat {front : Bytes} {low high : UInt8} {more bits : Nat}
    (h : IsUnderWay front ⟨low, high, more + 1, bits⟩) (hn : low.toNat ≤ n ∧ n ≤ high.toNat)
    (hgoesOn : ∀ m, 0x80 ≤ m → m ≤ 0xBF → Begins (front ++ [.ofNat n, .ofNat m])) :
    IsUnderWay (front ++ [.ofNat n]) ⟨0x80, 0xBF, more, bits * 64 + (n - 0x80)⟩ where
  reads rest := by
    rw [List.append_assoc, h.reads, List.singleton_append, readFrom_owed rest _ hn]
  goesOn m hlow hhigh := by
    rw [List.append_assoc]
    exact hgoesOn m hlow hhigh

end IsUnderWay

/-- A character is under way when some of its bytes have been read, but not all. -/
theorem exists_isUnderWay {c : Char} {front : Bytes} (h : front <+: String.utf8EncodeChar c)
    (hfront : front ≠ []) (hne : front ≠ String.utf8EncodeChar c) :
    ∃ owed, IsUnderWay front owed := by
  have hvalid : c.toNat < 0xD800 ∨ 0xDFFF < c.toNat ∧ c.toNat < 0x110000 := c.valid
  obtain ⟨i, hpos, hlt, rfl⟩ : ∃ i, 0 < i ∧ i < (String.utf8EncodeChar c).length ∧
      front = (String.utf8EncodeChar c).take i := by
    refine ⟨front.length, List.length_pos_iff.2 hfront, ?_, List.prefix_iff_eq_take.1 h⟩
    exact lt_of_le_of_ne h.length_le fun hlength ↦ hne (h.eq_of_length hlength)
  clear h hfront hne
  unfold String.utf8EncodeChar at hlt ⊢
  simp only [Char.toNat_val] at hlt ⊢
  -- one case for each number of bytes, and in each one for each place of the cut
  split_ifs at hlt ⊢ with hone htwo hthree
  · rw [List.length_singleton] at hlt
    omega
  · obtain rfl : i = 1 := by
      simp only [List.length_cons, List.length_nil] at hlt
      omega
    exact ⟨_, .two (by omega)⟩
  · obtain rfl | rfl : i = 1 ∨ i = 2 := by
      simp only [List.length_cons, List.length_nil] at hlt
      omega
    · exact ⟨_, .three (by omega)⟩
    · refine ⟨_, (IsUnderWay.three (by omega)).concat (by split_ifs <;> simp <;> omega) ?_⟩
      intro m hlow hhigh
      obtain ⟨d, hd⟩ := exists_char_three (n := c.toNat / 4096 % 16 + 224)
        (m := c.toNat / 64 % 64 + 128) (by omega) (by split_ifs <;> omega) ⟨hlow, hhigh⟩
      exact ⟨d, hd ▸ List.prefix_rfl⟩
  · have hgoesOn {m k : Nat} (hm : 0x80 ≤ m ∧ m ≤ 0xBF) (hk : 0x80 ≤ k ∧ k ≤ 0xBF) :
        ∃ d, String.utf8EncodeChar d = [.ofNat (c.toNat / 262144 % 8 + 240),
          .ofNat (c.toNat / 4096 % 64 + 128), .ofNat m, .ofNat k] :=
      exists_char_four (by omega) (by split_ifs <;> omega) hm hk
    have hsecond := (IsUnderWay.four (n := c.toNat / 262144 % 8 + 240) (by omega)).concat
      (n := c.toNat / 4096 % 64 + 128) (by split_ifs <;> simp <;> omega) fun m hlow hhigh ↦ by
        obtain ⟨d, hd⟩ := hgoesOn ⟨hlow, hhigh⟩ (k := 0x80) (by omega)
        exact ⟨d, hd ▸ by simp⟩
    obtain rfl | rfl | rfl : i = 1 ∨ i = 2 ∨ i = 3 := by
      simp only [List.length_cons, List.length_nil] at hlt
      omega
    · exact ⟨_, .four (by omega)⟩
    · exact ⟨_, hsecond⟩
    · refine ⟨_, hsecond.concat (by simp; omega) ?_⟩
      intro k hlow hhigh
      obtain ⟨d, hd⟩ := hgoesOn (m := c.toNat / 64 % 64 + 128) (by omega) ⟨hlow, hhigh⟩
      exact ⟨d, hd ▸ List.prefix_rfl⟩

/-! ## The machine -/

/-- A byte out of its bounds is read anew behind a malformed place. -/
theorem readFrom_out_of_bounds {owed : Owed} {b : UInt8} (h : ¬(owed.low ≤ b ∧ b ≤ owed.high))
    (rest : Bytes) : readFrom (some owed) (b :: rest) = none :: readFrom none (b :: rest) := by
  simp only [readFrom_cons, step, if_neg h, List.cons_append]

/-- A byte that begins no character is a malformed place of its own. -/
theorem readFrom_of_not_begins {b : UInt8} (h : ¬Begins [b]) (rest : Bytes) :
    readFrom none (b :: rest) = none :: readFrom none rest := by
  obtain ⟨n, hlt, rfl⟩ : ∃ n < 256, b = .ofNat n := ⟨b.toNat, b.toNat_lt, UInt8.ofNat_toNat.symm⟩
  have hn : (UInt8.ofNat n).toNat = n := UInt8.toNat_ofNat_of_lt' hlt
  have hout : ¬(n < 0x80 ∨ 0xC2 ≤ n ∧ n < 0xF5) := fun hlead ↦ h (begins_lead hlead)
  have hstart : step none (.ofNat n) = ([none], none) := by
    simp only [step, start, UInt8.lt_iff_toNat_lt, hn, UInt8.reduceToNat]
    rw [if_neg (by omega)]
    by_cases hlow : n < 0xC2
    · rw [if_pos hlow]
    · rw [if_neg hlow, if_neg (by omega), if_neg (by omega), if_neg (by omega)]
  rw [readFrom_cons, hstart]
  rfl

/-- A malformed place is read as one, and what follows it from its front on. -/
theorem readFrom_of_isMalformed {place rest : Bytes} (h : IsMalformed place (place ++ rest)) :
    readFrom none (place ++ rest) = none :: readFrom none rest := by
  by_cases hbegins : Begins place
  · obtain ⟨c, hc⟩ := hbegins
    have hne : place ≠ String.utf8EncodeChar c := fun heq ↦ h.no_char c (heq ▸ List.prefix_append _ _)
    obtain ⟨owed, hunder⟩ := exists_isUnderWay hc h.ne_nil hne
    rw [hunder.reads]
    cases rest with
    | nil => rfl
    | cons b rest =>
      apply readFrom_out_of_bounds
      intro hbounds
      have hgoesOn := hunder.goesOn b.toNat hbounds.1 hbounds.2
      rw [UInt8.ofNat_toNat] at hgoesOn
      have hlonger := h.longest (place ++ [b]) (by simp) hgoesOn
      rw [List.length_append, List.length_singleton] at hlonger
      omega
  · obtain ⟨b, rfl⟩ := List.length_eq_one_iff.1 (h.begins.resolve_left hbegins)
    exact readFrom_of_not_begins hbegins rest

theorem Reads.decode_eq {bytes : Bytes} {reading : Reading} (h : Reads bytes reading) :
    decode bytes = reading := by
  induction h with
  | nil => rfl
  | char c _ ih => exact (readFrom_utf8EncodeChar _ c).trans (congrArg (some c :: ·) ih)
  | malformed hplace _ ih => exact (readFrom_of_isMalformed hplace).trans (congrArg (none :: ·) ih)

/-- Bytes are read piece by piece, in one way only. -/
theorem reads_iff {bytes : Bytes} {reading : Reading} : Reads bytes reading ↔ decode bytes = reading := by
  constructor
  · exact Reads.decode_eq
  · rintro rfl
    obtain ⟨reading, hreading⟩ := exists_reads bytes
    rwa [hreading.decode_eq]

/-! ## Texts -/

/-- No place is malformed exactly in the bytes of a text. -/
theorem malformed_decode_iff {bytes : Bytes} :
    (decode bytes).malformed = true ↔ ¬∃ s, bytes = encode s := by
  rw [← Bool.not_eq_false, not_iff_not]
  constructor
  · intro h
    have hreads := reads_iff.2 (Eq.refl (decode bytes))
    generalize decode bytes = reading at h hreads
    induction hreads with
    | nil => exact ⟨[], rfl⟩
    | char c _ ih =>
      obtain ⟨s, rfl⟩ := ih (by simpa [Reading.malformed] using h)
      exact ⟨c :: s, rfl⟩
    | malformed _ _ _ => simp [Reading.malformed] at h
  · rintro ⟨s, rfl⟩
    simp [decode_encode, Reading.malformed]

theorem decode_eq_nil_iff {bytes : Bytes} : decode bytes = [] ↔ bytes = [] := by
  rw [← reads_iff]
  constructor
  · intro h
    cases h
    rfl
  · rintro rfl
    exact .nil

theorem lossy_eq_empty_iff {bytes : Bytes} : lossy bytes = "" ↔ bytes = [] := by
  rw [← decode_eq_nil_iff, lossy, ← String.toList_inj, String.toList_ofList]
  exact List.map_eq_nil_iff

/-! ## Cuts between malformed places -/

section

variable {n : Nat} (hn : n < 0x80)

include hn

theorem readFrom_append_ascii {owed : Option Owed} (howed : ∀ o ∈ owed, o.IsLong)
    (front back : Bytes) :
    readFrom owed (front ++ .ofNat n :: back) =
      readFrom owed front ++ some (Char.ofNat n) :: readFrom none back := by
  induction front generalizing owed with
  | nil =>
    cases owed with
    | none => exact readFrom_ascii back hn
    | some o =>
      have hlow := (howed o rfl).low
      have hout : ¬(o.low ≤ .ofNat n ∧ .ofNat n ≤ o.high) := by
        rw [UInt8.le_iff_toNat_le, UInt8.toNat_ofNat_of_lt' (hn.trans (by decide))]
        omega
      rw [List.nil_append, readFrom_out_of_bounds hout, readFrom_ascii back hn]
      rfl
  | cons b front ih =>
    have hnext := (step_spec howed (c := 'a') (by decide) (by decide) b).1
    rw [List.cons_append, readFrom_cons, readFrom_cons, ih hnext, List.append_assoc]

/-- A byte below 128 cuts bytes in two that are read apart, whatever they are. -/
theorem decode_append_ascii (front back : Bytes) :
    decode (front ++ .ofNat n :: back) = decode front ++ some (Char.ofNat n) :: decode back := by
  have hnone : ∀ o ∈ (none : Option Owed), o.IsLong := fun _ h ↦ by cases h
  exact readFrom_append_ascii hn hnone front back

theorem lossy_append_ascii (front back : Bytes) :
    lossy (front ++ .ofNat n :: back) =
      lossy front ++ (String.singleton (Char.ofNat n) ++ lossy back) := by
  rw [← String.toList_inj]
  simp [lossy, decode_append_ascii hn, Reading.text]

end

end SourceSurvey.Encoding.Utf8
