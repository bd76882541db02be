import Mathlib
import SourceSurvey.Encoding.Utf8

/-!
# Reading what was written in UTF-8

The bytes of a character are read as that character, and nothing is left over: its first byte says how
many follow and bounds the next one, and each of those adds six bits. So what is written for a text is
read as that text. And since no first byte looks like one of those that follow, the bytes of a text can
be cut before a first byte between characters only. Bytes that are no text are not read as a character
below 128 that is not among them, and what is shown for them has a replacement character.
-/

namespace SourceSurvey.Encoding.Utf8

/-! ## The bytes of a text -/

/-- A byte below 128 stands for the character of this number and is in no other. -/
theorem ofNat_mem_utf8EncodeChar {n : Nat} (hn : n < 128) {c : Char} :
    UInt8.ofNat n ∈ String.utf8EncodeChar c ↔ c.toNat = n := by
  have hbyte (k : Nat) : UInt8.ofNat n = UInt8.ofNat k ↔ k % 256 = n := by
    rw [← UInt8.toNat_inj, UInt8.toNat_ofNat', UInt8.toNat_ofNat', Nat.mod_eq_of_lt (by omega)]
    exact eq_comm
  rw [← Char.toNat_val]
  unfold String.utf8EncodeChar
  simp only
  split_ifs <;> simp only [List.mem_cons, hbyte, List.not_mem_nil, or_false] <;> omega

theorem utf8EncodeChar_of_ascii {c : Char} (hc : c.toNat < 128) :
    String.utf8EncodeChar c = [UInt8.ofNat c.toNat] := by
  unfold String.utf8EncodeChar
  simp only
  rw [Char.toNat_val, if_pos (Nat.le_of_lt_succ hc)]

theorem encode_append (s t : List Char) : encode (s ++ t) = encode s ++ encode t :=
  List.flatMap_append

theorem toList_eq_data (bytes : ByteArray) : bytes.toList = bytes.data.toList := by
  have hloop (i : Nat) (read : List UInt8) :
      ByteArray.toList.loop bytes i read = read.reverse ++ bytes.data.toList.drop i := by
    fun_induction ByteArray.toList.loop bytes i read with
    | case1 i read h ih =>
      have hi : i < bytes.data.toList.length := h
      rw [ih, List.drop_eq_getElem_cons hi]
      simp [ByteArray.get!, h]
    | case2 i read h =>
      rw [List.drop_of_length_le (Nat.le_of_not_lt h), List.append_nil]
  exact hloop 0 []

theorem toList_toUTF8 (s : String) : s.toUTF8.toList = encode s.toList := by
  rw [toList_eq_data, String.toUTF8, ← String.utf8Encode_toList, List.utf8Encode]
  exact List.toList_data_toByteArray

theorem length_encode (s : List Char) : (encode s).length = (String.ofList s).utf8ByteSize := by
  rw [String.utf8ByteSize, String.toByteArray_ofList, List.utf8Encode, List.size_toByteArray]
  rfl

/-! ## Reading the bytes -/

/-- What is read with something owed to a character. -/
def readFrom : Option Owed → Bytes → Reading := machine.runFrom

theorem readFrom_cons (owed : Option Owed) (b : UInt8) (rest : Bytes) :
    readFrom owed (b :: rest) = (step owed b).1 ++ readFrom (step owed b).2 rest := rfl

section

variable {n : Nat} (rest : Bytes)

theorem readFrom_ascii (h : n < 0x80) :
    readFrom none (.ofNat n :: rest) = some (Char.ofNat n) :: readFrom none rest := by
  have hn : (UInt8.ofNat n).toNat = n := UInt8.toNat_ofNat_of_lt' (h.trans (by decide))
  have hstep : step none (.ofNat n) = ([some (Char.ofNat n)], none) := by
    simp only [step, start, UInt8.lt_iff_toNat_lt, hn, UInt8.reduceToNat]
    rw [if_pos h]
  rw [readFrom_cons, hstep]
  rfl

theorem readFrom_two (h : 0xC2 ≤ n ∧ n < 0xE0) :
    readFrom none (.ofNat n :: rest) = readFrom (some ⟨0x80, 0xBF, 0, n - 0xC0⟩) rest := by
  have hn : (UInt8.ofNat n).toNat = n := UInt8.toNat_ofNat_of_lt' (h.2.trans (by decide))
  have hstep : step none (.ofNat n) = ([], some ⟨0x80, 0xBF, 0, n - 0xC0⟩) := by
    simp only [step, start, UInt8.lt_iff_toNat_lt, hn, UInt8.reduceToNat]
    rw [if_neg (by omega), if_neg (by omega), if_pos (by omega)]
  rw [readFrom_cons, hstep]
  rfl

theorem readFrom_three (h : 0xE0 ≤ n ∧ n < 0xF0) :
    readFrom none (.ofNat n :: rest) = readFrom (some ⟨if n = 0xE0 then 0xA0 else 0x80,
      if n = 0xED then 0x9F else 0xBF, 1, n - 0xE0⟩) rest := by
  have hn : (UInt8.ofNat n).toNat = n := UInt8.toNat_ofNat_of_lt' (h.2.trans (by decide))
  have hstep : step none (.ofNat n) = ([], some ⟨if n = 0xE0 then 0xA0 else 0x80,
      if n = 0xED then 0x9F else 0xBF, 1, n - 0xE0⟩) := by
    simp only [step, start, UInt8.lt_iff_toNat_lt, ← UInt8.toNat_inj, hn, UInt8.reduceToNat]
    rw [if_neg (by omega), if_neg (by omega), if_neg (by omega), if_pos (by omega)]
  rw [readFrom_cons, hstep]
  rfl

theorem readFrom_four (h : 0xF0 ≤ n ∧ n < 0xF5) :
    readFrom none (.ofNat n :: rest) = readFrom (some ⟨if n = 0xF0 then 0x90 else 0x80,
      if n = 0xF4 then 0x8F else 0xBF, 2, n - 0xF0⟩) rest := by
  have hn : (UInt8.ofNat n).toNat = n := UInt8.toNat_ofNat_of_lt' (h.2.trans (by decide))
  have hstep : step none (.ofNat n) = ([], some ⟨if n = 0xF0 then 0x90 else 0x80,
      if n = 0xF4 then 0x8F else 0xBF, 2, n - 0xF0⟩) := by
    simp only [step, start, UInt8.lt_iff_toNat_lt, ← UInt8.toNat_inj, hn, UInt8.reduceToNat]
    rw [if_neg (by omega), if_neg (by omega), if_neg (by omega), if_neg (by omega), if_pos (by omega)]
  rw [readFrom_cons, hstep]
  rfl

/-- A byte within its bounds adds six bits. -/
theorem readFrom_owed (owed : Owed) (h : owed.low.toNat ≤ n ∧ n ≤ owed.high.toNat) :
    readFrom (some owed) (.ofNat n :: rest) =
      let bits := owed.bits * 64 + (n - 0x80)
      match owed.more with
      | 0 => some (Char.ofNat bits) :: readFrom none rest
      | more + 1 => readFrom (some ⟨0x80, 0xBF, more, bits⟩) rest := by
  have hn : (UInt8.ofNat n).toNat = n :=
    UInt8.toNat_ofNat_of_lt' (h.2.trans_lt owed.high.toNat_lt_size)
  have hbounds : owed.low ≤ .ofNat n ∧ .ofNat n ≤ owed.high := by
    rwa [UInt8.le_iff_toNat_le, UInt8.le_iff_toNat_le, hn]
  obtain ⟨low, high, _ | more, bits⟩ := owed <;>
    simp only [readFrom_cons, step, if_pos hbounds, hn, List.singleton_append, List.nil_append]

/-- The bytes of a character are read as that character. -/
theorem readFrom_utf8EncodeChar (c : Char) :
    readFrom none (String.utf8EncodeChar c ++ rest) = some c :: readFrom none rest := by
  have hvalid : c.toNat < 0xD800 ∨ 0xDFFF < c.toNat ∧ c.toNat < 0x110000 := c.valid
  have hchar {k : Nat} (h : k = c.toNat) : some (Char.ofNat k) = some c := by rw [h, Char.ofNat_toNat]
  unfold String.utf8EncodeChar
  simp only [Char.toNat_val]
  -- one case for each number of bytes; in each, the bits put together are the number of the character
  split_ifs with hone htwo hthree
  · rw [List.singleton_append, readFrom_ascii rest (by omega), hchar rfl]
  · rw [List.cons_append, List.singleton_append, readFrom_two _ (by omega),
      readFrom_owed _ _ (by simp; omega)]
    exact congrArg (· :: _) (hchar (by simp only; omega))
  · rw [List.cons_append, List.cons_append, List.singleton_append, readFrom_three _ (by omega),
      readFrom_owed _ _ (by split_ifs <;> simp <;> omega)]
    simp only
    rw [readFrom_owed _ _ (by simp; omega)]
    exact congrArg (· :: _) (hchar (by simp only; omega))
  · rw [List.cons_append, List.cons_append, List.cons_append, List.singleton_append,
      readFrom_four _ (by omega), readFrom_owed _ _ (by split_ifs <;> simp <;> omega)]
    simp only
    rw [readFrom_owed _ _ (by simp; omega)]
    simp only
    rw [readFrom_owed _ _ (by simp; omega)]
    exact congrArg (· :: _) (hchar (by simp only; omega))

end

theorem decode_encode (s : List Char) : decode (encode s) = s.map some := by
  induction s with
  | nil => rfl
  | cons c s ih => exact (readFrom_utf8EncodeChar _ c).trans (congrArg (some c :: ·) ih)

theorem mapM_id_eq_some_iff {reading : Reading} {chars : List Char} :
    reading.mapM id = some chars ↔ reading = chars.map some := by
  induction reading generalizing chars with
  | nil => cases chars <;> simp
  | cons c reading ih =>
    rw [List.mapM_cons]
    cases c with
    | none => cases chars <;> simp
    | some c =>
      simp only [id, Option.bind_eq_bind, Option.bind_some, Option.bind_eq_some_iff, ih]
      constructor
      · rintro ⟨read, rfl, hread⟩
        cases hread
        rfl
      · intro h
        obtain ⟨d, read, rfl, hd, hread⟩ := List.map_eq_cons_iff.1 h.symm
        cases hd
        exact ⟨read, hread.symm, rfl⟩

/-- Bytes are a text if they are read as its characters and nothing else. -/
theorem strict?_eq_some_iff {bytes : Bytes} {text : String} :
    strict? bytes = some text ↔ decode bytes = text.toList.map some := by
  rw [strict?, Option.map_eq_some_iff]
  simp only [mapM_id_eq_some_iff]
  constructor
  · rintro ⟨chars, hchars, rfl⟩
    rw [hchars, String.toList_ofList]
  · exact fun h ↦ ⟨text.toList, h, String.ofList_toList⟩

theorem strict?_encode (s : List Char) : strict? (encode s) = some (String.ofList s) := by
  rw [strict?_eq_some_iff, decode_encode, String.toList_ofList]

/-- Bytes that are a text are shown as that text. -/
theorem lossy_of_strict? {bytes : Bytes} {text : String} (h : strict? bytes = some text) :
    lossy bytes = text := by
  have htext : (decode bytes).text = text.toList := by
    simp [strict?_eq_some_iff.1 h, Reading.text, Function.comp_def]
  rw [lossy, htext, String.ofList_toList]

/-! ## Cuts -/

/-- A byte that goes on with a character. -/
def IsTrail (b : UInt8) : Prop := 0x80 ≤ b.toNat ∧ b.toNat < 0xC0

/-- A character is one byte that begins it and some that go on with it. -/
theorem exists_lead (c : Char) : ∃ lead trail, String.utf8EncodeChar c = lead :: trail ∧
    ¬IsTrail lead ∧ ∀ b ∈ trail, IsTrail b := by
  unfold String.utf8EncodeChar
  simp only
  split_ifs <;> refine ⟨_, _, rfl, ?_, ?_⟩ <;>
    simp only [IsTrail, UInt8.toNat_ofNat', List.mem_cons, List.not_mem_nil, or_false,
      forall_eq_or_imp, forall_eq, false_imp_iff, implies_true] <;> omega

/-- Two texts with the same bytes begin with the same character. -/
theorem utf8EncodeChar_append_inj {c d : Char} {rest rest' : Bytes}
    (h : String.utf8EncodeChar c ++ rest = String.utf8EncodeChar d ++ rest') :
    c = d ∧ rest = rest' := by
  have hread := congrArg (readFrom none) h
  rw [readFrom_utf8EncodeChar, readFrom_utf8EncodeChar] at hread
  obtain rfl : c = d := Option.some.inj (List.cons.inj hread).1
  exact ⟨rfl, List.append_cancel_left h⟩

/-- The bytes of a text that are cut where a character does not go on are cut between characters. -/
theorem exists_of_encode_eq_append {s : List Char} {front back : Bytes}
    (hback : ∀ b, back.head? = some b → ¬IsTrail b) (h : encode s = front ++ back) :
    ∃ s₁ s₂, s = s₁ ++ s₂ ∧ encode s₁ = front ∧ encode s₂ = back := by
  induction s generalizing front with
  | nil =>
    obtain ⟨rfl, rfl⟩ := List.append_eq_nil_iff.1 h.symm
    exact ⟨[], [], rfl, rfl, rfl⟩
  | cons c s ih =>
    have hcons : encode (c :: s) = String.utf8EncodeChar c ++ encode s := rfl
    rw [hcons] at h
    rcases List.append_eq_append_iff.1 h with ⟨behind, rfl, hrest⟩ | ⟨inner, hchar, rfl⟩
    · obtain ⟨s₁, s₂, rfl, rfl, rfl⟩ := ih hrest
      exact ⟨c :: s₁, s₂, rfl, rfl, rfl⟩
    · -- the cut is in the first character, or at one of its ends
      cases front with
      | nil => exact ⟨[], c :: s, rfl, rfl, by rw [hcons, hchar, List.nil_append]⟩
      | cons b front =>
        cases inner with
        | nil => exact ⟨[c], s, rfl, by simpa [encode] using hchar, rfl⟩
        | cons b' inner =>
          obtain ⟨lead, trail, htrail, -, hgoes⟩ := exists_lead c
          rw [htrail, List.cons_append, List.cons.injEq] at hchar
          refine absurd (hgoes b' ?_) (hback b' rfl)
          rw [hchar.2]
          simp

/-! ## Short characters -/

/-- What is owed to a character whose number is 128 at least, whatever comes. -/
structure Owed.IsLong (owed : Owed) : Prop where
  low : 0x80 ≤ owed.low.toNat
  bits : (if owed.more = 0 then 0x80 else 2) ≤ owed.bits * 64 + (owed.low.toNat - 0x80)

/-- A byte where a character may begin gives out its own character if it is below 128, and else none. -/
theorem start_cases (b : UInt8) :
    start b = ([some (Char.ofNat b.toNat)], none) ∧ b.toNat < 0x80 ∨
      start b = ([none], none) ∨ ∃ owed, start b = ([], some owed) ∧ owed.IsLong := by
  simp only [start, UInt8.lt_iff_toNat_lt, ← UInt8.toNat_inj, UInt8.reduceToNat]
  by_cases hascii : b.toNat < 0x80
  · exact Or.inl ⟨if_pos hascii, hascii⟩
  rw [if_neg hascii]
  right
  by_cases hnone : b.toNat < 0xC2
  · exact Or.inl (if_pos hnone)
  rw [if_neg hnone]
  by_cases htwo : b.toNat < 0xE0
  · refine Or.inr ⟨_, if_pos htwo, by simp, ?_⟩
    simp only [↓reduceIte, UInt8.reduceToNat, tsub_self, add_zero]
    omega
  rw [if_neg htwo]
  by_cases hthree : b.toNat < 0xF0
  · refine Or.inr ⟨_, if_pos hthree, ?_⟩
    by_cases hfirst : b.toNat = 0xE0
    · constructor <;> simp [hfirst]
    · refine ⟨by simp [hfirst], ?_⟩
      simp only [one_ne_zero, ↓reduceIte, hfirst, UInt8.reduceToNat, tsub_self, add_zero]
      omega
  rw [if_neg hthree]
  by_cases hfour : b.toNat < 0xF5
  · refine Or.inr ⟨_, if_pos hfour, ?_⟩
    by_cases hfirst : b.toNat = 0xF0
    · constructor <;> simp [hfirst]
    · refine ⟨by simp [hfirst], ?_⟩
      simp only [OfNat.ofNat_ne_zero, ↓reduceIte, hfirst, UInt8.reduceToNat, tsub_self, add_zero]
      omega
  · exact Or.inl (if_neg hfour)

theorem eq_of_ofNat_eq {n : Nat} {c : Char} (h : c = Char.ofNat n) (hne : c.toNat ≠ 0) :
    c.toNat = n := by
  rw [h, Char.toNat_ofNat] at hne ⊢
  split_ifs at hne ⊢ <;> simp_all

/-- A character below 128 is given out for its own byte only, unless it is that numbered zero. -/
theorem step_spec {owed : Option Owed} (howed : ∀ o ∈ owed, o.IsLong) {c : Char}
    (hc : c.toNat < 128) (hne : c.toNat ≠ 0) (b : UInt8) :
    (∀ o ∈ (step owed b).2, o.IsLong) ∧ (some c ∈ (step owed b).1 → b = .ofNat c.toNat) := by
  have hstart : (∀ o ∈ (start b).2, o.IsLong) ∧ (some c ∈ (start b).1 → b = .ofNat c.toNat) := by
    rcases start_cases b with ⟨hstart, -⟩ | hstart | ⟨o, hstart, ho⟩ <;> rw [hstart]
    · refine ⟨by simp, fun h ↦ ?_⟩
      rw [eq_of_ofNat_eq (Option.some.inj (List.mem_singleton.1 h)) hne, UInt8.ofNat_toNat]
    · simp
    · simpa using ho
  cases owed with
  | none => exact hstart
  | some o =>
    obtain ⟨hlow, hbits⟩ := howed o rfl
    by_cases hin : o.low ≤ b ∧ b ≤ o.high
    · have hle : o.low.toNat ≤ b.toNat := hin.1
      obtain ⟨low, high, _ | more, bits⟩ := o
      · simp only [step, if_pos hin]
        refine ⟨by simp, fun h ↦ ?_⟩
        have hnumber := eq_of_ofNat_eq (Option.some.inj (List.mem_singleton.1 h)) hne
        simp only [↓reduceIte] at hlow hbits hle
        omega
      · simp only [step, if_pos hin]
        refine ⟨?_, by simp⟩
        rintro _ ⟨⟩
        simp only [Nat.add_eq_zero_iff, one_ne_zero, and_false, ↓reduceIte] at hlow hbits hle
        refine ⟨by simp, ?_⟩
        simp only [UInt8.reduceToNat, tsub_self, add_zero]
        split <;> omega
    · simpa only [step, if_neg hin, List.mem_cons, reduceCtorEq, false_or] using hstart

theorem mem_of_some_mem_readFrom {owed : Option Owed} (howed : ∀ o ∈ owed, o.IsLong) {c : Char}
    (hc : c.toNat < 128) (hne : c.toNat ≠ 0) {bytes : Bytes} (h : some c ∈ readFrom owed bytes) :
    UInt8.ofNat c.toNat ∈ bytes := by
  induction bytes generalizing owed with
  | nil =>
    have hfinish : readFrom owed [] = if owed.isSome then [none] else [] := rfl
    rw [hfinish] at h
    split at h <;> simp at h
  | cons b rest ih =>
    obtain ⟨hnext, hgiven⟩ := step_spec howed hc hne b
    rw [readFrom_cons, List.mem_append] at h
    rcases h with h | h
    · rw [hgiven h]
      exact List.mem_cons_self
    · exact List.mem_cons_of_mem _ (ih hnext h)

/-- A character below 128 is read from its own byte only, unless it is that numbered zero. -/
theorem mem_of_some_mem_decode {c : Char} (hc : c.toNat < 128) (hne : c.toNat ≠ 0) {bytes : Bytes}
    (h : some c ∈ decode bytes) : UInt8.ofNat c.toNat ∈ bytes :=
  mem_of_some_mem_readFrom (fun _ h ↦ by cases h) hc hne h

/-- Bytes that are shown without a replacement character are a text. -/
theorem strict?_of_replacement_not_mem {bytes : Bytes} (h : replacement ∉ (lossy bytes).toList) :
    strict? bytes = some (lossy bytes) := by
  rw [lossy, String.toList_ofList, Reading.text] at h
  rw [strict?_eq_some_iff, lossy, String.toList_ofList, Reading.text, List.map_map]
  refine (List.map_id _).symm.trans (List.map_congr_left fun c hc ↦ ?_)
  cases c with
  | none => exact absurd (List.mem_map.2 ⟨none, hc, rfl⟩) h
  | some c => rfl

end SourceSurvey.Encoding.Utf8
