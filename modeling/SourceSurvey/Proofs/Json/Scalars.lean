import SourceSurvey.Proofs.Json.Reading

/-!
# Reading plain values

Strings with their escapes, flags, lists of strings and names: what is written for each of them is read
as what it was. Numbers are read digit by digit. A number that does not fit in a word becomes a float,
which no field for a number accepts; so a natural number is taken exactly while it is below the bound of
its field.
-/

namespace SourceSurvey.Json

theorem hexValue_hexDigit : ∀ n < 16, Reader.hexValue (hexDigit n) = some n := by
  decide

namespace Reader

/-! ## Strings -/

/-- The code of a character below a blank. -/
theorem takes_codeEscape {c : Char} (h : c.toNat < 0x20) (rest : List Char) :
    Takes codeEscape ('0' :: '0' :: hexDigit (c.toNat / 16) :: hexDigit (c.toNat % 16) :: rest) c
      rest := by
  have hescape : Takes hexEscape
      ('0' :: '0' :: hexDigit (c.toNat / 16) :: hexDigit (c.toNat % 16) :: rest) c.toNat rest := by
    intro here
    have hzero : hexValue '0' = some 0 := by decide
    have hvalue : ((0 * 16 + 0) * 16 + c.toNat / 16) * 16 + c.toNat % 16 = c.toNat := by omega
    simp only [hexEscape, hzero, hexValue_hexDigit (c.toNat / 16) (by omega),
      hexValue_hexDigit (c.toNat % 16) (by omega), hvalue]
    exact ⟨_, rfl⟩
  refine hescape.bind ?_
  rw [if_neg (by omega), if_neg (by omega), Char.ofNat_toNat]
  exact takes_pure c rest

theorem takes_escape {x c : Char} (h : simpleEscape x = some c) (rest : List Char) :
    Takes Reader.escape (x :: rest) c rest := by
  refine (takes_peek x rest).bind ?_
  split
  · contradiction
  · rename_i hx
    cases hx
    cases h
  · rename_i hx
    cases hx
    rw [h]
    exact (takes_pass x rest).bind (takes_pure c rest)

/-- What is written for a character is a backslash with an escape, or the character itself. -/
theorem escape_cases (c : Char) :
    (∃ cs, Json.escape c = '\\' :: cs ∧ ∀ rest, Takes Reader.escape (cs ++ rest) c rest) ∨
      Json.escape c = [c] ∧ c ≠ '"' ∧ c ≠ '\\' ∧ ¬c.toNat < 0x20 := by
  have letter {x : Char} (h : simpleEscape x = some c) :
      ∃ cs, ['\\', x] = '\\' :: cs ∧ ∀ rest, Takes Reader.escape (cs ++ rest) c rest :=
    ⟨[x], rfl, takes_escape h⟩
  unfold Json.escape
  split_ifs with hquote hbackslash hback hfeed hline hreturn htab hcontrol
  · exact .inl (letter (by rw [hquote]; rfl))
  · exact .inl (letter (by rw [hbackslash]; rfl))
  · exact .inl (letter (by rw [hback]; rfl))
  · exact .inl (letter (by rw [hfeed]; rfl))
  · exact .inl (letter (by rw [hline]; rfl))
  · exact .inl (letter (by rw [hreturn]; rfl))
  · exact .inl (letter (by rw [htab]; rfl))
  · refine .inl ⟨_, rfl, fun rest ↦ ?_⟩
    exact (takes_peek 'u' _).bind ((takes_pass 'u' _).bind (takes_codeEscape hcontrol rest))
  · exact .inr ⟨rfl, hquote, hbackslash, hcontrol⟩

/-- The fuel of a string is enough if there is some for each of its characters. -/
theorem takes_stringFrom (fuel : Nat) (s read rest : List Char) (h : s.length < fuel) :
    Takes (stringFrom fuel read) (s.flatMap Json.escape ++ '"' :: rest)
      (String.ofList (read.reverse ++ s)) rest := by
  induction s generalizing fuel read with
  | nil =>
    obtain ⟨fuel, rfl⟩ : ∃ n, fuel = n + 1 := ⟨fuel - 1, by simp at h; omega⟩
    rw [List.append_nil]
    exact (takes_peek '"' rest).bind ((takes_pass '"' rest).bind (takes_pure _ rest))
  | cons c s ih =>
    obtain ⟨fuel, rfl⟩ : ∃ n, fuel = n + 1 := ⟨fuel - 1, by simp at h; omega⟩
    have hlater := ih fuel (c :: read) (by simpa using h)
    rw [List.reverse_cons, List.append_assoc, List.singleton_append] at hlater
    rw [List.flatMap_cons, List.append_assoc]
    rcases escape_cases c with ⟨cs, hcs, hescape⟩ | ⟨hcs, hquote, hbackslash, hcontrol⟩
    · rw [hcs]
      exact (takes_peek '\\' _).bind ((takes_pass '\\' _).bind ((hescape _).bind hlater))
    · rw [hcs]
      refine (takes_peek c _).bind ?_
      simp only [hcontrol, if_false]
      exact (takes_pass c _).bind hlater

theorem length_le_length_flatMap_escape (s : List Char) :
    s.length ≤ (s.flatMap Json.escape).length := by
  induction s with
  | nil => simp
  | cons c s ih =>
    have hpos : 0 < (Json.escape c).length := by
      rcases escape_cases c with ⟨cs, hcs, -⟩ | ⟨hcs, -⟩ <;> simp [hcs]
    rw [List.flatMap_cons, List.length_append, List.length_cons]
    omega

theorem takes_string (s : String) (rest : List Char) :
    Takes string (s.toList.flatMap Json.escape ++ '"' :: rest) s rest := by
  have hlength := length_le_length_flatMap_escape s.toList
  have h := takes_stringFrom ((s.toList.flatMap Json.escape ++ '"' :: rest).length + 1) s.toList []
    rest (by rw [List.length_append]; omega)
  rw [List.reverse_nil, List.nil_append, String.ofList_toList] at h
  exact (takes_remaining _).bind h

theorem quoted_append (s : String) (rest : List Char) :
    quoted s ++ rest = '"' :: (s.toList.flatMap Json.escape ++ '"' :: rest) := by
  simp [quoted]

theorem takes_key (s : String) (rest : List Char) : Takes key (quoted s ++ rest) s rest := by
  rw [quoted_append]
  exact (takes_pass '"' _).bind (takes_string s rest)

theorem takes_text (s : String) (rest : List Char) : Takes text (quoted s ++ rest) s rest := by
  rw [quoted_append]
  exact (takes_valueStart rfl).bind ((takes_pass '"' _).bind (takes_string s rest))

/-- One of some names, written as a string. -/
theorem takes_variant {names : List String} {s : String} (h : s ∈ names) (rest : List Char) :
    Takes (variant names) (quoted s ++ rest) s rest := by
  have hname : (names.contains s) = true := List.contains_iff_mem.2 h
  rw [quoted_append]
  refine (takes_peekToken rfl).bind ?_
  rw [← quoted_append]
  refine (takes_key s rest).bind ?_
  rw [if_pos hname]
  exact takes_pure s rest

theorem takes_flag (b : Bool) (rest : List Char) :
    Takes flag ((toString b).toList ++ rest) b rest := by
  cases b with
  | false =>
    exact (takes_valueStart rfl).bind
      ((takes_pass 'f' _).bind ((takes_literal ['a', 'l', 's', 'e'] rest).bind (takes_pure false rest)))
  | true =>
    exact (takes_valueStart rfl).bind
      ((takes_pass 't' _).bind ((takes_literal ['r', 'u', 'e'] rest).bind (takes_pure true rest)))

/-! ## Lists of strings -/

section

variable (first : Bool) (rest : List Char)

theorem takes_nextElement_end : Takes (nextElement first) (']' :: rest) false (']' :: rest) :=
  Takes.bind (takes_peekToken rfl) (takes_pure false _)

theorem takes_nextElement_first {c : Char} (h : isBlank c = false) (hend : c ≠ ']') :
    Takes (nextElement true) (c :: rest) true (c :: rest) := by
  refine Takes.bind (takes_peekToken (List.dropWhile_cons_of_neg (by simp [h]))) ?_
  simp only [if_true]
  exact takes_pure true _

theorem takes_nextElement_later {c : Char} (h : isBlank c = false) (hend : c ≠ ']') :
    Takes (nextElement false) (',' :: c :: rest) true (c :: rest) := by
  refine Takes.bind (takes_peekToken rfl) (Takes.bind (takes_pass ',' _) ?_)
  refine Takes.bind (takes_peekToken (List.dropWhile_cons_of_neg (by simp [h]))) ?_
  simp only
  exact takes_pure true _

theorem takes_closeArray : Takes closeArray (']' :: rest) () rest :=
  Takes.bind (takes_peekToken rfl) (takes_pass ']' rest)

end

/-- What is written for the strings of a list that are not its first. -/
def laterItems (ss : List String) : List Char := ss.flatMap fun s ↦ ',' :: quoted s

theorem laterItems_cons_append (s : String) (ss : List String) (rest : List Char) :
    laterItems (s :: ss) ++ rest = ',' :: (quoted s ++ (laterItems ss ++ rest)) := by
  simp [laterItems]

theorem itemChars_strings (s : String) (ss : List String) :
    itemChars ((s :: ss).map .string) = quoted s ++ laterItems ss := by
  induction ss generalizing s with
  | nil => simp [itemChars, Value.chars, laterItems]
  | cons s' ss ih =>
    rw [List.map_cons, List.map_cons, itemChars, ← List.map_cons, ih, Value.chars]
    · simp [laterItems]
    · simp

theorem length_le_length_laterItems (ss : List String) : ss.length ≤ (laterItems ss).length := by
  induction ss with
  | nil => simp
  | cons s ss ih =>
    simp only [laterItems, List.flatMap_cons, List.cons_append, List.length_cons,
      List.length_append] at ih ⊢
    omega

theorem takes_textsFrom_end (fuel : Nat) (first : Bool) (rest : List Char) :
    Takes (textsFrom (fuel + 1) first) (']' :: rest) [] (']' :: rest) :=
  Takes.bind (takes_nextElement_end first rest) (takes_pure [] _)

theorem takes_textsFrom_later (fuel : Nat) (ss : List String) (rest : List Char)
    (h : ss.length < fuel) :
    Takes (textsFrom fuel false) (laterItems ss ++ ']' :: rest) ss (']' :: rest) := by
  obtain ⟨fuel, rfl⟩ : ∃ n, fuel = n + 1 := ⟨fuel - 1, by omega⟩
  induction ss generalizing fuel with
  | nil => exact takes_textsFrom_end fuel false rest
  | cons s ss ih =>
    obtain ⟨fuel, rfl⟩ : ∃ n, fuel = n + 1 := ⟨fuel - 1, by simp at h; omega⟩
    have hnext : Takes (nextElement false) (laterItems (s :: ss) ++ ']' :: rest) true
        (quoted s ++ (laterItems ss ++ ']' :: rest)) := by
      rw [laterItems_cons_append, quoted_append]
      exact takes_nextElement_later _ rfl (by decide)
    exact hnext.bind ((takes_text s _).bind ((ih fuel (by simpa using h)).bind (takes_pure _ _)))

theorem takes_textsFrom_first (fuel : Nat) (ss : List String) (rest : List Char)
    (h : ss.length < fuel) :
    Takes (textsFrom fuel true) (itemChars (ss.map .string) ++ ']' :: rest) ss (']' :: rest) := by
  obtain ⟨fuel, rfl⟩ : ∃ n, fuel = n + 1 := ⟨fuel - 1, by omega⟩
  cases ss with
  | nil => exact takes_textsFrom_end fuel true rest
  | cons s ss =>
    have hnext : Takes (nextElement true) (quoted s ++ (laterItems ss ++ ']' :: rest)) true
        (quoted s ++ (laterItems ss ++ ']' :: rest)) := by
      rw [quoted_append]
      exact takes_nextElement_first _ rfl (by decide)
    have hlater := takes_textsFrom_later fuel ss rest (by simpa using h)
    rw [itemChars_strings, List.append_assoc]
    exact hnext.bind ((takes_text s _).bind (hlater.bind (takes_pure _ _)))

theorem length_le_length_itemChars (ss : List String) :
    ss.length ≤ (itemChars (ss.map .string)).length + 1 := by
  cases ss with
  | nil => simp
  | cons s ss =>
    have h := length_le_length_laterItems ss
    rw [itemChars_strings, List.length_append, List.length_cons]
    omega

theorem takes_texts (ss : List String) (rest : List Char) :
    Takes texts ((Value.array (ss.map .string)).chars ++ rest) ss rest := by
  have hlength := length_le_length_itemChars ss
  have hall := takes_textsFrom_first ((itemChars (ss.map .string) ++ ']' :: rest).length + 1) ss rest
    (by simp; omega)
  have hchars : (Value.array (ss.map .string)).chars ++ rest =
      '[' :: (itemChars (ss.map .string) ++ ']' :: rest) := by
    simp [Value.chars]
  rw [hchars]
  refine Takes.bind (takes_valueStart rfl) (Takes.bind (takes_pass '[' _) ?_)
  exact (takes_remaining _).bind (hall.bind ((takes_closeArray rest).bind (takes_pure ss rest)))

/-! ## Numbers -/

/-- A number that stands before the text is over there. -/
def EndsNumber (rest : List Char) : Prop :=
  ∀ c ∈ rest.head?, isDigit c = false ∧ c ≠ '.' ∧ isExponentMark (some c) = false

theorem isDigit_eq (c : Char) : isDigit c = c.isDigit := rfl

theorem isDigit_of_mem_toDigits {n : Nat} {c : Char} (h : c ∈ Nat.toDigits 10 n) :
    isDigit c = true :=
  (isDigit_eq c).trans (Nat.isDigit_of_mem_toDigits (by decide) (by decide) h)

/-- Only the number zero begins with a zero. -/
theorem eq_zero_of_toDigits {n : Nat} {ds : List Char} (h : Nat.toDigits 10 n = '0' :: ds) :
    n = 0 := by
  induction n using Nat.strongRecOn generalizing ds with
  | ind n ih =>
    by_cases hn : n < 10
    · have hzero : ∀ m < 10, m.digitChar = '0' → m = 0 := by decide
      rw [Nat.toDigits_of_lt_base hn] at h
      exact hzero n hn (List.head_eq_of_cons_eq h)
    · rw [Nat.toDigits_of_base_le (by decide) (by omega)] at h
      cases hhead : Nat.toDigits 10 (n / 10) with
      | nil => exact absurd hhead Nat.toDigits_ne_nil
      | cons d ds' =>
        rw [hhead, List.cons_append] at h
        have hsmaller := ih (n / 10) (by omega) (hhead.trans (by rw [List.head_eq_of_cons_eq h]))
        omega

theorem le_ofDigitChars (n : Nat) (ds : List Char) : n ≤ Nat.ofDigitChars 10 ds n := by
  rw [Nat.ofDigitChars_eq_ofDigitChars_zero]
  have hpos : 1 ≤ 10 ^ ds.length := Nat.one_le_pow _ _ (by decide)
  nlinarith

theorem ofDigitChars_cons (n : Nat) (d : Char) (ds : List Char) :
    Nat.ofDigitChars 10 (d :: ds) n = Nat.ofDigitChars 10 ds (n * 10 + digitValue d) := by
  rw [Nat.ofDigitChars_cons, Nat.mul_comm]
  rfl

theorem gather_of_lt {n : Nat} {ds : List Char} (h : Nat.ofDigitChars 10 ds n < word) :
    gather n ds = (Nat.ofDigitChars 10 ds n, ds.length) := by
  induction ds generalizing n with
  | nil => rfl
  | cons d ds ih =>
    rw [ofDigitChars_cons] at h ⊢
    have hlt := (le_ofDigitChars _ ds).trans_lt h
    simp only [gather, hlt, if_true, ih h, List.length_cons]

theorem gather_of_le {n : Nat} {ds : List Char} (hn : n < word)
    (h : word ≤ Nat.ofDigitChars 10 ds n) : (gather n ds).2 < ds.length := by
  induction ds generalizing n with
  | nil => exact absurd h hn.not_ge
  | cons d ds ih =>
    rw [ofDigitChars_cons] at h
    by_cases hlt : n * 10 + digitValue d < word
    · simpa only [gather, hlt, if_true, List.length_cons, Nat.add_lt_add_iff_right] using ih hlt h
    · simp only [gather, hlt, if_false, List.length_cons]
      omega

theorem gather_toDigits {n : Nat} (h : n < word) :
    gather 0 (Nat.toDigits 10 n) = (n, (Nat.toDigits 10 n).length) := by
  have hvalue : Nat.ofDigitChars 10 (Nat.toDigits 10 n) 0 = n := Nat.ofDigitChars_ten_toDigits
  rw [gather_of_lt (hvalue.symm ▸ h), hvalue]

theorem gather_toDigits_of_le {n : Nat} (h : word ≤ n) :
    (gather 0 (Nat.toDigits 10 n)).2 < (Nat.toDigits 10 n).length :=
  gather_of_le (by decide) (Nat.ofDigitChars_ten_toDigits.symm ▸ h)

section

variable {rest : List Char}

theorem takes_digits {ds : List Char} (hds : ∀ d ∈ ds, isDigit d = true) (hrest : EndsNumber rest) :
    Takes digits (ds ++ rest) ds rest := by
  have hend : rest.takeWhile isDigit = [] ∧ rest.dropWhile isDigit = rest := by
    cases rest with
    | nil => exact ⟨rfl, rfl⟩
    | cons c rest =>
      have hc := (hrest c rfl).1
      exact ⟨List.takeWhile_cons_of_neg (by simp [hc]), List.dropWhile_cons_of_neg (by simp [hc])⟩
  have htake : (ds ++ rest).takeWhile isDigit = ds := by
    rw [List.takeWhile_append_of_pos hds, hend.1, List.append_nil]
  have hdrop : (ds ++ rest).dropWhile isDigit = rest := by
    rw [List.dropWhile_append_of_pos hds, hend.2]
  intro here
  rw [digits, Cursor.passWhile, htake, hdrop]
  exact ⟨_, rfl⟩

theorem takes_peekDigit (hrest : EndsNumber rest) : Takes peekDigit rest false rest := by
  have hnone : rest.head?.any isDigit = false := by
    cases rest with
    | nil => rfl
    | cons c rest => exact (hrest c rfl).1
  exact fun here ↦ ⟨here, by rw [← hnone]; rfl⟩

/-- The digits of a number are gathered; those that do not fit in a word make it a float. -/
theorem number_toDigits (n : Nat) (hrest : EndsNumber rest) :
    Continues (number true) (Nat.toDigits 10 n ++ rest)
      (let ds := Nat.toDigits 10 n
      if (gather 0 ds).2 < ds.length then
        float true (gather 0 ds).1 (ds.length - (gather 0 ds).2 : Nat)
      else pure (.natural (gather 0 ds).1)) rest := by
  have hdigits (d : Char) (hd : d ∈ Nat.toDigits 10 n) := isDigit_of_mem_toDigits hd
  have hdot : rest.head? ≠ some '.' := fun h ↦ (hrest '.' h).2.1 rfl
  have hmark : isExponentMark rest.head? = false := by
    cases rest with
    | nil => rfl
    | cons c rest => exact (hrest c rfl).2.2
  cases hds : Nat.toDigits 10 n with
  | nil => exact absurd hds Nat.toDigits_ne_nil
  | cons d ds =>
    have hdigit : isDigit d = true := hdigits d (hds ▸ List.mem_cons_self)
    refine (takes_peek d _).continues ?_
    simp only [hdigit, Bool.not_true, Bool.false_eq_true, if_false]
    by_cases hzero : d = '0'
    · rw [hzero] at hds
      rw [eq_zero_of_toDigits hds] at hds
      cases hds
      simp only [hzero, if_true]
      refine (takes_pass '0' rest).continues ((takes_pure ['0'] rest).continues ?_)
      refine (takes_peekDigit hrest).continues ((takes_ahead rest).continues ?_)
      simp only [hdot, hmark, Bool.false_eq_true, if_false]
      exact continues_self _ rest
    · simp only [hzero, if_false, decide_false, Bool.false_and]
      refine (takes_digits (hds ▸ hdigits) hrest).continues ?_
      refine (takes_peekDigit hrest).continues ((takes_ahead rest).continues ?_)
      simp only [hdot, hmark, Bool.false_eq_true, if_false, if_true]
      exact continues_self _ rest

theorem takes_number {n : Nat} (h : n < word) (hrest : EndsNumber rest) :
    Takes (number true) (Nat.toDigits 10 n ++ rest) (.natural n) rest := by
  have hnumber := number_toDigits n hrest
  simp only [gather_toDigits h, Nat.lt_irrefl, if_false] at hnumber
  exact hnumber.takes (takes_pure _ rest)

/-- A number that does not fit in a word is a float, or none at all. -/
theorem number_of_word_le {n : Nat} (h : word ≤ n) (hrest : EndsNumber rest) :
    Refuses (number true) (Nat.toDigits 10 n ++ rest) ∨
      ∃ f, Takes (number true) (Nat.toDigits 10 n ++ rest) (.float f) rest := by
  have hnumber := number_toDigits n hrest
  simp only [gather_toDigits_of_le h, if_true] at hnumber
  generalize (gather 0 (Nat.toDigits 10 n)).1 = m at hnumber
  generalize ((Nat.toDigits 10 n).length - _ : Nat) = e at hnumber
  unfold float at hnumber
  cases hscale : scale ((e : Int).natAbs / 308 + 2) (UInt64.ofNat m).toFloat e with
  | none =>
    rw [hscale] at hnumber
    exact .inl (hnumber.refuses (refuses_failHere _ rest))
  | some f =>
    rw [hscale] at hnumber
    exact .inr ⟨_, hnumber.takes (takes_pure _ rest)⟩

theorem takes_valueStart_toDigits (n : Nat) (rest : List Char) :
    ∃ d, isDigit d = true ∧
      Takes valueStart (Nat.toDigits 10 n ++ rest) d (Nat.toDigits 10 n ++ rest) := by
  cases hds : Nat.toDigits 10 n with
  | nil => exact absurd hds Nat.toDigits_ne_nil
  | cons d ds =>
    have hdigit : isDigit d = true := isDigit_of_mem_toDigits (n := n) (hds ▸ List.mem_cons_self)
    have hblank : isBlank d = false := by
      by_contra hblank
      simp only [isBlank, Bool.not_eq_false, Bool.or_eq_true, decide_eq_true_eq] at hblank
      rcases hblank with ((rfl | rfl) | rfl) | rfl <;> exact absurd hdigit (by decide)
    exact ⟨d, hdigit, takes_valueStart (List.dropWhile_cons_of_neg (by simp [hblank]))⟩

variable (expected : String) {n bound : Nat}

theorem takes_natural (h : n < bound) (hbound : bound ≤ word) (hrest : EndsNumber rest) :
    Takes (natural expected bound) (Nat.toDigits 10 n ++ rest) n rest := by
  obtain ⟨d, hdigit, hstart⟩ := takes_valueStart_toDigits n rest
  have hminus : d ≠ '-' := fun hd ↦ absurd hdigit (by rw [hd]; decide)
  refine hstart.bind ?_
  simp only [hminus, if_false, hdigit, if_true]
  refine (takes_number (h.trans_le hbound) hrest).bind ?_
  simp only [h, if_true]
  exact takes_pure n rest

theorem refuses_natural (h : bound ≤ n) (hrest : EndsNumber rest) :
    Refuses (natural expected bound) (Nat.toDigits 10 n ++ rest) := by
  obtain ⟨d, hdigit, hstart⟩ := takes_valueStart_toDigits n rest
  have hminus : d ≠ '-' := fun hd ↦ absurd hdigit (by rw [hd]; decide)
  refine hstart.bind_refuses ?_
  simp only [hminus, if_false, hdigit, if_true]
  rcases lt_or_ge n word with hword | hword
  · refine (takes_number hword hrest).bind_refuses ?_
    simp only [h.not_gt, if_false]
    exact refuses_failHere _ rest
  · rcases number_of_word_le hword hrest with hnumber | ⟨f, hnumber⟩
    · exact hnumber.bind
    · exact hnumber.bind_refuses (refuses_failHere _ rest)

end

end Reader

end SourceSurvey.Json
