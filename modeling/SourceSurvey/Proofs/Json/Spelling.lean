import Mathlib
import SourceSurvey.Encoding.Utf16
import SourceSurvey.Json.Value

/-!
# How JSON is spelled

The grammar of JSON, with no reader in it. Each rule says what may stand at the front of a text and what
is then left of the text. Blanks may stand around every value and every name, characters of a string may
be written as escapes, and a name may be given to any number of members of an object.
-/

namespace SourceSurvey.Json

/-- What a text says. Numbers are all alike, since there is no setting that is a number. A string in
which half of a surrogate pair stands alone is no text. -/
inductive Datum where
  | null
  | bool (b : Bool)
  | number
  | string (s : Option String)
  | array (items : List Datum)
  | object (members : List (Option String × Datum))

namespace Spelling

variable {cs cs' rest : List Char}

/-! ## Blanks and numbers -/

inductive Blanks : List Char → List Char → Prop where
  | none (rest : List Char) : Blanks rest rest
  | blank {c : Char} {cs rest : List Char} (hc : c ∈ [' ', '\t', '\n', '\r']) (h : Blanks cs rest) :
    Blanks (c :: cs) rest

/-- At least one digit. -/
inductive Digits : List Char → List Char → Prop where
  | one {c : Char} (hc : '0' ≤ c ∧ c ≤ '9') (rest : List Char) : Digits (c :: rest) rest
  | more {c : Char} {cs rest : List Char} (hc : '0' ≤ c ∧ c ≤ '9') (h : Digits cs rest) :
    Digits (c :: cs) rest

/-- Digits with no zero in front of another. -/
inductive Whole : List Char → List Char → Prop where
  | zero (rest : List Char) : Whole ('0' :: rest) rest
  | digits {cs rest : List Char} (hzero : cs.head? ≠ some '0') (h : Digits cs rest) : Whole cs rest

inductive Fraction : List Char → List Char → Prop where
  | none (rest : List Char) : Fraction rest rest
  | digits {cs rest : List Char} (h : Digits cs rest) : Fraction ('.' :: cs) rest

inductive Exponent : List Char → List Char → Prop where
  | none (rest : List Char) : Exponent rest rest
  | digits {mark : Char} {cs cs' rest : List Char} (hmark : mark = 'e' ∨ mark = 'E')
    (hsign : cs = cs' ∨ cs = '+' :: cs' ∨ cs = '-' :: cs') (h : Digits cs' rest) :
    Exponent (mark :: cs) rest

/-- A number without a sign. -/
inductive Magnitude : List Char → List Char → Prop where
  | parts {cs cs₁ cs₂ rest : List Char} (hwhole : Whole cs cs₁) (hfraction : Fraction cs₁ cs₂)
    (hexponent : Exponent cs₂ rest) : Magnitude cs rest

/-! ## Strings -/

/-- What a backslash and one more character stand for. -/
def escapes : List (Char × Char) :=
  [('"', '"'), ('\\', '\\'), ('/', '/'), ('b', '\x08'), ('f', '\x0c'), ('n', '\n'), ('r', '\r'),
    ('t', '\t')]

/-- A digit in base sixteen, in either case. -/
def IsHexDigit (x : Char) (n : Nat) : Prop := n < 16 ∧ (x = hexDigit n ∨ x = (hexDigit n).toUpper)

/-- A character, or one unit of the UTF-16 encoding of a character. -/
inductive Piece where
  | char (c : Char)
  | unit (n : Nat)

/-- The pieces of a string up to the quote that ends it. -/
inductive Pieces : List Char → List Piece → List Char → Prop where
  | close (rest : List Char) : Pieces ('"' :: rest) [] rest
  | char {c : Char} {cs rest : List Char} {ps : List Piece} (hquote : c ≠ '"') (hmark : c ≠ '\\')
    (hcontrol : 0x20 ≤ c.toNat) (h : Pieces cs ps rest) : Pieces (c :: cs) (.char c :: ps) rest
  | escape {x c : Char} {cs rest : List Char} {ps : List Piece} (hx : (x, c) ∈ escapes)
    (h : Pieces cs ps rest) : Pieces ('\\' :: x :: cs) (.char c :: ps) rest
  | unit {x y z w : Char} {a b c d : Nat} {cs rest : List Char} {ps : List Piece}
    (hx : IsHexDigit x a) (hy : IsHexDigit y b) (hz : IsHexDigit z c) (hw : IsHexDigit w d)
    (h : Pieces cs ps rest) :
    Pieces ('\\' :: 'u' :: x :: y :: z :: w :: cs)
      (.unit (((a * 16 + b) * 16 + c) * 16 + d) :: ps) rest

open Encoding.Utf16 in
/-- The characters that pieces stand for, unless half of a surrogate pair stands alone. -/
def joined : List Piece → Option (List Char)
  | [] => some []
  | .char c :: ps => (joined ps).map (c :: ·)
  | .unit n :: ps =>
    if isTrailing n then none
    else if isLeading n then
      match ps with
      | .unit m :: ps => if isTrailing m then (joined ps).map (pair n m :: ·) else none
      | _ => none
    else (joined ps).map (Char.ofNat n :: ·)

def textOf (ps : List Piece) : Option String := (joined ps).map String.ofList

theorem pieces_of_plain {s : List Char} (h : ∀ c ∈ s, c ≠ '"' ∧ c ≠ '\\' ∧ 0x20 ≤ c.toNat)
    (rest : List Char) : Pieces (s ++ '"' :: rest) (s.map .char) rest := by
  induction s with
  | nil => exact .close rest
  | cons c s ih =>
    obtain ⟨⟨hquote, hmark, hcontrol⟩, hs⟩ := List.forall_mem_cons.1 h
    exact .char hquote hmark hcontrol (ih hs)

theorem joined_map_char (s : List Char) : joined (s.map .char) = some s := by
  induction s with
  | nil => rfl
  | cons c s ih => rw [List.map_cons, joined, ih, Option.map_some]

section

open Encoding.Utf16

variable {n m : Nat} {ps : List Piece}

theorem not_isTrailing_of_isLeading (hn : isLeading n = true) : ¬isTrailing n = true := by
  simp only [isLeading, isTrailing, Bool.and_eq_true, decide_eq_true_eq] at hn ⊢
  omega

theorem joined_trailing (hn : isTrailing n = true) (ps : List Piece) :
    joined (.unit n :: ps) = none := by
  unfold joined
  rw [if_pos hn]

theorem joined_whole (hn : ¬isTrailing n = true) (hn' : ¬isLeading n = true) (ps : List Piece) :
    joined (.unit n :: ps) = (joined ps).map (Char.ofNat n :: ·) := by
  conv_lhs => unfold joined
  rw [if_neg hn, if_neg hn']

theorem joined_pair (hn : isLeading n = true) (hm : isTrailing m = true) (ps : List Piece) :
    joined (.unit n :: .unit m :: ps) = (joined ps).map (pair n m :: ·) := by
  conv_lhs => unfold joined
  rw [if_neg (not_isTrailing_of_isLeading hn), if_pos hn]
  simp only [hm, if_true]

theorem joined_leading (hn : isLeading n = true)
    (hnone : ∀ m, ps.head? = some (.unit m) → ¬isTrailing m = true) :
    joined (.unit n :: ps) = none := by
  unfold joined
  rw [if_neg (not_isTrailing_of_isLeading hn), if_pos hn]
  split
  · rw [if_neg (hnone _ rfl)]
  · rfl

end

/-! ## Values -/

/-- A name, with the colon behind it. -/
inductive MemberName : List Char → Option String → List Char → Prop where
  | quoted {cs cs₁ cs₂ rest : List Char} {ps : List Piece} (hopen : Blanks cs ('"' :: cs₁))
    (hname : Pieces cs₁ ps cs₂) (hcolon : Blanks cs₂ (':' :: rest)) : MemberName cs (textOf ps) rest

/-- A name in which no character has to be escaped. -/
theorem name_of_plain {s : String} (h : ∀ c ∈ s.toList, c ≠ '"' ∧ c ≠ '\\' ∧ 0x20 ≤ c.toNat)
    (rest : List Char) : MemberName ('"' :: (s.toList ++ '"' :: ':' :: rest)) (some s) rest := by
  have htext : textOf (s.toList.map .char) = some s := by
    rw [textOf, joined_map_char, Option.map_some, String.ofList_toList]
  exact htext ▸ .quoted (.none _) (pieces_of_plain h _) (.none _)

/-- What a rule is about. -/
inductive Part where
  | value (d : Datum)
  /-- A value with the blanks around it. -/
  | element (d : Datum)
  | elements (ds : List Datum)
  | members (ms : List (Option String × Datum))

inductive Spells : Part → List Char → List Char → Prop where
  | null (rest : List Char) : Spells (.value .null) ('n' :: 'u' :: 'l' :: 'l' :: rest) rest
  | true (rest : List Char) : Spells (.value (.bool .true)) ('t' :: 'r' :: 'u' :: 'e' :: rest) rest
  | false (rest : List Char) :
    Spells (.value (.bool .false)) ('f' :: 'a' :: 'l' :: 's' :: 'e' :: rest) rest
  | positive {cs rest : List Char} (h : Magnitude cs rest) : Spells (.value .number) cs rest
  | negative {cs rest : List Char} (h : Magnitude cs rest) : Spells (.value .number) ('-' :: cs) rest
  | string {cs rest : List Char} {ps : List Piece} (h : Pieces cs ps rest) :
    Spells (.value (.string (textOf ps))) ('"' :: cs) rest
  | emptyArray {cs rest : List Char} (h : Blanks cs (']' :: rest)) :
    Spells (.value (.array [])) ('[' :: cs) rest
  | array {cs rest : List Char} {ds : List Datum} (h : Spells (.elements ds) cs (']' :: rest)) :
    Spells (.value (.array ds)) ('[' :: cs) rest
  | emptyObject {cs rest : List Char} (h : Blanks cs ('}' :: rest)) :
    Spells (.value (.object [])) ('{' :: cs) rest
  | object {cs rest : List Char} {ms : List (Option String × Datum)}
    (h : Spells (.members ms) cs ('}' :: rest)) : Spells (.value (.object ms)) ('{' :: cs) rest
  | element {cs cs₁ cs₂ rest : List Char} {d : Datum} (hbefore : Blanks cs cs₁)
    (hvalue : Spells (.value d) cs₁ cs₂) (hafter : Blanks cs₂ rest) : Spells (.element d) cs rest
  | lastElement {cs rest : List Char} {d : Datum} (h : Spells (.element d) cs rest) :
    Spells (.elements [d]) cs rest
  | nextElement {cs cs' rest : List Char} {d : Datum} {ds : List Datum}
    (h : Spells (.element d) cs (',' :: cs')) (hlater : Spells (.elements ds) cs' rest) :
    Spells (.elements (d :: ds)) cs rest
  | lastMember {cs cs₁ rest : List Char} {name : Option String} {d : Datum}
    (hname : MemberName cs name cs₁) (h : Spells (.element d) cs₁ rest) :
    Spells (.members [(name, d)]) cs rest
  | nextMember {cs cs₁ cs' rest : List Char} {name : Option String} {d : Datum}
    {ms : List (Option String × Datum)} (hname : MemberName cs name cs₁)
    (h : Spells (.element d) cs₁ (',' :: cs')) (hlater : Spells (.members ms) cs' rest) :
    Spells (.members ((name, d) :: ms)) cs rest

/-! ## What a value begins with -/

/-- The character may be the first one of what is spelled as a value. -/
def Opens (c : Char) : Datum → Prop
  | .null => c = 'n'
  | .bool b => c = if b then 't' else 'f'
  | .number => c = '-' ∨ '0' ≤ c ∧ c ≤ '9'
  | .string _ => c = '"'
  | .array _ => c = '['
  | .object _ => c = '{'

theorem Opens.ne_close {c : Char} {d : Datum} (h : Opens c d) : c ≠ ']' := by
  rintro rfl
  cases d with
  | bool b => cases b <;> simp [Opens] at h
  | null | number | string | array | object => simp [Opens] at h

theorem eq_string_of_opens {d : Datum} (h : Opens '"' d) : ∃ s, d = .string s := by
  cases d with
  | string s => exact ⟨s, rfl⟩
  | bool b => cases b <;> simp [Opens] at h
  | null | number | array | object => simp [Opens] at h

theorem eq_array_of_opens {d : Datum} (h : Opens '[' d) : ∃ ds, d = .array ds := by
  cases d with
  | array ds => exact ⟨ds, rfl⟩
  | bool b => cases b <;> simp [Opens] at h
  | null | number | string | object => simp [Opens] at h

theorem eq_bool_of_opens {d : Datum} {b : Bool} (h : Opens (if b then 't' else 'f') d) :
    d = .bool b := by
  cases d with
  | bool b' => cases b <;> cases b' <;> simp [Opens] at h ⊢
  | null | number | string | array | object => cases b <;> simp [Opens] at h

theorem Digits.exists_cons (h : Digits cs rest) : ∃ c cs', cs = c :: cs' ∧ '0' ≤ c ∧ c ≤ '9' := by
  cases h with
  | one hc => exact ⟨_, _, rfl, hc⟩
  | more hc => exact ⟨_, _, rfl, hc⟩

theorem Magnitude.exists_cons (h : Magnitude cs rest) :
    ∃ c cs', cs = c :: cs' ∧ '0' ≤ c ∧ c ≤ '9' := by
  cases h with
  | parts hwhole =>
    cases hwhole with
    | zero => exact ⟨'0', _, rfl, by decide⟩
    | digits _ h => exact h.exists_cons

theorem Spells.exists_opens {d : Datum} (h : Spells (.value d) cs rest) :
    ∃ c cs', cs = c :: cs' ∧ Opens c d := by
  cases h with
  | positive h =>
    obtain ⟨c, cs', hcs, hc⟩ := h.exists_cons
    exact ⟨c, cs', hcs, .inr hc⟩
  | negative => exact ⟨_, _, rfl, .inl rfl⟩
  | null | true | false | string | emptyArray | array | emptyObject | object =>
    exact ⟨_, _, rfl, rfl⟩

/-! ## What is left of a text -/

theorem Blanks.length_le (h : Blanks cs rest) : rest.length ≤ cs.length := by
  induction h with
  | none => exact le_rfl
  | blank _ _ ih => exact ih.trans (Nat.le_succ _)

theorem Digits.length_le (h : Digits cs rest) : rest.length ≤ cs.length := by
  induction h with
  | one => exact Nat.le_succ _
  | more _ _ ih => exact ih.trans (Nat.le_succ _)

theorem Whole.length_le (h : Whole cs rest) : rest.length ≤ cs.length := by
  cases h with
  | zero => exact Nat.le_succ _
  | digits _ h => exact h.length_le

theorem Fraction.length_le (h : Fraction cs rest) : rest.length ≤ cs.length := by
  cases h with
  | none => exact le_rfl
  | digits h => exact h.length_le.trans (Nat.le_succ _)

theorem Exponent.length_le (h : Exponent cs rest) : rest.length ≤ cs.length := by
  cases h with
  | none => exact le_rfl
  | digits _ hsign h =>
    have hdigits := h.length_le
    rcases hsign with rfl | rfl | rfl <;> simp only [List.length_cons] <;> omega

theorem Magnitude.length_le (h : Magnitude cs rest) : rest.length ≤ cs.length := by
  cases h with
  | parts hwhole hfraction hexponent =>
    exact hexponent.length_le.trans (hfraction.length_le.trans hwhole.length_le)

theorem Pieces.length_le {ps : List Piece} (h : Pieces cs ps rest) : rest.length ≤ cs.length := by
  induction h with
  | close => exact Nat.le_succ _
  | char | escape | unit => simp only [List.length_cons]; omega

/-- The colon is gone. -/
theorem MemberName.length_lt {name : Option String} (h : MemberName cs name rest) :
    rest.length < cs.length := by
  cases h with
  | quoted hopen hname hcolon =>
    have h₁ := hopen.length_le
    have h₂ := hname.length_le
    have h₃ := hcolon.length_le
    simp only [List.length_cons] at h₁ h₃
    omega

theorem Spells.length_le {p : Part} (h : Spells p cs rest) : rest.length ≤ cs.length := by
  induction h with
  | null | true | false => simp only [List.length_cons]; omega
  | positive h => exact h.length_le
  | negative h => exact h.length_le.trans (Nat.le_succ _)
  | string h => exact h.length_le.trans (Nat.le_succ _)
  | emptyArray h | emptyObject h =>
    have := h.length_le
    simp only [List.length_cons] at this ⊢
    omega
  | array _ ih | object _ ih => simp only [List.length_cons] at ih ⊢; omega
  | element hbefore _ hafter ih => exact hafter.length_le.trans (ih.trans hbefore.length_le)
  | lastElement _ ih => exact ih
  | nextElement _ _ ih ihlater => simp only [List.length_cons] at ih; omega
  | lastMember hname _ ih => exact ih.trans hname.length_lt.le
  | nextMember hname _ _ ih ihlater =>
    have := hname.length_lt
    simp only [List.length_cons] at ih
    omega

/-- The whole text is one value, with blanks around it. -/
def IsSpelled (text : String) (d : Datum) : Prop := Spells (.element d) text.toList []

end Spelling

end SourceSurvey.Json
