import Mathlib
import SourceSurvey.Encoding.Decode
import SourceSurvey.Proofs.Encoding.Utf8

/-!
# Texts behind a byte order mark

A byte order mark says which of three encodings a text is written in. What is written in UTF-16 is read
as it was, in either order of the bytes, as what is written in UTF-8 is; so a text behind a mark is read
back whatever encoding was asked for, and only that one mark is taken off. Bytes behind no mark of
UTF-16 are read as UTF-8 if that is asked for, without the mark of UTF-8.
-/

namespace SourceSurvey.Encoding

/-! ## UTF-16 -/

namespace Utf16

variable (order : ByteOrder)

/-- The two bytes of a unit are put together again. -/
theorem unit_bytes {unit : Nat} (h : unit < 0x10000) :
    ∃ first second, order.bytes unit = [first, second] ∧ order.unit first second = unit := by
  have hhigh : (UInt8.ofNat (unit / 256)).toNat = unit / 256 :=
    UInt8.toNat_ofNat_of_lt' (by change unit / 256 < 256; omega)
  have hlow : (UInt8.ofNat unit).toNat = unit % 256 := UInt8.toNat_ofNat'
  cases order with
  | bigEndian =>
    refine ⟨_, _, rfl, ?_⟩
    rw [ByteOrder.unit, hhigh, hlow]
    omega
  | littleEndian =>
    refine ⟨_, _, rfl, ?_⟩
    rw [ByteOrder.unit, hhigh, hlow]
    omega

/-- What is read from a state on. -/
def readFrom : State → Bytes → Reading := (machine order).runFrom

theorem readFrom_cons (state : State) (b : UInt8) (rest : Bytes) :
    readFrom order state (b :: rest) =
      (step order state b).1 ++ readFrom order (step order state b).2 rest := rfl

section

variable {unit : Nat} (h : unit < 0x10000) (rest : Bytes)

include h

theorem readFrom_unit :
    readFrom order ⟨none, none⟩ (order.bytes unit ++ rest) =
      (start unit).1 ++ readFrom order (start unit).2 rest := by
  obtain ⟨first, second, hbytes, hunit⟩ := unit_bytes order h
  rw [hbytes, List.cons_append, List.singleton_append, readFrom_cons, readFrom_cons]
  simp only [step, hunit, List.nil_append]

/-- A trailing unit makes a pair with the leading one in front of it. -/
theorem readFrom_trailing (htrailing : isTrailing unit) (leading : Nat) :
    readFrom order ⟨none, some leading⟩ (order.bytes unit ++ rest) =
      some (pair leading unit) :: readFrom order ⟨none, none⟩ rest := by
  obtain ⟨first, second, hbytes, hunit⟩ := unit_bytes order h
  rw [hbytes, List.cons_append, List.singleton_append, readFrom_cons, readFrom_cons]
  simp only [step, hunit, if_pos htrailing, List.nil_append, List.singleton_append]

end

/-- The number of a character that has two units is put together from them. -/
theorem pair_units {n : Nat} (hlow : 0x10000 ≤ n) :
    pair (0xD800 + (n - 0x10000) / 0x400) (0xDC00 + (n - 0x10000) % 0x400) = Char.ofNat n := by
  rw [pair]
  apply congrArg
  omega

/-- The units of a character are read as that character. -/
theorem readFrom_units (c : Char) (rest : Bytes) :
    readFrom order ⟨none, none⟩ ((units c).flatMap order.bytes ++ rest) =
      some c :: readFrom order ⟨none, none⟩ rest := by
  have hvalid : c.toNat < 0xD800 ∨ 0xDFFF < c.toNat ∧ c.toNat < 0x110000 := c.valid
  by_cases hshort : c.toNat < 0x10000
  · have hleading : ¬isLeading c.toNat := by
      simp only [isLeading, Bool.and_eq_true, decide_eq_true_eq]
      omega
    have htrailing : ¬isTrailing c.toNat := by
      simp only [isTrailing, Bool.and_eq_true, decide_eq_true_eq]
      omega
    have hunits : (units c).flatMap order.bytes = order.bytes c.toNat := by simp [units, hshort]
    rw [hunits, readFrom_unit order hshort, start, if_neg hleading, if_neg htrailing,
      Char.ofNat_toNat]
    rfl
  · -- two units, of which the first one is kept until the second one comes
    have hunits : (units c).flatMap order.bytes ++ rest =
        order.bytes (0xD800 + (c.toNat - 0x10000) / 0x400) ++
          (order.bytes (0xDC00 + (c.toNat - 0x10000) % 0x400) ++ rest) := by
      simp [units, hshort]
    have hleading : isLeading (0xD800 + (c.toNat - 0x10000) / 0x400) := by
      simp only [isLeading, Bool.and_eq_true, decide_eq_true_eq]
      omega
    have htrailing : isTrailing (0xDC00 + (c.toNat - 0x10000) % 0x400) := by
      simp only [isTrailing, Bool.and_eq_true, decide_eq_true_eq]
      omega
    rw [hunits, readFrom_unit order (by omega), start, if_pos hleading, List.nil_append,
      readFrom_trailing order (by omega) rest htrailing, pair_units (by omega), Char.ofNat_toNat]

/-- What is written in UTF-16 is read as it was. -/
theorem run_encode (s : List Char) : (machine order).run (encode order s) = s.map some := by
  change readFrom order ⟨none, none⟩ (encode order s) = s.map some
  induction s with
  | nil => rfl
  | cons c s ih =>
    rw [encode, List.flatMap_cons, List.flatMap_append, readFrom_units order c]
    exact congrArg (some c :: ·) ih

end Utf16

/-! ## Marks -/

/-- The encodings that have a byte order mark. -/
inductive MarkedForm where
  | utf8
  | utf16 (order : Utf16.ByteOrder)
deriving DecidableEq

namespace MarkedForm

def encoding : MarkedForm → Encoding
  | utf8 => .utf8
  | utf16 .bigEndian => .utf16BE
  | utf16 .littleEndian => .utf16LE

def encode : MarkedForm → List Char → Bytes
  | utf8 => Utf8.encode
  | utf16 order => Utf16.encode order

/-- The bytes of a text behind the mark of its encoding. -/
def write (form : MarkedForm) (s : List Char) : Bytes := form.encoding.mark ++ form.encode s

theorem marked?_append (form : MarkedForm) (body : Bytes) :
    marked? (form.encoding.mark ++ body) = some (form.encoding, body) := by
  match form with
  | utf8 => rfl
  | utf16 .bigEndian => rfl
  | utf16 .littleEndian => rfl

theorem run_encode (form : MarkedForm) (s : List Char) :
    form.encoding.machine.run (form.encode s) = s.map some :=
  match form with
  | utf8 => Utf8.decode_encode s
  | utf16 .bigEndian => Utf16.run_encode .bigEndian s
  | utf16 .littleEndian => Utf16.run_encode .littleEndian s

end MarkedForm

/-- Characters that are all read are shown as they are, and nothing is malformed. -/
theorem Reading.text_map_some (s : List Char) : Reading.text (s.map some) = s := by
  simp [Reading.text, Function.comp_def]

theorem Reading.malformed_map_some (s : List Char) : Reading.malformed (s.map some) = false := by
  simp [Reading.malformed]

/-- A text behind a mark is read back, whatever encoding was asked for. -/
theorem decode_write (asked : Encoding) (form : MarkedForm) (s : List Char) :
    decode asked (form.write s) = ⟨String.ofList s, form.encoding, false⟩ := by
  simp only [decode, MarkedForm.write, form.marked?_append, Option.getD_some, form.run_encode,
    Reading.text_map_some, Reading.malformed_map_some]

/-! ## No mark of UTF-16 -/

/-- The bytes behind the mark of UTF-8, or all of them if there is none. -/
def withoutMark (bytes : Bytes) : Bytes :=
  if utf8.mark <+: bytes then bytes.drop utf8.mark.length else bytes

/-- Bytes behind no mark of UTF-16 are read as UTF-8 where that was asked for. -/
theorem decode_utf8 {bytes : Bytes} (hbig : ¬utf16BE.mark <+: bytes)
    (hlittle : ¬utf16LE.mark <+: bytes) :
    decode utf8 bytes = ⟨Utf8.lossy (withoutMark bytes), utf8,
      (Utf8.decode (withoutMark bytes)).malformed⟩ := by
  have hmarked : (marked? bytes).getD (utf8, bytes) = (utf8, withoutMark bytes) := by
    simp only [marked?, List.findSome?_cons, List.findSome?_nil, withoutMark, List.isPrefixOf_iff_prefix,
      if_neg hbig, if_neg hlittle]
    split_ifs <;> rfl
  simp only [decode, hmarked]
  rfl

end SourceSurvey.Encoding
