import SourceSurvey.Encoding.Machine

/-!
UTF-8. A malformed place is a longest run of bytes that begins a character and breaks off, or a byte
that begins none.
-/

namespace SourceSurvey.Encoding.Utf8

def encode (s : List Char) : Bytes := s.flatMap String.utf8EncodeChar

def encodeString (s : String) : Bytes := encode s.toList

/-- What is owed to a character under way: the bounds of its next byte, how many bytes follow that
one, and the bits read so far. -/
structure Owed where
  low : UInt8
  high : UInt8
  more : Nat
  bits : Nat

/-- A byte where a character may begin. -/
def start (b : UInt8) : Reading × Option Owed :=
  if b < 0x80 then ([some (Char.ofNat b.toNat)], none)
  else if b < 0xC2 then ([none], none)
  else if b < 0xE0 then ([], some ⟨0x80, 0xBF, 0, b.toNat - 0xC0⟩)
  else if b < 0xF0 then
    let low := if b = 0xE0 then 0xA0 else 0x80
    let high := if b = 0xED then 0x9F else 0xBF
    ([], some ⟨low, high, 1, b.toNat - 0xE0⟩)
  else if b < 0xF5 then
    let low := if b = 0xF0 then 0x90 else 0x80
    let high := if b = 0xF4 then 0x8F else 0xBF
    ([], some ⟨low, high, 2, b.toNat - 0xF0⟩)
  else ([none], none)

def step : Option Owed → UInt8 → Reading × Option Owed
  | none, b => start b
  | some owed, b =>
    if owed.low ≤ b ∧ b ≤ owed.high then
      let bits := owed.bits * 64 + (b.toNat - 0x80)
      match owed.more with
      | 0 => ([some (Char.ofNat bits)], none)
      | more + 1 => ([], some ⟨0x80, 0xBF, more, bits⟩)
    else
      let (given, next) := start b
      (none :: given, next)

def machine : Machine where
  State := Option Owed
  initial := none
  step := step
  finish owed := if owed.isSome then [none] else []

def decode (bytes : Bytes) : Reading := machine.run bytes

/-- The text of the bytes, with a replacement character at each malformed place. -/
def lossy (bytes : Bytes) : String := String.ofList (decode bytes).text

/-- The text of the bytes, if no place in it is malformed. -/
def strict? (bytes : Bytes) : Option String := ((decode bytes).mapM id).map String.ofList

end SourceSurvey.Encoding.Utf8
