import SourceSurvey.Encoding.Gb18030Table

/-!
GB 18030: one byte, two bytes, or four bytes whose second and fourth are digits. Where a four-byte
code breaks off at its third or fourth byte, the first byte alone is malformed and the others are
read again. GBK is read in the same way.
-/

namespace SourceSurvey.Encoding.Gb18030

inductive State where
  | ready
  | one (first : UInt8)
  | two (first second : UInt8)
  | three (first second third : UInt8)

/-- The linear pointer of a four-byte code. -/
def pointer (first second third fourth : UInt8) : Nat :=
  ((first.toNat - 0x81) * 10 + (second.toNat - 0x30)) * 1260 + (third.toNat - 0x81) * 10 +
    (fourth.toNat - 0x30)

/-- The character at a linear pointer: each range runs from its pointer to the next one's. -/
def fourByte (pointer : Nat) : Option Char :=
  if (39419 < pointer && pointer < 189000) || 1237575 < pointer then none
  else if pointer = 7457 then some '\ue7c7'
  else (gb18030Ranges.reverse.find? fun range ↦ range.1 ≤ pointer).map fun range ↦
    Char.ofNat (range.2 + (pointer - range.1))

def twoByte (lead trail : UInt8) : Option Char :=
  if within 0x40 trail 0x7E || within 0x80 trail 0xFE then
    let offset := if trail < 0x7F then 0x40 else 0x41
    gb18030Table.get? ((lead.toNat - 0x81) * 190 + (trail.toNat - offset))
  else none

def start (b : UInt8) : Reading × State :=
  if b = 0x80 then ([some '\u20ac'], .ready)
  else if within 0x81 b 0xFE then ([], .one b)
  else ([ascii? b], .ready)

def isDigit (b : UInt8) : Bool := within 0x30 b 0x39

def afterOne (first b : UInt8) : Reading × State :=
  if isDigit b then ([], .two first b)
  else
    match twoByte first b with
    | some c => ([some c], .ready)
    | none => if b < 0x80 then ([none, ascii? b], .ready) else ([none], .ready)

def step : State → UInt8 → Reading × State
  | .ready, b => start b
  | .one first, b => afterOne first b
  | .two first second, b =>
    if within 0x81 b 0xFE then ([], .three first second b)
    else
      let (given, next) := start b
      (none :: ascii? second :: given, next)
  | .three first second third, b =>
    if isDigit b then ([fourByte (pointer first second third b)], .ready)
    else
      let (given, next) := afterOne third b
      (none :: ascii? second :: given, next)

def machine : Machine where
  State := State
  initial := .ready
  step := step
  finish
    | .ready => []
    | _ => [none]

end SourceSurvey.Encoding.Gb18030
