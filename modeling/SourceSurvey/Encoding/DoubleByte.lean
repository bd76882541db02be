import SourceSurvey.Encoding.Big5Table
import SourceSurvey.Encoding.EucKrTable
import SourceSurvey.Encoding.Jis0208Table
import SourceSurvey.Encoding.Jis0212Table

/-!
Encodings in which a lead byte and a trail byte make a character. A trail byte that does not fit is
malformed together with its lead; if it is an ASCII byte it is read again by itself.
-/

namespace SourceSurvey.Encoding

structure DoubleByte where
  single : UInt8 → Option Char
  isLead : UInt8 → Bool
  pair : UInt8 → UInt8 → Option (List Char)

namespace DoubleByte

def start (e : DoubleByte) (b : UInt8) : Reading × Option UInt8 :=
  if e.isLead b then ([], some b) else ([e.single b], none)

def step (e : DoubleByte) : Option UInt8 → UInt8 → Reading × Option UInt8
  | none, b => e.start b
  | some lead, b =>
    match e.pair lead b with
    | some cs => (cs.map some, none)
    | none => if b < 0x80 then ([none, e.single b], none) else ([none], none)

def machine (e : DoubleByte) : Machine where
  State := Option UInt8
  initial := none
  step := e.step
  finish lead := if lead.isSome then [none] else []

end DoubleByte

/-! ## Big5 with the Hong Kong supplement -/

namespace Big5

def pointer (lead trail : UInt8) : Nat :=
  let offset := if trail < 0x7F then 0x40 else 0x62
  (lead.toNat - 0x81) * 157 + (trail.toNat - offset)

/-- Four of the codes stand for a letter with a combining mark. -/
def pair (lead trail : UInt8) : Option (List Char) :=
  if within 0x40 trail 0x7E || within 0xA1 trail 0xFE then
    match pointer lead trail with
    | 1133 => some ['\u00ca', '\u0304']
    | 1135 => some ['\u00ca', '\u030c']
    | 1164 => some ['\u00ea', '\u0304']
    | 1166 => some ['\u00ea', '\u030c']
    | p => (big5Table.get? p).map fun c ↦ [c]
  else none

def machine : Machine := DoubleByte.machine {
  single := ascii?
  isLead b := within 0x81 b 0xFE
  pair := pair }

end Big5

/-! ## EUC-KR with the unified Hangul code -/

namespace EucKr

def pair (lead trail : UInt8) : Option (List Char) :=
  if within 0x41 trail 0xFE then
    (eucKrTable.get? ((lead.toNat - 0x81) * 190 + (trail.toNat - 0x41))).map fun c ↦ [c]
  else none

def machine : Machine := DoubleByte.machine {
  single := ascii?
  isLead b := within 0x81 b 0xFE
  pair := pair }

end EucKr

/-! ## Shift_JIS -/

namespace ShiftJis

/-- Half-width katakana are single bytes. -/
def single (b : UInt8) : Option Char :=
  if b ≤ 0x80 then some (Char.ofNat b.toNat)
  else if within 0xA1 b 0xDF then some (Char.ofNat (0xFF61 + b.toNat - 0xA1))
  else none

def pointer (lead trail : UInt8) : Nat :=
  let leadOffset := if lead < 0xA0 then 0x81 else 0xC1
  let offset := if trail < 0x7F then 0x40 else 0x41
  (lead.toNat - leadOffset) * 188 + (trail.toNat - offset)

/-- The user-defined rows are mapped to private use. -/
def pair (lead trail : UInt8) : Option (List Char) :=
  if within 0x40 trail 0x7E || within 0x80 trail 0xFC then
    let p := pointer lead trail
    if 8836 ≤ p ∧ p ≤ 10715 then some [Char.ofNat (0xE000 + (p - 8836))]
    else (jis0208Table.get? p).map fun c ↦ [c]
  else none

def machine : Machine := DoubleByte.machine {
  single := single
  isLead b := within 0x81 b 0x9F || within 0xE0 b 0xFC
  pair := pair }

end ShiftJis

/-!
## EUC-JP

Two bytes for JIS X 0208, two with the lead 0x8E for half-width katakana, and three with the lead 0x8F
for JIS X 0212.
-/

namespace EucJp

inductive State where
  | ready
  | lead (b : UInt8)
  /-- After 0x8F and a lead of JIS X 0212. -/
  | supplementary (b : UInt8)

def start (b : UInt8) : Reading × State :=
  if b = 0x8E || b = 0x8F || within 0xA1 b 0xFE then ([], .lead b) else ([ascii? b], .ready)

def pointer (lead trail : UInt8) : Nat := (lead.toNat - 0xA1) * 94 + (trail.toNat - 0xA1)

/-- Ends a character: `none` is malformed, and an ASCII byte that made it so is read again. -/
def close (c : Option Char) (b : UInt8) : Reading × State :=
  match c with
  | some c => ([some c], .ready)
  | none => if b < 0x80 then ([none, ascii? b], .ready) else ([none], .ready)

def lookUp (table : Table) (lead b : UInt8) : Option Char :=
  if within 0xA1 lead 0xFE && within 0xA1 b 0xFE then table.get? (pointer lead b) else none

def step : State → UInt8 → Reading × State
  | .ready, b => start b
  | .lead lead, b =>
    if lead = 0x8E && within 0xA1 b 0xDF then
      ([some (Char.ofNat (0xFF61 + b.toNat - 0xA1))], .ready)
    else if lead = 0x8F && within 0xA1 b 0xFE then ([], .supplementary b)
    else close (lookUp jis0208Table lead b) b
  | .supplementary lead, b => close (lookUp jis0212Table lead b) b

def machine : Machine where
  State := State
  initial := .ready
  step := step
  finish
    | .ready => []
    | _ => [none]

end EucJp

end SourceSurvey.Encoding
