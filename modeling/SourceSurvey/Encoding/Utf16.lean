import SourceSurvey.Encoding.Machine

/-!
UTF-16, with either order of the two bytes of a unit. A unit of a surrogate pair that lacks its
partner is malformed, and so is a byte left over at the end; the two together count once.
-/

namespace SourceSurvey.Encoding.Utf16

inductive ByteOrder where
  | bigEndian
  | littleEndian
deriving DecidableEq

structure State where
  /-- The first byte of a unit. -/
  half : Option UInt8
  /-- The leading unit of a pair. -/
  leading : Option Nat

def ByteOrder.unit (order : ByteOrder) (first second : UInt8) : Nat :=
  match order with
  | .bigEndian => first.toNat * 256 + second.toNat
  | .littleEndian => second.toNat * 256 + first.toNat

def ByteOrder.bytes (order : ByteOrder) (unit : Nat) : Bytes :=
  let high := UInt8.ofNat (unit / 256)
  let low := UInt8.ofNat unit
  match order with
  | .bigEndian => [high, low]
  | .littleEndian => [low, high]

def isLeading (unit : Nat) : Bool := 0xD800 ≤ unit && unit < 0xDC00

def isTrailing (unit : Nat) : Bool := 0xDC00 ≤ unit && unit < 0xE000

def pair (leading trailing : Nat) : Char :=
  Char.ofNat (0x10000 + (leading - 0xD800) * 0x400 + (trailing - 0xDC00))

/-- A unit where a character may begin. -/
def start (unit : Nat) : Reading × State :=
  if isLeading unit then ([], ⟨none, some unit⟩)
  else if isTrailing unit then ([none], ⟨none, none⟩)
  else ([some (Char.ofNat unit)], ⟨none, none⟩)

def step (order : ByteOrder) (state : State) (b : UInt8) : Reading × State :=
  match state.half with
  | none => ([], { state with half := some b })
  | some first =>
    let unit := order.unit first b
    match state.leading with
    | none => start unit
    | some leading =>
      if isTrailing unit then ([some (pair leading unit)], ⟨none, none⟩)
      else
        let (given, next) := start unit
        (none :: given, next)

def machine (order : ByteOrder) : Machine where
  State := State
  initial := ⟨none, none⟩
  step := step order
  finish state := if state.half.isSome || state.leading.isSome then [none] else []

/-- The units of a character. -/
def units (c : Char) : List Nat :=
  let n := c.toNat
  if n < 0x10000 then [n]
  else [0xD800 + (n - 0x10000) / 0x400, 0xDC00 + (n - 0x10000) % 0x400]

def encode (order : ByteOrder) (s : List Char) : Bytes :=
  (s.flatMap units).flatMap order.bytes

end SourceSurvey.Encoding.Utf16
