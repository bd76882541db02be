import SourceSurvey.Encoding.Jis0208Table

/-!
ISO-2022-JP: escape sequences switch between four character sets. Two escape sequences with nothing
between them are malformed, and so is a sequence that breaks off; its bytes are then read as text of
the set in use.
-/

namespace SourceSurvey.Encoding.Iso2022Jp

inductive Charset where
  | ascii
  | roman
  | katakana
  | jis0208
deriving DecidableEq

inductive Progress where
  | ready
  /-- After the first byte of a JIS X 0208 character. -/
  | lead (b : UInt8)
  /-- After the escape byte. -/
  | escape
  /-- After the escape byte and one byte of the sequence. -/
  | escapeSequence (b : UInt8)

structure State where
  charset : Charset
  progress : Progress
  /-- Whether the last thing read was a complete escape sequence. -/
  switched : Bool

def escapeByte : UInt8 := 0x1B

/-- The set that an escape sequence selects. -/
def select (first second : UInt8) : Option Charset :=
  match first.toNat, second.toNat with
  | 0x28, 0x42 => some .ascii
  | 0x28, 0x4A => some .roman
  | 0x28, 0x49 => some .katakana
  | 0x24, 0x40 => some .jis0208
  | 0x24, 0x42 => some .jis0208
  | _, _ => none

/-- A byte that is a character of a single-byte set. -/
def single (charset : Charset) (b : UInt8) : Option Char :=
  if b = 0x0E || b = 0x0F then none
  else
    match charset with
    | .ascii => ascii? b
    | .roman =>
      if b = 0x5C then some '\u00a5' else if b = 0x7E then some '\u203e' else ascii? b
    | .katakana =>
      if within 0x21 b 0x5F then some (Char.ofNat (0xFF61 + b.toNat - 0x21)) else none
    | .jis0208 => none

def text (charset : Charset) (b : UInt8) : Reading × State :=
  if b = escapeByte then ([], ⟨charset, .escape, false⟩)
  else
    match charset with
    | .jis0208 =>
      if within 0x21 b 0x7E then ([], ⟨charset, .lead b, false⟩)
      else ([none], ⟨charset, .ready, false⟩)
    | _ => ([single charset b], ⟨charset, .ready, false⟩)

def afterLead (charset : Charset) (lead b : UInt8) : Reading × State :=
  if b = escapeByte then ([none], ⟨charset, .escape, false⟩)
  else if within 0x21 b 0x7E then
    let pointer := (lead.toNat - 0x21) * 94 + (b.toNat - 0x21)
    ([jis0208Table.get? pointer], ⟨charset, .ready, false⟩)
  else ([none], ⟨charset, .ready, false⟩)

/-- Reads bytes as text again, one after the other, where no sequence is under way. -/
def again (step : State → UInt8 → Reading × State) (state : State) : Bytes → Reading × State
  | [] => ([], state)
  | b :: rest =>
    let (given, next) := step state b
    let (more, last) := again step next rest
    (given ++ more, last)

/-- A byte inside a character or between characters. -/
def plain (state : State) (b : UInt8) : Reading × State :=
  match state.progress with
  | .lead lead => afterLead state.charset lead b
  | _ => text state.charset b

def step (state : State) (b : UInt8) : Reading × State :=
  match state.progress with
  | .escape =>
    if b = 0x24 || b = 0x28 then ([], { state with progress := .escapeSequence b })
    else
      let (given, next) := plain ⟨state.charset, .ready, false⟩ b
      (none :: given, next)
  | .escapeSequence first =>
    match select first b with
    | some charset =>
      (if state.switched then [none] else [], ⟨charset, .ready, true⟩)
    | none =>
      let (given, next) := again plain ⟨state.charset, .ready, false⟩ [first, b]
      (none :: given, next)
  | .ready =>
    if b = escapeByte then ([], { state with progress := .escape })
    else plain state b
  | .lead _ => plain state b

def machine : Machine where
  State := State
  initial := ⟨.ascii, .ready, false⟩
  step := step
  finish state :=
    match state.progress with
    | .ready => []
    | .lead _ => [none]
    | .escape => [none]
    | .escapeSequence first =>
      let (given, next) := plain ⟨state.charset, .ready, false⟩ first
      match next.progress with
      | .ready => none :: given
      | _ => none :: given ++ [none]

end SourceSurvey.Encoding.Iso2022Jp
