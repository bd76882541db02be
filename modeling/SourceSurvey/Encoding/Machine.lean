/-!
Decoders as machines: a machine reads one byte at a time and gives out characters, with `none` where
the bytes cannot be read as a character. What it has read but not yet given out is in its state.

A code table is written as rows of characters, one row for each lead value, with a full stop in the
gaps: no table assigns the full stop.
-/

namespace SourceSurvey.Encoding

abbrev Bytes := List UInt8

/-- Characters read from bytes; `none` marks a malformed place. -/
abbrev Reading := List (Option Char)

/-- The character shown at a malformed place. -/
def replacement : Char := '\ufffd'

def Reading.text (reading : Reading) : List Char := reading.map fun c ↦ c.getD replacement

def Reading.malformed (reading : Reading) : Bool := reading.any fun c ↦ c.isNone

structure Machine where
  State : Type
  initial : State
  step : State → UInt8 → Reading × State
  /-- What is given out when the input ends. -/
  finish : State → Reading

namespace Machine

def runFrom (m : Machine) (state : m.State) : Bytes → Reading
  | [] => m.finish state
  | b :: rest =>
    let (given, next) := m.step state b
    given ++ m.runFrom next rest

def run (m : Machine) (bytes : Bytes) : Reading := m.runFrom m.initial bytes

@[simp] theorem runFrom_nil (m : Machine) (state : m.State) :
    m.runFrom state [] = m.finish state := rfl

@[simp] theorem runFrom_cons (m : Machine) (state : m.State) (b : UInt8) (rest : Bytes) :
    m.runFrom state (b :: rest) = (m.step state b).1 ++ m.runFrom (m.step state b).2 rest := rfl

/-- A machine without memory, given by what each byte stands for. -/
def ofByte (meaning : UInt8 → Option Char) : Machine where
  State := Unit
  initial := ()
  step _ b := ([meaning b], ())
  finish _ := []

end Machine

/-- The meaning of a byte below 128 in every encoding that extends ASCII. -/
def ascii? (b : UInt8) : Option Char :=
  if b < 0x80 then some (Char.ofNat b.toNat) else none

def within (low b high : UInt8) : Bool := low ≤ b && b ≤ high

structure Table where
  cells : Array (Option Char)

namespace Table

def cell (c : Char) : Option Char := if c = '.' then none else some c

def ofRows (rows : List String) : Table :=
  ⟨rows.foldl (fun cells row ↦ row.toList.foldl (fun cells c ↦ cells.push (cell c)) cells) #[]⟩

/-- The character at a place, counted through the rows from zero. -/
def get? (table : Table) (pointer : Nat) : Option Char := table.cells[pointer]?.join

end Table

end SourceSurvey.Encoding
