/-!
The fewest decimal digits that read back as a given floating-point number, and the way they are
written. A positive number is `m * 2 ^ e`; all the arithmetic below is exact.
-/

namespace SourceSurvey.Decimal

/-- A positive number `m * 2 ^ e`, whose neighbours are the numbers next to it in the format. -/
structure Binary where
  significand : Nat
  exponent : Int

/-- Decimal digits and the power of ten of the last one. -/
structure Digits where
  value : Nat
  exponent : Int

/-- The bit in front of the fraction of a double. -/
def leadingBit : Nat := 1 <<< 52

/-- The significand and exponent of the bits of a finite double. -/
def Binary.ofBits (bits : Nat) : Binary :=
  let fraction := bits % leadingBit
  let biased : Nat := bits / leadingBit % 2048
  if biased = 0 then ⟨fraction, -1074⟩ else ⟨leadingBit + fraction, Int.ofNat biased - 1075⟩

/-- Just above a power of two the lower neighbour is half as far away as the upper one. -/
def Binary.isPowerOfTwo (b : Binary) : Bool := b.significand = leadingBit && b.exponent != -1074

/-- The fraction `n * 2 ^ e / 10 ^ p` as numerator and denominator. -/
def scaled (n : Nat) (e p : Int) : Nat × Nat :=
  let num := n * Nat.pow 2 e.toNat * Nat.pow 10 (-p).toNat
  let den := Nat.pow 2 (-e).toNat * Nat.pow 10 p.toNat
  (num, den)

/-- The multiple of `10 ^ p` that rounds to `b` and lies nearest to it, if there is one. -/
def onGrid (b : Binary) (p : Int) : Option Nat :=
  let quarter := b.exponent - 2
  let low := 4 * b.significand - (if b.isPowerOfTwo then 1 else 2)
  let high := 4 * b.significand + 2
  let (num, den) := scaled (4 * b.significand) quarter p
  let (lowNum, _) := scaled low quarter p
  let (highNum, _) := scaled high quarter p
  let ends := b.significand % 2 = 0
  let inside (n : Nat) : Bool :=
    if ends then lowNum ≤ n * den && n * den ≤ highNum
    else lowNum < n * den && n * den < highNum
  let below := num / den
  let above := below + 1
  let belowNearer :=
    let d := num - below * den
    let u := above * den - num
    d < u || (d = u && below % 2 = 0)
  match inside below && below != 0, inside above with
  | true, true => some (if belowNearer then below else above)
  | true, false => some below
  | false, true => some above
  | false, false => none

/-- Goes from coarse grids to fine ones until a grid has a number that reads back. -/
def search (b : Binary) : Nat → Int → Digits
  | 0, p => ⟨0, p⟩
  | steps + 1, p =>
    match onGrid b p with
    | some n => ⟨n, p⟩
    | none => search b steps (p - 1)

/-- Drops the zeros at the end of the digits. -/
def Digits.trimmed : Nat → Digits → Digits
  | 0, d => d
  | steps + 1, d => if d.value % 10 = 0 then trimmed steps ⟨d.value / 10, d.exponent + 1⟩ else d

def shortest (b : Binary) : Digits :=
  (search b 700 310).trimmed 400

/-- Positional notation from `10 ^ -5` to below `10 ^ 16`, scientific notation elsewhere; a whole
number keeps one decimal, and an exponent always has a sign. -/
def write (d : Digits) : String :=
  let digits := Nat.toDigits 10 d.value
  let scale : Int := d.exponent + digits.length - 1
  let text (cs : List Char) : String := String.ofList cs
  if -5 ≤ scale ∧ scale ≤ 15 then
    if 0 ≤ d.exponent then text (digits ++ List.replicate d.exponent.toNat '0') ++ ".0"
    else if 0 ≤ scale then
      let whole := scale.toNat + 1
      text (digits.take whole) ++ "." ++ text (digits.drop whole)
    else "0." ++ text (List.replicate (-scale - 1).toNat '0') ++ text digits
  else
    let mantissa :=
      match digits with
      | [] => ""
      | [c] => c.toString
      | c :: cs => c.toString ++ "." ++ text cs
    mantissa ++ "e" ++ (if scale < 0 then "-" else "+") ++ text (Nat.toDigits 10 scale.natAbs)

/-- The text of a finite floating-point number. -/
def ofFloat (f : Float) : String :=
  let bits := f.toBits.toNat
  let sign := if UInt64.size / 2 ≤ bits then "-" else ""
  let magnitude := bits % (UInt64.size / 2)
  if magnitude = 0 then sign ++ "0.0" else sign ++ write (shortest (Binary.ofBits magnitude))

end SourceSurvey.Decimal
