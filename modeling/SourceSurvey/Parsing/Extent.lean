/-!
How much text there is: in characters, in bytes, in ends of lines, and in bytes behind the last of these.
Extents add up along a text, so that the extent of what is before a place tells where the place is.
-/

namespace SourceSurvey.Parsing

structure Extent where
  chars : Nat
  bytes : Nat
  lines : Nat
  /-- The bytes behind the last end of a line. -/
  column : Nat
deriving DecidableEq, Repr, Inhabited

namespace Extent

def zero : Extent := ⟨0, 0, 0, 0⟩

def add (a b : Extent) : Extent :=
  ⟨a.chars + b.chars, a.bytes + b.bytes, a.lines + b.lines,
    if b.lines = 0 then a.column + b.column else b.column⟩

instance : Add Extent := ⟨add⟩

/-- What is left of an extent behind its beginning. -/
def sub (a b : Extent) : Extent :=
  ⟨a.chars - b.chars, a.bytes - b.bytes, a.lines - b.lines,
    if b.lines < a.lines then a.column else a.column - b.column⟩

instance : Sub Extent := ⟨sub⟩

/-- The extent with a character more. -/
def behind (e : Extent) (c : Char) : Extent :=
  if c = '\n' then ⟨e.chars + 1, e.bytes + 1, e.lines + 1, 0⟩
  else ⟨e.chars + 1, e.bytes + c.utf8Size, e.lines, e.column + c.utf8Size⟩

/-- The extent of a text. -/
def of (text : List Char) : Extent := text.foldl behind zero

/-- The extent of what is before a place in a text, where that of what is before an earlier place is
known. -/
def upTo (e : Extent) (text : Array Char) (place : Nat) : Extent :=
  (text.extract e.chars place).foldl behind e

theorem add_def (a b : Extent) : a + b =
    ⟨a.chars + b.chars, a.bytes + b.bytes, a.lines + b.lines,
      if b.lines = 0 then a.column + b.column else b.column⟩ := rfl

theorem sub_def (a b : Extent) : a - b =
    ⟨a.chars - b.chars, a.bytes - b.bytes, a.lines - b.lines,
      if b.lines < a.lines then a.column else a.column - b.column⟩ := rfl

@[simp] theorem add_zero (a : Extent) : a + zero = a := rfl

@[simp] theorem zero_add (a : Extent) : zero + a = a := by
  simp [add_def, zero]

theorem behind_add (a b : Extent) (c : Char) : (a + b).behind c = a + b.behind c := by
  unfold behind
  split <;> simp only [add_def, mk.injEq] <;> grind

theorem foldl_behind_add (a b : Extent) (text : List Char) :
    text.foldl behind (a + b) = a + text.foldl behind b := by
  induction text generalizing b with
  | nil => rfl
  | cons c rest ih => rw [List.foldl_cons, List.foldl_cons, behind_add, ih]

theorem foldl_behind (a : Extent) (text : List Char) : text.foldl behind a = a + of text := by
  rw [of, ← foldl_behind_add, add_zero]

@[simp] theorem of_nil : of [] = zero := rfl

/-- Extents add up along a text. -/
theorem of_append (s t : List Char) : of (s ++ t) = of s + of t := by
  rw [of, List.foldl_append, foldl_behind]
  rfl

/-- The extent of the rest of a text is what is left of that of the whole. -/
theorem add_sub_self (a b : Extent) : a + b - a = b := by
  obtain ⟨chars, bytes, lines, column⟩ := b
  simp only [add_def, sub_def, mk.injEq]
  grind

theorem of_cons (c : Char) (text : List Char) : of (c :: text) = zero.behind c + of text :=
  foldl_behind (zero.behind c) text

@[simp] theorem chars_of (text : List Char) : (of text).chars = text.length := by
  induction text with
  | nil => rfl
  | cons c rest ih =>
    rw [of_cons, add_def, List.length_cons, behind]
    split <;> simp only [zero, ih] <;> omega

/-- Every character has bytes. -/
theorem length_le_bytes_of (text : List Char) : text.length ≤ (of text).bytes := by
  induction text with
  | nil => exact Nat.le_refl _
  | cons c rest ih =>
    have hsize := c.utf8Size_pos
    rw [of_cons, add_def, List.length_cons, behind]
    split <;> simp only [zero] <;> omega

end Extent

/-- The characters at the start of a text that so many bytes hold. -/
def charsWithin : Nat → List Char → List Char
  | _, [] => []
  | n, c :: cs => if c.utf8Size ≤ n then c :: charsWithin (n - c.utf8Size) cs else []

/-- What a parser reads of a text. It is told the number of bytes in 32 bits, so of a text with more
bytes it reads only as many as this number comes to. Of a character that this cuts in two, its first
bytes are not read here either, though a parser would find them and take them for an error. -/
def readable (s : String) : List Char :=
  if s.utf8ByteSize < UInt32.size then s.toList
  else charsWithin (s.utf8ByteSize % UInt32.size) s.toList

end SourceSurvey.Parsing
