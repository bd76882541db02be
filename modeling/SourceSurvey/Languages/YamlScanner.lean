import SourceSurvey.Languages.YamlScalar
import SourceSurvey.Parsing.Machine
import SourceSurvey.Text.Lookahead

/-!
The tokens of YAML. What a token is depends on where it stands: behind another one on the same line, on
a further line and deeper than the block it belongs to, or on a further line and as deep as that block.
What is remembered is where the last token ended, where the last line with a possible key began, and the
blocks that are open, each with its depth.
-/

namespace SourceSurvey.Languages.YamlScanner

open Parsing Text.Lookahead

/-! ## Numbers of the external tokens -/

abbrev endOfFile : Nat := 0
abbrev yamlDirective : Nat := 1
abbrev yamlVersion : Nat := 2
abbrev tagDirective : Nat := 3
abbrev tagHandle : Nat := 4
abbrev tagPrefix : Nat := 5
abbrev reservedDirective : Nat := 6
abbrev directiveParameter : Nat := 7
abbrev directivesEnd : Nat := 8
abbrev documentEnd : Nat := 9
abbrev sequenceEntry : Nat := 10
abbrev mappingKey : Nat := 13
abbrev mappingValue : Nat := 16
abbrev implicitValue : Nat := 19
abbrev literalMark : Nat := 20
abbrev foldedMark : Nat := 22
abbrev blockLine : Nat := 24
abbrev flowSequenceStart : Nat := 25
abbrev flowSequenceEnd : Nat := 28
abbrev flowMappingStart : Nat := 31
abbrev flowMappingEnd : Nat := 34
abbrev flowSeparator : Nat := 37
abbrev flowKey : Nat := 39
abbrev adjacentValue : Nat := 41
abbrev separateValue : Nat := 43
abbrev doubleStart : Nat := 45
abbrev doubleText : Nat := 48
abbrev doubleLineBreak : Nat := 50
abbrev doubleEscape : Nat := 52
abbrev doubleEnd : Nat := 54
abbrev singleStart : Nat := 56
abbrev singleText : Nat := 59
abbrev singleEscape : Nat := 61
abbrev singleEnd : Nat := 63
abbrev plainNull : Nat := 65
abbrev plainString : Nat := 90
abbrev plainLines : Nat := 95
abbrev tag : Nat := 99
abbrev anchorStart : Nat := 102
abbrev anchorName : Nat := 105
abbrev aliasStart : Nat := 106
abbrev aliasName : Nat := 109
abbrev blockEnd : Nat := 110
abbrev comment : Nat := 111
abbrev recovery : Nat := 112

/-! ## What is remembered -/

/-- Numbers of the kinds of blocks in memory. -/
abbrev mappingBlock : Nat := 0
abbrev sequenceBlock : Nat := 1
abbrev textBlock : Nat := 2

structure Block where
  kind : Nat
  depth : Int
deriving DecidableEq

structure Layout where
  /-- Where the last token ended. -/
  row : Nat
  column : Nat
  /-- The last line on which a key may have begun, and where. -/
  keyRow : Option Nat
  keyColumn : Int
  keyHasTab : Bool
  /-- The innermost first. -/
  blocks : List Block

namespace Layout

def initial : Layout := ⟨0, 0, none, -1, false, []⟩

/-- Depths begin at minus one. -/
def writeDepth (n : Int) : Nat := (n + 1).toNat

def readDepth (n : Nat) : Int := n - 1

def toMemory (l : Layout) : Memory :=
  [l.row, l.column, (l.keyRow.map (· + 1)).getD 0, writeDepth l.keyColumn,
    if l.keyHasTab then 1 else 0] ++
  l.blocks.flatMap fun b ↦ [b.kind, writeDepth b.depth]

def readBlocks : Memory → List Block
  | kind :: depth :: rest => ⟨kind, readDepth depth⟩ :: readBlocks rest
  | _ => []

def ofMemory : Memory → Layout
  | row :: column :: keyRow :: keyColumn :: keyHasTab :: blocks =>
    ⟨row, column, if keyRow = 0 then none else some (keyRow - 1), readDepth keyColumn,
      keyHasTab = 1, readBlocks blocks⟩
  | _ => initial

/-- How deep the innermost block is; the whole text is less deep than any. -/
def depth (l : Layout) : Int := match l.blocks with
  | b :: _ => b.depth
  | [] => -1

def outerDepth (l : Layout) : Int := match l.blocks with
  | _ :: b :: _ => b.depth
  | _ => -1

def isIn (l : Layout) (kind : Nat) : Bool := match l.blocks with
  | b :: _ => b.kind = kind
  | [] => false

def enter (l : Layout) (kind : Nat) (depth : Int) : Layout :=
  { l with blocks := ⟨kind, depth⟩ :: l.blocks }

end Layout

/-! ## Reading along -/

structure Spot where
  place : Nat
  row : Nat
  column : Nat

/-- Where a scan is, where its token ends so far, and the character read last. -/
structure Reading where
  here : Spot
  mark : Spot
  last : Char

namespace Reading

def next (text : Array Char) (r : Reading) : Char := charAt text r.here.place

def advance (text : Array Char) (r : Reading) : Reading :=
  let s := r.here
  { r with here := ⟨min (s.place + 1) text.size, s.row, s.column + 1⟩, last := r.next text }

def advanceLine (text : Array Char) (r : Reading) : Reading :=
  let s := r.here
  { r with here := ⟨min (s.place + 1) text.size, s.row + 1, 0⟩, last := r.next text }

def setMark (r : Reading) : Reading := { r with mark := r.here }

def advanceWhile (text : Array Char) (p : Char → Bool) : Nat → Reading → Reading
  | 0, r => r
  | fuel + 1, r => if p (r.next text) then advanceWhile text p fuel (r.advance text) else r

/-- Passes over all characters of a class, to which the null character must not belong. -/
def passWhile (text : Array Char) (p : Char → Bool) (r : Reading) : Reading :=
  r.advanceWhile text p (text.size - r.here.place)

end Reading

/-! ## Classes of characters -/

def isSpace (c : Char) : Bool := c = ' ' || c = '\t'

def isLineEnd (c : Char) : Bool := c = '\x0d' || c = '\n'

/-- Blanks, and the end of the text. -/
def isWhite (c : Char) : Bool := isSpace c || isLineEnd c || c = '\x00'

def isHex (c : Char) : Bool := c.isDigit || ('a' ≤ c && c ≤ 'f') || ('A' ≤ c && c ≤ 'F')

def isWordChar (c : Char) : Bool := c = '-' || c.isAlphanum

def isInLine (c : Char) : Bool := c = '\t' || ' ' ≤ c

def isPrinted (c : Char) : Bool :=
  let n := c.toNat
  (0x21 ≤ n && n ≤ 0x7e) || n = 0x85 || (0xa0 ≤ n && n ≤ 0xfefe) || (0xff00 ≤ n && n ≤ 0xfffd) ||
    0x10000 ≤ n

def isIndicator (c : Char) : Bool := "-?:,[]\x7b\x7d#&*!|>'\"%@\x60".toList.contains c

def isFlowIndicator (c : Char) : Bool := ",[]\x7b\x7d".toList.contains c

def isPlain (inBlock : Bool) (c : Char) : Bool := isPrinted c && (inBlock || !isFlowIndicator c)

def isTagChar (c : Char) : Bool := isWordChar c || "#;/?:@&=+$_.~*'()".toList.contains c

def isAddressChar (c : Char) : Bool := isTagChar c || ",![]".toList.contains c

/-! ## Tags, anchors and directives -/

inductive Step where
  | read (r : Reading)
  | stop
  /-- A percent sign that begins no escape; the token ends before it. -/
  | broken (r : Reading)

/-- Reads a character of a tag or an address, perhaps written as an escape. -/
def readTagChar (text : Array Char) (p : Char → Bool) (r : Reading) : Step :=
  let c := r.next text
  if p c then .read (r.advance text)
  else if c ≠ '%' then .stop
  else
    let a := r.setMark.advance text
    if !isHex (a.next text) then .broken a
    else
      let b := a.advance text
      if !isHex (b.next text) then .broken b else .read (b.advance text)

/-- Reads characters of a tag to their end. -/
def readTagChars (text : Array Char) (p : Char → Bool) : Nat → Reading → Reading × Bool
  | 0, r => (r, false)
  | fuel + 1, r =>
    match readTagChar text p r with
    | .read r => readTagChars text p fuel r
    | .stop => (r.setMark, true)
    | .broken r => (r, false)

/-- Reads the rest of a handle, behind its first exclamation mark. -/
def readHandle (text : Array Char) (r : Reading) : Reading × Bool :=
  if r.next text = '!' then (r.advance text, true)
  else
    let w := r.passWhile text isWordChar
    if w.here.place = r.here.place then (r, true)
    else if w.next text = '!' then (w.advance text, true)
    else (w, false)

def readTag (text : Array Char) (r : Reading) : Option Reading :=
  let fuel := text.size + 1
  let r := r.advance text
  if isWhite (r.next text) then some r.setMark
  else if r.next text = '<' then
    let r := r.advance text
    let opened : Option Reading :=
      if r.next text = '!' then
        let r := r.advance text
        if r.next text = '>' then none else some r
      else match readTagChar text isTagChar r with
        | .read r => some r
        | _ => none
    opened.bind fun r ↦
      let (r, isWhole) := readTagChars text isAddressChar fuel r
      if isWhole && r.next text = '>' then some (r.advance text).setMark else none
  else
    let (r, isHandle) := readHandle text r
    let suffix : Option Reading := if isHandle then
        match readTagChar text isTagChar r with
        | .read r => some r
        | _ => none
      else some r
    suffix.map fun r ↦ (readTagChars text isTagChar fuel r).1

def readTagPrefix (text : Array Char) (r : Reading) : Option Reading :=
  let first : Option Reading := if r.next text = '!' then some (r.advance text)
    else match readTagChar text isTagChar r with
      | .read r => some r
      | _ => none
  first.map fun r ↦ (readTagChars text isAddressChar (text.size + 1) r).1

def readVersion (text : Array Char) (r : Reading) : Option Reading :=
  let major := r.passWhile text Char.isDigit
  if major.next text ≠ '.' || major.here.place = r.here.place then none
  else
    let point := major.advance text
    let minor := point.passWhile text Char.isDigit
    if minor.here.place = point.here.place then none else some minor.setMark

/-- The kind of a directive, and the end of its name. -/
def readDirective (text : Array Char) (r : Reading) : Option (Nat × Reading) :=
  let name := r.here.place + 1
  let behind (n : Nat) : Reading := (List.range (n + 1)).foldl (fun r _ ↦ r.advance text) r
  if hasAt text name "YAML".toList && isWhite (charAt text (name + 4)) then
    some (yamlDirective, (behind 4).setMark)
  else if hasAt text name "TAG".toList && isWhite (charAt text (name + 3)) then
    some (tagDirective, (behind 3).setMark)
  else
    let stop := (r.advance text).passWhile text isPrinted
    if 1 < stop.here.column && isWhite (stop.next text) then
      some (reservedDirective, stop.setMark)
    else none

def readMark (text : Array Char) (r : Reading) : Option Reading :=
  let r := r.advance text
  if isPlain false (r.next text) then some r.setMark else none

/-! ## Strings -/

/-- Reads three equal signs that end a document or its directives. If there are fewer, what has been
read stays read. -/
def readDocumentMark (text : Array Char) (r : Reading) : Reading × Bool :=
  let c := r.next text
  if c ≠ '-' && c ≠ '.' then (r, false)
  else
    let a := r.advance text
    if a.next text ≠ c then (a.setMark, false)
    else
      let b := a.advance text
      if b.next text ≠ c then (b.setMark, false)
      else
        let d := b.advance text
        if isWhite (d.next text) then (d, true) else (d.setMark, false)

/-- The text of a quoted string up to its quote or an escape, or the end of a document. -/
def readQuoted (text : Array Char) (p : Char → Bool) (token : Nat) (r : Reading) :
    Option (Nat × Reading) :=
  if !(p (r.next text)) then none
  else
    let (d, isMark) := if r.here.column = 0 then readDocumentMark text r else (r, false)
    if isMark then some (if d.last = '-' then directivesEnd else documentEnd, d.setMark)
    else some (token, ((d.advance text).passWhile text p).setMark)

def isDoubleChar (c : Char) : Bool := isInLine c && c ≠ '\\' && c ≠ '"'

def isSingleChar (c : Char) : Bool := isInLine c && c ≠ '\''

def readHexDigits (text : Array Char) : Nat → Reading → Option Reading
  | 0, r => some r
  | n + 1, r => if isHex (r.next text) then readHexDigits text n (r.advance text) else none

/-- Reads what follows the backslash of an escape. -/
def readEscape (text : Array Char) (r : Reading) : Option Reading :=
  let c := r.next text
  let whole : Option Reading :=
    if "0abt\tnvref \"/\\N_LP".toList.contains c then some (r.advance text)
    else if c = 'U' then readHexDigits text 8 (r.advance text)
    else if c = 'u' then readHexDigits text 4 (r.advance text)
    else if c = 'x' then readHexDigits text 2 (r.advance text)
    else none
  whole.map Reading.setMark

/-- How deep the lines of a block of text are, found from its first lines. -/
def textDepth (text : Array Char) : Nat → Reading → Int → Int
  | 0, _, depth => depth
  | fuel + 1, r, depth =>
    let c := r.next text
    let before : Int := r.here.column - 1
    if c = '\x00' then depth
    else if c = ' ' then textDepth text fuel (r.advance text) depth
    else if isLineEnd c then
      if before < depth then depth else textDepth text fuel (r.advanceLine text) before
    else if depth < before then before
    else depth

def isSign (c : Char) : Bool := c = '+' || c = '-'

def isNonZeroDigit (c : Char) : Bool := '1' ≤ c && c ≤ '9'

/-- Reads the head of a block of text. Gives back its end and the depth of the lines. -/
def readTextHead (text : Array Char) (depth : Int) (r : Reading) : Option (Reading × Int) :=
  let r := r.advance text
  let c := r.next text
  let given (c : Char) : Option Int := some (c.toNat - 49)
  let (r, indent) : Reading × Option Int :=
    if isNonZeroDigit c then
      let r := r.advance text
      (if isSign (r.next text) then r.advance text else r, given c)
    else if isSign c then
      let r := r.advance text
      let d := r.next text
      if isNonZeroDigit d then (r.advance text, given d) else (r, none)
    else (r, none)
  if !isWhite (r.next text) then none
  else
    let head := r.setMark
    match indent with
    | some n => some (head, n + depth)
    | none =>
      let r := head.passWhile text isSpace
      let r := if r.next text = '#' then
          r.passWhile text fun c ↦ !isLineEnd c && c ≠ '\x00'
        else r
      let r := if isLineEnd (r.next text) then r.advanceLine text else r
      some (head, textDepth text (text.size + 1) r depth)

/-- Reads to the end of a line, without the blanks there. -/
def readLine (text : Array Char) : Nat → Reading → Reading
  | 0, r => r
  | fuel + 1, r =>
    let c := r.next text
    if isPrinted c then readLine text fuel (r.advance text).setMark
    else if isSpace c then readLine text fuel (r.advance text)
    else r

/-! ## Plain scalars -/

/-- Reads plain text along a line. Says whether the next line may go on with it. -/
def readPlainLine (text : Array Char) (p : Char → Bool) :
    Nat → Reading → List Char → Bool → Bool → Reading × List Char × Bool
  | 0, r, seen, _, _ => (r, seen, false)
  | fuel + 1, r, seen, lastIsSafe, isFirst =>
    let c := r.next text
    let isSafe := p c
    if isFirst && !(isSafe || isSpace c) then (r, seen, false)
    else if (isSafe && c ≠ '#' && c ≠ ':') || (lastIsSafe && c = '#') then
      readPlainLine text p fuel (r.advance text).setMark (c :: seen) isSafe false
    else if isSpace c then readPlainLine text p fuel (r.advance text) (c :: seen) isSafe false
    else if c = ':' then
      let r := r.advance text
      if p (r.next text) then readPlainLine text p fuel r.setMark (c :: seen) isSafe false
      else (r, seen, false)
    else (r, seen, true)

/-- Passes over the ends of lines and blanks. -/
def passLines (text : Array Char) : Nat → Reading → Reading
  | 0, r => r
  | fuel + 1, r =>
    let c := r.next text
    if isLineEnd c then passLines text fuel (r.advanceLine text)
    else if isSpace c then passLines text fuel (r.advance text)
    else r

/-- Reads plain text over lines that are deeper than a block. -/
def readPlain (text : Array Char) (p : Char → Bool) (depth : Int) :
    Nat → Reading → List Char → Reading × List Char
  | 0, r, seen => (r, seen)
  | fuel + 1, r, seen =>
    let (r, seen, goesOn) := if isLineEnd (r.next text) then (r, seen, true)
      else readPlainLine text p (text.size + 1) r seen (p r.last) true
    if !goesOn || !isLineEnd (r.next text) then (r, seen)
    else
      let r := passLines text (text.size + 1) r
      if r.next text = '\x00' || (r.here.column : Int) ≤ depth then (r, seen)
      else
        let (r, isMark) := if r.here.column = 0 then readDocumentMark text r else (r, false)
        if isMark then (r, seen) else readPlain text p depth fuel r seen

/-! ## Scanning -/

/-- What a scan knows when it comes to the first character of a token. -/
structure Scene where
  text : Array Char
  layout : Layout
  valid : Nat → Bool
  start : Reading
  hasTab : Bool
  /-- On the line of the last token. -/
  isBehind : Bool
  /-- On a further line, deeper than the block. -/
  isDeeper : Bool
  /-- On a further line, as deep as the block. -/
  isAligned : Bool

namespace Scene

variable (s : Scene)

def found (token : Nat) (layout : Layout) (r : Reading) : Option Scanned :=
  some ⟨token, s.start.here.place, r.mark.place,
    { layout with row := r.mark.row, column := r.mark.column : Layout }.toMemory⟩

def column : Int := s.start.here.column

/-- Remembers where a key may begin on this line. -/
def noteKey : Layout :=
  if s.layout.keyRow = some s.start.here.row then s.layout
  else { s.layout with
    keyRow := some s.start.here.row, keyColumn := s.column, keyHasTab := s.hasTab }

/-- The form of a token that can stand here, if the forms are numbered from a token on: behind, deeper
and, if there are three, aligned. -/
def form? (token : Nat) (hasAligned : Bool) : Option Nat :=
  if s.isBehind && s.valid token then some token
  else if s.isDeeper && s.valid (token + 1) then some (token + 1)
  else if hasAligned && s.isAligned && s.valid (token + 2) then some (token + 2)
  else none

/-- A sign of one character. -/
def sign (token : Nat) (hasAligned startsKey : Bool) : Option Scanned :=
  (s.form? token hasAligned).bind fun t ↦
    s.found t (if startsKey then s.noteKey else s.layout) (s.start.advance s.text).setMark

/-- Ends the innermost block. -/
def leaveBlock : Option Scanned :=
  match s.layout.blocks with
  | [] => none
  | _ :: rest => s.found blockEnd { s.layout with blocks := rest } s.start

/-- Begins a block here, which a tab in front of it forbids. -/
def enterBlock (token kind : Nat) (r : Reading) : Option Scanned :=
  if s.hasTab then none else s.found token (s.layout.enter kind s.column) r.setMark

/-- What has become of an attempt: the scan is over, or goes on from where it is. -/
inductive Attempt where
  | over (result : Option Scanned)
  | onward (r : Reading)

/-- A token that ends the scan whether it is there or not. -/
def decide (token : Nat) (layout : Layout) (r : Option Reading) : Attempt :=
  .over (r.bind (s.found token layout))

def orOnward (result : Option Scanned) : Attempt :=
  match result with
  | some found => .over (some found)
  | none => .onward s.start

def scanQuestion : Attempt :=
  let r := s.start.advance s.text
  let blockForm := s.form? mappingKey true
  let flowForm := s.form? flowKey false
  if blockForm.isNone && flowForm.isNone then .onward s.start
  else if !isWhite (r.next s.text) then .onward r
  else
    match blockForm, flowForm with
    | some t, _ =>
      .over (if t = mappingKey + 2 then s.found t s.layout r.setMark
        else s.enterBlock t mappingBlock r)
    | none, some t => .over (s.found t s.layout r.setMark)
    | none, none => .onward r

def scanColon : Attempt :=
  let r := s.start.advance s.text
  match s.form? adjacentValue false with
  | some t => .over (s.found t s.layout r.setMark)
  | none =>
    let blockForm := s.form? mappingValue true
    let isImplicit := s.valid implicitValue && s.isBehind
    let flowForm := s.form? separateValue false
    if blockForm.isNone && !isImplicit && flowForm.isNone then .onward s.start
    else
      let c := r.next s.text
      let flow : Attempt := match flowForm with
        | some t =>
          if isWhite c || c = ',' || c = ']' || c = '\x7d' then .over (s.found t s.layout r.setMark)
          else .onward r
        | none => .onward r
      if !isWhite c then flow
      else
        match blockForm with
        | some t =>
          .over (if t = mappingValue + 2 then s.found t s.layout r.setMark
            else s.enterBlock t mappingBlock r)
        | none =>
          if !isImplicit then flow
          else if s.layout.depth = s.layout.keyColumn then
            .over (s.found implicitValue s.layout r.setMark)
          else if s.layout.keyHasTab then .over none
          else .over (s.found implicitValue (s.layout.enter mappingBlock s.layout.keyColumn)
            r.setMark)

/-- Behind three signs at the beginning of a line: a block ends first. -/
def scanDocumentMark (token : Nat) (r : Reading) : Attempt :=
  if s.valid blockEnd then .over s.leaveBlock else .over (s.found token s.layout r.setMark)

/-- Reads signs at the beginning of a line up to three, and the mark that they are. -/
def readMarks (c : Char) (token : Nat) (one : Reading) : Attempt :=
  if one.next s.text ≠ c then .onward one
  else
    let two := one.advance s.text
    if two.next s.text ≠ c then .onward two
    else
      let three := two.advance s.text
      if isWhite (three.next s.text) then s.scanDocumentMark token three else .onward three

def scanHyphen : Attempt :=
  let r := s.start.advance s.text
  let blockForm := s.form? sequenceEntry true
  let isFirst := s.start.here.column = 0
  if blockForm.isNone && !isFirst then .onward s.start
  else if isWhite (r.next s.text) then
    match blockForm with
    | some t =>
      .over (if t = sequenceEntry + 2 then
          s.found t (if s.layout.isIn mappingBlock then s.layout.enter sequenceBlock s.column
            else s.layout) r.setMark
        else s.enterBlock t sequenceBlock r)
    | none => .onward r
  else if isFirst then s.readMarks '-' directivesEnd r
  else .onward r

def scanPoint : Attempt :=
  if s.start.here.column = 0 then s.readMarks '.' documentEnd (s.start.advance s.text)
  else .onward s.start

def scanBackslash : Attempt :=
  let lineBreak := s.form? doubleLineBreak false
  let escape := s.form? doubleEscape false
  if lineBreak.isNone && escape.isNone then .onward s.start
  else
    let r := s.start.advance s.text
    match (if isLineEnd (r.next s.text) then lineBreak else none), escape with
    | some t, _ => .over (s.found t s.layout r.setMark)
    | none, some t => s.decide t s.layout (readEscape s.text r)
    | none, none => .onward r

def scanApostrophe : Attempt :=
  match s.sign singleStart true true with
  | some found => .over (some found)
  | none =>
    match s.form? singleEnd false with
    | some t =>
      let r := s.start.advance s.text
      if r.next s.text = '\'' then
        .over (s.found (t - singleEnd + singleEscape) s.layout (r.advance s.text).setMark)
      else .over (s.found t s.layout r.setMark)
    | none => .onward s.start

def scanTextHead (token : Nat) : Attempt :=
  match s.form? token false with
  | some t => .over ((readTextHead s.text s.layout.depth s.start).bind fun (r, depth) ↦
      s.found t (s.layout.enter textBlock depth) r)
  | none => .onward s.start

/-- What begins with a sign. -/
def scanSign : Attempt :=
  let keyed (token : Nat) (read : Reading → Option Reading) : Attempt :=
    match s.form? token true with
    | some t => s.decide t s.noteKey (read s.start)
    | none => .onward s.start
  match s.start.next s.text with
  | '%' =>
    if s.valid yamlDirective && s.start.here.column = 0 then
      .over ((readDirective s.text s.start).bind fun (t, r) ↦ s.found t s.layout r)
    else .onward s.start
  | '*' => keyed aliasStart (readMark s.text)
  | '&' => keyed anchorStart (readMark s.text)
  | '!' => keyed tag (readTag s.text)
  | '[' => s.orOnward (s.sign flowSequenceStart true true)
  | ']' => s.orOnward (s.sign flowSequenceEnd true false)
  | '\x7b' => s.orOnward (s.sign flowMappingStart true true)
  | '\x7d' => s.orOnward (s.sign flowMappingEnd true false)
  | ',' => s.orOnward (s.sign flowSeparator false false)
  | '"' => s.orOnward ((s.sign doubleStart true true).or (s.sign doubleEnd false false))
  | '\'' => s.scanApostrophe
  | '?' => s.scanQuestion
  | ':' => s.scanColon
  | '-' => s.scanHyphen
  | '.' => s.scanPoint
  | '\\' => s.scanBackslash
  | '|' => s.scanTextHead literalMark
  | '>' => s.scanTextHead foldedMark
  | _ => .onward s.start

/-- Plain text, of which `r` may have read some signs already. Where no plain text can stand, the end of
the text is claimed, so that the text before is made sense of as far as it goes. -/
def scanPlain (r : Reading) : Option Scanned :=
  let lineInBlock := s.form? plainString true
  let lineInFlow := s.form? (plainString + 3) false
  let linesInBlock := s.form? plainLines false
  let linesInFlow := s.form? (plainLines + 2) false
  if lineInBlock.isNone && lineInFlow.isNone && linesInBlock.isNone && linesInFlow.isNone then
    if s.valid recovery then none
    else some ⟨endOfFile, s.start.here.place, s.start.mark.place, s.layout.toMemory⟩
  else
    let p := isPlain (lineInBlock.isSome || linesInBlock.isSome)
    let first := s.start.next s.text
    let r := if r.here.column = s.start.here.column then r.advance s.text else r
    let isShort := r.here.column = s.start.here.column + 1
    let mayStart := (isPrinted first && !isIndicator first) ||
      ((first = '-' || first = '?' || first = ':') && p (r.next s.text))
    if isShort && !mayStart then none
    else
      let (r, seen) := readPlain s.text p s.layout.depth (s.text.size + 1) r.setMark [first]
      let kind := if isShort then YamlScalar.kindOf seen.reverse else .string
      let offset (t : Nat) : Nat := t - plainString + plainNull + 5 * kind.number
      if r.mark.row = s.start.here.row then
        match lineInBlock, lineInFlow with
        | some t, _ => s.found (offset t) s.noteKey r
        | none, some t => s.found (offset t) s.layout r
        | none, none => none
      else
        match linesInBlock, linesInFlow with
        | some t, _ => s.found t s.noteKey r
        | none, some t => s.found t s.layout r
        | none, none => none

/-- A line of a block of text, or the end of the block where a document ends. -/
def scanBlockLine : Option Scanned :=
  if !isPrinted (s.start.next s.text) then none
  else
    let (r, isMark) := if s.start.here.column = 0 then readDocumentMark s.text s.start
      else (s.start, false)
    if isMark then s.leaveBlock
    else s.found blockLine s.layout (readLine s.text (s.text.size + 1) (r.advance s.text).setMark)

/-- What is read without a look at its first sign: the rest of a directive, a string or a name. -/
def scanRest : Attempt :=
  let rest (token : Nat) (read : Reading → Option Reading) (otherwise : Attempt) : Attempt :=
    if s.valid token && s.isBehind then s.decide token s.layout (read s.start) else otherwise
  let quoted (token : Nat) (p : Char → Bool) : Option Scanned :=
    (s.form? token false).bind fun t ↦
      (readQuoted s.text p t s.start).bind fun (t, r) ↦ s.found t s.layout r
  let name (r : Reading) : Option Reading := some (r.passWhile s.text (isPlain false)).setMark
  rest yamlVersion (readVersion s.text) <|
  rest tagHandle (fun r ↦
    if r.next s.text = '!' then
      let (r, isHandle) := readHandle s.text (r.advance s.text)
      if isHandle then some r.setMark else none
    else none) <|
  rest tagPrefix (readTagPrefix s.text) <|
  rest directiveParameter (fun r ↦
    if isPrinted (r.next s.text) then some (r.passWhile s.text isPrinted).setMark else none) <|
  match (if s.valid blockLine && s.isDeeper then s.scanBlockLine else none).or
      ((quoted doubleText isDoubleChar).or (quoted singleText isSingleChar)) with
  | some found => .over (some found)
  | none => rest anchorName name (rest aliasName name (.onward s.start))

end Scene

/-- What stands between two tokens, or the comment there. -/
structure Gap where
  reading : Reading
  spaces : Nat
  hasTab : Bool
  /-- A number sign that begins a comment was reached. -/
  isComment : Bool

def readGap (text : Array Char) (allowsComment : Bool) : Nat → Gap → Gap
  | 0, g => g
  | fuel + 1, g =>
    let r := g.reading
    match r.next text with
    | ' ' => readGap text allowsComment fuel
        { g with reading := r.advance text, spaces := if g.hasTab then g.spaces else g.spaces + 1 }
    | '\t' => readGap text allowsComment fuel { g with reading := r.advance text, hasTab := true }
    | '\x0d' | '\n' => readGap text allowsComment fuel ⟨r.advanceLine text, 0, false, false⟩
    | '#' => { g with isComment := allowsComment }
    | _ => g

/-- Looks for a token behind the blanks. -/
def scanner : Scanner := fun text place memory valid ↦
  let layout := Layout.ofMemory memory
  let here : Spot := ⟨place, layout.row, layout.column⟩
  let inQuotes := valid doubleText || valid (doubleText + 1) || valid singleText ||
    valid (singleText + 1)
  let gap := readGap text (!inQuotes) (text.size + 1) ⟨⟨here, here, '\x00'⟩, 0, false, false⟩
  let r := gap.reading
  let column : Int := r.here.column
  let isFurther := layout.row < r.here.row
  let s : Scene :=
    { text := text, layout := layout, valid := valid, start := r, hasTab := gap.hasTab
      isBehind := !isFurther
      isDeeper := isFurther && layout.depth < gap.spaces
      isAligned := isFurther && layout.depth = gap.spaces && !gap.hasTab }
  let endsText := valid blockLine && valid blockEnd && column ≤ layout.depth
  let isComment := gap.isComment && (if valid blockLine then r.here.row = layout.row
    else r.here.column = 0 || r.here.row ≠ layout.row || layout.column < r.here.column)
  let leavesBlock := valid blockEnd && column ≤ layout.depth && !gap.hasTab &&
    (if layout.depth = layout.outerDepth && layout.isIn sequenceBlock then
      column < layout.depth || r.next text ≠ '-'
    else column ≤ layout.outerDepth || layout.isIn textBlock)
  if gap.isComment && endsText then s.leaveBlock
  else if isComment then
    s.found comment layout (r.passWhile text fun c ↦ !isLineEnd c && c ≠ '\x00').setMark
  else if r.next text = '\x00' then
    if valid blockEnd then { s with start := r.setMark }.leaveBlock
    else if valid endOfFile then s.found endOfFile layout r.setMark
    else none
  else if leavesBlock then s.leaveBlock
  else
    match s.scanRest with
    | .over result => result
    | .onward _ =>
      match s.scanSign with
      | .over result => result
      | .onward r => s.scanPlain r

end SourceSurvey.Languages.YamlScanner
