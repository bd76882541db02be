import SourceSurvey.Parsing.Machine
import SourceSurvey.Text.Lookahead

/-!
The tokens of JavaScript and TypeScript that need more than a pattern: semicolons that the end of a line
stands for, the texts of templates and of elements, the question mark of a conditional expression, and
comments in the style of HTML.
-/

namespace SourceSurvey.Languages.EcmascriptScanner

open Parsing Text.Lookahead

inductive Dialect where
  | javascript
  | typescript
deriving DecidableEq

/-- Numbers of the external tokens. -/
abbrev automaticSemicolon : Nat := 0
abbrev templateChars : Nat := 1
abbrev ternaryMark : Nat := 2
abbrev htmlComment : Nat := 3
abbrev logicalOr : Nat := 4
abbrev escapeSequence : Nat := 5
abbrev regexPattern : Nat := 6
abbrev jsxText : Nat := 7
abbrev signatureSemicolon : Nat := 8

/-! ## Texts -/

/-- The text of a template up to a substitution, an escape or the end. -/
def scanTemplate (text : Array Char) (start : Nat) : Nat → Nat → Option Scanned
  | 0, _ => none
  | fuel + 1, place =>
    let here : Option Scanned := if place = start then none else some ⟨templateChars, start, place, []⟩
    match charAt text place with
    | '\x60' | '\\' => here
    | '\x00' => none
    | '$' =>
      if charAt text (place + 1) = '\x7b' then here else scanTemplate text start fuel (place + 1)
    | _ => scanTemplate text start fuel (place + 1)

/-- Reads the text between elements. It counts if it holds more than the ends of lines and the blanks
at their beginnings. -/
def readJsxText (text : Array Char) : Nat → Nat → Bool → Bool → Nat × Bool
  | 0, place, _, sawText => (place, sawText)
  | fuel + 1, place, atLineStart, sawText =>
    match charAt text place with
    | '\x00' | '<' | '>' | '\x7b' | '\x7d' | '&' => (place, sawText)
    | '\n' => readJsxText text fuel (place + 1) true sawText
    | c =>
      let atLineStart := atLineStart && isBlank c
      readJsxText text fuel (place + 1) atLineStart (sawText || !atLineStart)

/-! ## Comments between tokens -/

def isLineEnd (d : Dialect) (c : Char) : Bool :=
  c = '\n' || (d = .javascript && (c = '\u2028' || c = '\u2029'))

/-- The place behind a comment, and whether a line ended in it. The text may end first. -/
structure CommentEnd where
  place : Nat
  isClosed : Bool
  sawLineEnd : Bool

def commentEnd (text : Array Char) : Nat → Nat → Bool → CommentEnd
  | 0, place, saw => ⟨place, false, saw⟩
  | fuel + 1, place, saw =>
    match charAt text place with
    | '\x00' => ⟨place, false, saw⟩
    | '*' =>
      if charAt text (place + 1) = '/' then ⟨place + 2, true, saw⟩
      else commentEnd text fuel (place + 1) saw
    | c => commentEnd text fuel (place + 1) (saw || isLineEnd .javascript c)

inductive Verdict where
  /-- No semicolon can stand here. -/
  | reject
  | unclear
  | accept
deriving DecidableEq

structure Pass where
  place : Nat
  sawComment : Bool
  verdict : Verdict

/-- Passes over blanks and comments; with `isBrief`, no further than a comment that decides. -/
def passComments (d : Dialect) (text : Array Char) (isBrief : Bool) : Nat → Nat → Bool → Bool → Pass
  | 0, place, sawComment, _ => ⟨place, sawComment, .accept⟩
  | fuel + 1, place, sawComment, sawLineEnd =>
    let place := passBlanks text place
    if charAt text place ≠ '/' then ⟨place, sawComment, .accept⟩
    else
      match charAt text (place + 1) with
      | '/' =>
        let stop := pass text (fun c ↦ c ≠ '\x00' && !isLineEnd d c) (place + 2)
        passComments d text isBrief fuel stop true sawLineEnd
      | '*' =>
        let e := commentEnd text (text.size + 1 - place) (place + 2) sawLineEnd
        let sawComment := sawComment || (d = .javascript && e.isClosed)
        if e.isClosed && isBrief && charAt text e.place ≠ '/' then
          ⟨e.place, sawComment, if e.sawLineEnd then .accept else .unclear⟩
        else passComments d text isBrief fuel e.place sawComment e.sawLineEnd
      | _ => ⟨place + 1, sawComment, .reject⟩

/-! ## Semicolons -/

/-- Whether a semicolon can be left out, and how far the text was looked at to find that. -/
structure Judgement where
  allowed : Bool
  place : Nat
  sawComment : Bool

/-- How much of a word is there, from a place on. -/
def matched (text : Array Char) (place : Nat) : List Char → Nat
  | [] => 0
  | c :: cs => if charAt text place = c then matched text (place + 1) cs + 1 else 0

/-- Behind the end of a line: a semicolon can be left out unless the next line goes on with the
statement. -/
def judgeNextLine (d : Dialect) (text : Array Char) (valid : Nat → Bool) (place : Nat) : Bool × Nat :=
  let next := charAt text (place + 1)
  match charAt text place with
  | '\x60' | ',' | ':' | ';' | '*' | '%' | '>' | '<' | '=' | '?' | '^' | '|' | '&' | '/' =>
    (false, place)
  | '.' => if d = .javascript then (next.isDigit, place + 1) else (false, place)
  | '[' | '(' => (d = .typescript && !valid logicalOr, place)
  | '\x7b' => (!(d = .typescript && valid signatureSemicolon), place)
  | '+' => (next = '+', place + 1)
  | '-' => (next = '-', place + 1)
  | '!' => (next ≠ '=', place + 1)
  | 'i' =>
    if next ≠ 'n' then (true, place + 1)
    else if !(charAt text (place + 2)).isAlpha then (false, place + 2)
    else
      let tail := "stanceof".toList
      let n := matched text (place + 2) tail
      if n < tail.length then (true, place + 2 + n)
      else ((charAt text (place + 2 + n)).isAlpha, place + 2 + n)
  | _ => (true, place)

/-- Before the end of the line, or what stands for it, is found. -/
def judge (d : Dialect) (text : Array Char) (valid : Nat → Bool) : Nat → Nat → Bool → Judgement
  | 0, place, sawComment => ⟨false, place, sawComment⟩
  | fuel + 1, place, sawComment =>
    let c := charAt text place
    let nextLine (place : Nat) (sawComment : Bool) : Judgement :=
      let p := passComments d text false (text.size + 1) place sawComment false
      if p.verdict = .reject then ⟨false, p.place, p.sawComment⟩
      else
        let (allowed, place) := judgeNextLine d text valid p.place
        ⟨allowed, place, p.sawComment⟩
    let onLine (place : Nat) (sawComment : Bool) : Judgement :=
      let c := charAt text place
      if c = '\x7d' || (d = .javascript && place = 0) then ⟨true, place, sawComment⟩
      else if isLineEnd d c then nextLine (place + 1) sawComment
      else if isBlank c then judge d text valid fuel (place + 1) sawComment
      else ⟨false, place, sawComment⟩
    if c = '\x00' then ⟨true, place, sawComment⟩
    else if d = .javascript && c = '/' then
      let p := passComments d text true (text.size + 1) place sawComment false
      let behind := charAt text p.place
      if p.verdict = .reject then ⟨false, p.place, p.sawComment⟩
      else if p.verdict = .accept && !valid logicalOr && behind ≠ ',' && behind ≠ '=' then
        ⟨true, p.place, p.sawComment⟩
      else onLine p.place p.sawComment
    else if d = .typescript && c = '\x7d' then
      let behind := passBlanks text (place + 1)
      ⟨charAt text behind ≠ ':' || valid logicalOr, behind, sawComment⟩
    else onLine place sawComment

/-! ## The question mark and comments -/

/-- The question mark of a conditional expression, unless it belongs to another sign or marks something
optional. -/
def scanTernary (d : Dialect) (text : Array Char) (start place : Nat) : Option Scanned :=
  let mark := passBlanks text place
  let start := if mark = place then start else mark
  let next := charAt text (mark + 1)
  let found : Option Scanned := some ⟨ternaryMark, start, mark + 1, []⟩
  let unlessPoint (place : Nat) : Option Scanned :=
    if charAt text place = '.' && !(charAt text (place + 1)).isDigit then none else found
  if charAt text mark ≠ '?' || next = '?' then none
  else
    match d with
    | .javascript => unlessPoint (mark + 1)
    | .typescript =>
      let behind := passBlanks text (mark + 1)
      let c := charAt text behind
      if next = '.' || c = ':' || c = ')' || c = ',' then none else unlessPoint behind

def scanHtmlComment (text : Array Char) (start place : Nat) : Option Scanned :=
  let sign := pass text (fun c ↦ isBlank c || c = '\u2028' || c = '\u2029') place
  let start := if sign = place then start else sign
  let length := if hasAt text sign "<!--".toList then 4
    else if hasAt text sign "-->".toList then 3 else 0
  if length = 0 then none
  else some ⟨htmlComment, start,
    pass text (fun c ↦ c ≠ '\x00' && !isLineEnd .javascript c) (sign + length), []⟩

/-! ## Scanning -/

/-- Looks for a token from a place on, where no text of a template or an element is. -/
def scanSign (d : Dialect) (text : Array Char) (start place : Nat) (valid : Nat → Bool) :
    Option Scanned :=
  if valid automaticSemicolon || (d = .typescript && valid signatureSemicolon) then
    let j := judge d text valid (text.size + 2 - place) place false
    if j.allowed then some ⟨automaticSemicolon, min start place, place, []⟩
    else if !j.sawComment && valid ternaryMark && charAt text j.place = '?' then
      scanTernary d text j.place j.place
    else none
  else if valid ternaryMark then scanTernary d text start place
  else if valid htmlComment && !valid logicalOr && !valid escapeSequence && !valid regexPattern then
    scanHtmlComment text start place
  else none

def scanner (d : Dialect) : Scanner := fun text place _ valid ↦
  if valid templateChars then
    if valid automaticSemicolon then none
    else scanTemplate text place (text.size + 1 - place) place
  else if valid jsxText then
    let (stop, sawText) := readJsxText text (text.size + 1 - place) place false false
    if sawText then some ⟨jsxText, place, stop, []⟩ else scanSign d text place stop valid
  else scanSign d text place place valid

end SourceSurvey.Languages.EcmascriptScanner
