import SourceSurvey.Grammar.Pattern
import SourceSurvey.Grammar.Rule

/-!
Reading rules from text. A rule is a name, an equals sign, and what the name stands for, up to a
semicolon. Fixed texts stand in single quotes and patterns between slashes; what stands side by side
follows each other, a bar separates alternatives, and `?`, `*` and `+` repeat what is before them. A
word with `@` in front marks what is in the parentheses behind it:

* `@prec(n, r)`, `@left(n, r)`, `@right(n, r)`: precedence and associativity; `n` is a number or a
  name, and may be left out with the last two;
* `@weight(n, r)`: the choice between whole trees;
* `@token(r)`, `@immediate(r)`: one token;
* `@alias(r, name)`, `@alias(r, 'text')`: another name in the tree;
* `@unreserved(r)`: plain words in it may be reserved ones;
* `@role(r)`: a part with a role of its own, so that what consists of it alone is still more than it;
* `@commas(r)`: once or more, with commas between.
-/

namespace SourceSurvey.Grammar.Reader

inductive Word where
  | name (s : String)
  | mark (s : String)
  | number (n : Int)
  | text (s : String)
  | pattern (s : String)
  | sign (c : Char)
deriving DecidableEq, Repr

def isNameChar (c : Char) : Bool := c.isAlphanum || c = '_'

/-- Reads a fixed text up to its closing quote. -/
def readText : List Char → List Char → String × List Char
  | '\'' :: rest, done => (String.ofList done.reverse, rest)
  | '\\' :: 'n' :: rest, done => readText rest ('\n' :: done)
  | '\\' :: 'r' :: rest, done => readText rest ('\r' :: done)
  | '\\' :: 't' :: rest, done => readText rest ('\t' :: done)
  | '\\' :: '0' :: rest, done => readText rest ('\x00' :: done)
  | '\\' :: c :: rest, done => readText rest (c :: done)
  | c :: rest, done => readText rest (c :: done)
  | [], done => (String.ofList done.reverse, [])

/-- Reads a pattern up to its closing slash. -/
def readPattern : List Char → List Char → String × List Char
  | '/' :: rest, done => (String.ofList done.reverse, rest)
  | '\\' :: c :: rest, done => readPattern rest (c :: '\\' :: done)
  | c :: rest, done => readPattern rest (c :: done)
  | [], done => (String.ofList done.reverse, [])

def words : Nat → List Char → List Word → List Word
  | 0, _, done => done.reverse
  | _, [], done => done.reverse
  | fuel + 1, '\'' :: rest, done =>
    let (s, rest) := readText rest []
    words fuel rest (.text s :: done)
  | fuel + 1, '/' :: rest, done =>
    let (s, rest) := readPattern rest []
    words fuel rest (.pattern s :: done)
  | fuel + 1, c :: rest, done =>
    if c.isWhitespace then words fuel rest done
    else if c = '@' then
      words fuel (rest.dropWhile isNameChar)
        (.mark (String.ofList (rest.takeWhile isNameChar)) :: done)
    else if c.isDigit then
      words fuel (rest.dropWhile Char.isDigit)
        (.number (Pattern.number (c :: rest.takeWhile Char.isDigit)) :: done)
    else if c = '-' then
      words fuel (rest.dropWhile Char.isDigit)
        (.number (-(Pattern.number (rest.takeWhile Char.isDigit) : Int)) :: done)
    else if isNameChar c then
      words fuel (rest.dropWhile isNameChar)
        (.name (String.ofList (c :: rest.takeWhile isNameChar)) :: done)
    else words fuel rest (.sign c :: done)

/-- What a mark does with the precedence given to it. -/
def applyMark (mark : String) (precedence : Option Precedence) (r : Rule) : Rule :=
  let level := precedence.getD (.level 0)
  match mark with
  | "prec" => r.mark fun m ↦ { m with precedence := level }
  | "left" => r.mark fun m ↦ { m with precedence := level, associativity := some .left }
  | "right" => r.mark fun m ↦ { m with precedence := level, associativity := some .right }
  | "weight" => r.mark fun m ↦
    { m with weight := match level with | .level n => n | _ => 0 }
  | "token" => r.mark fun m ↦ { m with isToken := true }
  | "immediate" => r.mark fun m ↦ { m with isToken := true, isImmediate := true }
  | "unreserved" => r.mark fun m ↦ { m with isUnreserved := true }
  | "role" => r.mark fun m ↦ { m with hasRole := true }
  | "commas" => r.commas
  | _ => r

def readRepeats : Rule → List Word → Rule × List Word
  | r, .sign '?' :: rest => readRepeats r.optional rest
  | r, .sign '*' :: rest => readRepeats r.any rest
  | r, .sign '+' :: rest => readRepeats (.many r) rest
  | r, rest => (r, rest)

/-- A sequence of the rules read, the last first. -/
def sequence : List Rule → Rule
  | [] => .blank
  | [r] => r
  | rs => .seq rs.reverse

/-- Reads alternatives up to a sign that ends them, which is kept. `done` holds the alternatives read
so far, the last first, and `current` the members of the one under way, the last first. -/
def readRule : Nat → List Word → List Rule → List Rule → Rule × List Word
  | 0, rest, done, current => (finish done current, rest)
  | fuel + 1, .name s :: rest, done, current =>
    let (r, rest) := readRepeats (.name s) rest
    readRule fuel rest done (r :: current)
  | fuel + 1, .text s :: rest, done, current =>
    let (r, rest) := readRepeats (.text s) rest
    readRule fuel rest done (r :: current)
  | fuel + 1, .pattern s :: rest, done, current =>
    let (r, rest) := readRepeats (.pattern s) rest
    readRule fuel rest done (r :: current)
  | fuel + 1, .sign '|' :: rest, done, current => readRule fuel rest (sequence current :: done) []
  | fuel + 1, .sign '(' :: rest, done, current =>
    let (inner, rest) := readRule fuel rest [] []
    let (r, rest) := readRepeats inner (rest.drop 1)
    readRule fuel rest done (r :: current)
  | fuel + 1, .mark mark :: .sign '(' :: rest, done, current =>
    let (precedence, rest) := match rest with
      | .number n :: .sign ',' :: rest => (some (.level n), rest)
      | .name s :: .sign ',' :: rest =>
        if mark = "alias" then (none, .name s :: .sign ',' :: rest) else (some (.named s), rest)
      | rest => (none, rest)
    let (inner, rest) := readRule fuel rest [] []
    let (inner, rest) := match rest with
      | .sign ',' :: .name s :: rest => (inner.mark fun m ↦ { m with label := some ⟨s, true⟩ }, rest)
      | .sign ',' :: .text s :: rest =>
        (inner.mark fun m ↦ { m with label := some ⟨s, false⟩ }, rest)
      | rest => (applyMark mark precedence inner, rest)
    let (r, rest) := readRepeats inner (rest.drop 1)
    readRule fuel rest done (r :: current)
  | _ + 1, rest, done, current => (finish done current, rest)
where
  finish (done current : List Rule) : Rule :=
    match done with
    | [] => sequence current
    | done => .either (sequence current :: done).reverse

/-- Reads rules up to the end, or to what is no rule. -/
def readRules : Nat → List Word → List (String × Rule) → List (String × Rule)
  | fuel + 1, .name s :: .sign '=' :: rest, done =>
    let (r, rest) := readRule fuel rest [] []
    readRules fuel (rest.drop 1) ((s, r) :: done)
  | _, _, done => done.reverse

def rules (source : String) : List (String × Rule) :=
  let ws := words (source.length + 1) source.toList []
  readRules (2 * ws.length + 2) ws []

def rule (source : String) : Rule :=
  let ws := words (source.length + 1) source.toList []
  (readRule (2 * ws.length + 2) ws [] []).1

end SourceSurvey.Grammar.Reader
