import SourceSurvey.Json.Reader
import SourceSurvey.Json.Value

/-!
Readers for values of a known kind. A record is written as an object, in any order and with members
that are passed over, or as an array of its fields in order.
-/

namespace SourceSurvey.Json.Reader

/-- Fails because the value ahead is not of the expected kind; what the value is goes into the
fault, and a value that is itself broken is reported as broken. -/
def wrongKind {α : Type} (expected : String) : Reader α := do
  let wrong (found : Unexpected) : Reader α := failHere (.invalidType found expected)
  let wrongNumber (n : Number) : Reader α :=
    wrong <| match n with
      | .natural n => .natural n
      | .negative n => .negative n
      | .float f => .float (Decimal.ofFloat f)
  match ← peek with
  | some 'n' => do pass; literal ['u', 'l', 'l']; wrong .null
  | some 't' => do pass; literal ['r', 'u', 'e']; wrong (.bool true)
  | some 'f' => do pass; literal ['a', 'l', 's', 'e']; wrong (.bool false)
  | some '-' => do pass; wrongNumber (← number false)
  | some '"' => do pass; wrong (.string (← string))
  | some '[' => wrong .sequence
  | some '{' => wrong .map
  | some c => if isDigit c then do wrongNumber (← number true) else failAhead .expectedValue
  | none => failAhead .expectedValue

/-- The first character of a value. -/
def valueStart : Reader Char := do
  match ← peekToken with
  | some c => pure c
  | none => failAhead .endInValue

def text : Reader String := do
  if (← valueStart) = '"' then do pass; string else wrongKind "a string"

def flag : Reader Bool := do
  match ← valueStart with
  | 't' => do pass; literal ['r', 'u', 'e']; pure true
  | 'f' => do pass; literal ['a', 'l', 's', 'e']; pure false
  | _ => wrongKind "a boolean"

/-- A natural number below a bound. -/
def natural (expected : String) (bound : Nat) : Reader Nat := do
  let check : Number → Reader Nat
    | .natural n =>
      if n < bound then pure n else failHere (.invalidValue (.natural n) expected)
    | .negative n => failHere (.invalidValue (.negative n) expected)
    | .float f => failHere (.invalidType (.float (Decimal.ofFloat f)) expected)
  let c ← valueStart
  if c = '-' then do pass; check (← number false)
  else if isDigit c then do check (← number true)
  else wrongKind expected

/-- Whether another element follows in an array; passes the comma before it. -/
def nextElement (first : Bool) : Reader Bool := do
  match ← peekToken with
  | none => failAhead .endInList
  | some ']' => pure false
  | some c =>
    if first then pure true
    else if c = ',' then do
      pass
      match ← peekToken with
      | none => failAhead .endInValue
      | some ']' => failAhead .trailingComma
      | some _ => pure true
    else failAhead .expectedListCommaOrEnd

/-- Passes the end of an array. -/
def closeArray : Reader Unit := do
  match ← peekToken with
  | none => failAhead .endInList
  | some ']' => pass
  | some ',' => do
    pass
    match ← peekToken with
    | some ']' => failAhead .trailingComma
    | _ => failAhead .trailingCharacters
  | some _ => failAhead .trailingCharacters

/-- Whether another member follows in an object; passes the comma before it. -/
def nextMember (first : Bool) : Reader Bool := do
  match ← peekToken with
  | none => failAhead .endInObject
  | some '}' => pure false
  | some c =>
    if first then if c = '"' then pure true else failAhead .keyMustBeString
    else if c = ',' then do
      pass
      match ← peekToken with
      | none => failAhead .endInValue
      | some '"' => pure true
      | some '}' => failAhead .trailingComma
      | some _ => failAhead .keyMustBeString
    else failAhead .expectedObjectCommaOrEnd

/-- Passes the end of an object. -/
def closeObject : Reader Unit := do
  match ← peekToken with
  | none => failAhead .endInObject
  | some '}' => pass
  | some ',' => failAhead .trailingComma
  | some _ => failAhead .trailingCharacters

/-- The key that is ahead. -/
def key : Reader String := do
  pass
  string

def colon : Reader Unit := do
  match ← peekToken with
  | none => failAhead .endInObject
  | some ':' => pass
  | some _ => failAhead .expectedColon

def textsFrom : Nat → Bool → Reader (List String)
  | 0, _ => pure []
  | fuel + 1, first => do
    if ← nextElement first then do
      let s ← text
      let rest ← textsFrom fuel false
      pure (s :: rest)
    else pure []

def texts : Reader (List String) := do
  if (← valueStart) = '[' then do
    pass
    let all ← textsFrom ((← remaining) + 1) true
    closeArray
    pure all
  else wrongKind "a sequence"

/-- A unit value, written `null`. -/
def unit : Reader Unit := do
  if (← valueStart) = 'n' then do pass; literal ['u', 'l', 'l'] else wrongKind "unit"

/-- One of some names, written as a string or as an object whose only member is `null`. -/
def variant (names : List String) : Reader String := do
  let name : Reader String := do
    let s ← key
    if names.contains s then pure s else failHere (.unknownVariant s names)
  match ← peekToken with
  | none => failAhead .endInValue
  | some '"' => name
  | some '{' => do
    pass
    let s ← match ← peekToken with
      | none => failAhead .endInObject
      | some '"' => name
      | some _ => failAhead .keyMustBeString
    colon
    unit
    match ← peekToken with
    | none => failHere .endInObject
    | some '}' => do pass; pure s
    | some _ => failHere .expectedValue
  | some _ => failAhead .expectedValue

/-- A field of a record: its name, and how its value is read. -/
structure Field where
  name : String
  read : Reader Value

/-- Fails at the place behind the end of the record, if its end is ahead. -/
def failBehind {α : Type} (close : Reader Unit) (fault : Fault) : Reader α := fun c ↦
  match close c with
  | .ok (_, behind) => failHere fault behind
  | .error _ => failHere fault (c.passWhile isBlank)

/-- The values of fields in an array, in order; the array may end early. -/
def elements : List Field → Bool → Reader (List (String × Value))
  | [], _ => pure []
  | field :: fields, first => do
    if ← nextElement first then do
      let v ← field.read
      let rest ← elements fields false
      pure ((field.name, v) :: rest)
    else pure []

/-- The members of an object that name a field, in the order in which they stand. -/
def membersFrom (fields : List Field) :
    Nat → Bool → List (String × Value) → Reader (List (String × Value))
  | 0, _, seen => pure seen
  | fuel + 1, first, seen => do
    if ← nextMember first then do
      let name ← key
      match fields.find? fun f ↦ f.name == name with
      | none => do
        colon
        passOver
        membersFrom fields fuel false seen
      | some field =>
        if (seen.lookup name).isSome then failBehind closeObject (.duplicateField name)
        else do
          colon
          let v ← field.read
          membersFrom fields fuel false (seen ++ [(name, v)])
    else pure seen

/-- A record, as an object whose members are the fields that were given, in the order of `fields`.
Without `optional`, every field must be given. -/
def record (name : String) (optional : Bool) (fields : List Field) : Reader Value := do
  match ← valueStart with
  | '[' => do
    pass
    let given ← elements fields true
    if given.length < fields.length && !optional then
      failBehind closeArray <| .invalidLength given.length <|
        "struct " ++ name ++ " with " ++ toString fields.length ++ " elements"
    else do
      closeArray
      pure (.object given)
  | '{' => do
    pass
    let given ← membersFrom fields ((← remaining) + 1) true []
    match fields.find? fun f ↦ !optional && (given.lookup f.name).isNone with
    | some missing => failBehind closeObject (.missingField missing.name)
    | none => do
      closeObject
      pure <| .object <| fields.filterMap fun f ↦ (given.lookup f.name).map fun v ↦ (f.name, v)
  | _ => wrongKind ("struct " ++ name)

/-! ## Any value -/

mutual

/-- A value of any kind, at most `depth` levels deep. -/
def anyValue : Nat → Nat → Reader Unit
  | 0, _ => failHere .endInValue
  | fuel + 1, depth => do
    match ← valueStart with
    | 'n' => do pass; literal ['u', 'l', 'l']
    | 't' => do pass; literal ['r', 'u', 'e']
    | 'f' => do pass; literal ['a', 'l', 's', 'e']
    | '-' => do pass; let _ ← number false
    | '"' => do pass; let _ ← string
    | '[' => do
      if depth = 0 then failAhead .tooDeep
      pass
      anyElements fuel (depth - 1) true
      closeArray
    | '{' => do
      if depth = 0 then failAhead .tooDeep
      pass
      anyMembers fuel (depth - 1) true
      closeObject
    | c => do
      if isDigit c then let _ ← number true
      else failAhead .expectedValue

def anyElements : Nat → Nat → Bool → Reader Unit
  | 0, _, _ => failHere .endInList
  | fuel + 1, depth, first => do
    if ← nextElement first then do
      anyValue fuel depth
      anyElements fuel depth false

def anyMembers : Nat → Nat → Bool → Reader Unit
  | 0, _, _ => failHere .endInObject
  | fuel + 1, depth, first => do
    if ← nextMember first then do
      let _ ← key
      colon
      anyValue fuel depth
      anyMembers fuel depth false

end

/-- The deepest nesting of arrays and objects that is read. -/
def maxDepth : Nat := 127

def any : Reader Unit := do
  anyValue (2 * (← remaining) + 2) maxDepth

/-- A value with nothing but blanks behind it. -/
def whole {α : Type} (reader : Reader α) : Reader α := do
  let a ← reader
  match ← peekToken with
  | none => pure a
  | some _ => failAhead .trailingCharacters

/-- Reads a whole text. -/
def ofText {α : Type} (reader : Reader α) (text : String) : Except Error α :=
  (whole reader (Cursor.ofString text)).map Prod.fst

end SourceSurvey.Json.Reader
