/-!
JSON values of the kinds that settings and reports are made of, and their compact text.
-/

namespace SourceSurvey.Json

inductive Value where
  | bool (b : Bool)
  | natural (n : Nat)
  | string (s : String)
  | array (items : List Value)
  | object (members : List (String × Value))
deriving Inhabited

namespace Value

def get? (v : Value) (name : String) : Option Value :=
  match v with
  | .object members => members.lookup name
  | _ => none

def natural? : Value → Option Nat
  | .natural n => some n
  | _ => none

def bool? : Value → Option Bool
  | .bool b => some b
  | _ => none

def string? : Value → Option String
  | .string s => some s
  | _ => none

def strings? : Value → Option (List String)
  | .array items => items.mapM string?
  | _ => none

end Value

/-- One digit in base sixteen, in lower case. -/
def hexDigit (n : Nat) : Char := (Nat.digitChar n)

def escape (c : Char) : List Char :=
  if c = '"' then ['\\', '"']
  else if c = '\\' then ['\\', '\\']
  else if c = '\x08' then ['\\', 'b']
  else if c = '\x0c' then ['\\', 'f']
  else if c = '\n' then ['\\', 'n']
  else if c = '\r' then ['\\', 'r']
  else if c = '\t' then ['\\', 't']
  else if c.toNat < 0x20 then
    ['\\', 'u', '0', '0', hexDigit (c.toNat / 16), hexDigit (c.toNat % 16)]
  else [c]

/-- A string between quotes. -/
def quoted (s : String) : List Char := '"' :: s.toList.flatMap escape ++ ['"']

mutual

/-- The compact text of a value. -/
def Value.chars : Value → List Char
  | .bool b => (toString b).toList
  | .natural n => Nat.toDigits 10 n
  | .string s => quoted s
  | .array items => '[' :: itemChars items ++ [']']
  | .object members => '{' :: memberChars members ++ ['}']

def itemChars : List Value → List Char
  | [] => []
  | [v] => v.chars
  | v :: rest => v.chars ++ ',' :: itemChars rest

def memberChars : List (String × Value) → List Char
  | [] => []
  | [(name, v)] => quoted name ++ ':' :: v.chars
  | (name, v) :: rest => quoted name ++ ':' :: v.chars ++ ',' :: memberChars rest

end

def Value.compact (v : Value) : String := String.ofList v.chars

end SourceSurvey.Json
