/-! What a plain scalar of YAML stands for: nothing, a truth value, a number, or itself. -/

namespace SourceSurvey.Languages.YamlScalar

inductive Kind where
  | null
  | boolean
  | integer
  | float
  | timestamp
  | string
deriving DecidableEq, Repr

def Kind.number : Kind → Nat
  | null => 0
  | boolean => 1
  | integer => 2
  | float => 3
  | timestamp => 4
  | string => 5

def isHex (c : Char) : Bool := c.isDigit || ('a' ≤ c && c ≤ 'f') || ('A' ≤ c && c ≤ 'F')

def isOctal (c : Char) : Bool := '0' ≤ c && c ≤ '7'

/-- Whether there are some characters, all of a class. -/
def areAll (p : Char → Bool) (cs : List Char) : Bool := !cs.isEmpty && cs.all p

def withoutSign : List Char → List Char
  | '+' :: cs => cs
  | '-' :: cs => cs
  | cs => cs

def isInteger (cs : List Char) : Bool :=
  areAll Char.isDigit (withoutSign cs) ||
    match cs with
    | '0' :: 'o' :: cs => areAll isOctal cs
    | '0' :: 'x' :: cs => areAll isHex cs
    | _ => false

def isExponent : List Char → Bool
  | [] => true
  | c :: cs => (c = 'e' || c = 'E') && areAll Char.isDigit (withoutSign cs)

/-- A number with a point, an exponent or both. -/
def isDecimal (cs : List Char) : Bool :=
  let whole := cs.takeWhile Char.isDigit
  match cs.dropWhile Char.isDigit with
  | '.' :: rest =>
    !(whole.isEmpty && (rest.takeWhile Char.isDigit).isEmpty) &&
      isExponent (rest.dropWhile Char.isDigit)
  | rest => !whole.isEmpty && isExponent rest

def isFloat (cs : List Char) : Bool :=
  let magnitude := withoutSign cs
  isDecimal magnitude ||
    [".inf", ".Inf", ".INF"].contains (String.ofList magnitude) ||
    [".nan", ".NaN", ".NAN"].contains (String.ofList cs)

/-- The kind of a scalar, which may have spaces behind it. -/
def kindOf (cs : List Char) : Kind :=
  let cs := (cs.reverse.dropWhile fun c ↦ c = ' ').reverse
  let s := String.ofList cs
  if ["null", "Null", "NULL", "~"].contains s then .null
  else if ["true", "True", "TRUE", "false", "False", "FALSE"].contains s then .boolean
  else if isInteger cs then .integer
  else if isFloat cs then .float
  else .string

end SourceSurvey.Languages.YamlScalar
