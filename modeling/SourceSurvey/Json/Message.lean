import SourceSurvey.Json.Cursor
import SourceSurvey.Text.Quoted

/-! The wording of what is wrong with a JSON text. -/

namespace SourceSurvey.Json

def Unexpected.message : Unexpected → String
  | .null => "null"
  | .bool value => "boolean `" ++ toString value ++ "`"
  | .natural value => "integer `" ++ toString value ++ "`"
  | .negative magnitude => "integer `-" ++ toString magnitude ++ "`"
  | .float value => "floating point `" ++ value ++ "`"
  | .string value => "string " ++ Text.Quoted.quote value
  | .sequence => "sequence"
  | .map => "map"

def Fault.message : Fault → String
  | .endInList => "EOF while parsing a list"
  | .endInObject => "EOF while parsing an object"
  | .endInString => "EOF while parsing a string"
  | .endInValue => "EOF while parsing a value"
  | .expectedColon => "expected `:`"
  | .expectedListCommaOrEnd => "expected `,` or `]`"
  | .expectedObjectCommaOrEnd => "expected `,` or `\x7d`"
  | .expectedIdent => "expected ident"
  | .expectedValue => "expected value"
  | .invalidEscape => "invalid escape"
  | .invalidNumber => "invalid number"
  | .numberOutOfRange => "number out of range"
  | .controlCharacter => "control character (\\u0000-\\u001F) found while parsing a string"
  | .keyMustBeString => "key must be a string"
  | .loneSurrogate => "lone leading surrogate in hex escape"
  | .trailingComma => "trailing comma"
  | .trailingCharacters => "trailing characters"
  | .unexpectedEndOfHexEscape => "unexpected end of hex escape"
  | .tooDeep => "recursion limit exceeded"
  | .invalidType found expected => "invalid type: " ++ found.message ++ ", expected " ++ expected
  | .invalidValue found expected => "invalid value: " ++ found.message ++ ", expected " ++ expected
  | .invalidLength length expected =>
    "invalid length " ++ toString length ++ ", expected " ++ expected
  | .missingField name => "missing field `" ++ name ++ "`"
  | .duplicateField name => "duplicate field `" ++ name ++ "`"
  | .unknownVariant name variants =>
    "unknown variant `" ++ name ++ "`, expected one of " ++
      ", ".intercalate (variants.map fun v ↦ "`" ++ v ++ "`")

def Error.message (e : Error) : String :=
  e.fault.message ++ " at line " ++ toString e.place.line ++ " column " ++ toString e.place.column

end SourceSurvey.Json
