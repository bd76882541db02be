import SourceSurvey.Text.Unprintable

/-!
Texts in double quotes on one line. A quote, a backslash and the usual control characters take a
backslash escape; whatever has no picture of its own, or would attach to its neighbour, is written by
its code point.
-/

namespace SourceSurvey.Text.Quoted

/-- Lower-case digits in base sixteen, without leading zeros. -/
def hex (n : Nat) : String := String.ofList (Nat.toDigits 16 n)

def needsCode (c : Char) : Bool :=
  Unprintable.combining.has c || Unprintable.unprintable.has c

def escape (c : Char) : String :=
  if c = '\x00' then "\\0"
  else if c = '\t' then "\\t"
  else if c = '\r' then "\\r"
  else if c = '\n' then "\\n"
  else if c = '"' then "\\\""
  else if c = '\\' then "\\\\"
  else if needsCode c then "\\u\x7b" ++ hex c.toNat ++ "\x7d"
  else c.toString

def quote (s : String) : String :=
  "\"" ++ s.toList.foldl (fun shown c ↦ shown ++ escape c) "" ++ "\""

/-- A list of texts, each quoted, in brackets. -/
def quoteList (texts : List String) : String :=
  "[" ++ ", ".intercalate (texts.map quote) ++ "]"

end SourceSurvey.Text.Quoted
