import SourceSurvey.Encoding.Label
import SourceSurvey.Encoding.SingleByteTables
import SourceSurvey.Encoding.Utf8
import SourceSurvey.Encoding.Utf16
import SourceSurvey.Encoding.Gb18030
import SourceSurvey.Encoding.DoubleByte
import SourceSurvey.Encoding.Iso2022Jp

/-!
Decoding the bytes of a file. A byte order mark at the start decides the encoding, whatever was asked
for, and is not part of the text.
-/

namespace SourceSurvey.Encoding

/-- The machine of an encoding that extends ASCII by a table for the bytes from 128. -/
def singleByte (table : Table) : Machine :=
  Machine.ofByte fun b ↦ if b < 0x80 then ascii? b else table.get? (b.toNat - 0x80)

/-- Refuses every input: however long it is, all of it is one malformed place. -/
def refusing : Machine where
  State := Bool
  initial := false
  step seen _ := (if seen then [] else [none], true)
  finish _ := []

/-- Bytes from 128 stand for private-use characters. -/
def userDefinedChar (b : UInt8) : Option Char :=
  if b < 0x80 then ascii? b else some (Char.ofNat (0xF780 + (b.toNat - 0x80)))

def machine : Encoding → Machine
  | .utf8 => Utf8.machine
  | .utf16BE => Utf16.machine .bigEndian
  | .utf16LE => Utf16.machine .littleEndian
  | .gbk => Gb18030.machine
  | .gb18030 => Gb18030.machine
  | .big5 => Big5.machine
  | .eucJp => EucJp.machine
  | .iso2022Jp => Iso2022Jp.machine
  | .shiftJis => ShiftJis.machine
  | .eucKr => EucKr.machine
  | .refused => refusing
  | .userDefined => Machine.ofByte userDefinedChar
  | .ibm866 => singleByte ibm866Table
  | .iso8859x2 => singleByte iso8859x2Table
  | .iso8859x3 => singleByte iso8859x3Table
  | .iso8859x4 => singleByte iso8859x4Table
  | .iso8859x5 => singleByte iso8859x5Table
  | .iso8859x6 => singleByte iso8859x6Table
  | .iso8859x7 => singleByte iso8859x7Table
  | .iso8859x8 => singleByte iso8859x8Table
  | .iso8859x8Logical => singleByte iso8859x8Table
  | .iso8859x10 => singleByte iso8859x10Table
  | .iso8859x13 => singleByte iso8859x13Table
  | .iso8859x14 => singleByte iso8859x14Table
  | .iso8859x15 => singleByte iso8859x15Table
  | .iso8859x16 => singleByte iso8859x16Table
  | .koi8R => singleByte koi8RTable
  | .koi8U => singleByte koi8UTable
  | .macintosh => singleByte macintoshTable
  | .windows874 => singleByte windows874Table
  | .windows1250 => singleByte windows1250Table
  | .windows1251 => singleByte windows1251Table
  | .windows1252 => singleByte windows1252Table
  | .windows1253 => singleByte windows1253Table
  | .windows1254 => singleByte windows1254Table
  | .windows1255 => singleByte windows1255Table
  | .windows1256 => singleByte windows1256Table
  | .windows1257 => singleByte windows1257Table
  | .windows1258 => singleByte windows1258Table
  | .macCyrillic => singleByte macCyrillicTable

/-- The byte order mark that selects an encoding. -/
def mark : Encoding → Bytes
  | .utf8 => [0xEF, 0xBB, 0xBF]
  | .utf16BE => [0xFE, 0xFF]
  | .utf16LE => [0xFF, 0xFE]
  | _ => []

/-- The encoding that a byte order mark at the start selects, and the bytes behind the mark. -/
def marked? (bytes : Bytes) : Option (Encoding × Bytes) :=
  [utf8, utf16BE, utf16LE].findSome? fun e ↦
    if e.mark.isPrefixOf bytes then some (e, bytes.drop e.mark.length) else none

/-- A decoded text, and how it came about. -/
structure Decoded where
  text : String
  /-- The encoding that was used. -/
  used : Encoding
  /-- Whether a malformed place was replaced. -/
  malformed : Bool

def decode (asked : Encoding) (bytes : Bytes) : Decoded :=
  let (used, body) := (marked? bytes).getD (asked, bytes)
  let reading := used.machine.run body
  ⟨String.ofList reading.text, used, reading.malformed⟩

end SourceSurvey.Encoding
