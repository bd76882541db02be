/-!
The encodings a file may be in, the name of each, and the labels that select it.
-/

namespace SourceSurvey

inductive Encoding where
  | utf8
  | ibm866
  | iso8859x2
  | iso8859x3
  | iso8859x4
  | iso8859x5
  | iso8859x6
  | iso8859x7
  | iso8859x8
  | iso8859x8Logical
  | iso8859x10
  | iso8859x13
  | iso8859x14
  | iso8859x15
  | iso8859x16
  | koi8R
  | koi8U
  | macintosh
  | windows874
  | windows1250
  | windows1251
  | windows1252
  | windows1253
  | windows1254
  | windows1255
  | windows1256
  | windows1257
  | windows1258
  | macCyrillic
  | gbk
  | gb18030
  | big5
  | eucJp
  | iso2022Jp
  | shiftJis
  | eucKr
  | refused
  | utf16BE
  | utf16LE
  | userDefined
deriving DecidableEq, Repr, Inhabited

namespace Encoding

def all : List Encoding :=
  [.utf8, .ibm866, .iso8859x2, .iso8859x3, .iso8859x4, .iso8859x5, .iso8859x6, .iso8859x7,
    .iso8859x8, .iso8859x8Logical, .iso8859x10, .iso8859x13, .iso8859x14, .iso8859x15,
    .iso8859x16, .koi8R, .koi8U, .macintosh, .windows874, .windows1250, .windows1251,
    .windows1252, .windows1253, .windows1254, .windows1255, .windows1256, .windows1257,
    .windows1258, .macCyrillic, .gbk, .gb18030, .big5, .eucJp, .iso2022Jp, .shiftJis, .eucKr,
    .refused, .utf16BE, .utf16LE, .userDefined]

theorem mem_all (e : Encoding) : e ∈ all := by
  cases e <;> decide

def name : Encoding → String
  | .utf8 => "UTF-8"
  | .ibm866 => "IBM866"
  | .iso8859x2 => "ISO-8859-2"
  | .iso8859x3 => "ISO-8859-3"
  | .iso8859x4 => "ISO-8859-4"
  | .iso8859x5 => "ISO-8859-5"
  | .iso8859x6 => "ISO-8859-6"
  | .iso8859x7 => "ISO-8859-7"
  | .iso8859x8 => "ISO-8859-8"
  | .iso8859x8Logical => "ISO-8859-8-I"
  | .iso8859x10 => "ISO-8859-10"
  | .iso8859x13 => "ISO-8859-13"
  | .iso8859x14 => "ISO-8859-14"
  | .iso8859x15 => "ISO-8859-15"
  | .iso8859x16 => "ISO-8859-16"
  | .koi8R => "KOI8-R"
  | .koi8U => "KOI8-U"
  | .macintosh => "macintosh"
  | .windows874 => "windows-874"
  | .windows1250 => "windows-1250"
  | .windows1251 => "windows-1251"
  | .windows1252 => "windows-1252"
  | .windows1253 => "windows-1253"
  | .windows1254 => "windows-1254"
  | .windows1255 => "windows-1255"
  | .windows1256 => "windows-1256"
  | .windows1257 => "windows-1257"
  | .windows1258 => "windows-1258"
  | .macCyrillic => "x-mac-cyrillic"
  | .gbk => "GBK"
  | .gb18030 => "gb18030"
  | .big5 => "Big5"
  | .eucJp => "EUC-JP"
  | .iso2022Jp => "ISO-2022-JP"
  | .shiftJis => "Shift_JIS"
  | .eucKr => "EUC-KR"
  | .refused => "replacement"
  | .utf16BE => "UTF-16BE"
  | .utf16LE => "UTF-16LE"
  | .userDefined => "x-user-defined"

/-- The labels of an encoding, in lower case. -/
def labels : Encoding → List String
  | .utf8 =>
    ["unicode-1-1-utf-8", "unicode11utf8", "unicode20utf8", "utf-8", "utf8",
      "x-unicode20utf8"]
  | .ibm866 => ["866", "cp866", "csibm866", "ibm866"]
  | .iso8859x2 =>
    ["csisolatin2", "iso-8859-2", "iso-ir-101", "iso8859-2", "iso88592", "iso_8859-2",
      "iso_8859-2:1987", "l2", "latin2"]
  | .iso8859x3 =>
    ["csisolatin3", "iso-8859-3", "iso-ir-109", "iso8859-3", "iso88593", "iso_8859-3",
      "iso_8859-3:1988", "l3", "latin3"]
  | .iso8859x4 =>
    ["csisolatin4", "iso-8859-4", "iso-ir-110", "iso8859-4", "iso88594", "iso_8859-4",
      "iso_8859-4:1988", "l4", "latin4"]
  | .iso8859x5 =>
    ["csisolatincyrillic", "cyrillic", "iso-8859-5", "iso-ir-144", "iso8859-5",
      "iso88595", "iso_8859-5", "iso_8859-5:1988"]
  | .iso8859x6 =>
    ["arabic", "asmo-708", "csiso88596e", "csiso88596i", "csisolatinarabic", "ecma-114",
      "iso-8859-6", "iso-8859-6-e", "iso-8859-6-i", "iso-ir-127", "iso8859-6",
      "iso88596", "iso_8859-6", "iso_8859-6:1987"]
  | .iso8859x7 =>
    ["csisolatingreek", "ecma-118", "elot_928", "greek", "greek8", "iso-8859-7",
      "iso-ir-126", "iso8859-7", "iso88597", "iso_8859-7", "iso_8859-7:1987",
      "sun_eu_greek"]
  | .iso8859x8 =>
    ["csiso88598e", "csisolatinhebrew", "hebrew", "iso-8859-8", "iso-8859-8-e",
      "iso-ir-138", "iso8859-8", "iso88598", "iso_8859-8", "iso_8859-8:1988",
      "visual"]
  | .iso8859x8Logical => ["csiso88598i", "iso-8859-8-i", "logical"]
  | .iso8859x10 =>
    ["csisolatin6", "iso-8859-10", "iso-ir-157", "iso8859-10", "iso885910", "l6",
      "latin6"]
  | .iso8859x13 => ["iso-8859-13", "iso8859-13", "iso885913"]
  | .iso8859x14 => ["iso-8859-14", "iso8859-14", "iso885914"]
  | .iso8859x15 =>
    ["csisolatin9", "iso-8859-15", "iso8859-15", "iso885915", "iso_8859-15", "l9"]
  | .iso8859x16 => ["iso-8859-16"]
  | .koi8R => ["cskoi8r", "koi", "koi8", "koi8-r", "koi8_r"]
  | .koi8U => ["koi8-ru", "koi8-u"]
  | .macintosh => ["csmacintosh", "mac", "macintosh", "x-mac-roman"]
  | .windows874 =>
    ["dos-874", "iso-8859-11", "iso8859-11", "iso885911", "tis-620", "windows-874"]
  | .windows1250 => ["cp1250", "windows-1250", "x-cp1250"]
  | .windows1251 => ["cp1251", "windows-1251", "x-cp1251"]
  | .windows1252 =>
    ["ansi_x3.4-1968", "ascii", "cp1252", "cp819", "csisolatin1", "ibm819",
      "iso-8859-1", "iso-ir-100", "iso8859-1", "iso88591", "iso_8859-1",
      "iso_8859-1:1987", "l1", "latin1", "us-ascii", "windows-1252", "x-cp1252"]
  | .windows1253 => ["cp1253", "windows-1253", "x-cp1253"]
  | .windows1254 =>
    ["cp1254", "csisolatin5", "iso-8859-9", "iso-ir-148", "iso8859-9", "iso88599",
      "iso_8859-9", "iso_8859-9:1989", "l5", "latin5", "windows-1254", "x-cp1254"]
  | .windows1255 => ["cp1255", "windows-1255", "x-cp1255"]
  | .windows1256 => ["cp1256", "windows-1256", "x-cp1256"]
  | .windows1257 => ["cp1257", "windows-1257", "x-cp1257"]
  | .windows1258 => ["cp1258", "windows-1258", "x-cp1258"]
  | .macCyrillic => ["x-mac-cyrillic", "x-mac-ukrainian"]
  | .gbk =>
    ["chinese", "csgb2312", "csiso58gb231280", "gb2312", "gb_2312", "gb_2312-80", "gbk",
      "iso-ir-58", "x-gbk"]
  | .gb18030 => ["gb18030"]
  | .big5 => ["big5", "big5-hkscs", "cn-big5", "csbig5", "x-x-big5"]
  | .eucJp => ["cseucpkdfmtjapanese", "euc-jp", "x-euc-jp"]
  | .iso2022Jp => ["csiso2022jp", "iso-2022-jp"]
  | .shiftJis =>
    ["csshiftjis", "ms932", "ms_kanji", "shift-jis", "shift_jis", "sjis", "windows-31j",
      "x-sjis"]
  | .eucKr =>
    ["cseuckr", "csksc56011987", "euc-kr", "iso-ir-149", "korean", "ks_c_5601-1987",
      "ks_c_5601-1989", "ksc5601", "ksc_5601", "windows-949"]
  | .refused =>
    ["csiso2022kr", "hz-gb-2312", "iso-2022-cn", "iso-2022-cn-ext", "iso-2022-kr",
      "replacement"]
  | .utf16BE => ["unicodefffe", "utf-16be"]
  | .utf16LE =>
    ["csunicode", "iso-10646-ucs-2", "ucs-2", "unicode", "unicodefeff", "utf-16",
      "utf-16le"]
  | .userDefined => ["x-user-defined"]

/-- Blanks that may stand around a label. -/
def isLabelBlank (c : Char) : Bool :=
  c = '\t' || c = '\n' || c = '\x0c' || c = '\r' || c = ' '

/-- A label in lower case, without the blanks around it. -/
def canonicalLabel (label : String) : String :=
  let start := label.toList.dropWhile isLabelBlank
  String.ofList ((start.reverse.dropWhile isLabelBlank).reverse.map Char.toLower)

/-- The encoding that a label selects. -/
def ofLabel? (label : String) : Option Encoding :=
  let wanted := canonicalLabel label
  all.find? fun e ↦ e.labels.contains wanted

end Encoding

end SourceSurvey
