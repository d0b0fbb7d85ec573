import TypedJson.Text.Blank

/-!
Charsets and their labels. A charset is the way in which a body's bytes write its text; a label
is one of the names under which charsets are declared. Labels are compared without regard to
ASCII letter case and to blanks at either end.
-/

namespace TypedJson

/-- The charsets that labels can declare. -/
inductive Charset where
  | latin1 | utf8 | ibm866 | latin2 | latin3 | latin4 | cyrillic | arabic | greek | hebrewVisual
  | hebrewLogical | latin6 | latin7 | latin8 | latin9 | latin10 | koi8R | koi8U | macintosh
  | windows874 | windows1250 | windows1251 | windows1252 | windows1253 | windows1254
  | windows1255 | windows1256 | windows1257 | windows1258 | macCyrillic | gbk | gb18030 | big5
  | eucJp | iso2022Jp | shiftJis | eucKr | replacement | utf16be | utf16le | userDefined
  deriving DecidableEq, Repr

namespace Charset

/-- The name under which a charset is reported. -/
def name : Charset → String
  | .latin1 => "ISO-8859-1"
  | .utf8 => "UTF-8"
  | .ibm866 => "IBM866"
  | .latin2 => "ISO-8859-2"
  | .latin3 => "ISO-8859-3"
  | .latin4 => "ISO-8859-4"
  | .cyrillic => "ISO-8859-5"
  | .arabic => "ISO-8859-6"
  | .greek => "ISO-8859-7"
  | .hebrewVisual => "ISO-8859-8"
  | .hebrewLogical => "ISO-8859-8-I"
  | .latin6 => "ISO-8859-10"
  | .latin7 => "ISO-8859-13"
  | .latin8 => "ISO-8859-14"
  | .latin9 => "ISO-8859-15"
  | .latin10 => "ISO-8859-16"
  | .koi8R => "KOI8-R"
  | .koi8U => "KOI8-U"
  | .macintosh => "macintosh"
  | .windows874 => "windows-874"
  | .windows1250 => "windows-1250"
  | .windows1251 => "windows-1251"
  | .windows1252 => "windows-1252"
  | .windows1253 => "windows-1253"
  | .windows1254 => "windows-1254"
  | .windows1255 => "windows-1255"
  | .windows1256 => "windows-1256"
  | .windows1257 => "windows-1257"
  | .windows1258 => "windows-1258"
  | .macCyrillic => "x-mac-cyrillic"
  | .gbk => "GBK"
  | .gb18030 => "gb18030"
  | .big5 => "Big5"
  | .eucJp => "EUC-JP"
  | .iso2022Jp => "ISO-2022-JP"
  | .shiftJis => "Shift_JIS"
  | .eucKr => "EUC-KR"
  | .replacement => "replacement"
  | .utf16be => "UTF-16BE"
  | .utf16le => "UTF-16LE"
  | .userDefined => "x-user-defined"

/-- The labels of ISO-8859-1 proper, in which every byte is the character of the same number. Its
other labels stand for windows-1252, as they do on the web. -/
def latin1Labels : List String :=
  ["iso-8859-1", "iso8859-1", "iso_8859-1", "iso88591", "latin1", "l1", "cp819", "ibm819"]

/-- The other charsets, each with its labels. -/
def labels : List (Charset × List String) :=
  [(.utf8, ["unicode-1-1-utf-8", "unicode11utf8", "unicode20utf8", "utf-8", "utf8",
     "x-unicode20utf8"]),
   (.ibm866, ["866", "cp866", "csibm866", "ibm866"]),
   (.latin2, ["csisolatin2", "iso-8859-2", "iso-ir-101", "iso8859-2", "iso88592", "iso_8859-2",
     "iso_8859-2:1987", "l2", "latin2"]),
   (.latin3, ["csisolatin3", "iso-8859-3", "iso-ir-109", "iso8859-3", "iso88593", "iso_8859-3",
     "iso_8859-3:1988", "l3", "latin3"]),
   (.latin4, ["csisolatin4", "iso-8859-4", "iso-ir-110", "iso8859-4", "iso88594", "iso_8859-4",
     "iso_8859-4:1988", "l4", "latin4"]),
   (.cyrillic, ["csisolatincyrillic", "cyrillic", "iso-8859-5", "iso-ir-144", "iso8859-5",
     "iso88595", "iso_8859-5", "iso_8859-5:1988"]),
   (.arabic, ["arabic", "asmo-708", "csiso88596e", "csiso88596i", "csisolatinarabic",
     "ecma-114", "iso-8859-6", "iso-8859-6-e", "iso-8859-6-i", "iso-ir-127", "iso8859-6",
     "iso88596", "iso_8859-6", "iso_8859-6:1987"]),
   (.greek, ["csisolatingreek", "ecma-118", "elot_928", "greek", "greek8", "iso-8859-7",
     "iso-ir-126", "iso8859-7", "iso88597", "iso_8859-7", "iso_8859-7:1987", "sun_eu_greek"]),
   (.hebrewVisual, ["csiso88598e", "csisolatinhebrew", "hebrew", "iso-8859-8", "iso-8859-8-e",
     "iso-ir-138", "iso8859-8", "iso88598", "iso_8859-8", "iso_8859-8:1988", "visual"]),
   (.hebrewLogical, ["csiso88598i", "iso-8859-8-i", "logical"]),
   (.latin6, ["csisolatin6", "iso-8859-10", "iso-ir-157", "iso8859-10", "iso885910", "l6",
     "latin6"]),
   (.latin7, ["iso-8859-13", "iso8859-13", "iso885913"]),
   (.latin8, ["iso-8859-14", "iso8859-14", "iso885914"]),
   (.latin9, ["csisolatin9", "iso-8859-15", "iso8859-15", "iso885915", "iso_8859-15", "l9"]),
   (.latin10, ["iso-8859-16"]),
   (.koi8R, ["cskoi8r", "koi", "koi8", "koi8-r", "koi8_r"]),
   (.koi8U, ["koi8-ru", "koi8-u"]),
   (.macintosh, ["csmacintosh", "mac", "macintosh", "x-mac-roman"]),
   (.windows874, ["dos-874", "iso-8859-11", "iso8859-11", "iso885911", "tis-620", "windows-874"]),
   (.windows1250, ["cp1250", "windows-1250", "x-cp1250"]),
   (.windows1251, ["cp1251", "windows-1251", "x-cp1251"]),
   (.windows1252, ["ansi_x3.4-1968", "ascii", "cp1252", "csisolatin1", "iso-ir-100",
     "iso_8859-1:1987", "us-ascii", "windows-1252", "x-cp1252"]),
   (.windows1253, ["cp1253", "windows-1253", "x-cp1253"]),
   (.windows1254, ["cp1254", "csisolatin5", "iso-8859-9", "iso-ir-148", "iso8859-9", "iso88599",
     "iso_8859-9", "iso_8859-9:1989", "l5", "latin5", "windows-1254", "x-cp1254"]),
   (.windows1255, ["cp1255", "windows-1255", "x-cp1255"]),
   (.windows1256, ["cp1256", "windows-1256", "x-cp1256"]),
   (.windows1257, ["cp1257", "windows-1257", "x-cp1257"]),
   (.windows1258, ["cp1258", "windows-1258", "x-cp1258"]),
   (.macCyrillic, ["x-mac-cyrillic", "x-mac-ukrainian"]),
   (.gbk, ["chinese", "csgb2312", "csiso58gb231280", "gb2312", "gb_2312", "gb_2312-80", "gbk",
     "iso-ir-58", "x-gbk"]),
   (.gb18030, ["gb18030"]),
   (.big5, ["big5", "big5-hkscs", "cn-big5", "csbig5", "x-x-big5"]),
   (.eucJp, ["cseucpkdfmtjapanese", "euc-jp", "x-euc-jp"]),
   (.iso2022Jp, ["csiso2022jp", "iso-2022-jp"]),
   (.shiftJis, ["csshiftjis", "ms932", "ms_kanji", "shift-jis", "shift_jis", "sjis",
     "windows-31j", "x-sjis"]),
   (.eucKr, ["cseuckr", "csksc56011987", "euc-kr", "iso-ir-149", "korean", "ks_c_5601-1987",
     "ks_c_5601-1989", "ksc5601", "ksc_5601", "windows-949"]),
   (.replacement, ["csiso2022kr", "hz-gb-2312", "iso-2022-cn", "iso-2022-cn-ext", "iso-2022-kr",
     "replacement"]),
   (.utf16be, ["unicodefffe", "utf-16be"]),
   (.utf16le, ["csunicode", "iso-10646-ucs-2", "ucs-2", "unicode", "unicodefeff", "utf-16",
     "utf-16le"]),
   (.userDefined, ["x-user-defined"])]

/-- An upper-case ASCII letter in lower case, and any other character as it is. -/
def foldCase (c : Char) : Char :=
  if 'A' ≤ c && c ≤ 'Z' then Char.ofNat (c.toNat + 32) else c

/-- The charset that a label declares. -/
def ofLabel? (label : String) : Option Charset :=
  let folded := String.ofList ((Text.trimBlanks label.toList).map foldCase)
  if latin1Labels.contains folded then some .latin1
  else (labels.find? fun entry => entry.2.contains folded).map Prod.fst

end Charset

end TypedJson
