import SessionGateway.Text.Ascii
import SessionGateway.Text.Charset.Big5
import SessionGateway.Text.Charset.CodePage
import SessionGateway.Text.Charset.EucKr
import SessionGateway.Text.Charset.Gb18030
import SessionGateway.Text.Charset.Japanese
import SessionGateway.Text.Charset.Utf16

/-! Texts of bytes in a named encoding. A mark at the start of the bytes overrules the name. -/

namespace SessionGateway.Text

inductive Charset where
  | utf8
  | utf16LittleEndian
  | utf16BigEndian
  | codePage (page : CodePage)
  | gb18030
  | big5
  | eucJp
  | iso2022Jp
  | shiftJis
  | eucKr
  /-- Encodings that are named but not read. -/
  | unread
  /-- Bytes of the upper half are characters for private use. -/
  | userDefined
  deriving DecidableEq, Repr

/-- The names of a page. -/
def CodePage.labels : CodePage → List String
  | ibm866 => ["866", "cp866", "csibm866", "ibm866"]
  | iso8859Part2 =>
    ["csisolatin2", "iso-8859-2", "iso-ir-101", "iso8859-2", "iso88592", "iso_8859-2",
     "iso_8859-2:1987", "l2", "latin2"]
  | iso8859Part3 =>
    ["csisolatin3", "iso-8859-3", "iso-ir-109", "iso8859-3", "iso88593", "iso_8859-3",
     "iso_8859-3:1988", "l3", "latin3"]
  | iso8859Part4 =>
    ["csisolatin4", "iso-8859-4", "iso-ir-110", "iso8859-4", "iso88594", "iso_8859-4",
     "iso_8859-4:1988", "l4", "latin4"]
  | iso8859Part5 =>
    ["csisolatincyrillic", "cyrillic", "iso-8859-5", "iso-ir-144", "iso8859-5", "iso88595",
     "iso_8859-5", "iso_8859-5:1988"]
  | iso8859Part6 =>
    ["arabic", "asmo-708", "csiso88596e", "csiso88596i", "csisolatinarabic", "ecma-114",
     "iso-8859-6", "iso-8859-6-e", "iso-8859-6-i", "iso-ir-127", "iso8859-6", "iso88596",
     "iso_8859-6", "iso_8859-6:1987"]
  | iso8859Part7 =>
    ["csisolatingreek", "ecma-118", "elot_928", "greek", "greek8", "iso-8859-7", "iso-ir-126",
     "iso8859-7", "iso88597", "iso_8859-7", "iso_8859-7:1987", "sun_eu_greek"]
  | iso8859Part8 =>
    ["csiso88598e", "csisolatinhebrew", "hebrew", "iso-8859-8", "iso-8859-8-e", "iso-ir-138",
     "iso8859-8", "iso88598", "iso_8859-8", "iso_8859-8:1988", "visual", "csiso88598i",
     "iso-8859-8-i", "logical"]
  | iso8859Part10 =>
    ["csisolatin6", "iso-8859-10", "iso-ir-157", "iso8859-10", "iso885910", "l6", "latin6"]
  | iso8859Part13 => ["iso-8859-13", "iso8859-13", "iso885913"]
  | iso8859Part14 => ["iso-8859-14", "iso8859-14", "iso885914"]
  | iso8859Part15 =>
    ["csisolatin9", "iso-8859-15", "iso8859-15", "iso885915", "iso_8859-15", "l9"]
  | iso8859Part16 => ["iso-8859-16"]
  | koi8r => ["cskoi8r", "koi", "koi8", "koi8-r", "koi8_r"]
  | koi8u => ["koi8-ru", "koi8-u"]
  | macRoman => ["csmacintosh", "mac", "macintosh", "x-mac-roman"]
  | windows874 => ["dos-874", "iso-8859-11", "iso8859-11", "iso885911", "tis-620", "windows-874"]
  | windows1250 => ["cp1250", "windows-1250", "x-cp1250"]
  | windows1251 => ["cp1251", "windows-1251", "x-cp1251"]
  | windows1252 =>
    ["ansi_x3.4-1968", "ascii", "cp1252", "cp819", "csisolatin1", "ibm819", "iso-8859-1",
     "iso-ir-100", "iso8859-1", "iso88591", "iso_8859-1", "iso_8859-1:1987", "l1", "latin1",
     "us-ascii", "windows-1252", "x-cp1252"]
  | windows1253 => ["cp1253", "windows-1253", "x-cp1253"]
  | windows1254 =>
    ["cp1254", "csisolatin5", "iso-8859-9", "iso-ir-148", "iso8859-9", "iso88599", "iso_8859-9",
     "iso_8859-9:1989", "l5", "latin5", "windows-1254", "x-cp1254"]
  | windows1255 => ["cp1255", "windows-1255", "x-cp1255"]
  | windows1256 => ["cp1256", "windows-1256", "x-cp1256"]
  | windows1257 => ["cp1257", "windows-1257", "x-cp1257"]
  | windows1258 => ["cp1258", "windows-1258", "x-cp1258"]
  | macCyrillic => ["x-mac-cyrillic", "x-mac-ukrainian"]

namespace Charset

/-- The names of an encoding, in lower case. -/
def labels : Charset → List String
  | utf8 =>
    ["unicode-1-1-utf-8", "unicode11utf8", "unicode20utf8", "utf8", "utf-8", "x-unicode20utf8"]
  | utf16LittleEndian =>
    ["csunicode", "iso-10646-ucs-2", "ucs-2", "unicode", "unicodefeff", "utf-16le", "utf-16"]
  | utf16BigEndian =>
    ["unicodefffe", "utf-16be"]
  | codePage page => page.labels
  | gb18030 =>
    ["gb18030", "chinese", "csgb2312", "csiso58gb231280", "gb2312", "gb_2312", "gb_2312-80",
     "gbk", "iso-ir-58", "x-gbk"]
  | big5 =>
    ["big5", "big5-hkscs", "cn-big5", "csbig5", "x-x-big5"]
  | eucJp =>
    ["cseucpkdfmtjapanese", "euc-jp", "x-euc-jp"]
  | iso2022Jp =>
    ["csiso2022jp", "iso-2022-jp"]
  | shiftJis =>
    ["csshiftjis", "ms932", "ms_kanji", "shift-jis", "shift_jis", "sjis", "windows-31j", "x-sjis"]
  | eucKr =>
    ["cseuckr", "csksc56011987", "euc-kr", "iso-ir-149", "korean", "ks_c_5601-1987",
     "ks_c_5601-1989", "ksc5601", "ksc_5601", "windows-949"]
  | unread =>
    ["csiso2022kr", "hz-gb-2312", "iso-2022-cn", "iso-2022-cn-ext", "iso-2022-kr", "replacement"]
  | userDefined =>
    ["x-user-defined"]

def all : List Charset :=
  [utf8, utf16LittleEndian, utf16BigEndian, gb18030, big5, eucJp, iso2022Jp, shiftJis, eucKr,
    unread, userDefined] ++ CodePage.all.map codePage

def isLabelBlank (c : Char) : Bool :=
  c = ' ' || c = '\t' || c = '\n' || c = '\r' || c = '\x0c'

/-- The encoding of a label, up to case and blanks around it. -/
def ofLabel? (label : String) : Option Charset :=
  let plain := foldAscii (String.ofList (trimBoth isLabelBlank label.toList))
  all.find? fun charset => charset.labels.contains plain

/-- A character for private use for each byte of the upper half. -/
def userChar (b : UInt8) : Char := Char.ofNat (if b < 0x80 then b.toNat else 0xF700 + b.toNat)

def decodeAs (bytes : List UInt8) : Charset → List Char
  | utf8 => ofUtf8Lossy bytes
  | utf16LittleEndian => Utf16.decode false bytes
  | utf16BigEndian => Utf16.decode true bytes
  | codePage page => page.decode bytes
  | gb18030 => Gb18030.decode bytes
  | big5 => Big5.decode bytes
  | eucJp => EucJp.decode bytes
  | iso2022Jp => Iso2022Jp.decode bytes
  | shiftJis => ShiftJis.decode bytes
  | eucKr => EucKr.decode bytes
  | unread => if bytes.isEmpty then [] else [replacement]
  | userDefined => bytes.map userChar

def decode (charset : Charset) (bytes : List UInt8) : List Char :=
  match bytes with
  | 0xEF :: 0xBB :: 0xBF :: rest => decodeAs rest utf8
  | 0xFF :: 0xFE :: rest => decodeAs rest utf16LittleEndian
  | 0xFE :: 0xFF :: rest => decodeAs rest utf16BigEndian
  | _ => decodeAs bytes charset

end Charset

end SessionGateway.Text
