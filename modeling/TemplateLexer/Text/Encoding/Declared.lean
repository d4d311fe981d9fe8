import TemplateLexer.Text.Encoding.Written

set_option autoImplicit false

namespace TemplateLexer.Text.DeclaredName

def page (upper : Charset) : Encoding := .tables [upper.page]

def announced (sets : List Announced) : Encoding := .announced Japanese.ascii sets

def all : List (List String × Encoding) := [
  (["UTF-8", "UTF8"], .utf8),
  (["US-ASCII", "ASCII", "ISO646-US", "ISO-IR-6", "ANSI_X3.4-1968", "ANSI_X3.4-1986", "CP367",
    "IBM367", "US", "CSASCII"], .lowest 128),
  (["ISO-8859-1", "ISO_8859-1", "ISO8859-1", "ISO-LATIN-1", "ISO-IR-100", "CP819", "IBM819",
    "LATIN1", "L1", "CSISOLATIN1"], .lowest 256),
  (["ISO-8859-2", "ISO_8859-2", "ISO8859-2", "ISO-LATIN-2", "ISO-IR-101", "LATIN2", "L2",
    "CSISOLATIN2"], page .iso8859x2),
  (["ISO-8859-3", "ISO_8859-3", "ISO8859-3", "ISO-IR-109", "LATIN3", "L3", "CSISOLATIN3"],
    page .iso8859x3),
  (["ISO-8859-4", "ISO_8859-4", "ISO8859-4", "ISO-IR-110", "LATIN4", "L4", "CSISOLATIN4"],
    page .iso8859x4),
  (["ISO-8859-5", "ISO_8859-5", "ISO8859-5", "ISO-IR-144", "CYRILLIC", "CSISOLATINCYRILLIC"],
    page .iso8859x5),
  (["ISO-8859-6", "ISO_8859-6", "ISO8859-6", "ISO-IR-127", "ARABIC", "ASMO-708", "ECMA-114",
    "CSISOLATINARABIC"], page .iso8859x6),
  (["ISO-8859-7", "ISO_8859-7", "ISO8859-7", "ISO-IR-126", "GREEK", "GREEK8", "ECMA-118",
    "ELOT_928", "CSISOLATINGREEK"], page .iso8859x7),
  (["ISO-8859-8", "ISO_8859-8", "ISO8859-8", "ISO-IR-138", "HEBREW", "CSISOLATINHEBREW"],
    page .iso8859x8),
  (["ISO-8859-9", "ISO_8859-9", "ISO8859-9", "ISO-IR-148", "LATIN5", "L5", "CSISOLATIN5"],
    page .iso8859x9),
  (["ISO-8859-10", "ISO_8859-10", "ISO8859-10", "ISO-IR-157", "LATIN6", "L6", "CSISOLATIN6"],
    page .iso8859x10),
  (["ISO-8859-11", "ISO_8859-11", "ISO8859-11"], page .iso8859x11),
  (["ISO-8859-13", "ISO_8859-13", "ISO8859-13", "ISO-IR-179", "LATIN7", "L7"], page .iso8859x13),
  (["ISO-8859-14", "ISO_8859-14", "ISO8859-14", "ISO-IR-199", "LATIN8", "L8", "ISO-CELTIC"],
    page .iso8859x14),
  (["ISO-8859-15", "ISO_8859-15", "ISO8859-15", "ISO-IR-203", "LATIN-9"], page .iso8859x15),
  (["ISO-8859-16", "ISO_8859-16", "ISO8859-16", "ISO-IR-226", "LATIN10", "L10"], page .iso8859x16),
  (["KOI8-R", "CSKOI8R"], page .koi8R),
  (["KOI8-U"], page .koi8U),
  (["KOI8-RU"], page .koi8U),
  (["KOI8-T"], page .koi8T),
  (["WINDOWS-1250", "CP1250", "MS-EE"], page .cp1250),
  (["WINDOWS-1251", "CP1251", "MS-CYRL"], page .cp1251),
  (["WINDOWS-1252", "CP1252", "MS-ANSI"], page .cp1252),
  (["WINDOWS-1253", "CP1253", "MS-GREEK"], page .cp1253),
  (["WINDOWS-1254", "CP1254", "MS-TURK"], page .cp1254),
  (["WINDOWS-1255", "CP1255", "MS-HEBR"], page .cp1255),
  (["WINDOWS-1256", "CP1256", "MS-ARAB"], page .cp1256),
  (["WINDOWS-1257", "CP1257", "WINBALTRIM"], page .cp1257),
  (["WINDOWS-1258", "CP1258"], page .cp1258),
  (["CP850", "IBM850", "850", "CSPC850MULTILINGUAL"], page .cp850),
  (["CP862", "IBM862", "862", "CSPC862LATINHEBREW"], page .cp862),
  (["CP866", "IBM866", "866", "CSIBM866"], page .cp866),
  (["MACINTOSH", "MAC", "MACROMAN", "CSMACINTOSH"], page .macRoman),
  (["MACCENTRALEUROPE"], page .macLatin2),
  (["MACICELAND"], page .macIceland),
  (["MACCROATIAN"], page .macCroatian),
  (["MACROMANIA"], page .macRomanian),
  (["MACCYRILLIC"], page .macCyrillic),
  (["MACGREEK"], page .macGreek),
  (["MACTURKISH"], page .macTurkish),
  (["HP-ROMAN8", "ROMAN8", "R8", "CSHPROMAN8"], page .hpRoman8),
  (["PTCP154", "PT154", "CP154", "CYRILLIC-ASIAN", "CSPTCP154"], page .ptcp154),
  (["RK1048", "KZ-1048", "STRK1048-2002", "CSKZ1048"], page .kz1048),
  (["TIS-620", "TIS620", "TIS620-0", "TIS620.2529-1", "TIS620.2533-0", "TIS620.2533-1",
    "ISO-IR-166"], page .tis620),
  (["CP874", "WINDOWS-874"], page .cp874),
  (["UTF-7", "UNICODE-1-1-UTF-7", "CSUNICODE11UTF7"], .utf7),
  (["GB18030", "CSGB18030"], .gb18030),
  (["GB2312", "EUC-CN", "EUCCN", "CN-GB", "CSGB2312"], .tables Chinese.eucCn),
  (["GBK"], .tables Chinese.gbk),
  (["CP936", "MS936", "WINDOWS-936"], .tables Chinese.cp936),
  (["HZ", "HZ-GB-2312"], .switched Chinese.hz),
  (["BIG5", "BIG-5", "BIG-FIVE", "BIGFIVE", "CN-BIG5", "CSBIG5"], .tables Chinese.big5),
  (["CP950"], .tables Chinese.cp950Read),
  (["BIG5-HKSCS", "BIG5HKSCS"], .tables Chinese.big5Hkscs),
  (["SHIFT_JIS", "SHIFT-JIS", "SJIS", "MS_KANJI", "CSSHIFTJIS"], .tables Japanese.shiftJisRead),
  (["CP932"], .tables Japanese.cp932),
  (["EUC-JP", "EUCJP", "EXTENDED_UNIX_CODE_PACKED_FORMAT_FOR_JAPANESE", "CSEUCPKDFMTJAPANESE"],
    .tables Japanese.eucJpRead),
  (["ISO-2022-JP", "CSISO2022JP"], announced [Japanese.olderJis, Japanese.jis, Japanese.romanJis]),
  (["ISO-2022-JP-1"],
    announced [Japanese.further, Japanese.olderJis, Japanese.jis, Japanese.romanJis]),
  (["ISO-2022-JP-2", "CSISO2022JP2"],
    announced [Japanese.chinese "$A", Japanese.korean, Japanese.further, Japanese.olderJis,
      Japanese.jis, Japanese.romanJis]),
  (["EUC-KR", "EUCKR", "CSEUCKR"], .tables Korean.eucKrRead),
  (["CP949", "UHC"], .tables Korean.cp949),
  (["JOHAB", "CP1361"], .tables Korean.johabRead),
  (["ISO-2022-KR", "CSISO2022KR"], .switched Korean.switched),
  (["CP1131", "CP1133", "IBM-CP1133", "MACUKRAINE", "MACHEBREW", "MACARABIC", "MACTHAI",
    "NEXTSTEP", "ARMSCII-8", "GEORGIAN-ACADEMY", "GEORGIAN-PS", "MULELAO-1", "VISCII",
    "VISCII1.1-1", "CSVISCII", "TCVN", "TCVN-5712", "TCVN5712-1", "ISO-2022-CN", "CSISO2022CN",
    "ISO-2022-CN-EXT", "EUC-TW", "EUCTW", "CSEUCTW", "C99", "JAVA", "UTF-8-MAC", "UTF8-MAC"],
    .lowest 128)]

def upper (name : String) : String := String.ofList (name.toList.map Char.toUpper)

def encoding? (name : String) : Option Encoding :=
  (all.find? fun (names, _) => names.contains (upper name)).map (·.2)

end TemplateLexer.Text.DeclaredName
