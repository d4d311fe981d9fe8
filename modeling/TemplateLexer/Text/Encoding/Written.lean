import TemplateLexer.Text.Charset.Cyrillic
import TemplateLexer.Text.Charset.Dos
import TemplateLexer.Text.Charset.Ebcdic
import TemplateLexer.Text.Charset.Iso8859
import TemplateLexer.Text.Charset.Macintosh
import TemplateLexer.Text.Charset.Windows
import TemplateLexer.Text.Encoding
import TemplateLexer.Text.Encoding.Chinese
import TemplateLexer.Text.Encoding.Japanese
import TemplateLexer.Text.Encoding.Korean

set_option autoImplicit false

namespace TemplateLexer.Text

/-- An encoding, with the bytes that a text in it begins with. -/
structure WrittenForm where
  mark : List UInt8
  encoding : Encoding
  deriving Repr

namespace WrittenForm

def plain (e : Encoding) : WrittenForm := ⟨[], e⟩

def orNone : Except Refusal (List UInt8) → List UInt8
  | .ok bs => bs
  | .error _ => []

def marked (e : Encoding) : WrittenForm := ⟨orNone (e.encode [Unicode.mark]), e⟩

def page (upper : Charset) : WrittenForm := plain (.tables [upper.page])

def wholePage (all : Charset) : WrittenForm := plain (.tables [all])

def announced (sets : List Announced) : WrittenForm := plain (.announced Japanese.ascii sets)

def all : List (String × List String × WrittenForm) := [
  ("ascii", ["646", "ansi_x3.4_1968", "ansi_x3_4_1968", "ansi_x3.4_1986", "cp367", "csascii",
    "ibm367", "iso646_us", "iso_646.irv_1991", "iso_ir_6", "us", "us_ascii"], plain (.lowest 128)),
  ("latin_1", ["8859", "cp819", "csisolatin1", "ibm819", "iso8859", "iso8859_1", "iso_8859_1",
    "iso_8859_1_1987", "iso_ir_100", "l1", "latin", "latin1"], plain (.lowest 256)),
  ("charmap", [], plain (.lowest 256)),
  ("cp037", ["037", "csibm037", "ebcdic_cp_ca", "ebcdic_cp_nl", "ebcdic_cp_us", "ebcdic_cp_wt",
    "ibm037", "ibm039"], wholePage .cp037),
  ("cp273", ["273", "ibm273", "csibm273"], wholePage .cp273),
  ("cp424", ["424", "csibm424", "ebcdic_cp_he", "ibm424"], wholePage .cp424),
  ("cp437", ["437", "cspc8codepage437", "ibm437"], page .cp437),
  ("cp500", ["500", "csibm500", "ebcdic_cp_be", "ebcdic_cp_ch", "ibm500"], wholePage .cp500),
  ("cp720", [], page .cp720),
  ("cp737", [], page .cp737),
  ("cp775", ["775", "cspc775baltic", "ibm775"], page .cp775),
  ("cp850", ["850", "cspc850multilingual", "ibm850"], page .cp850),
  ("cp852", ["852", "cspcp852", "ibm852"], page .cp852),
  ("cp855", ["855", "csibm855", "ibm855"], page .cp855),
  ("cp856", [], page .cp856),
  ("cp857", ["857", "csibm857", "ibm857"], page .cp857),
  ("cp858", ["858", "csibm858", "ibm858"], page .cp858),
  ("cp860", ["860", "csibm860", "ibm860"], page .cp860),
  ("cp861", ["861", "cp_is", "csibm861", "ibm861"], page .cp861),
  ("cp862", ["862", "cspc862latinhebrew", "ibm862"], page .cp862),
  ("cp863", ["863", "csibm863", "ibm863"], page .cp863),
  ("cp864", ["864", "csibm864", "ibm864"], wholePage .cp864),
  ("cp865", ["865", "csibm865", "ibm865"], page .cp865),
  ("cp866", ["866", "csibm866", "ibm866"], page .cp866),
  ("cp869", ["869", "cp_gr", "csibm869", "ibm869"], page .cp869),
  ("cp874", [], page .cp874),
  ("cp875", [], wholePage .cp875),
  ("cp1006", [], page .cp1006),
  ("cp1026", ["1026", "csibm1026", "ibm1026"], wholePage .cp1026),
  ("cp1125", ["1125", "ibm1125", "cp866u", "ruscii"], page .cp1125),
  ("cp1140", ["1140", "ibm1140"], wholePage .cp1140),
  ("cp1250", ["1250", "windows_1250"], page .cp1250),
  ("cp1251", ["1251", "windows_1251"], page .cp1251),
  ("cp1252", ["1252", "windows_1252"], page .cp1252),
  ("cp1253", ["1253", "windows_1253"], page .cp1253),
  ("cp1254", ["1254", "windows_1254"], page .cp1254),
  ("cp1255", ["1255", "windows_1255"], page .cp1255),
  ("cp1256", ["1256", "windows_1256"], page .cp1256),
  ("cp1257", ["1257", "windows_1257"], page .cp1257),
  ("cp1258", ["1258", "windows_1258"], page .cp1258),
  ("hp_roman8", ["roman8", "r8", "cp1051", "ibm1051"], page .hpRoman8),
  ("iso8859_2", ["csisolatin2", "iso_8859_2", "iso_8859_2_1987", "iso_ir_101", "l2", "latin2"],
    page .iso8859x2),
  ("iso8859_3", ["csisolatin3", "iso_8859_3", "iso_8859_3_1988", "iso_ir_109", "l3", "latin3"],
    page .iso8859x3),
  ("iso8859_4", ["csisolatin4", "iso_8859_4", "iso_8859_4_1988", "iso_ir_110", "l4", "latin4"],
    page .iso8859x4),
  ("iso8859_5", ["csisolatincyrillic", "cyrillic", "iso_8859_5", "iso_8859_5_1988", "iso_ir_144"],
    page .iso8859x5),
  ("iso8859_6", ["arabic", "asmo_708", "csisolatinarabic", "ecma_114", "iso_8859_6",
    "iso_8859_6_1987", "iso_ir_127"], page .iso8859x6),
  ("iso8859_7", ["csisolatingreek", "ecma_118", "elot_928", "greek", "greek8", "iso_8859_7",
    "iso_8859_7_1987", "iso_ir_126"], page .iso8859x7),
  ("iso8859_8", ["csisolatinhebrew", "hebrew", "iso_8859_8", "iso_8859_8_1988", "iso_ir_138"],
    page .iso8859x8),
  ("iso8859_9", ["csisolatin5", "iso_8859_9", "iso_8859_9_1989", "iso_ir_148", "l5", "latin5"],
    page .iso8859x9),
  ("iso8859_10", ["csisolatin6", "iso_8859_10", "iso_8859_10_1992", "iso_ir_157", "l6", "latin6"],
    page .iso8859x10),
  ("iso8859_11", ["thai", "iso_8859_11", "iso_8859_11_2001"], page .iso8859x11),
  ("iso8859_13", ["iso_8859_13", "l7", "latin7"], page .iso8859x13),
  ("iso8859_14", ["iso_8859_14", "iso_8859_14_1998", "iso_celtic", "iso_ir_199", "l8", "latin8"],
    page .iso8859x14),
  ("iso8859_15", ["iso_8859_15", "l9", "latin9"], page .iso8859x15),
  ("iso8859_16", ["iso_8859_16", "iso_8859_16_2001", "iso_ir_226", "l10", "latin10"],
    page .iso8859x16),
  ("koi8_r", ["cskoi8r"], page .koi8R),
  ("koi8_t", [], page .koi8T),
  ("koi8_u", [], page .koi8U),
  ("kz1048", ["kz_1048", "rk1048", "strk1048_2002"], page .kz1048),
  ("mac_arabic", [], page .macArabic),
  ("mac_croatian", [], page .macCroatian),
  ("mac_cyrillic", ["maccyrillic"], page .macCyrillic),
  ("mac_farsi", [], page .macFarsi),
  ("mac_greek", ["macgreek"], page .macGreek),
  ("mac_iceland", ["maciceland"], page .macIceland),
  ("mac_latin2", ["maccentraleurope", "mac_centeuro", "maclatin2"], page .macLatin2),
  ("mac_roman", ["macintosh", "macroman"], page .macRoman),
  ("mac_romanian", [], page .macRomanian),
  ("mac_turkish", ["macturkish"], page .macTurkish),
  ("palmos", [], page .palmos),
  ("ptcp154", ["csptcp154", "pt154", "cp154", "cyrillic_asian"], page .ptcp154),
  ("tis_620", ["tis620", "tis_620_0", "tis_620_2529_0", "tis_620_2529_1", "iso_ir_166"],
    page .tis620),
  ("utf_7", ["u7", "utf7", "unicode_1_1_utf_7"], plain .utf7),
  ("utf_8", ["u8", "utf", "utf8", "utf8_ucs2", "utf8_ucs4", "cp65001"], plain .utf8),
  ("utf_8_sig", [], marked .utf8),
  ("utf_16", ["u16", "utf16"], marked (.utf16 .lowFirst)),
  ("utf_16_le", ["unicodelittleunmarked", "utf_16le"], plain (.utf16 .lowFirst)),
  ("utf_16_be", ["unicodebigunmarked", "utf_16be"], plain (.utf16 .highFirst)),
  ("utf_32", ["u32", "utf32"], marked (.utf32 .lowFirst)),
  ("utf_32_le", ["utf_32le"], plain (.utf32 .lowFirst)),
  ("utf_32_be", ["utf_32be"], plain (.utf32 .highFirst)),
  ("gb18030", ["gb18030_2000"], plain .gb18030),
  ("gb2312", ["chinese", "csiso58gb231280", "euc_cn", "euccn", "eucgb2312_cn", "gb2312_1980",
    "gb2312_80", "iso_ir_58", "x_mac_simp_chinese"], plain (.tables Chinese.eucCn)),
  ("gbk", ["936", "cp936", "ms936"], plain (.tables Chinese.gbk)),
  ("hz", ["hzgb", "hz_gb", "hz_gb_2312"], plain (.switched Chinese.hz)),
  ("big5", ["big5_tw", "csbig5", "x_mac_trad_chinese"], plain (.tables Chinese.big5)),
  ("cp950", ["950", "ms950"], plain (.tables Chinese.cp950Written)),
  ("big5hkscs", ["big5_hkscs", "hkscs"], plain (.tables Chinese.big5Hkscs)),
  ("shift_jis", ["csshiftjis", "shiftjis", "sjis", "s_jis", "x_mac_japanese"],
    plain (.tables Japanese.shiftJisWritten)),
  ("cp932", ["932", "ms932", "mskanji", "ms_kanji"], plain (.tables Japanese.cp932)),
  ("euc_jp", ["eucjp", "ujis", "u_jis"], plain (.tables Japanese.eucJpWritten)),
  ("euc_jisx0213", ["eucjisx0213"], plain (.tables (Japanese.jisX0213 .ascii))),
  ("euc_jis_2004", ["jisx0213", "eucjis2004", "euc_jis2004"],
    plain (.tables (Japanese.jisX0213 .ascii))),
  ("shift_jisx0213", ["shiftjisx0213", "sjisx0213", "s_jisx0213"],
    plain (.tables (Japanese.jisX0213 Japanese.oneByte))),
  ("shift_jis_2004", ["shiftjis2004", "sjis_2004", "s_jis_2004"],
    plain (.tables (Japanese.jisX0213 Japanese.oneByte))),
  ("iso2022_jp", ["csiso2022jp", "iso2022jp", "iso_2022_jp"],
    announced [Japanese.jis, Japanese.romanJis]),
  ("iso2022_jp_1", ["iso2022jp_1", "iso_2022_jp_1"],
    announced [Japanese.jis, Japanese.further, Japanese.romanJis]),
  ("iso2022_jp_2", ["iso2022jp_2", "iso_2022_jp_2"],
    announced
      [Japanese.jis, Japanese.further, Japanese.korean, Japanese.chinese "$(A", Japanese.romanJis]),
  ("iso2022_jp_3", ["iso2022jp_3", "iso_2022_jp_3"], announced Japanese.withPlanes),
  ("iso2022_jp_2004", ["iso_2022_jp_2004", "iso2022jp_2004"], announced Japanese.withPlanes),
  ("iso2022_jp_ext", ["iso2022jp_ext", "iso_2022_jp_ext"],
    announced [Japanese.jis, Japanese.further, Japanese.romanJis, Japanese.halfWidthJis]),
  ("euc_kr", ["euckr", "korean", "ksc5601", "ks_c_5601", "ks_c_5601_1987", "ksx1001",
    "ks_x_1001", "x_mac_korean"], plain (.tables Korean.eucKrWritten)),
  ("cp949", ["949", "ms949", "uhc"], plain (.tables Korean.cp949)),
  ("johab", ["cp1361", "ms1361"], plain (.tables Korean.johabWritten)),
  ("iso2022_kr", ["csiso2022kr", "iso2022kr", "iso_2022_kr"], plain (.switched Korean.switched)),
  ("unicode_escape", [], plain (.spelled true)),
  ("raw_unicode_escape", [], plain (.spelled false)),
  ("punycode", [], plain .punycode),
  ("idna", [], plain .hostNames),
  ("undefined", [], plain .nothing)]

def isNameChar (c : Char) : Bool := c.isAlphanum || c == '.'

/-- Letters and digits in lower case; one low line for whatever stands between them. -/
def normalized : (gap : Bool) → List Char → List Char
  | _, [] => []
  | gap, c :: cs =>
    if isNameChar c then
      if gap then '_' :: c.toLower :: normalized false cs else c.toLower :: normalized false cs
    else normalized true cs

def normalizedName (name : String) : String :=
  String.ofList (normalized false (name.toList.dropWhile fun c => !isNameChar c))

def withoutPoints (name : String) : String :=
  String.ofList (name.toList.map fun c => if c == '.' then '_' else c)

/-- The form with a name. Other names come first, and only those may have points. -/
def named? (name : String) : Option WrittenForm :=
  let n := normalizedName name
  let other (s : String) := (all.find? fun (_, others, _) => others.contains s).map (·.2.2)
  (other n).or ((other (withoutPoints n)).or
    ((all.find? fun (own, _, _) => own == n).map (·.2.2)))

def encode (f : WrittenForm) (s : String) : Except Refusal (List UInt8) :=
  (f.encoding.encode s.toList).map (f.mark ++ ·)

end WrittenForm

end TemplateLexer.Text
