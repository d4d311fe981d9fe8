import TemplateLexer.Text.Charset

set_option autoImplicit false

namespace TemplateLexer.Text.Charset

def cp720 : Charset := ⟨[
  (0x80, "\u0080\u0081éâ\u0084à\u0086çêëèïî\u008d\u008e\u008f\u0090\u0651\u0652ô¤ـûùءآأؤ£إئابةتثج"),
  (0xa5, "حخدذرزسشص«»░▒▓│┤╡╢╖╕╣║╗╝╜╛┐"),
  (0xc0, "└┴┬├─┼╞╟╚╔╩╦╠═╬╧╨╤╥╙╘╒╓╫╪┘┌█▄▌▐▀ضطظعغفµقكلمنهوىي≡\u064b\u064c\u064d\u064e\u064f\u0650≈°"),
  (0xf9, "∙·√ⁿ²■\u00a0")]⟩

def cp874 : Charset := ⟨[
  (0x80, "€"),
  (0x85, "…"),
  (0x91, "‘’“”•–—"),
  (0xa0, "\u00a0กขฃคฅฆงจฉชซฌญฎฏฐฑฒณดตถทธนบปผฝพฟภมยรฤลฦวศษสหฬอฮฯะ\u0e31าำ\u0e34\u0e35\u0e36\u0e37"),
  (0xd8, "\u0e38\u0e39\u0e3a"),
  (0xdf, "฿เแโใไๅๆ\u0e47\u0e48\u0e49\u0e4a\u0e4b\u0e4c\u0e4d\u0e4e๏๐๑๒๓๔๕๖๗๘๙๚๛")]⟩

def cp1250 : Charset := ⟨[
  (0x80, "€\ufffd‚\ufffd„…†‡\ufffd‰Š‹ŚŤŽŹ\ufffd‘’“”•–—\ufffd™š›śťžź\u00a0ˇ˘Ł¤Ą¦§¨©Ş«¬\u00ad®Ż°±˛ł"),
  (0xb4, "´µ¶·¸ąş»Ľ˝ľż"),
  (0xc0, "ŔÁÂĂÄĹĆÇČÉĘËĚÍÎĎĐŃŇÓÔŐÖ×ŘŮÚŰÜÝŢßŕáâăäĺćçčéęëěíîďđńňóôőö÷řůúűüýţ˙")]⟩

def cp1251 : Charset := ⟨[
  (0x80, "ЂЃ‚ѓ„…†‡€‰Љ‹ЊЌЋЏђ‘’“”•–—\ufffd™љ›њќћџ\u00a0ЎўЈ¤Ґ¦§Ё©Є«¬\u00ad®Ї°±Ііґµ¶·ё№є»јЅѕї"),
  (0xc0, "АБВГДЕЖЗИЙКЛМНОПРСТУФХЦЧШЩЪЫЬЭЮЯабвгдежзийклмнопрстуфхцчшщъыьэюя")]⟩

def cp1252 : Charset := ⟨[
  (0x80, "€\ufffd‚ƒ„…†‡ˆ‰Š‹Œ\ufffdŽ\ufffd\ufffd‘’“”•–—˜™š›œ\ufffdžŸ\u00a0¡¢£¤¥¦§¨©ª«¬\u00ad®¯°±²³"),
  (0xb4, "´µ¶·¸¹º»¼½¾¿"),
  (0xc0, "ÀÁÂÃÄÅÆÇÈÉÊËÌÍÎÏÐÑÒÓÔÕÖ×ØÙÚÛÜÝÞßàáâãäåæçèéêëìíîïðñòóôõö÷øùúûüýþÿ")]⟩

def cp1253 : Charset := ⟨[
  (0x80, "€\ufffd‚ƒ„…†‡\ufffd‰\ufffd‹"),
  (0x91, "‘’“”•–—\ufffd™\ufffd›"),
  (0xa0, "\u00a0΅Ά£¤¥¦§¨©\ufffd«¬\u00ad®―°±²³΄µ¶·ΈΉΊ»Ό½ΎΏΐΑΒΓΔΕΖΗΘΙΚΛΜΝΞΟΠΡ\ufffdΣΤΥΦΧΨΩΪΫάέήί"),
  (0xe0, "ΰαβγδεζηθικλμνξοπρςστυφχψωϊϋόύώ")]⟩

def cp1254 : Charset := ⟨[
  (0x80, "€\ufffd‚ƒ„…†‡ˆ‰Š‹Œ"),
  (0x91, "‘’“”•–—˜™š›œ\ufffd\ufffdŸ\u00a0¡¢£¤¥¦§¨©ª«¬\u00ad®¯°±²³´µ¶·¸¹º»¼½¾¿ÀÁÂÃÄÅÆÇÈÉÊËÌÍÎÏĞ"),
  (0xd1, "ÑÒÓÔÕÖ×ØÙÚÛÜİŞßàáâãäåæçèéêëìíîïğñòóôõö÷øùúûüışÿ")]⟩

def cp1255 : Charset := ⟨[
  (0x80, "€\ufffd‚ƒ„…†‡ˆ‰\ufffd‹"),
  (0x91, "‘’“”•–—˜™\ufffd›"),
  (0xa0, "\u00a0¡¢£₪¥¦§¨©×«¬\u00ad®¯°±²³´µ¶·¸¹÷»¼½¾¿\u05b0\u05b1\u05b2\u05b3\u05b4\u05b5\u05b6"),
  (0xc7, "\u05b7\u05b8\u05b9\ufffd\u05bb\u05bc\u05bd־\u05bf׀\u05c1\u05c2׃װױײ׳״"),
  (0xe0, "אבגדהוזחטיךכלםמןנסעףפץצקרשת\ufffd\ufffd\u200e\u200f")]⟩

def cp1256 : Charset := ⟨[
  (0x80, "€پ‚ƒ„…†‡ˆ‰ٹ‹Œچژڈگ‘’“”•–—ک™ڑ›œ\u200c\u200dں\u00a0،¢£¤¥¦§¨©ھ«¬\u00ad®¯°±²³´µ¶·¸¹؛»¼½¾؟"),
  (0xc0, "ہءآأؤإئابةتثجحخدذرزسشصض×طظعغـفقكàلâمنهوçèéêëىيîï\u064b\u064c\u064d\u064eô\u064f\u0650÷"),
  (0xf8, "\u0651ù\u0652ûü\u200e\u200fے")]⟩

def cp1257 : Charset := ⟨[
  (0x80, "€\ufffd‚\ufffd„…†‡\ufffd‰\ufffd‹\ufffd¨ˇ¸\ufffd‘’“”•–—\ufffd™\ufffd›\ufffd¯˛\ufffd"),
  (0xa0, "\u00a0\ufffd¢£¤\ufffd¦§Ø©Ŗ«¬\u00ad®Æ°±²³´µ¶·ø¹ŗ»¼½¾æ"),
  (0xc0, "ĄĮĀĆÄÅĘĒČÉŹĖĢĶĪĻŠŃŅÓŌÕÖ×ŲŁŚŪÜŻŽßąįāćäåęēčéźėģķīļšńņóōõö÷ųłśūüżž˙")]⟩

def cp1258 : Charset := ⟨[
  (0x80, "€\ufffd‚ƒ„…†‡ˆ‰\ufffd‹Œ"),
  (0x91, "‘’“”•–—˜™\ufffd›œ\ufffd\ufffdŸ\u00a0¡¢£¤¥¦§¨©ª«¬\u00ad®¯°±²³´µ¶·¸¹º»¼½¾¿ÀÁÂĂÄÅÆÇÈÉÊË"),
  (0xcc, "\u0300ÍÎÏĐ"),
  (0xd1, "Ñ\u0309ÓÔƠÖ×ØÙÚÛÜƯ\u0303ßàáâăäåæçèéêë\u0301íîïđñ\u0323óôơö÷øùúûüư₫ÿ")]⟩

def palmos : Charset := ⟨[
  (0x80, "€\u0081‚ƒ„…†‡ˆ‰Š‹Œ♦♣♥♠‘’“”•–—˜™š\u009bœ\u009d\u009eŸ\u00a0¡¢£¤¥¦§¨©ª«¬\u00ad®¯°±²³´µ¶·¸"),
  (0xb9, "¹º»¼½¾¿"),
  (0xc0, "ÀÁÂÃÄÅÆÇÈÉÊËÌÍÎÏÐÑÒÓÔÕÖ×ØÙÚÛÜÝÞßàáâãäåæçèéêëìíîïðñòóôõö÷øùúûüýþÿ")]⟩

end TemplateLexer.Text.Charset
