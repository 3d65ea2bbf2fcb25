import SourceConventions.Octets.CodePage

/-!
# Code pages of ISO 8859
-/

namespace SourceConventions.CodePage

/-- The control characters of the octets from `0x80` on. -/
def controls : String :=
  "\u0080\u0081\u0082\u0083\u0084\u0085\u0086\u0087\u0088\u0089\u008a\u008b\u008c\u008d" ++
  "\u008e\u008f\u0090\u0091\u0092\u0093\u0094\u0095\u0096\u0097\u0098\u0099\u009a\u009b" ++
  "\u009c\u009d\u009e\u009f"

def latin2 : CodePage := ⟨
  controls ++
  "\u00a0Ą˘Ł¤ĽŚ§¨ŠŞŤŹ\u00adŽŻ°ą˛ł´ľśˇ¸šşťź˝žż" ++
  "ŔÁÂĂÄĹĆÇČÉĘËĚÍÎĎĐŃŇÓÔŐÖ×ŘŮÚŰÜÝŢß" ++
  "ŕáâăäĺćçčéęëěíîďđńňóôőö÷řůúűüýţ˙"⟩

def latin3 : CodePage := ⟨
  controls ++
  "\u00a0Ħ˘£¤\ufffeĤ§¨İŞĞĴ\u00ad\ufffeŻ°ħ²³´µĥ·¸ışğĵ½\ufffeż" ++
  "ÀÁÂ\ufffeÄĊĈÇÈÉÊËÌÍÎÏ\ufffeÑÒÓÔĠÖ×ĜÙÚÛÜŬŜß" ++
  "àáâ\ufffeäċĉçèéêëìíîï\ufffeñòóôġö÷ĝùúûüŭŝ˙"⟩

def latin4 : CodePage := ⟨
  controls ++
  "\u00a0ĄĸŖ¤ĨĻ§¨ŠĒĢŦ\u00adŽ¯°ą˛ŗ´ĩļˇ¸šēģŧŊžŋ" ++
  "ĀÁÂÃÄÅÆĮČÉĘËĖÍÎĪĐŅŌĶÔÕÖ×ØŲÚÛÜŨŪß" ++
  "āáâãäåæįčéęëėíîīđņōķôõö÷øųúûüũū˙"⟩

def cyrillic : CodePage := ⟨
  controls ++
  "\u00a0ЁЂЃЄЅІЇЈЉЊЋЌ\u00adЎЏАБВГДЕЖЗИЙКЛМНОП" ++
  "РСТУФХЦЧШЩЪЫЬЭЮЯабвгдежзийклмноп" ++
  "рстуфхцчшщъыьэюя№ёђѓєѕіїјљњћќ§ўџ"⟩

def arabic : CodePage := ⟨
  controls ++
  "\u00a0\ufffe\ufffe\ufffe¤\ufffe\ufffe\ufffe\ufffe\ufffe\ufffe\ufffe،\u00ad\ufffe\ufffe" ++
  "\ufffe\ufffe\ufffe\ufffe\ufffe\ufffe\ufffe\ufffe\ufffe\ufffe\ufffe؛\ufffe\ufffe\ufffe؟" ++
  "\ufffeءآأؤإئابةتثجحخدذرزسشصضطظعغ\ufffe\ufffe\ufffe\ufffe\ufffe" ++
  "ـفقكلمنهوىي\u064b\u064c\u064d\u064e\u064f\u0650\u0651\u0652\ufffe\ufffe\ufffe\ufffe" ++
  "\ufffe\ufffe\ufffe\ufffe\ufffe\ufffe\ufffe\ufffe\ufffe"⟩

def greek : CodePage := ⟨
  controls ++
  "\u00a0‘’£€₯¦§¨\u00a9ͺ«¬\u00ad\ufffe―°±²³΄΅Ά·ΈΉΊ»Ό½ΎΏ" ++
  "ΐΑΒΓΔΕΖΗΘΙΚΛΜΝΞΟΠΡ\ufffeΣΤΥΦΧΨΩΪΫάέήί" ++
  "ΰαβγδεζηθικλμνξοπρςστυφχψωϊϋόύώ\ufffe"⟩

def hebrew : CodePage := ⟨
  controls ++
  "\u00a0\ufffe¢£¤¥¦§¨\u00a9×«¬\u00ad®¯°±²³´µ¶·¸¹÷»¼½¾\ufffe" ++
  "\ufffe\ufffe\ufffe\ufffe\ufffe\ufffe\ufffe\ufffe\ufffe\ufffe\ufffe\ufffe\ufffe\ufffe" ++
  "\ufffe\ufffe\ufffe\ufffe\ufffe\ufffe\ufffe\ufffe\ufffe\ufffe\ufffe\ufffe\ufffe\ufffe" ++
  "\ufffe\ufffe\ufffe‗" ++
  "אבגדהוזחטיךכלםמןנסעףפץצקרשת\ufffe\ufffe\u200e\u200f\ufffe"⟩

def latin5 : CodePage := ⟨
  controls ++
  "\u00a0¡¢£¤¥¦§¨\u00a9ª«¬\u00ad®¯°±²³´µ¶·¸¹º»¼½¾¿" ++
  "ÀÁÂÃÄÅÆÇÈÉÊËÌÍÎÏĞÑÒÓÔÕÖ×ØÙÚÛÜİŞß" ++
  "àáâãäåæçèéêëìíîïğñòóôõö÷øùúûüışÿ"⟩

def latin6 : CodePage := ⟨
  controls ++
  "\u00a0ĄĒĢĪĨĶ§ĻĐŠŦŽ\u00adŪŊ°ąēģīĩķ·ļđšŧž―ūŋ" ++
  "ĀÁÂÃÄÅÆĮČÉĘËĖÍÎÏÐŅŌÓÔÕÖŨØŲÚÛÜÝÞß" ++
  "āáâãäåæįčéęëėíîïðņōóôõöũøųúûüýþĸ"⟩

def thai : CodePage := ⟨
  controls ++
  "\u00a0กขฃคฅฆงจฉชซฌญฎฏฐฑฒณดตถทธนบปผฝพฟ" ++
  "ภมยรฤลฦวศษสหฬอฮฯะ\u0e31าำ\u0e34\u0e35\u0e36\u0e37\u0e38\u0e39\u0e3a\ufffe\ufffe\ufffe" ++
  "\ufffe฿" ++
  "เแโใไๅๆ\u0e47\u0e48\u0e49\u0e4a\u0e4b\u0e4c\u0e4d\u0e4e๏๐๑๒๓๔๕๖๗๘๙๚๛\ufffe\ufffe\ufffe" ++
  "\ufffe"⟩

def latin7 : CodePage := ⟨
  controls ++
  "\u00a0”¢£¤„¦§Ø\u00a9Ŗ«¬\u00ad®Æ°±²³“µ¶·ø¹ŗ»¼½¾æ" ++
  "ĄĮĀĆÄÅĘĒČÉŹĖĢĶĪĻŠŃŅÓŌÕÖ×ŲŁŚŪÜŻŽß" ++
  "ąįāćäåęēčéźėģķīļšńņóōõö÷ųłśūüżž’"⟩

def latin8 : CodePage := ⟨
  controls ++
  "\u00a0Ḃḃ£ĊċḊ§Ẁ\u00a9ẂḋỲ\u00ad®ŸḞḟĠġṀṁ¶ṖẁṗẃṠỳẄẅṡ" ++
  "ÀÁÂÃÄÅÆÇÈÉÊËÌÍÎÏŴÑÒÓÔÕÖṪØÙÚÛÜÝŶß" ++
  "àáâãäåæçèéêëìíîïŵñòóôõöṫøùúûüýŷÿ"⟩

def latin9 : CodePage := ⟨
  controls ++
  "\u00a0¡¢£€¥Š§š\u00a9ª«¬\u00ad®¯°±²³Žµ¶·ž¹º»ŒœŸ¿" ++
  "ÀÁÂÃÄÅÆÇÈÉÊËÌÍÎÏÐÑÒÓÔÕÖ×ØÙÚÛÜÝÞß" ++
  "àáâãäåæçèéêëìíîïðñòóôõö÷øùúûüýþÿ"⟩

def latin10 : CodePage := ⟨
  controls ++
  "\u00a0ĄąŁ€„Š§š\u00a9Ș«Ź\u00adźŻ°±ČłŽ”¶·žčș»ŒœŸż" ++
  "ÀÁÂĂÄĆÆÇÈÉÊËÌÍÎÏĐŃÒÓÔŐÖŚŰÙÚÛÜĘȚß" ++
  "àáâăäćæçèéêëìíîïđńòóôőöśűùúûüęțÿ"⟩

/-- The code pages of ISO 8859 with the names of each, its own one first. -/
def isoPages : List (CodePage × List String) := [
  (latin2, ["iso8859_2", "csisolatin2", "iso_8859_2", "iso_8859_2_1987", "iso_ir_101", "l2",
    "latin2"]),
  (latin3, ["iso8859_3", "csisolatin3", "iso_8859_3", "iso_8859_3_1988", "iso_ir_109", "l3",
    "latin3"]),
  (latin4, ["iso8859_4", "csisolatin4", "iso_8859_4", "iso_8859_4_1988", "iso_ir_110", "l4",
    "latin4"]),
  (cyrillic, ["iso8859_5", "csisolatincyrillic", "cyrillic", "iso_8859_5", "iso_8859_5_1988",
    "iso_ir_144"]),
  (arabic, ["iso8859_6", "arabic", "asmo_708", "csisolatinarabic", "ecma_114", "iso_8859_6",
    "iso_8859_6_1987", "iso_ir_127"]),
  (greek, ["iso8859_7", "csisolatingreek", "ecma_118", "elot_928", "greek", "greek8",
    "iso_8859_7", "iso_8859_7_1987", "iso_ir_126"]),
  (hebrew, ["iso8859_8", "csisolatinhebrew", "hebrew", "iso_8859_8", "iso_8859_8_1988",
    "iso_ir_138"]),
  (latin5, ["iso8859_9", "csisolatin5", "iso_8859_9", "iso_8859_9_1989", "iso_ir_148", "l5",
    "latin5"]),
  (latin6, ["iso8859_10", "csisolatin6", "iso_8859_10", "iso_8859_10_1992", "iso_ir_157", "l6",
    "latin6"]),
  (thai, ["iso8859_11", "iso_8859_11", "iso_8859_11_2001", "thai"]),
  (latin7, ["iso8859_13", "iso_8859_13", "l7", "latin7"]),
  (latin8, ["iso8859_14", "iso_8859_14", "iso_8859_14_1998", "iso_celtic", "iso_ir_199", "l8",
    "latin8"]),
  (latin9, ["iso8859_15", "iso_8859_15", "l9", "latin9"]),
  (latin10, ["iso8859_16", "iso_8859_16", "iso_8859_16_2001", "iso_ir_226", "l10", "latin10"])]

end SourceConventions.CodePage
