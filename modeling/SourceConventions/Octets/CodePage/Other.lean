import SourceConventions.Octets.CodePage

/-!
# Code pages of EBCDIC, of the Macintosh and of other origins
-/

namespace SourceConventions.CodePage

/-- The control characters of the octets below `0x40`. -/
def controls037 : String :=
  "\u0000\u0001\u0002\u0003\u009c\u0009\u0086\u007f\u0097\u008d\u008e\u000b\u000c\u000d" ++
  "\u000e\u000f\u0010\u0011\u0012\u0013\u009d\u0085\u0008\u0087\u0018\u0019\u0092\u008f" ++
  "\u001c\u001d\u001e\u001f" ++
  "\u0080\u0081\u0082\u0083\u0084\u000a\u0017\u001b\u0088\u0089\u008a\u008b\u008c\u0005" ++
  "\u0006\u0007\u0090\u0091\u0016\u0093\u0094\u0095\u0096\u0004\u0098\u0099\u009a\u009b" ++
  "\u0014\u0015\u009e\u001a"

def ebcdic037 : CodePage := ⟨
  controls037 ++
  " \u00a0âäàáãåçñ¢.<(+|&éêëèíîïìß!$*);¬" ++
  "-/ÂÄÀÁÃÅÇÑ¦,%_>?øÉÊËÈÍÎÏÌ\x60:#@'=\"" ++
  "Øabcdefghi«»ðýþ±°jklmnopqrªºæ¸Æ¤" ++
  "µ~stuvwxyz¡¿ÐÝÞ®^£¥·\u00a9§¶¼½¾[]¯¨´×" ++
  "\x7bABCDEFGHI\u00adôöòóõ\x7dJKLMNOPQR¹ûüùúÿ" ++
  "\\÷STUVWXYZ²ÔÖÒÓÕ0123456789³ÛÜÙÚ\u009f"⟩

def ebcdic273 : CodePage := ⟨
  controls037 ++
  " \u00a0â\x7bàáãåçñÄ.<(+!&éêëèíîïì~Ü$*);^" ++
  "-/Â[ÀÁÃÅÇÑö,%_>?øÉÊËÈÍÎÏÌ\x60:#§'=\"" ++
  "Øabcdefghi«»ðýþ±°jklmnopqrªºæ¸Æ¤" ++
  "µßstuvwxyz¡¿ÐÝÞ®¢£¥·\u00a9@¶¼½¾¬|‾¨´×" ++
  "äABCDEFGHI\u00adô¦òóõüJKLMNOPQR¹û\x7dùúÿ" ++
  "Ö÷STUVWXYZ²Ô\\ÒÓÕ0123456789³Û]ÙÚ\u009f"⟩

def ebcdic424 : CodePage := ⟨
  controls037 ++
  " אבגדהוזחט¢.<(+|&יךכלםמןנס!$*);¬" ++
  "-/עףפץצקרש¦,%_>?\ufffeת\ufffe\ufffe\u00a0\ufffe\ufffe\ufffe‗\x60:#@'=\"" ++
  "\ufffeabcdefghi«»\ufffe\ufffe\ufffe±°jklmnopqr\ufffe\ufffe\ufffe¸\ufffe¤" ++
  "µ~stuvwxyz\ufffe\ufffe\ufffe\ufffe\ufffe®^£¥·\u00a9§¶¼½¾[]¯¨´×" ++
  "\x7bABCDEFGHI\u00ad\ufffe\ufffe\ufffe\ufffe\ufffe\x7dJKLMNOPQR¹\ufffe\ufffe\ufffe\ufffe" ++
  "\ufffe" ++
  "\\÷STUVWXYZ²\ufffe\ufffe\ufffe\ufffe\ufffe0123456789³\ufffe\ufffe\ufffe\ufffe\u009f"⟩

def ebcdic500 : CodePage := ⟨
  controls037 ++
  " \u00a0âäàáãåçñ[.<(+!&éêëèíîïìß]$*);^" ++
  "-/ÂÄÀÁÃÅÇÑ¦,%_>?øÉÊËÈÍÎÏÌ\x60:#@'=\"" ++
  "Øabcdefghi«»ðýþ±°jklmnopqrªºæ¸Æ¤" ++
  "µ~stuvwxyz¡¿ÐÝÞ®¢£¥·\u00a9§¶¼½¾¬|¯¨´×" ++
  "\x7bABCDEFGHI\u00adôöòóõ\x7dJKLMNOPQR¹ûüùúÿ" ++
  "\\÷STUVWXYZ²ÔÖÒÓÕ0123456789³ÛÜÙÚ\u009f"⟩

def ebcdic875 : CodePage := ⟨
  controls037 ++
  " ΑΒΓΔΕΖΗΘΙ[.<(+!&ΚΛΜΝΞΟΠΡΣ]$*);^" ++
  "-/ΤΥΦΧΨΩΪΫ|,%_>?¨ΆΈΉ\u00a0ΊΌΎΏ\x60:#@'=\"" ++
  "΅abcdefghiαβγδεζ°jklmnopqrηθικλμ" ++
  "´~stuvwxyzνξοπρσ£άέήϊίόύϋώςτυφχψ" ++
  "\x7bABCDEFGHI\u00adωΐΰ‘―\x7dJKLMNOPQR±½\u001a·’¦" ++
  "\\\u001aSTUVWXYZ²§\u001a\u001a«¬0123456789³\u00a9\u001a\u001a»\u009f"⟩

def ebcdic1026 : CodePage := ⟨
  controls037 ++
  " \u00a0âäàáãå\x7bñÇ.<(+!&éêëèíîïìßĞİ*);^" ++
  "-/ÂÄÀÁÃÅ[Ñş,%_>?øÉÊËÈÍÎÏÌı:ÖŞ'=Ü" ++
  "Øabcdefghi«»\x7d\x60¦±°jklmnopqrªºæ¸Æ¤" ++
  "µöstuvwxyz¡¿]$@®¢£¥·\u00a9§¶¼½¾¬|¯¨´×" ++
  "çABCDEFGHI\u00adô~òóõğJKLMNOPQR¹û\\ùúÿ" ++
  "ü÷STUVWXYZ²Ô#ÒÓÕ0123456789³Û\"ÙÚ\u009f"⟩

def ebcdic1140 : CodePage := ⟨
  controls037 ++
  " \u00a0âäàáãåçñ¢.<(+|&éêëèíîïìß!$*);¬" ++
  "-/ÂÄÀÁÃÅÇÑ¦,%_>?øÉÊËÈÍÎÏÌ\x60:#@'=\"" ++
  "Øabcdefghi«»ðýþ±°jklmnopqrªºæ¸Æ€" ++
  "µ~stuvwxyz¡¿ÐÝÞ®^£¥·\u00a9§¶¼½¾[]¯¨´×" ++
  "\x7bABCDEFGHI\u00adôöòóõ\x7dJKLMNOPQR¹ûüùúÿ" ++
  "\\÷STUVWXYZ²ÔÖÒÓÕ0123456789³ÛÜÙÚ\u009f"⟩

/-- The code pages of EBCDIC with the names of each, its own one first. -/
def ebcdicPages : List (CodePage × List String) := [
  (ebcdic037, ["cp037", "037", "csibm037", "ebcdic_cp_ca", "ebcdic_cp_nl", "ebcdic_cp_us",
    "ebcdic_cp_wt", "ibm037", "ibm039"]),
  (ebcdic273, ["cp273", "273", "csibm273", "ibm273"]),
  (ebcdic424, ["cp424", "424", "csibm424", "ebcdic_cp_he", "ibm424"]),
  (ebcdic500, ["cp500", "500", "csibm500", "ebcdic_cp_be", "ebcdic_cp_ch", "ibm500"]),
  (ebcdic875, ["cp875"]),
  (ebcdic1026, ["cp1026", "1026", "csibm1026", "ibm1026"]),
  (ebcdic1140, ["cp1140", "1140", "ibm1140"])]

def macArabic : CodePage := ⟨
  "Ä\u00a0ÇÉÑÖÜáàâäں«çéèêëí…îïñó»ôö÷úùûü" ++
  " !\"#$٪&'()*+،-./٠١٢٣٤٥٦٧٨٩:؛<=>؟" ++
  "❊ءآأؤإئابةتثجحخدذرزسشصضطظعغ[\\]^_" ++
  "ـفقكلمنهوىي\u064b\u064c\u064d\u064e\u064f\u0650\u0651\u0652پٹچەڤگڈڑ\x7b|\x7dژے"⟩

def macCroatian : CodePage := ⟨
  "ÄÅÇÉÑÖÜáàâäãåçéèêëíìîïñóòôöõúùûü" ++
  "†°¢£§•¶ß®Š™´¨≠ŽØ∞±≤≥∆µ∂∑∏š∫ªºΩžø" ++
  "¿¡¬√ƒ≈Ć«Č…\u00a0ÀÃÕŒœĐ—“”‘’÷◊\uf8ff\u00a9⁄€‹›Æ»" ++
  "–·‚„‰ÂćÁčÈÍÎÏÌÓÔđÒÚÛÙıˆ˜¯πË˚¸Êæˇ"⟩

def macCyrillic : CodePage := ⟨
  "АБВГДЕЖЗИЙКЛМНОПРСТУФХЦЧШЩЪЫЬЭЮЯ" ++
  "†°Ґ£§•¶І®\u00a9™Ђђ≠Ѓѓ∞±≤≥іµґЈЄєЇїЉљЊњ" ++
  "јЅ¬√ƒ≈∆«»…\u00a0ЋћЌќѕ–—“”‘’÷„ЎўЏџ№Ёёя" ++
  "абвгдежзийклмнопрстуфхцчшщъыьэю€"⟩

def macFarsi : CodePage := ⟨
  "Ä\u00a0ÇÉÑÖÜáàâäں«çéèêëí…îïñó»ôö÷úùûü" ++
  " !\"#$٪&'()*+،-./۰۱۲۳۴۵۶۷۸۹:؛<=>؟" ++
  "❊ءآأؤإئابةتثجحخدذرزسشصضطظعغ[\\]^_" ++
  "ـفقكلمنهوىي\u064b\u064c\u064d\u064e\u064f\u0650\u0651\u0652پٹچەڤگڈڑ\x7b|\x7dژے"⟩

def macGreek : CodePage := ⟨
  "Ä¹²É³ÖÜ΅àâä΄¨çéèêë£™îï•½‰ôö¦€ùûü" ++
  "†ΓΔΘΛΞΠß®\u00a9ΣΪ§≠°·Α±≤≥¥ΒΕΖΗΙΚΜΦΫΨΩ" ++
  "άΝ¬ΟΡ≈Τ«»…\u00a0ΥΧΆΈœ–―“”‘’÷ΉΊΌΎέήίόΏ" ++
  "ύαβψδεφγηιξκλμνοπώρστθωςχυζϊϋΐΰ\u00ad"⟩

def macIceland : CodePage := ⟨
  "ÄÅÇÉÑÖÜáàâäãåçéèêëíìîïñóòôöõúùûü" ++
  "Ý°¢£§•¶ß®\u00a9™´¨≠ÆØ∞±≤≥¥µ∂∑∏π∫ªºΩæø" ++
  "¿¡¬√ƒ≈∆«»…\u00a0ÀÃÕŒœ–—“”‘’÷◊ÿŸ⁄€ÐðÞþ" ++
  "ý·‚„‰ÂÊÁËÈÍÎÏÌÓÔ\uf8ffÒÚÛÙıˆ˜¯˘˙˚¸˝˛ˇ"⟩

def macLatin2 : CodePage := ⟨
  "ÄĀāÉĄÖÜáąČäčĆćéŹźĎíďĒēĖóėôöõúĚěü" ++
  "†°Ę£§•¶ß®\u00a9™ę¨≠ģĮįĪ≤≥īĶ∂∑łĻļĽľĹĺŅ" ++
  "ņŃ¬√ńŇ∆«»…\u00a0ňŐÕőŌ–—“”‘’÷◊ōŔŕŘ‹›řŖ" ++
  "ŗŠ‚„šŚśÁŤťÍŽžŪÓÔūŮÚůŰűŲųÝýķŻŁżĢˇ"⟩

def macRoman : CodePage := ⟨
  "ÄÅÇÉÑÖÜáàâäãåçéèêëíìîïñóòôöõúùûü" ++
  "†°¢£§•¶ß®\u00a9™´¨≠ÆØ∞±≤≥¥µ∂∑∏π∫ªºΩæø" ++
  "¿¡¬√ƒ≈∆«»…\u00a0ÀÃÕŒœ–—“”‘’÷◊ÿŸ⁄€‹›ﬁﬂ" ++
  "‡·‚„‰ÂÊÁËÈÍÎÏÌÓÔ\uf8ffÒÚÛÙıˆ˜¯˘˙˚¸˝˛ˇ"⟩

def macRomanian : CodePage := ⟨
  "ÄÅÇÉÑÖÜáàâäãåçéèêëíìîïñóòôöõúùûü" ++
  "†°¢£§•¶ß®\u00a9™´¨≠ĂȘ∞±≤≥¥µ∂∑∏π∫ªºΩăș" ++
  "¿¡¬√ƒ≈∆«»…\u00a0ÀÃÕŒœ–—“”‘’÷◊ÿŸ⁄€‹›Țț" ++
  "‡·‚„‰ÂÊÁËÈÍÎÏÌÓÔ\uf8ffÒÚÛÙıˆ˜¯˘˙˚¸˝˛ˇ"⟩

def macTurkish : CodePage := ⟨
  "ÄÅÇÉÑÖÜáàâäãåçéèêëíìîïñóòôöõúùûü" ++
  "†°¢£§•¶ß®\u00a9™´¨≠ÆØ∞±≤≥¥µ∂∑∏π∫ªºΩæø" ++
  "¿¡¬√ƒ≈∆«»…\u00a0ÀÃÕŒœ–—“”‘’÷◊ÿŸĞğİıŞş" ++
  "‡·‚„‰ÂÊÁËÈÍÎÏÌÓÔ\uf8ffÒÚÛÙ\uf8a0ˆ˜¯˘˙˚¸˝˛ˇ"⟩

/-- The code pages of the Macintosh with the names of each, its own one first. -/
def macPages : List (CodePage × List String) := [
  (macArabic, ["mac_arabic"]),
  (macCroatian, ["mac_croatian"]),
  (macCyrillic, ["mac_cyrillic", "maccyrillic"]),
  (macFarsi, ["mac_farsi"]),
  (macGreek, ["mac_greek", "macgreek"]),
  (macIceland, ["mac_iceland", "maciceland"]),
  (macLatin2, ["mac_latin2", "mac_centeuro", "maccentraleurope", "maclatin2"]),
  (macRoman, ["mac_roman", "macintosh", "macroman"]),
  (macRomanian, ["mac_romanian"]),
  (macTurkish, ["mac_turkish", "macturkish"])]

def urdu1006 : CodePage := ⟨
  "\u0080\u0081\u0082\u0083\u0084\u0085\u0086\u0087\u0088\u0089\u008a\u008b\u008c\u008d" ++
  "\u008e\u008f\u0090\u0091\u0092\u0093\u0094\u0095\u0096\u0097\u0098\u0099\u009a\u009b" ++
  "\u009c\u009d\u009e\u009f" ++
  "\u00a0۰۱۲۳۴۵۶۷۸۹،؛\u00ad؟ﺁﺍﺎﺎﺏﺑﭖﭘﺓﺕﺗﭦﭨﺙﺛﺝﺟ" ++
  "ﭺﭼﺡﺣﺥﺧﺩﮄﺫﺭﮌﺯﮊﺱﺳﺵﺷﺹﺻﺽﺿﻁﻅﻉﻊﻋﻌﻍﻎﻏﻐﻑ" ++
  "ﻓﻕﻗﻙﻛﮒﮔﻝﻟﻠﻡﻣﮞﻥﻧﺅﻭﮦﮨﮩﮪﺀﺉﺊﺋﻱﻲﻳﮰﮮﹼﹽ"⟩

def thai874 : CodePage := ⟨
  "€\ufffe\ufffe\ufffe\ufffe…\ufffe\ufffe\ufffe\ufffe\ufffe\ufffe\ufffe\ufffe\ufffe\ufffe" ++
  "\ufffe‘’“”•–—\ufffe\ufffe\ufffe\ufffe\ufffe\ufffe\ufffe\ufffe" ++
  "\u00a0กขฃคฅฆงจฉชซฌญฎฏฐฑฒณดตถทธนบปผฝพฟ" ++
  "ภมยรฤลฦวศษสหฬอฮฯะ\u0e31าำ\u0e34\u0e35\u0e36\u0e37\u0e38\u0e39\u0e3a\ufffe\ufffe\ufffe" ++
  "\ufffe฿" ++
  "เแโใไๅๆ\u0e47\u0e48\u0e49\u0e4a\u0e4b\u0e4c\u0e4d\u0e4e๏๐๑๒๓๔๕๖๗๘๙๚๛\ufffe\ufffe\ufffe" ++
  "\ufffe"⟩

def thai620 : CodePage := ⟨
  "\u0080\u0081\u0082\u0083\u0084\u0085\u0086\u0087\u0088\u0089\u008a\u008b\u008c\u008d" ++
  "\u008e\u008f\u0090\u0091\u0092\u0093\u0094\u0095\u0096\u0097\u0098\u0099\u009a\u009b" ++
  "\u009c\u009d\u009e\u009f" ++
  "\ufffeกขฃคฅฆงจฉชซฌญฎฏฐฑฒณดตถทธนบปผฝพฟ" ++
  "ภมยรฤลฦวศษสหฬอฮฯะ\u0e31าำ\u0e34\u0e35\u0e36\u0e37\u0e38\u0e39\u0e3a\ufffe\ufffe\ufffe" ++
  "\ufffe฿" ++
  "เแโใไๅๆ\u0e47\u0e48\u0e49\u0e4a\u0e4b\u0e4c\u0e4d\u0e4e๏๐๑๒๓๔๕๖๗๘๙๚๛\ufffe\ufffe\ufffe" ++
  "\ufffe"⟩

def hpRoman8 : CodePage := ⟨
  "\u0080\u0081\u0082\u0083\u0084\u0085\u0086\u0087\u0088\u0089\u008a\u008b\u008c\u008d" ++
  "\u008e\u008f\u0090\u0091\u0092\u0093\u0094\u0095\u0096\u0097\u0098\u0099\u009a\u009b" ++
  "\u009c\u009d\u009e\u009f" ++
  "\u00a0ÀÂÈÊËÎÏ´ˋˆ¨˜ÙÛ₤¯Ýý°ÇçÑñ¡¿¤£¥§ƒ¢" ++
  "âêôûáéóúàèòùäëöüÅîØÆåíøæÄìÖÜÉïßÔ" ++
  "ÁÃãÐðÍÌÓÒÕõŠšÚŸÿÞþ·µ¶¾—¼½ªº«■»±\ufffe"⟩

def koi8R : CodePage := ⟨
  "─│┌┐└┘├┤┬┴┼▀▄█▌▐░▒▓⌠■∙√≈≤≥\u00a0⌡°²·÷" ++
  "═║╒ё╓╔╕╖╗╘╙╚╛╜╝╞╟╠╡Ё╢╣╤╥╦╧╨╩╪╫╬\u00a9" ++
  "юабцдефгхийклмнопярстужвьызшэщчъ" ++
  "ЮАБЦДЕФГХИЙКЛМНОПЯРСТУЖВЬЫЗШЭЩЧЪ"⟩

def koi8T : CodePage := ⟨
  "қғ‚Ғ„…†‡\ufffe‰ҳ‹ҲҷҶ\ufffeҚ‘’“”•–—\ufffe™\ufffe›\ufffe\ufffe\ufffe\ufffe" ++
  "\ufffeӯӮё¤ӣ¦§\ufffe\ufffe\ufffe«¬\u00ad®\ufffe°±²Ё\ufffeӢ¶·\ufffe№\ufffe»\ufffe\ufffe" ++
  "\ufffe\u00a9" ++
  "юабцдефгхийклмнопярстужвьызшэщчъ" ++
  "ЮАБЦДЕФГХИЙКЛМНОПЯРСТУЖВЬЫЗШЭЩЧЪ"⟩

def koi8U : CodePage := ⟨
  "─│┌┐└┘├┤┬┴┼▀▄█▌▐░▒▓⌠■∙√≈≤≥\u00a0⌡°²·÷" ++
  "═║╒ёє╔ії╗╘╙╚╛ґ╝╞╟╠╡ЁЄ╣ІЇ╦╧╨╩╪Ґ╬\u00a9" ++
  "юабцдефгхийклмнопярстужвьызшэщчъ" ++
  "ЮАБЦДЕФГХИЙКЛМНОПЯРСТУЖВЬЫЗШЭЩЧЪ"⟩

def kazakh1048 : CodePage := ⟨
  "ЂЃ‚ѓ„…†‡€‰Љ‹ЊҚҺЏђ‘’“”•–—\ufffe™љ›њқһџ" ++
  "\u00a0ҰұӘ¤Ө¦§Ё\u00a9Ғ«¬\u00ad®Ү°±Ііөµ¶·ё№ғ»әҢңү" ++
  "АБВГДЕЖЗИЙКЛМНОПРСТУФХЦЧШЩЪЫЬЭЮЯ" ++
  "абвгдежзийклмнопрстуфхцчшщъыьэюя"⟩

def kazakh154 : CodePage := ⟨
  "ҖҒӮғ„…ҶҮҲүҠӢҢҚҺҸҗ‘’“”•–—ҳҷҡӣңқһҹ" ++
  "\u00a0ЎўЈӨҘҰ§Ё\u00a9Ә«¬ӯ®Ҝ°ұІіҙө¶·ё№ә»јҪҫҝ" ++
  "АБВГДЕЖЗИЙКЛМНОПРСТУФХЦЧШЩЪЫЬЭЮЯ" ++
  "абвгдежзийклмнопрстуфхцчшщъыьэюя"⟩

def palmOs : CodePage := ⟨
  "€\u0081‚ƒ„…†‡ˆ‰Š‹Œ♦♣♥♠‘’“”•–—˜™š\u009bœ\u009d\u009eŸ" ++
  "\u00a0¡¢£¤¥¦§¨\u00a9ª«¬\u00ad®¯°±²³´µ¶·¸¹º»¼½¾¿" ++
  "ÀÁÂÃÄÅÆÇÈÉÊËÌÍÎÏÐÑÒÓÔÕÖ×ØÙÚÛÜÝÞß" ++
  "àáâãäåæçèéêëìíîïðñòóôõö÷øùúûüýþÿ"⟩

/-- The code pages of other origins with the names of each, its own one first. -/
def otherPages : List (CodePage × List String) := [
  (urdu1006, ["cp1006"]),
  (thai874, ["cp874"]),
  (thai620, ["tis_620", "iso_ir_166", "tis620", "tis_620_0", "tis_620_2529_0", "tis_620_2529_1"]),
  (hpRoman8, ["hp_roman8", "cp1051", "csHPRoman8", "ibm1051", "r8", "roman8"]),
  (koi8R, ["koi8_r", "cskoi8r"]),
  (koi8T, ["koi8_t"]),
  (koi8U, ["koi8_u"]),
  (kazakh1048, ["kz1048", "kz_1048", "rk1048", "strk1048_2002"]),
  (kazakh154, ["ptcp154", "cp154", "csptcp154", "cyrillic_asian", "pt154"]),
  (palmOs, ["palmos"])]

end SourceConventions.CodePage
