import SourceConventions.Octets.CodePage

/-!
# Code pages of DOS and of Windows
-/

namespace SourceConventions.CodePage

def dos437 : CodePage := ⟨
  "ÇüéâäàåçêëèïîìÄÅÉæÆôöòûùÿÖÜ¢£¥₧ƒ" ++
  "áíóúñÑªº¿⌐¬½¼¡«»░▒▓│┤╡╢╖╕╣║╗╝╜╛┐" ++
  "└┴┬├─┼╞╟╚╔╩╦╠═╬╧╨╤╥╙╘╒╓╫╪┘┌█▄▌▐▀" ++
  "αßΓπΣσµτΦΘΩδ∞φε∩≡±≥≤⌠⌡÷≈°∙·√ⁿ²■\u00a0"⟩

def dos720 : CodePage := ⟨
  "\u0080\u0081éâ\u0084à\u0086çêëèïî\u008d\u008e\u008f\u0090\u0651\u0652ô¤ـûùءآأؤ£إئا" ++
  "بةتثجحخدذرزسشص«»░▒▓│┤╡╢╖╕╣║╗╝╜╛┐" ++
  "└┴┬├─┼╞╟╚╔╩╦╠═╬╧╨╤╥╙╘╒╓╫╪┘┌█▄▌▐▀" ++
  "ضطظعغفµقكلمنهوىي≡\u064b\u064c\u064d\u064e\u064f\u0650≈°∙·√ⁿ²■\u00a0"⟩

def dos737 : CodePage := ⟨
  "ΑΒΓΔΕΖΗΘΙΚΛΜΝΞΟΠΡΣΤΥΦΧΨΩαβγδεζηθ" ++
  "ικλμνξοπρσςτυφχψ░▒▓│┤╡╢╖╕╣║╗╝╜╛┐" ++
  "└┴┬├─┼╞╟╚╔╩╦╠═╬╧╨╤╥╙╘╒╓╫╪┘┌█▄▌▐▀" ++
  "ωάέήϊίόύϋώΆΈΉΊΌΎΏ±≥≤ΪΫ÷≈°∙·√ⁿ²■\u00a0"⟩

def dos775 : CodePage := ⟨
  "ĆüéāäģåćłēŖŗīŹÄÅÉæÆōöĢ¢ŚśÖÜø£Ø×¤" ++
  "ĀĪóŻżź”¦\u00a9®¬½¼Ł«»░▒▓│┤ĄČĘĖ╣║╗╝ĮŠ┐" ++
  "└┴┬├─┼ŲŪ╚╔╩╦╠═╬Žąčęėįšųūž┘┌█▄▌▐▀" ++
  "ÓßŌŃõÕµńĶķĻļņĒŅ’\u00ad±“¾¶§÷„°∙·¹³²■\u00a0"⟩

def dos850 : CodePage := ⟨
  "ÇüéâäàåçêëèïîìÄÅÉæÆôöòûùÿÖÜø£Ø×ƒ" ++
  "áíóúñÑªº¿®¬½¼¡«»░▒▓│┤ÁÂÀ\u00a9╣║╗╝¢¥┐" ++
  "└┴┬├─┼ãÃ╚╔╩╦╠═╬¤ðÐÊËÈıÍÎÏ┘┌█▄¦Ì▀" ++
  "ÓßÔÒõÕµþÞÚÛÙýÝ¯´\u00ad±‗¾¶§÷¸°¨·¹³²■\u00a0"⟩

def dos852 : CodePage := ⟨
  "ÇüéâäůćçłëŐőîŹÄĆÉĹĺôöĽľŚśÖÜŤťŁ×č" ++
  "áíóúĄąŽžĘę¬źČş«»░▒▓│┤ÁÂĚŞ╣║╗╝Żż┐" ++
  "└┴┬├─┼Ăă╚╔╩╦╠═╬¤đĐĎËďŇÍÎě┘┌█▄ŢŮ▀" ++
  "ÓßÔŃńňŠšŔÚŕŰýÝţ´\u00ad˝˛ˇ˘§÷¸°¨˙űŘř■\u00a0"⟩

def dos855 : CodePage := ⟨
  "ђЂѓЃёЁєЄѕЅіІїЇјЈљЉњЊћЋќЌўЎџЏюЮъЪ" ++
  "аАбБцЦдДеЕфФгГ«»░▒▓│┤хХиИ╣║╗╝йЙ┐" ++
  "└┴┬├─┼кК╚╔╩╦╠═╬¤лЛмМнНоОп┘┌█▄Пя▀" ++
  "ЯрРсСтТуУжЖвВьЬ№\u00adыЫзЗшШэЭщЩчЧ§■\u00a0"⟩

def dos856 : CodePage := ⟨
  "אבגדהוזחטיךכלםמןנסעףפץצקרשת\ufffe£\ufffe×\ufffe" ++
  "\ufffe\ufffe\ufffe\ufffe\ufffe\ufffe\ufffe\ufffe\ufffe®¬½¼\ufffe«»░▒▓│┤\ufffe\ufffe" ++
  "\ufffe\u00a9╣║╗╝¢¥┐" ++
  "└┴┬├─┼\ufffe\ufffe╚╔╩╦╠═╬¤\ufffe\ufffe\ufffe\ufffe\ufffe\ufffe\ufffe\ufffe\ufffe┘┌█▄¦" ++
  "\ufffe▀" ++
  "\ufffe\ufffe\ufffe\ufffe\ufffe\ufffeµ\ufffe\ufffe\ufffe\ufffe\ufffe\ufffe\ufffe¯´\u00ad±" ++
  "‗¾¶§÷¸°¨·¹³²■\u00a0"⟩

def dos857 : CodePage := ⟨
  "ÇüéâäàåçêëèïîıÄÅÉæÆôöòûùİÖÜø£ØŞş" ++
  "áíóúñÑĞğ¿®¬½¼¡«»░▒▓│┤ÁÂÀ\u00a9╣║╗╝¢¥┐" ++
  "└┴┬├─┼ãÃ╚╔╩╦╠═╬¤ºªÊËÈ\ufffeÍÎÏ┘┌█▄¦Ì▀" ++
  "ÓßÔÒõÕµ\ufffe×ÚÛÙìÿ¯´\u00ad±\ufffe¾¶§÷¸°¨·¹³²■\u00a0"⟩

def dos858 : CodePage := ⟨
  "ÇüéâäàåçêëèïîìÄÅÉæÆôöòûùÿÖÜø£Ø×ƒ" ++
  "áíóúñÑªº¿®¬½¼¡«»░▒▓│┤ÁÂÀ\u00a9╣║╗╝¢¥┐" ++
  "└┴┬├─┼ãÃ╚╔╩╦╠═╬¤ðÐÊËÈ€ÍÎÏ┘┌█▄¦Ì▀" ++
  "ÓßÔÒõÕµþÞÚÛÙýÝ¯´\u00ad±‗¾¶§÷¸°¨·¹³²■\u00a0"⟩

def dos860 : CodePage := ⟨
  "ÇüéâãàÁçêÊèÍÔìÃÂÉÀÈôõòÚùÌÕÜ¢£Ù₧Ó" ++
  "áíóúñÑªº¿Ò¬½¼¡«»░▒▓│┤╡╢╖╕╣║╗╝╜╛┐" ++
  "└┴┬├─┼╞╟╚╔╩╦╠═╬╧╨╤╥╙╘╒╓╫╪┘┌█▄▌▐▀" ++
  "αßΓπΣσµτΦΘΩδ∞φε∩≡±≥≤⌠⌡÷≈°∙·√ⁿ²■\u00a0"⟩

def dos861 : CodePage := ⟨
  "ÇüéâäàåçêëèÐðÞÄÅÉæÆôöþûÝýÖÜø£Ø₧ƒ" ++
  "áíóúÁÍÓÚ¿⌐¬½¼¡«»░▒▓│┤╡╢╖╕╣║╗╝╜╛┐" ++
  "└┴┬├─┼╞╟╚╔╩╦╠═╬╧╨╤╥╙╘╒╓╫╪┘┌█▄▌▐▀" ++
  "αßΓπΣσµτΦΘΩδ∞φε∩≡±≥≤⌠⌡÷≈°∙·√ⁿ²■\u00a0"⟩

def dos862 : CodePage := ⟨
  "אבגדהוזחטיךכלםמןנסעףפץצקרשת¢£¥₧ƒ" ++
  "áíóúñÑªº¿⌐¬½¼¡«»░▒▓│┤╡╢╖╕╣║╗╝╜╛┐" ++
  "└┴┬├─┼╞╟╚╔╩╦╠═╬╧╨╤╥╙╘╒╓╫╪┘┌█▄▌▐▀" ++
  "αßΓπΣσµτΦΘΩδ∞φε∩≡±≥≤⌠⌡÷≈°∙·√ⁿ²■\u00a0"⟩

def dos863 : CodePage := ⟨
  "ÇüéâÂà¶çêëèïî‗À§ÉÈÊôËÏûù¤ÔÜ¢£ÙÛƒ" ++
  "¦´óú¨¸³¯Î⌐¬½¼¾«»░▒▓│┤╡╢╖╕╣║╗╝╜╛┐" ++
  "└┴┬├─┼╞╟╚╔╩╦╠═╬╧╨╤╥╙╘╒╓╫╪┘┌█▄▌▐▀" ++
  "αßΓπΣσµτΦΘΩδ∞φε∩≡±≥≤⌠⌡÷≈°∙·√ⁿ²■\u00a0"⟩

def dos864 : CodePage := ⟨
  "\u0000\u0001\u0002\u0003\u0004\u0005\u0006\u0007\u0008\u0009\u000a\u000b\u000c\u000d" ++
  "\u000e\u000f\u0010\u0011\u0012\u0013\u0014\u0015\u0016\u0017\u0018\u0019\u001a\u001b" ++
  "\u001c\u001d\u001e\u001f" ++
  " !\"#$٪&'()*+,-./0123456789:;<=>?" ++
  "@ABCDEFGHIJKLMNOPQRSTUVWXYZ[\\]^_" ++
  "\x60abcdefghijklmnopqrstuvwxyz\x7b|\x7d~\u007f" ++
  "°·∙√▒─│┼┤┬├┴┐┌└┘β∞φ±½¼≈«»ﻷﻸ\ufffe\ufffeﻻﻼ\ufffe" ++
  "\u00a0\u00adﺂ£¤ﺄ\ufffe\ufffeﺎﺏﺕﺙ،ﺝﺡﺥ٠١٢٣٤٥٦٧٨٩ﻑ؛ﺱﺵﺹ؟" ++
  "¢ﺀﺁﺃﺅﻊﺋﺍﺑﺓﺗﺛﺟﺣﺧﺩﺫﺭﺯﺳﺷﺻﺿﻁﻅﻋﻏ¦¬÷×ﻉ" ++
  "ـﻓﻗﻛﻟﻣﻧﻫﻭﻯﻳﺽﻌﻎﻍﻡﹽ\u0651ﻥﻩﻬﻰﻲﻐﻕﻵﻶﻝﻙﻱ■\ufffe"⟩

def dos865 : CodePage := ⟨
  "ÇüéâäàåçêëèïîìÄÅÉæÆôöòûùÿÖÜø£Ø₧ƒ" ++
  "áíóúñÑªº¿⌐¬½¼¡«¤░▒▓│┤╡╢╖╕╣║╗╝╜╛┐" ++
  "└┴┬├─┼╞╟╚╔╩╦╠═╬╧╨╤╥╙╘╒╓╫╪┘┌█▄▌▐▀" ++
  "αßΓπΣσµτΦΘΩδ∞φε∩≡±≥≤⌠⌡÷≈°∙·√ⁿ²■\u00a0"⟩

def dos866 : CodePage := ⟨
  "АБВГДЕЖЗИЙКЛМНОПРСТУФХЦЧШЩЪЫЬЭЮЯ" ++
  "абвгдежзийклмноп░▒▓│┤╡╢╖╕╣║╗╝╜╛┐" ++
  "└┴┬├─┼╞╟╚╔╩╦╠═╬╧╨╤╥╙╘╒╓╫╪┘┌█▄▌▐▀" ++
  "рстуфхцчшщъыьэюяЁёЄєЇїЎў°∙·√№¤■\u00a0"⟩

def dos869 : CodePage := ⟨
  "\ufffe\ufffe\ufffe\ufffe\ufffe\ufffeΆ\ufffe·¬¦‘’Έ―ΉΊΪΌ\ufffe\ufffeΎΫ\u00a9Ώ²³ά£έήί" ++
  "ϊΐόύΑΒΓΔΕΖΗ½ΘΙ«»░▒▓│┤ΚΛΜΝ╣║╗╝ΞΟ┐" ++
  "└┴┬├─┼ΠΡ╚╔╩╦╠═╬ΣΤΥΦΧΨΩαβγ┘┌█▄δε▀" ++
  "ζηθικλμνξοπρσςτ΄\u00ad±υφχ§ψ΅°¨ωϋΰώ■\u00a0"⟩

def dos1125 : CodePage := ⟨
  "АБВГДЕЖЗИЙКЛМНОПРСТУФХЦЧШЩЪЫЬЭЮЯ" ++
  "абвгдежзийклмноп░▒▓│┤╡╢╖╕╣║╗╝╜╛┐" ++
  "└┴┬├─┼╞╟╚╔╩╦╠═╬╧╨╤╥╙╘╒╓╫╪┘┌█▄▌▐▀" ++
  "рстуфхцчшщъыьэюяЁёҐґЄєІіЇї·√№¤■\u00a0"⟩

/-- The code pages of DOS with the names of each, its own one first. -/
def dosPages : List (CodePage × List String) := [
  (dos437, ["cp437", "437", "cspc8codepage437", "ibm437"]),
  (dos720, ["cp720"]),
  (dos737, ["cp737"]),
  (dos775, ["cp775", "775", "cspc775baltic", "ibm775"]),
  (dos850, ["cp850", "850", "cspc850multilingual", "ibm850"]),
  (dos852, ["cp852", "852", "cspcp852", "ibm852"]),
  (dos855, ["cp855", "855", "csibm855", "ibm855"]),
  (dos856, ["cp856"]),
  (dos857, ["cp857", "857", "csibm857", "ibm857"]),
  (dos858, ["cp858", "858", "csibm858", "ibm858"]),
  (dos860, ["cp860", "860", "csibm860", "ibm860"]),
  (dos861, ["cp861", "861", "cp_is", "csibm861", "ibm861"]),
  (dos862, ["cp862", "862", "cspc862latinhebrew", "ibm862"]),
  (dos863, ["cp863", "863", "csibm863", "ibm863"]),
  (dos864, ["cp864", "864", "csibm864", "ibm864"]),
  (dos865, ["cp865", "865", "csibm865", "ibm865"]),
  (dos866, ["cp866", "866", "csibm866", "ibm866"]),
  (dos869, ["cp869", "869", "cp_gr", "csibm869", "ibm869"]),
  (dos1125, ["cp1125", "1125", "cp866u", "ibm1125", "ruscii"])]

def windows1250 : CodePage := ⟨
  "€\ufffe‚\ufffe„…†‡\ufffe‰Š‹ŚŤŽŹ\ufffe‘’“”•–—\ufffe™š›śťžź" ++
  "\u00a0ˇ˘Ł¤Ą¦§¨\u00a9Ş«¬\u00ad®Ż°±˛ł´µ¶·¸ąş»Ľ˝ľż" ++
  "ŔÁÂĂÄĹĆÇČÉĘËĚÍÎĎĐŃŇÓÔŐÖ×ŘŮÚŰÜÝŢß" ++
  "ŕáâăäĺćçčéęëěíîďđńňóôőö÷řůúűüýţ˙"⟩

def windows1251 : CodePage := ⟨
  "ЂЃ‚ѓ„…†‡€‰Љ‹ЊЌЋЏђ‘’“”•–—\ufffe™љ›њќћџ" ++
  "\u00a0ЎўЈ¤Ґ¦§Ё\u00a9Є«¬\u00ad®Ї°±Ііґµ¶·ё№є»јЅѕї" ++
  "АБВГДЕЖЗИЙКЛМНОПРСТУФХЦЧШЩЪЫЬЭЮЯ" ++
  "абвгдежзийклмнопрстуфхцчшщъыьэюя"⟩

def windows1252 : CodePage := ⟨
  "€\ufffe‚ƒ„…†‡ˆ‰Š‹Œ\ufffeŽ\ufffe\ufffe‘’“”•–—˜™š›œ\ufffežŸ" ++
  "\u00a0¡¢£¤¥¦§¨\u00a9ª«¬\u00ad®¯°±²³´µ¶·¸¹º»¼½¾¿" ++
  "ÀÁÂÃÄÅÆÇÈÉÊËÌÍÎÏÐÑÒÓÔÕÖ×ØÙÚÛÜÝÞß" ++
  "àáâãäåæçèéêëìíîïðñòóôõö÷øùúûüýþÿ"⟩

def windows1253 : CodePage := ⟨
  "€\ufffe‚ƒ„…†‡\ufffe‰\ufffe‹\ufffe\ufffe\ufffe\ufffe\ufffe‘’“”•–—\ufffe™\ufffe›\ufffe" ++
  "\ufffe\ufffe\ufffe" ++
  "\u00a0΅Ά£¤¥¦§¨\u00a9\ufffe«¬\u00ad®―°±²³΄µ¶·ΈΉΊ»Ό½ΎΏ" ++
  "ΐΑΒΓΔΕΖΗΘΙΚΛΜΝΞΟΠΡ\ufffeΣΤΥΦΧΨΩΪΫάέήί" ++
  "ΰαβγδεζηθικλμνξοπρςστυφχψωϊϋόύώ\ufffe"⟩

def windows1254 : CodePage := ⟨
  "€\ufffe‚ƒ„…†‡ˆ‰Š‹Œ\ufffe\ufffe\ufffe\ufffe‘’“”•–—˜™š›œ\ufffe\ufffeŸ" ++
  "\u00a0¡¢£¤¥¦§¨\u00a9ª«¬\u00ad®¯°±²³´µ¶·¸¹º»¼½¾¿" ++
  "ÀÁÂÃÄÅÆÇÈÉÊËÌÍÎÏĞÑÒÓÔÕÖ×ØÙÚÛÜİŞß" ++
  "àáâãäåæçèéêëìíîïğñòóôõö÷øùúûüışÿ"⟩

def windows1255 : CodePage := ⟨
  "€\ufffe‚ƒ„…†‡ˆ‰\ufffe‹\ufffe\ufffe\ufffe\ufffe\ufffe‘’“”•–—˜™\ufffe›\ufffe\ufffe\ufffe" ++
  "\ufffe" ++
  "\u00a0¡¢£₪¥¦§¨\u00a9×«¬\u00ad®¯°±²³´µ¶·¸¹÷»¼½¾¿" ++
  "\u05b0\u05b1\u05b2\u05b3\u05b4\u05b5\u05b6\u05b7\u05b8\u05b9\ufffe\u05bb\u05bc\u05bd־" ++
  "\u05bf׀\u05c1\u05c2׃װױײ׳״\ufffe\ufffe\ufffe\ufffe\ufffe\ufffe\ufffe" ++
  "אבגדהוזחטיךכלםמןנסעףפץצקרשת\ufffe\ufffe\u200e\u200f\ufffe"⟩

def windows1256 : CodePage := ⟨
  "€پ‚ƒ„…†‡ˆ‰ٹ‹Œچژڈگ‘’“”•–—ک™ڑ›œ\u200c\u200dں" ++
  "\u00a0،¢£¤¥¦§¨\u00a9ھ«¬\u00ad®¯°±²³´µ¶·¸¹؛»¼½¾؟" ++
  "ہءآأؤإئابةتثجحخدذرزسشصض×طظعغـفقك" ++
  "àلâمنهوçèéêëىيîï\u064b\u064c\u064d\u064eô\u064f\u0650÷\u0651ù\u0652ûü\u200e\u200fے"⟩

def windows1257 : CodePage := ⟨
  "€\ufffe‚\ufffe„…†‡\ufffe‰\ufffe‹\ufffe¨ˇ¸\ufffe‘’“”•–—\ufffe™\ufffe›\ufffe¯˛\ufffe" ++
  "\u00a0\ufffe¢£¤\ufffe¦§Ø\u00a9Ŗ«¬\u00ad®Æ°±²³´µ¶·ø¹ŗ»¼½¾æ" ++
  "ĄĮĀĆÄÅĘĒČÉŹĖĢĶĪĻŠŃŅÓŌÕÖ×ŲŁŚŪÜŻŽß" ++
  "ąįāćäåęēčéźėģķīļšńņóōõö÷ųłśūüżž˙"⟩

def windows1258 : CodePage := ⟨
  "€\ufffe‚ƒ„…†‡ˆ‰\ufffe‹Œ\ufffe\ufffe\ufffe\ufffe‘’“”•–—˜™\ufffe›œ\ufffe\ufffeŸ" ++
  "\u00a0¡¢£¤¥¦§¨\u00a9ª«¬\u00ad®¯°±²³´µ¶·¸¹º»¼½¾¿" ++
  "ÀÁÂĂÄÅÆÇÈÉÊË\u0300ÍÎÏĐÑ\u0309ÓÔƠÖ×ØÙÚÛÜƯ\u0303ß" ++
  "àáâăäåæçèéêë\u0301íîïđñ\u0323óôơö÷øùúûüư₫ÿ"⟩

/-- The code pages of Windows with the names of each, its own one first. -/
def windowsPages : List (CodePage × List String) := [
  (windows1250, ["cp1250", "1250", "windows_1250"]),
  (windows1251, ["cp1251", "1251", "windows_1251"]),
  (windows1252, ["cp1252", "1252", "windows_1252"]),
  (windows1253, ["cp1253", "1253", "windows_1253"]),
  (windows1254, ["cp1254", "1254", "windows_1254"]),
  (windows1255, ["cp1255", "1255", "windows_1255"]),
  (windows1256, ["cp1256", "1256", "windows_1256"]),
  (windows1257, ["cp1257", "1257", "windows_1257"]),
  (windows1258, ["cp1258", "1258", "windows_1258"])]

end SourceConventions.CodePage
