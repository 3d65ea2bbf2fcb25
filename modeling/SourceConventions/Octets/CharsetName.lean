import SourceConventions.Octets.Charset
import SourceConventions.Octets.CodePage.Iso
import SourceConventions.Octets.CodePage.Other
import SourceConventions.Octets.CodePage.Pc

/-!
# Names of character sets

A character set has a name of its own and further ones. Names are compared without regard to case
and to what stands between letters and digits.
-/

namespace SourceConventions.Charset

/-- Codes that are no code pages and have one octet a character or a rule for all of Unicode, with
the names of each, its own one first. -/
def general : List (Coding × List String) := [
  (.charset .ascii, ["ascii", "646", "ansi_x3.4_1968", "ansi_x3.4_1986", "ansi_x3_4_1968",
    "cp367", "csascii", "ibm367", "iso646_us", "iso_646.irv_1991", "iso_ir_6", "us", "us_ascii"]),
  (.charset .latin1, ["latin_1", "8859", "cp819", "csisolatin1", "ibm819", "iso8859", "iso8859_1",
    "iso_8859_1", "iso_8859_1_1987", "iso_ir_100", "l1", "latin", "latin1"]),
  (.charset .latin1, ["charmap"]),
  (.charset .utf8, ["utf_8", "cp65001", "u8", "utf", "utf8", "utf8_ucs2", "utf8_ucs4"]),
  (.charset .utf8Marked, ["utf_8_sig"]),
  (.charset .utf7, ["utf_7", "u7", "unicode_1_1_utf_7", "utf7"]),
  (.charset (.markedUnits .two), ["utf_16", "u16", "utf16"]),
  (.charset (.units .two .littleEndian), ["utf_16_le", "unicodelittleunmarked", "utf_16le"]),
  (.charset (.units .two .bigEndian), ["utf_16_be", "unicodebigunmarked", "utf_16be"]),
  (.charset (.markedUnits .four), ["utf_32", "u32", "utf32"]),
  (.charset (.units .four .littleEndian), ["utf_32_le", "utf_32le"]),
  (.charset (.units .four .bigEndian), ["utf_32_be", "utf_32be"]),
  (.charset .escapes, ["unicode_escape"]),
  (.charset .codeEscapes, ["raw_unicode_escape"]),
  (.charset .punycode, ["punycode"]),
  (.charset .hostName, ["idna"]),
  (.charset .empty, ["undefined"]),
  (.notText, ["base64_codec", "base64", "base_64"]),
  (.notText, ["bz2_codec", "bz2"]),
  (.notText, ["hex_codec", "hex"]),
  (.notText, ["quopri_codec", "quopri", "quoted_printable", "quotedprintable"]),
  (.notText, ["rot_13", "rot13"]),
  (.notText, ["uu_codec", "uu"]),
  (.notText, ["zlib_codec", "zip", "zlib"])]

/-- Codes of several octets a character. -/
def several : List (Multibyte × List String) := [
  (.big5, ["big5", "big5_tw", "csbig5", "x_mac_trad_chinese"]),
  (.cp950, ["cp950", "950", "ms950"]),
  (.hongKong, ["big5hkscs", "big5_hkscs", "hkscs"]),
  (.gb2312, ["gb2312", "chinese", "csiso58gb231280", "euc_cn", "euccn", "eucgb2312_cn",
    "gb2312_1980", "gb2312_80", "iso_ir_58", "x_mac_simp_chinese"]),
  (.gbk, ["gbk", "936", "cp936", "ms936"]),
  (.gb18030, ["gb18030", "gb18030_2000"]),
  (.hz, ["hz", "hz_gb", "hz_gb_2312", "hzgb"]),
  (.eucKr, ["euc_kr", "euckr", "korean", "ks_c_5601", "ks_c_5601_1987", "ks_x_1001", "ksc5601",
    "ksx1001", "x_mac_korean"]),
  (.cp949, ["cp949", "949", "ms949", "uhc"]),
  (.johab, ["johab", "cp1361", "ms1361"]),
  (.shiftJis, ["shift_jis", "csshiftjis", "s_jis", "shiftjis", "sjis", "x_mac_japanese"]),
  (.cp932, ["cp932", "932", "ms932", "ms_kanji", "mskanji"]),
  ((.shiftJisX0213 .of2000), ["shift_jisx0213", "s_jisx0213", "shiftjisx0213", "sjisx0213"]),
  ((.shiftJisX0213 .of2004), ["shift_jis_2004", "s_jis_2004", "shiftjis2004", "sjis_2004"]),
  (.eucJp, ["euc_jp", "eucjp", "u_jis", "ujis"]),
  ((.eucJisX0213 .of2000), ["euc_jisx0213", "eucjisx0213"]),
  ((.eucJisX0213 .of2004), ["euc_jis_2004", "euc_jis2004", "eucjis2004", "jisx0213"]),
  ((.iso2022 .jp), ["iso2022_jp", "csiso2022jp", "iso2022jp", "iso_2022_jp"]),
  ((.iso2022 .jp1), ["iso2022_jp_1", "iso2022jp_1", "iso_2022_jp_1"]),
  ((.iso2022 .jp2), ["iso2022_jp_2", "iso2022jp_2", "iso_2022_jp_2"]),
  ((.iso2022 .jp2004), ["iso2022_jp_2004", "iso2022jp_2004", "iso_2022_jp_2004"]),
  ((.iso2022 .jp3), ["iso2022_jp_3", "iso2022jp_3", "iso_2022_jp_3"]),
  ((.iso2022 .jpExt), ["iso2022_jp_ext", "iso2022jp_ext", "iso_2022_jp_ext"]),
  ((.iso2022 .kr), ["iso2022_kr", "csiso2022kr", "iso2022kr", "iso_2022_kr"])]

def pages : List (CodePage × List String) :=
  CodePage.windowsPages ++ CodePage.dosPages ++ CodePage.ebcdicPages ++ CodePage.isoPages
    ++ CodePage.macPages ++ CodePage.otherPages

/-- All codes with the names of each. -/
def known : List (Coding × List String) :=
  general ++ several.map (fun (code, names) => (.charset (.multibyte code), names))
    ++ pages.map (fun (table, names) => (.charset (.page table), names))

/-- A name in small letters, with one underscore for whatever else stands between its letters,
digits and points. -/
def plainName (name : String) : String :=
  let kept (c : Char) : Bool := c.isAlphanum || c == '.'
  let parts := name.toList.splitBy fun a b => kept a == kept b
  let words := parts.filter fun p => p.all kept
  String.ofList ((['_'].intercalate words).map Char.toLower)

/-- What a name stands for, however it is spelled. A further name may have points for
underscores. -/
def ofName? (name : String) : Option Coding :=
  let plain := plainName name
  let pointless := String.ofList (plain.toList.map fun c => if c == '.' then '_' else c)
  let own := known.find? fun (_, names) => names.contains plain
  let further := known.find? fun (_, names) => (names.drop 1).contains pointless
  (own.or further).map (·.1)

end SourceConventions.Charset
