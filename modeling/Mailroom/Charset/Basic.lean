import Mailroom.Charset.Backslash
import Mailroom.Charset.Iso2022
import Mailroom.Charset.Punycode
import Mailroom.Charset.Utf32
import Mailroom.Charset.Utf7

/-!
# Character sets

The character sets that mail is read in, their names, and reading octets in one of them. What is
malformed becomes U+FFFD, but four sets have no such way out, so that reading octets in them can
fail: `idna` refuses to replace anything, `undefined` refuses everything, what stands behind the
last hyphen in `punycode` has to be ASCII, and one variant of ISO 2022 lets a set be designated to a
place from which it cannot be read.

Surrogates become U+FFFD also in the sets that can spell them alone, and a host name in `idna` is
left as it is spelled.
-/

namespace Mailroom

/-- The sets that are read in steps. -/
inductive Charset.Stepped where
  | utf7
  | unicodeEscape
  | rawUnicodeEscape
  | big5
  | big5hkscs
  | cp932
  | cp949
  | cp950
  | eucJis2004
  | eucJisx0213
  | eucJp
  | eucKr
  | gb18030
  | gb2312
  | gbk
  | hz
  | johab
  | shiftJis
  | shiftJis2004
  | shiftJisx0213
  | iso2022 (v : Charset.Iso2022.Variant)
deriving DecidableEq, Repr

inductive Charset where
  | utf8
  /-- UTF-8 that may begin with a byte order mark. -/
  | utf8Signed
  | ascii
  | latin1
  /-- UTF-16 in a given order, or in the order that a mark at its beginning tells. -/
  | utf16 (order : Option Charset.Order)
  | utf32 (order : Option Charset.Order)
  /-- A set of one octet for each character, by its table. -/
  | single (table : List String)
  | stepped (set : Charset.Stepped)
  | idna
  | punycode
  | undefined
deriving DecidableEq, Repr

namespace Charset

/-- A name in its plain form: lower case, each run of other characters than letters, digits and
points between two of these written as one underscore. -/
def plainName (done : List Char) (gap : Bool) : List Char → List Char
  | [] => done.reverse
  | c :: r =>
    if c.toNat < 0x80 && c.isAlphanum || c == '.' then
      let done := if gap && !done.isEmpty then '_' :: done else done
      plainName (c.toLower :: done) false r
    else
      plainName done true r

/-- The sets with their own names and the other names that they go by. -/
def names : List (Charset × String × List String) :=
  [(utf8, "utf_8", ["cp65001", "u8", "utf", "utf8", "utf8_ucs2", "utf8_ucs4"]),
    (utf8Signed, "utf_8_sig", []),
    (ascii, "ascii", ["646", "ansi_x3.4_1968", "ansi_x3.4_1986", "ansi_x3_4_1968", "cp367",
      "csascii", "ibm367", "iso646_us", "iso_646.irv_1991", "iso_ir_6", "us", "us_ascii"]),
    (latin1, "latin_1", ["8859", "cp819", "csisolatin1", "ibm819", "iso8859", "iso8859_1",
      "iso_8859_1", "iso_8859_1_1987", "iso_ir_100", "l1", "latin", "latin1"]),
    (latin1, "charmap", []),
    (utf16 none, "utf_16", ["u16", "utf16"]),
    (utf16 (some .little), "utf_16_le", ["unicodelittleunmarked", "utf_16le"]),
    (utf16 (some .big), "utf_16_be", ["unicodebigunmarked", "utf_16be"]),
    (utf32 none, "utf_32", ["u32", "utf32"]),
    (utf32 (some .little), "utf_32_le", ["utf_32le"]),
    (utf32 (some .big), "utf_32_be", ["utf_32be"]),
    (idna, "idna", []),
    (punycode, "punycode", []),
    (undefined, "undefined", []),
    (stepped .utf7, "utf_7", ["u7", "unicode_1_1_utf_7", "utf7"]),
    (stepped .unicodeEscape, "unicode_escape", []),
    (stepped .rawUnicodeEscape, "raw_unicode_escape", []),
    (stepped .big5, "big5", ["big5_tw", "csbig5", "x_mac_trad_chinese"]),
    (stepped .big5hkscs, "big5hkscs", ["big5_hkscs", "hkscs"]),
    (stepped .cp932, "cp932", ["932", "ms932", "ms_kanji", "mskanji"]),
    (stepped .cp949, "cp949", ["949", "ms949", "uhc"]),
    (stepped .cp950, "cp950", ["950", "ms950"]),
    (stepped .eucJis2004, "euc_jis_2004", ["euc_jis2004", "eucjis2004", "jisx0213"]),
    (stepped .eucJisx0213, "euc_jisx0213", ["eucjisx0213"]),
    (stepped .eucJp, "euc_jp", ["eucjp", "u_jis", "ujis"]),
    (stepped .eucKr, "euc_kr", ["euckr", "korean", "ks_c_5601", "ks_c_5601_1987", "ks_x_1001",
      "ksc5601", "ksx1001", "x_mac_korean"]),
    (stepped .gb18030, "gb18030", ["gb18030_2000"]),
    (stepped .gb2312, "gb2312", ["chinese", "csiso58gb231280", "euc_cn", "euccn", "eucgb2312_cn",
      "gb2312_1980", "gb2312_80", "iso_ir_58", "x_mac_simp_chinese"]),
    (stepped .gbk, "gbk", ["936", "cp936", "ms936"]),
    (stepped .hz, "hz", ["hz_gb", "hz_gb_2312", "hzgb"]),
    (stepped .johab, "johab", ["cp1361", "ms1361"]),
    (stepped .shiftJis, "shift_jis", ["csshiftjis", "s_jis", "shiftjis", "sjis", "x_mac_japanese"]),
    (stepped .shiftJis2004, "shift_jis_2004", ["s_jis_2004", "shiftjis2004", "sjis_2004"]),
    (stepped .shiftJisx0213, "shift_jisx0213", ["s_jisx0213", "shiftjisx0213", "sjisx0213"]),
    (stepped (.iso2022 .kr), "iso2022_kr", ["csiso2022kr", "iso2022kr", "iso_2022_kr"]),
    (stepped (.iso2022 .jp), "iso2022_jp", ["csiso2022jp", "iso2022jp", "iso_2022_jp"]),
    (stepped (.iso2022 .jp1), "iso2022_jp_1", ["iso2022jp_1", "iso_2022_jp_1"]),
    (stepped (.iso2022 .jp2), "iso2022_jp_2", ["iso2022jp_2", "iso_2022_jp_2"]),
    (stepped (.iso2022 .jp2004), "iso2022_jp_2004", ["iso2022jp_2004", "iso_2022_jp_2004"]),
    (stepped (.iso2022 .jp3), "iso2022_jp_3", ["iso2022jp_3", "iso_2022_jp_3"]),
    (stepped (.iso2022 .jpExt), "iso2022_jp_ext", ["iso2022jp_ext", "iso_2022_jp_ext"]),
    (single Table.cp037, "cp037", ["037", "csibm037", "ebcdic_cp_ca", "ebcdic_cp_nl",
      "ebcdic_cp_us", "ebcdic_cp_wt", "ibm037", "ibm039"]),
    (single Table.cp1006, "cp1006", []),
    (single Table.cp1026, "cp1026", ["1026", "csibm1026", "ibm1026"]),
    (single Table.cp1125, "cp1125", ["1125", "cp866u", "ibm1125", "ruscii"]),
    (single Table.cp1140, "cp1140", ["1140", "ibm1140"]),
    (single Table.cp1250, "cp1250", ["1250", "windows_1250"]),
    (single Table.cp1251, "cp1251", ["1251", "windows_1251"]),
    (single Table.cp1252, "cp1252", ["1252", "windows_1252"]),
    (single Table.cp1253, "cp1253", ["1253", "windows_1253"]),
    (single Table.cp1254, "cp1254", ["1254", "windows_1254"]),
    (single Table.cp1255, "cp1255", ["1255", "windows_1255"]),
    (single Table.cp1256, "cp1256", ["1256", "windows_1256"]),
    (single Table.cp1257, "cp1257", ["1257", "windows_1257"]),
    (single Table.cp1258, "cp1258", ["1258", "windows_1258"]),
    (single Table.cp273, "cp273", ["273", "csibm273", "ibm273"]),
    (single Table.cp424, "cp424", ["424", "csibm424", "ebcdic_cp_he", "ibm424"]),
    (single Table.cp437, "cp437", ["437", "cspc8codepage437", "ibm437"]),
    (single Table.cp500, "cp500", ["500", "csibm500", "ebcdic_cp_be", "ebcdic_cp_ch", "ibm500"]),
    (single Table.cp720, "cp720", []),
    (single Table.cp737, "cp737", []),
    (single Table.cp775, "cp775", ["775", "cspc775baltic", "ibm775"]),
    (single Table.cp850, "cp850", ["850", "cspc850multilingual", "ibm850"]),
    (single Table.cp852, "cp852", ["852", "cspcp852", "ibm852"]),
    (single Table.cp855, "cp855", ["855", "csibm855", "ibm855"]),
    (single Table.cp856, "cp856", []),
    (single Table.cp857, "cp857", ["857", "csibm857", "ibm857"]),
    (single Table.cp858, "cp858", ["858", "csibm858", "ibm858"]),
    (single Table.cp860, "cp860", ["860", "csibm860", "ibm860"]),
    (single Table.cp861, "cp861", ["861", "cp_is", "csibm861", "ibm861"]),
    (single Table.cp862, "cp862", ["862", "cspc862latinhebrew", "ibm862"]),
    (single Table.cp863, "cp863", ["863", "csibm863", "ibm863"]),
    (single Table.cp864, "cp864", ["864", "csibm864", "ibm864"]),
    (single Table.cp865, "cp865", ["865", "csibm865", "ibm865"]),
    (single Table.cp866, "cp866", ["866", "csibm866", "ibm866"]),
    (single Table.cp869, "cp869", ["869", "cp_gr", "csibm869", "ibm869"]),
    (single Table.cp874, "cp874", []),
    (single Table.cp875, "cp875", []),
    (single Table.hpRoman8, "hp_roman8", ["cp1051", "csHPRoman8", "ibm1051", "r8", "roman8"]),
    (single Table.iso885910, "iso8859_10", ["csisolatin6", "iso_8859_10", "iso_8859_10_1992",
      "iso_ir_157", "l6", "latin6"]),
    (single Table.iso885911, "iso8859_11", ["iso_8859_11", "iso_8859_11_2001", "thai"]),
    (single Table.iso885913, "iso8859_13", ["iso_8859_13", "l7", "latin7"]),
    (single Table.iso885914, "iso8859_14", ["iso_8859_14", "iso_8859_14_1998", "iso_celtic",
      "iso_ir_199", "l8", "latin8"]),
    (single Table.iso885915, "iso8859_15", ["iso_8859_15", "l9", "latin9"]),
    (single Table.iso885916, "iso8859_16", ["iso_8859_16", "iso_8859_16_2001", "iso_ir_226",
      "l10", "latin10"]),
    (single Table.iso88592, "iso8859_2", ["csisolatin2", "iso_8859_2", "iso_8859_2_1987",
      "iso_ir_101", "l2", "latin2"]),
    (single Table.iso88593, "iso8859_3", ["csisolatin3", "iso_8859_3", "iso_8859_3_1988",
      "iso_ir_109", "l3", "latin3"]),
    (single Table.iso88594, "iso8859_4", ["csisolatin4", "iso_8859_4", "iso_8859_4_1988",
      "iso_ir_110", "l4", "latin4"]),
    (single Table.iso88595, "iso8859_5", ["csisolatincyrillic", "cyrillic", "iso_8859_5",
      "iso_8859_5_1988", "iso_ir_144"]),
    (single Table.iso88596, "iso8859_6", ["arabic", "asmo_708", "csisolatinarabic", "ecma_114",
      "iso_8859_6", "iso_8859_6_1987", "iso_ir_127"]),
    (single Table.iso88597, "iso8859_7", ["csisolatingreek", "ecma_118", "elot_928", "greek",
      "greek8", "iso_8859_7", "iso_8859_7_1987", "iso_ir_126"]),
    (single Table.iso88598, "iso8859_8", ["csisolatinhebrew", "hebrew", "iso_8859_8",
      "iso_8859_8_1988", "iso_ir_138"]),
    (single Table.iso88599, "iso8859_9", ["csisolatin5", "iso_8859_9", "iso_8859_9_1989",
      "iso_ir_148", "l5", "latin5"]),
    (single Table.koi8R, "koi8_r", ["cskoi8r"]),
    (single Table.koi8T, "koi8_t", []),
    (single Table.koi8U, "koi8_u", []),
    (single Table.kz1048, "kz1048", ["kz_1048", "rk1048", "strk1048_2002"]),
    (single Table.macArabic, "mac_arabic", []),
    (single Table.macCroatian, "mac_croatian", []),
    (single Table.macCyrillic, "mac_cyrillic", ["maccyrillic"]),
    (single Table.macFarsi, "mac_farsi", []),
    (single Table.macGreek, "mac_greek", ["macgreek"]),
    (single Table.macIceland, "mac_iceland", ["maciceland"]),
    (single Table.macLatin2, "mac_latin2", ["mac_centeuro", "maccentraleurope", "maclatin2"]),
    (single Table.macRoman, "mac_roman", ["macintosh", "macroman"]),
    (single Table.macRomanian, "mac_romanian", []),
    (single Table.macTurkish, "mac_turkish", ["macturkish"]),
    (single Table.palmos, "palmos", []),
    (single Table.ptcp154, "ptcp154", ["cp154", "csptcp154", "cyrillic_asian", "pt154"]),
    (single Table.tis620, "tis_620", ["iso_ir_166", "tis620", "tis_620_0", "tis_620_2529_0",
      "tis_620_2529_1"])]

/-- The set of a name. In a name other than its own there may be points for underscores. -/
def ofName? (name : List Char) : Option Charset :=
  let plain := plainName [] false name
  let own := String.ofList plain
  let other := String.ofList (plain.map fun c => if c == '.' then '_' else c)
  (names.find? fun (_, s, others) => s == own || others.contains own || others.contains other).map
    (·.1)

/-- The character of an octet in a table of all octets, or of those from some octet on. -/
def ofTable (table : Array Char) (b : UInt8) : Char :=
  let start := 256 - table.size
  if b.toNat < start then Char.ofNat b.toNat else table.getD (b.toNat - start) replacement

/-- What octets stand for in a set that is read in steps, with `none` for what is malformed. -/
def Stepped.read? : Stepped → List UInt8 → Option (List (Option Char))
  | utf7, s => some (Utf7.decode s)
  | unicodeEscape, s => some (Backslash.decode s)
  | rawUnicodeEscape, s => some (Backslash.decodeRaw s)
  | big5, s => some (Chinese.big5Family (Table.cell Chinese.big5) s)
  | big5hkscs, s => some (Chinese.big5Family Chinese.inHkscs s)
  | cp932, s => some (Japanese.shiftCp932 s)
  | cp949, s => some (Korean.cp949 s)
  | cp950, s => some (Chinese.big5Family (Table.cell Chinese.cp950) s)
  | eucJis2004, s => some (Japanese.eucJisX0213 false s)
  | eucJisx0213, s => some (Japanese.eucJisX0213 true s)
  | eucJp, s => some (Japanese.eucJp s)
  | eucKr, s => some (Korean.eucKr s)
  | gb18030, s => some (Chinese.fourOctets s)
  | gb2312, s => some (Chinese.euc s)
  | gbk, s => some (Chinese.twoOctets s)
  | hz, s => some (Chinese.hz s)
  | johab, s => some (Korean.johab s)
  | shiftJis, s => some (Japanese.shiftJis s)
  | shiftJis2004, s => some (Japanese.shiftJisX0213 false s)
  | shiftJisx0213, s => some (Japanese.shiftJisX0213 true s)
  | iso2022 v, s => Iso2022.decode? v s

/-- Why octets cannot be read although all that is malformed is to be replaced. -/
inductive Refusal where
  /-- The set does not know how to replace anything. -/
  | replacing
  /-- The set knows no characters. -/
  | undefined
  /-- An octet at some place would have to be ASCII. -/
  | octet (b : UInt8) (place : Nat)
  /-- A set was designated to a place from which it cannot be read. -/
  | misplaced
deriving DecidableEq, Repr

def decode : Charset → List UInt8 → Except Refusal (List Char)
  | utf8, s => .ok (Utf8.decode s)
  | utf8Signed, s => .ok (Utf8.decode (if s.take 3 == [0xef, 0xbb, 0xbf] then s.drop 3 else s))
  | ascii, s => .ok (s.map ofAscii)
  | latin1, s => .ok (s.map fun b => Char.ofNat b.toNat)
  | utf16 none, s => .ok (Utf16.decodeMarked s)
  | utf16 (some o), s => .ok (Utf16.decode o s)
  | utf32 none, s => .ok (Utf32.decodeMarked s)
  | utf32 (some o), s => .ok (Utf32.decode o s)
  | single table, s => .ok (s.map (ofTable (String.join table).toList.toArray))
  | stepped set, s =>
    match set.read? s with
    | none => .error .misplaced
    | some cs => .ok (cs.map (·.getD replacement))
  | idna, s => if s.isEmpty then .ok [] else .error .replacing
  | punycode, s =>
    match Punycode.stray? s with
    | some (b, place) => .error (.octet b place)
    | none => .ok (Punycode.decode s).1
  | undefined, s => if s.isEmpty then .ok [] else .error .undefined

/-- Reads octets if nothing has to be replaced. -/
def decodeStrict? : Charset → List UInt8 → Except Refusal (Option (List Char))
  | idna, s => .ok (if s.all (· < 0x80) then some (s.map ofAscii) else none)
  | punycode, s =>
    let (text, isWhole) := Punycode.decode s
    .ok (if (Punycode.stray? s).isNone && isWhole then some text else none)
  | undefined, s => .ok (if s.isEmpty then some [] else none)
  | stepped set, s =>
    match set.read? s with
    | none => .error .misplaced
    | some cs => .ok (cs.mapM id)
  | cs, s => (cs.decode s).map fun text => if text.contains replacement then none else some text

end Charset

end Mailroom
