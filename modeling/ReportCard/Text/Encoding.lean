import ReportCard.Text.CodePage
import ReportCard.Text.Utf8

/-!
# Encodings

Bytes read as text in an encoding with a name.  Reading is strict: bytes that do not stand for characters make no text.
Of the encodings of East Asia with several bytes a character, and of those with escapes, only the plain part is read.
-/

namespace ReportCard.Text

/-- How bytes stand for characters.  In units of several bytes the lowest byte comes first or last; where that is not
said, a mark at the front says it, and without a mark it comes first. -/
inductive Encoding where
  | ascii
  | latin1
  | utf8 (skipsMark : Bool)
  | utf16 (lowestFirst : Option Bool)
  | utf32 (lowestFirst : Option Bool)
  /-- A code page that agrees with ASCII below a byte, with the characters from there on. -/
  | page (first : Nat) (characters : List String)

namespace Encoding

/-! ### Names -/

/-- The names of encodings that are read as ASCII. -/
def asciiNames : List String :=
  ["ascii", "646", "ansi_x3.4_1968", "ansi_x3_4_1968", "ansi_x3.4_1986", "cp367", "csascii", "ibm367", "iso646_us",
   "iso_646.irv_1991", "iso_ir_6", "us", "us_ascii", "big5", "big5_tw", "csbig5", "x_mac_trad_chinese", "big5hkscs",
   "big5_hkscs", "hkscs", "cp932", "932", "ms932", "mskanji", "ms_kanji", "cp949", "949", "ms949", "uhc", "cp950",
   "950", "ms950", "euc_jis_2004", "jisx0213", "eucjis2004", "euc_jis2004", "euc_jisx0213", "eucjisx0213", "euc_jp",
   "eucjp", "ujis", "u_jis", "euc_kr", "euckr", "korean", "ksc5601", "ks_c_5601", "ks_c_5601_1987", "ksx1001",
   "ks_x_1001", "x_mac_korean", "gb18030", "gb18030_2000", "gb2312", "chinese", "csiso58gb231280", "euc_cn", "euccn",
   "eucgb2312_cn", "gb2312_1980", "gb2312_80", "iso_ir_58", "x_mac_simp_chinese", "gbk", "936", "cp936", "ms936",
   "johab", "cp1361", "ms1361", "shift_jis", "csshiftjis", "shiftjis", "sjis", "s_jis", "x_mac_japanese",
   "iso2022_jp", "csiso2022jp", "iso2022jp", "iso_2022_jp", "iso2022_jp_1", "iso2022jp_1", "iso_2022_jp_1",
   "iso2022_jp_2", "iso2022jp_2", "iso_2022_jp_2", "iso2022_jp_2004", "iso_2022_jp_2004", "iso2022jp_2004",
   "iso2022_jp_3", "iso2022jp_3", "iso_2022_jp_3", "iso2022_jp_ext", "iso2022jp_ext", "iso_2022_jp_ext",
   "iso2022_kr", "csiso2022kr", "iso2022kr", "iso_2022_kr", "hz", "hz_gb", "hz_gb_2312", "hzgb", "shift_jis_2004",
   "s_jis_2004", "shiftjis2004", "sjis_2004", "shift_jisx0213", "s_jisx0213", "shiftjisx0213", "sjisx0213", "utf_7",
   "u7", "unicode_1_1_utf_7", "utf7", "idna"]

/-- The names of the other encodings that are no code pages. -/
def wideNames : List (List String × Encoding) :=
  [(["latin_1", "8859", "cp819", "csisolatin1", "ibm819", "iso8859", "iso8859_1", "iso_8859_1", "iso_8859_1_1987",
     "iso_ir_100", "l1", "latin", "latin1", "charmap", "unicode_escape", "unicodeescape", "raw_unicode_escape",
     "rawunicodeescape"], latin1),
   (["utf_8", "u8", "utf", "utf8", "utf8_ucs2", "utf8_ucs4", "cp65001"], utf8 false),
   (["utf_8_sig"], utf8 true),
   (["utf_16", "u16", "utf16"], utf16 none),
   (["utf_16_le", "unicodelittleunmarked", "utf_16le"], utf16 (some true)),
   (["utf_16_be", "unicodebigunmarked", "utf_16be"], utf16 (some false)),
   (["utf_32", "u32", "utf32"], utf32 none),
   (["utf_32_le", "utf_32le"], utf32 (some true)),
   (["utf_32_be", "utf_32be"], utf32 (some false))]

/-- A name in small letters, with one underscore for everything between letters, digits and points; `parted` says
whether there was something since the last of them. -/
def plainName (parted : Bool) : List Char → List Char
  | [] => []
  | c :: cs =>
    if c.isAlphanum || c == '.' then (if parted then ['_', c.toLower] else [c.toLower]) ++ plainName false cs
    else plainName true cs

/-- The encoding with exactly a name. -/
def named? (name : String) : Option Encoding :=
  if asciiNames.contains name then some ascii
  else ((wideNames.find? (·.1.contains name)).map (·.2)).or
    (((codePages.find? (·.1.contains name)).map fun entry => page 0x80 entry.2).or
      ((codePagesApart.find? (·.1.contains name)).map fun entry => page 0 entry.2))

/-- The encoding with a name, whatever stands between the parts of it. -/
def ofName? (name : String) : Option Encoding :=
  let plain := plainName false (name.toList.dropWhile fun c => !(c.isAlphanum || c == '.'))
  (named? (String.ofList plain)).or (named? (String.ofList (plain.map fun c => if c == '.' then '_' else c)))

/-! ### Reading -/

/-- The number that bytes make up. -/
def unit (lowestFirst : Bool) (bytes : List Nat) : Nat :=
  (if lowestFirst then bytes.reverse else bytes).foldl (fun n b => 256 * n + b) 0

/-- The numbers that each two bytes make up. -/
def pairs? (lowestFirst : Bool) : List Nat → Option (List Nat)
  | [] => some []
  | [_] => none
  | a :: b :: rest => (pairs? lowestFirst rest).map (unit lowestFirst [a, b] :: ·)

/-- The numbers that each four bytes make up. -/
def quads? (lowestFirst : Bool) : List Nat → Option (List Nat)
  | [] => some []
  | a :: b :: c :: d :: rest => (quads? lowestFirst rest).map (unit lowestFirst [a, b, c, d] :: ·)
  | _ => none

/-- The character with a number. -/
def character? (n : Nat) : Option Char := if n.isValidChar then some (Char.ofNat n) else none

/-- The characters of units of 16 bits, of which two may make up one. -/
def joined? : List Nat → Option (List Char)
  | [] => some []
  | a :: b :: rest =>
    if 0xD800 ≤ a && a < 0xDC00 && 0xDC00 ≤ b && b < 0xE000 then
      (joined? rest).map (Char.ofNat (0x10000 + (a - 0xD800) * 0x400 + (b - 0xDC00)) :: ·)
    else (character? a).bind fun c => (joined? (b :: rest)).map (c :: ·)
  | [a] => (character? a).map ([·])

/-- Bytes in an order that is given or marked at their front, without the mark. -/
def ordered (lowestFirst : Option Bool) (low high bytes : List Nat) : Bool × List Nat :=
  match lowestFirst with
  | some order => (order, bytes)
  | none =>
    if low.isPrefixOf bytes then (true, bytes.drop low.length)
    else if high.isPrefixOf bytes then (false, bytes.drop high.length)
    else (true, bytes)

/-- The characters that bytes stand for. -/
def characters? : Encoding → List Nat → Option (List Char)
  | ascii, bs => bs.mapM fun b => if b < 0x80 then some (Char.ofNat b) else none
  | latin1, bs => some (bs.map Char.ofNat)
  | utf8 skipsMark, bs =>
    Utf8.strictly? (if skipsMark && [0xEF, 0xBB, 0xBF].isPrefixOf bs then bs.drop 3 else bs)
  | utf16 lowestFirst, bs =>
    let (order, bs) := ordered lowestFirst [0xFF, 0xFE] [0xFE, 0xFF] bs
    (pairs? order bs).bind joined?
  | utf32 lowestFirst, bs =>
    let (order, bs) := ordered lowestFirst [0xFF, 0xFE, 0, 0] [0, 0, 0xFE, 0xFF] bs
    (quads? order bs).bind fun ns => ns.mapM character?
  | page first characters, bs =>
    let cs := characters.flatMap String.toList
    bs.mapM fun b => if b < first then some (Char.ofNat b) else cs[b - first]?.filter (· != Char.ofNat 0xFFFE)

/-- The text that bytes stand for. -/
def decode? (encoding : Encoding) (bs : List Nat) : Option String := (encoding.characters? bs).map String.ofList

end Encoding

end ReportCard.Text
