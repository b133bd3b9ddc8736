import Keyset.Encoding.Big5
import Keyset.Encoding.Charset.Iso
import Keyset.Encoding.Charset.Mac
import Keyset.Encoding.Charset.Mainframe
import Keyset.Encoding.Charset.National
import Keyset.Encoding.Charset.Pc
import Keyset.Encoding.Charset.Windows
import Keyset.Encoding.Chinese
import Keyset.Encoding.Designated
import Keyset.Encoding.Domain
import Keyset.Encoding.Escaped
import Keyset.Encoding.Japanese
import Keyset.Encoding.Korean
import Keyset.Encoding.Shifted
import Keyset.Encoding.Wide
import Keyset.Text.Utf8

/-!
# Keyset — text encodings

The encodings in which a settings file may be written, by their registered names.

* `Encoding.ofName?` — the encoding with a name; case and punctuation of names do
  not matter.
* `Encoding.decode` — the text of bytes.
-/

namespace Keyset

/-- A text encoding. -/
inductive Encoding where
  /-- One byte for each character. -/
  | charset (c : Charset)
  | utf8
  /-- UTF-8 with an optional mark at the start. -/
  | utf8Marked
  /-- Units of several bytes in a fixed order. -/
  | wide (form : Encoding.Wide.Form) (order : Encoding.Wide.ByteOrder)
  /-- Units of several bytes in the order that a mark gives. -/
  | wideMarked (form : Encoding.Wide.Form)
  | utf7
  | punycode
  | domain
  /-- Latin-1 with escapes. -/
  | escaped
  /-- Latin-1 with the escapes of wide codes alone. -/
  | escapedBare
  | japanese (e : Encoding.Japanese)
  | chinese (e : Encoding.Chinese)
  | big5 (e : Encoding.Big5)
  | korean (e : Encoding.Korean)
  /-- A variant of ISO 2022. -/
  | designated (v : Encoding.Designated)
  /-- The encoding in which nothing has a reading. -/
  | void

namespace Encoding

/-! ## Names -/

/-- The words of a name: its runs of letters, digits and points of ASCII. -/
def words : List Char → List (List Char)
  | [] => [[]]
  | c :: rest =>
      if c.isAlphanum || c = '.' then
        match words rest with
        | [] => [[c.toLower]]
        | w :: ws => (c.toLower :: w) :: ws
      else [] :: words rest

/-- A name in lower case, with an underscore between its words. -/
def normalName (s : String) : String :=
  "_".intercalate (((words s.toList).filter (· ≠ [])).map String.ofList)

/-- An encoding with its name and other names. -/
structure Registration where
  name : String
  otherNames : List String
  encoding : Encoding

/-- The registration of a charset. -/
def ofCharset (c : Charset) : Registration := ⟨c.name, c.otherNames, .charset c⟩

/-- The charsets. -/
def charsets : List Charset :=
  [.ascii, .latin1] ++ Charset.iso ++ Charset.windows ++ Charset.pc ++ Charset.national
    ++ Charset.mac ++ Charset.mainframe

/-- The encodings of the national standards of East Asia. -/
def national : List Registration :=
  [⟨"big5", ["big5_tw", "csbig5", "x_mac_trad_chinese"], .big5 .plain⟩,
    ⟨"big5hkscs", ["big5_hkscs", "hkscs"], .big5 .hkscs⟩,
    ⟨"cp950", ["950", "ms950"], .big5 .cp950⟩,
    ⟨"cp932", ["932", "ms932", "ms_kanji", "mskanji"], .japanese .cp932⟩,
    ⟨"euc_jis_2004", ["euc_jis2004", "eucjis2004", "jisx0213"], .japanese .eucJis2004⟩,
    ⟨"euc_jisx0213", ["eucjisx0213"], .japanese .eucJisx0213⟩,
    ⟨"euc_jp", ["eucjp", "u_jis", "ujis"], .japanese .eucJp⟩,
    ⟨"shift_jis", ["csshiftjis", "s_jis", "shiftjis", "sjis", "x_mac_japanese"],
      .japanese .shiftJis⟩,
    ⟨"shift_jis_2004", ["s_jis_2004", "shiftjis2004", "sjis_2004"], .japanese .shiftJis2004⟩,
    ⟨"shift_jisx0213", ["s_jisx0213", "shiftjisx0213", "sjisx0213"], .japanese .shiftJisx0213⟩,
    ⟨"cp949", ["949", "ms949", "uhc"], .korean .cp949⟩,
    ⟨"euc_kr", ["euckr", "korean", "ks_c_5601", "ks_c_5601_1987", "ks_x_1001", "ksc5601",
      "ksx1001", "x_mac_korean"], .korean .eucKr⟩,
    ⟨"johab", ["cp1361", "ms1361"], .korean .johab⟩,
    ⟨"gb18030", ["gb18030_2000"], .chinese .gb18030⟩,
    ⟨"gb2312", ["chinese", "csiso58gb231280", "euc_cn", "euccn", "eucgb2312_cn", "gb2312_1980",
      "gb2312_80", "iso_ir_58", "x_mac_simp_chinese"], .chinese .gb2312⟩,
    ⟨"gbk", ["936", "cp936", "ms936"], .chinese .gbk⟩,
    ⟨"hz", ["hz_gb", "hz_gb_2312", "hzgb"], .chinese .hz⟩,
    ⟨"iso2022_jp", ["csiso2022jp", "iso2022jp", "iso_2022_jp"], .designated .jp⟩,
    ⟨"iso2022_jp_1", ["iso2022jp_1", "iso_2022_jp_1"], .designated .jp1⟩,
    ⟨"iso2022_jp_2", ["iso2022jp_2", "iso_2022_jp_2"], .designated .jp2⟩,
    ⟨"iso2022_jp_2004", ["iso2022jp_2004", "iso_2022_jp_2004"], .designated .jp2004⟩,
    ⟨"iso2022_jp_3", ["iso2022jp_3", "iso_2022_jp_3"], .designated .jp3⟩,
    ⟨"iso2022_jp_ext", ["iso2022jp_ext", "iso_2022_jp_ext"], .designated .jpExt⟩,
    ⟨"iso2022_kr", ["csiso2022kr", "iso2022kr", "iso_2022_kr"], .designated .kr⟩]

/-- The other encodings that are no charsets. -/
def structured : List Registration :=
  [⟨"utf_8", ["cp65001", "u8", "utf", "utf8", "utf8_ucs2", "utf8_ucs4"], .utf8⟩,
    ⟨"utf_8_sig", [], .utf8Marked⟩,
    ⟨"utf_7", ["u7", "unicode_1_1_utf_7", "utf7"], .utf7⟩,
    ⟨"utf_16", ["u16", "utf16"], .wideMarked .utf16⟩,
    ⟨"utf_16_le", ["unicodelittleunmarked", "utf_16le"], .wide .utf16 .little⟩,
    ⟨"utf_16_be", ["unicodebigunmarked", "utf_16be"], .wide .utf16 .big⟩,
    ⟨"utf_32", ["u32", "utf32"], .wideMarked .utf32⟩,
    ⟨"utf_32_le", ["utf_32le"], .wide .utf32 .little⟩,
    ⟨"utf_32_be", ["utf_32be"], .wide .utf32 .big⟩,
    ⟨"idna", [], .domain⟩,
    ⟨"punycode", [], .punycode⟩,
    ⟨"unicode_escape", [], .escaped⟩,
    ⟨"raw_unicode_escape", [], .escapedBare⟩,
    ⟨"undefined", [], .void⟩]

/-- All encodings. -/
def registrations : List Registration := structured ++ charsets.map ofCharset ++ national

/-- The encoding with a name. Points count as underscores in other names, but not in the
name by which an encoding is registered. -/
def ofName? (s : String) : Option Encoding :=
  let name := normalName s
  let plain := name.map fun c => if c = '.' then '_' else c
  let other (n : String) := registrations.find? fun r => r.otherNames.contains n
  let found := (other name <|> other plain) <|> registrations.find? (·.name == name)
  found.map (·.encoding)

/-! ## Reading -/

/-- The text of UTF-8 bytes after an optional mark. Of a file that holds a part of the
mark alone nothing is text. -/
def decodeMarked? (bs : List UInt8) : Option String :=
  match bs with
  | 0xef :: 0xbb :: 0xbf :: rest => Utf8.decode? rest
  | [0xef, 0xbb] => some ""
  | [0xef] => some ""
  | _ => Utf8.decode? bs

/-- The characters of bytes, where ill-formed bytes are the only fault. -/
def exactly {α : Type} (a : Option α) : Except Fault α :=
  match a with
  | some a => .ok a
  | none => .error .bytes

/-- The characters of bytes. -/
def decodeChars (e : Encoding) (bs : List UInt8) : Except Fault (List Char) :=
  match e with
  | .charset c => exactly (c.decode? bs)
  | .utf8 => exactly ((Utf8.decode? bs).map String.toList)
  | .utf8Marked => exactly ((decodeMarked? bs).map String.toList)
  | .wide form order => exactly (Wide.decode? form order bs)
  | .wideMarked form => Wide.decodeMarked form bs
  | .utf7 => exactly (Shifted.decode? bs)
  | .punycode => Punycode.decode bs
  | .domain => Domain.decode bs
  | .escaped => exactly (Escaped.decode? bs)
  | .escapedBare => exactly (Escaped.decodeBare? bs)
  | .japanese e => exactly (e.decode? bs)
  | .chinese e => exactly (e.decode? bs)
  | .big5 e => exactly (e.decode? bs)
  | .korean e => exactly (e.decode? bs)
  | .designated v => v.decode bs
  | .void => .error .form

/-- The text of bytes. -/
def decode (e : Encoding) (bs : List UInt8) : Except Fault String :=
  (e.decodeChars bs).map String.ofList

end Encoding

end Keyset
