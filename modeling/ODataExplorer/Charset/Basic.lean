import ODataExplorer.Charset.Chinese
import ODataExplorer.Charset.ConsolePages
import ODataExplorer.Charset.Designated
import ODataExplorer.Charset.DesktopPages
import ODataExplorer.Charset.Escapes
import ODataExplorer.Charset.Insertions
import ODataExplorer.Charset.MainframePages
import ODataExplorer.Charset.RegionalPages
import ODataExplorer.Charset.StandardPages
import ODataExplorer.Charset.Utf7
import ODataExplorer.Text.Case
import ODataExplorer.Text.Split

/-!
Character sets by name.

A set is a way to make a text of bytes; bytes that do not fit are replaced by one sign for each
invalid piece, and so are the halves of pairs that a few sets can write. A few known names are of
encodings that make no text, or none in this way: they refuse every text of bytes but the empty one.
The writing of labels refuses some, and so does the mail of several languages, whose reader can
fail.
-/

namespace ODataExplorer

open Text

/-- A known way to make a text of bytes. -/
inductive Charset where
  | utf8
  | utf8WithMark
  | utf7
  | ascii
  | latin1
  | page (page : Charset.CodePage)
  | utf16 (bigEndian? : Option Bool)
  | utf32 (bigEndian? : Option Bool)
  | escaped
  | plainlyEscaped
  | basicChinese
  | extendedChinese
  | nationalChinese
  | tildeChinese
  | traditionalChinese
  | desktopTraditional
  | hongKong
  | basicKorean
  | extendedKorean
  | combiningKorean
  | koreanMail
  | markedJapanese
  | shiftedJapanese
  | desktopJapanese
  | japaneseMail
  | supplementedMail
  | extendedMail
  | multilingualMail
  | markedPlanes (edition : Charset.Edition)
  | shiftedPlanes (edition : Charset.Edition)
  | planesMail (edition : Charset.Edition)
  /-- The writing of the labels of domain names. -/
  | insertions
  /-- An encoding of bytes as bytes. -/
  | bytes
  /-- The encoding of domain names, which replaces nothing. -/
  | domain
  /-- The encoding that refuses everything. -/
  | undefined
  deriving DecidableEq, Repr

namespace Charset

/-! ## Names -/

/-- The names of the character sets that are no code pages, in lower case and with underscores
between words: for each its own name and then its other ones. -/
def knownNames : List (Charset × List String) := [
  (.utf8, ["utf_8", "cp65001", "u8", "utf", "utf8", "utf8_ucs2", "utf8_ucs4"]),
  (.utf8WithMark, ["utf_8_sig"]),
  (.utf7, ["utf_7", "u7", "unicode_1_1_utf_7", "utf7"]),
  (.ascii, ["ascii", "646", "ansi_x3.4_1968", "ansi_x3.4_1986", "ansi_x3_4_1968", "cp367",
    "csascii", "ibm367", "iso646_us", "iso_646.irv_1991", "iso_ir_6", "us", "us_ascii"]),
  (.latin1, ["latin_1", "8859", "cp819", "csisolatin1", "ibm819", "iso8859", "iso8859_1",
    "iso_8859_1", "iso_8859_1_1987", "iso_ir_100", "l1", "latin", "latin1"]),
  (.latin1, ["charmap"]),
  (.utf16 none, ["utf_16", "u16", "utf16"]),
  (.utf16 (some true), ["utf_16_be", "unicodebigunmarked", "utf_16be"]),
  (.utf16 (some false), ["utf_16_le", "unicodelittleunmarked", "utf_16le"]),
  (.utf32 none, ["utf_32", "u32", "utf32"]),
  (.utf32 (some true), ["utf_32_be", "utf_32be"]),
  (.utf32 (some false), ["utf_32_le", "utf_32le"]),
  (.escaped, ["unicode_escape"]),
  (.plainlyEscaped, ["raw_unicode_escape"]),
  (.basicChinese, ["gb2312", "chinese", "csiso58gb231280", "euc_cn", "euccn", "eucgb2312_cn",
    "gb2312_1980", "gb2312_80", "iso_ir_58", "x_mac_simp_chinese"]),
  (.extendedChinese, ["gbk", "936", "cp936", "ms936"]),
  (.nationalChinese, ["gb18030", "gb18030_2000"]),
  (.tildeChinese, ["hz", "hz_gb", "hz_gb_2312", "hzgb"]),
  (.traditionalChinese, ["big5", "big5_tw", "csbig5", "x_mac_trad_chinese"]),
  (.desktopTraditional, ["cp950", "950", "ms950"]),
  (.hongKong, ["big5hkscs", "big5_hkscs", "hkscs"]),
  (.basicKorean, ["euc_kr", "euckr", "korean", "ks_c_5601", "ks_c_5601_1987", "ks_x_1001",
    "ksc5601", "ksx1001", "x_mac_korean"]),
  (.extendedKorean, ["cp949", "949", "ms949", "uhc"]),
  (.combiningKorean, ["johab", "cp1361", "ms1361"]),
  (.koreanMail, ["iso2022_kr", "csiso2022kr", "iso2022kr", "iso_2022_kr"]),
  (.markedJapanese, ["euc_jp", "eucjp", "u_jis", "ujis"]),
  (.shiftedJapanese, ["shift_jis", "csshiftjis", "s_jis", "shiftjis", "sjis", "x_mac_japanese"]),
  (.desktopJapanese, ["cp932", "932", "ms932", "ms_kanji", "mskanji"]),
  (.japaneseMail, ["iso2022_jp", "csiso2022jp", "iso2022jp", "iso_2022_jp"]),
  (.supplementedMail, ["iso2022_jp_1", "iso2022jp_1", "iso_2022_jp_1"]),
  (.extendedMail, ["iso2022_jp_ext", "iso2022jp_ext", "iso_2022_jp_ext"]),
  (.multilingualMail, ["iso2022_jp_2", "iso2022jp_2", "iso_2022_jp_2"]),
  (.markedPlanes .first, ["euc_jisx0213", "eucjisx0213"]),
  (.markedPlanes .second, ["euc_jis_2004", "euc_jis2004", "eucjis2004", "jisx0213"]),
  (.shiftedPlanes .first, ["shift_jisx0213", "s_jisx0213", "shiftjisx0213", "sjisx0213"]),
  (.shiftedPlanes .second, ["shift_jis_2004", "s_jis_2004", "shiftjis2004", "sjis_2004"]),
  (.planesMail .first, ["iso2022_jp_3", "iso2022jp_3", "iso_2022_jp_3"]),
  (.planesMail .second, ["iso2022_jp_2004", "iso2022jp_2004", "iso_2022_jp_2004"]),
  (.insertions, ["punycode"]),
  (.bytes, ["base64_codec", "base64", "base_64"]),
  (.bytes, ["bz2_codec", "bz2"]),
  (.bytes, ["hex_codec", "hex"]),
  (.bytes, ["quopri_codec", "quopri", "quoted_printable", "quotedprintable"]),
  (.bytes, ["rot_13", "rot13"]),
  (.bytes, ["uu_codec", "uu"]),
  (.bytes, ["zlib_codec", "zip", "zlib"]),
  (.domain, ["idna"]),
  (.undefined, ["undefined"])]

/-- All code pages. -/
def codePages : List CodePage :=
  standardPages ++ desktopPages ++ consolePages ++ mainframePages ++ regionalPages

def isNamePart (c : Char) : Bool :=
  ('a' ≤ c && c ≤ 'z') || ('A' ≤ c && c ≤ 'Z') || ('0' ≤ c && c ≤ '9') || c == '.'

/-- A name in lower case, with one underscore for everything that stands between its words. -/
def plainName (name : String) : String :=
  let spaced := name.toList.map fun c => if isNamePart c then asciiLower c else ' '
  String.ofList (joinWith ['_'] ((pieces ' ' spaced).filter (!·.isEmpty)))

/-- Whether a name is one of a list that starts with the own name of a set. In its other names a
full stop counts as an underscore. -/
def isNamed (name : String) : List String → Bool
  | [] => false
  | own :: others =>
    own == name || others.contains name ||
      others.contains (String.ofList (name.toList.map fun c => if c == '.' then '_' else c))

/-- The character set of a name. -/
def named? (name : String) : Option Charset :=
  let name := plainName name
  let page? := codePages.find? fun page => isNamed name page.names
  ((knownNames.find? fun (_, names) => isNamed name names).map (·.1)).or (page?.map .page)

/-! ## Decoding -/

/-- Why a set makes no text of bytes. -/
inductive Refusal where
  /-- It makes bytes of them. -/
  | notText
  /-- It fails for the reason given. -/
  | failed (reason : String)
  /-- There is a byte beyond ASCII where none may stand. -/
  | beyondAscii (byte : UInt8) (place : Nat)
  /-- Its reader fails on them. -/
  | broken
  deriving DecidableEq, Repr

/-- The name of the class of exceptions that a refusal is raised as. -/
def Refusal.className : Refusal → String
  | .notText => "LookupError"
  | .failed _ => "UnicodeError"
  | .beyondAscii .. => "UnicodeDecodeError"
  | .broken => "RuntimeError"

/-- What is said of bytes that a set makes no text of; `charset` is the name that it was given. -/
def Refusal.message (charset : String) : Refusal → String
  | .notText =>
    s!"'{charset}' is not a text encoding; use codecs.decode() to handle arbitrary codecs"
  | .failed reason => s!"decoding with '{charset}' codec failed (UnicodeError: {reason})"
  | .beyondAscii byte place =>
    let digits := String.ofList (fixedHex 2 byte.toNat)
    s!"'ascii' codec can't decode byte 0x{digits} in position {place}: ordinal not in range(128)"
  | .broken => s!"decoding with '{charset}' codec failed (RuntimeError: internal codec error)"

/-- Text of bytes that are characters each, up to a limit. -/
def decodeBelow (limit : Nat) (bytes : List UInt8) : List Char :=
  bytes.map fun byte =>
    if byte.toNat < limit then Char.ofNat byte.toNat else Utf8.replacement

/-- What is read of bytes of Japanese mail with sets of other languages, and whether the reader has
failed behind it. -/
def readMultilingual (bytes : List UInt8) : List Char × Bool :=
  let (text, choice) := readFronts multilingualMailScheme.front {} bytes
  (text, choice.isBroken)

/-- The text of some bytes. -/
def text? (charset : Charset) (bytes : List UInt8) : Except Refusal (List Char) :=
  let fronts {σ : Type} (front : σ → UInt8 → List UInt8 → Front σ) (state : σ) :
      Except Refusal (List Char) :=
    .ok (decodeFronts front state bytes)
  let pairs (table : PairTable) := fronts (frontOfPairs table.char?) ()
  match charset with
  | .utf8 => .ok (Utf8.decodeLossy bytes)
  | .utf8WithMark =>
    .ok (Utf8.decodeLossy (if [0xEF, 0xBB, 0xBF].isPrefixOf bytes then bytes.drop 3 else bytes))
  | .utf7 => .ok (decodeUtf7 .outside bytes)
  | .ascii => .ok (decodeBelow 0x80 bytes)
  | .latin1 => .ok (decodeBelow 0x100 bytes)
  | .page found => .ok (found.decode bytes)
  | .utf16 (some bigEndian) => .ok (decodeUnits16 bigEndian bytes)
  | .utf16 none => .ok (decodeMarked16 bytes)
  | .utf32 (some bigEndian) => .ok (decodeUnits32 bigEndian bytes)
  | .utf32 none => .ok (decodeMarked32 bytes)
  | .escaped => fronts escapedFront ()
  | .plainlyEscaped => fronts plainlyEscapedFront ()
  | .basicChinese => pairs basicChineseTable
  | .extendedChinese => pairs extendedChineseTable
  | .nationalChinese => fronts nationalFront ()
  | .tildeChinese => fronts tildeFront false
  | .traditionalChinese => pairs traditionalChineseTable
  | .desktopTraditional => pairs desktopTraditionalTable
  | .hongKong => fronts hongKongFront ()
  | .basicKorean => fronts basicKoreanFront ()
  | .extendedKorean => pairs extendedKoreanTable
  | .combiningKorean => fronts (frontOfPairs combiningPair?) ()
  | .koreanMail => fronts koreanMailScheme.front {}
  | .markedJapanese => fronts markedJapaneseFront ()
  | .shiftedJapanese => fronts (shiftedFront shiftedJapaneseTable shiftedSingle?) ()
  | .desktopJapanese => fronts (shiftedFront desktopJapaneseTable desktopSingle?) ()
  | .japaneseMail => fronts japaneseMailScheme.front {}
  | .supplementedMail => fronts supplementedMailScheme.front {}
  | .extendedMail => fronts extendedMailScheme.front {}
  | .multilingualMail =>
    let (text, isBroken) := readMultilingual bytes
    if isBroken then .error .broken else .ok text
  | .markedPlanes edition => fronts (markedExtendedFront edition) ()
  | .shiftedPlanes edition => fronts (shiftedExtendedFront edition) ()
  | .planesMail edition => fronts (planesMailScheme edition).front {}
  | .insertions => (decodeInsertions bytes).mapError fun (byte, place) => .beyondAscii byte place
  | .bytes => .error .notText
  | .domain => .error (.failed "Unsupported error handling replace")
  | .undefined => .error (.failed "undefined encoding")

/-- The text of bytes. No bytes are no text in every set. -/
def decode (charset : Charset) (bytes : List UInt8) : Except Refusal String :=
  if bytes.isEmpty then .ok "" else (charset.text? bytes).map String.ofList

/-- The text of bytes of which nothing has to be replaced or left out. A reader that fails behind a
piece to be replaced does not come to it. -/
def exactText? (charset : Charset) (bytes : List UInt8) : Except Refusal (Option (List Char)) :=
  match charset with
  | .insertions => .ok (readInsertions? bytes)
  | .multilingualMail =>
    let (text, isBroken) := readMultilingual bytes
    if text.contains Utf8.replacement then .ok none
    else if isBroken then .error .broken
    else .ok (some text)
  | _ => .ok ((charset.text? bytes).toOption.filter (!·.contains Utf8.replacement))

end Charset

end ODataExplorer
