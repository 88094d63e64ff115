import ODataExplorer.Charset.ChineseRows
import ODataExplorer.Charset.Front
import ODataExplorer.Charset.HongKongRows
import ODataExplorer.Charset.TraditionalRows

/-!
Chinese character sets.

The set of simplified Chinese has three sizes. The basic one has 94 by 94 codes. The extended one
adds codes with lower second bytes; these hold, in the order of Unicode, the hanzi that the basic
one lacks. The national one has a character for every code, most of the added ones for private use,
and codes of four bytes for all the rest of Unicode. For lines of seven bits the basic set has
another form, in which tildes switch it on and off. The set of traditional Chinese comes as it is,
with what desktop systems changed, and with the supplement of Hong Kong.
-/

namespace ODataExplorer.Charset

open Text

/-! ## Simplified Chinese -/

/-- The basic set. -/
def basicChineseTable : PairTable := PairTable.empty.write chineseRows

/-- The second bytes of the codes that the extended set adds below the basic ones. -/
def lowTrails : List Nat := between 0x40 0x7E ++ between 0x80 0xA0

/-- The second bytes of the extended set. -/
def allTrails : List Nat := between 0x40 0x7E ++ between 0x80 0xFE

/-- The symbols of the extended set, and hanzi from outside the main block. -/
def extendedRows : List Stretch := [
  ⟨0xA1, 0xA4, "·"⟩,
  ⟨0xA1, 0xAA, "\u2014"⟩,
  ⟨0xA2, 0xA1, "ⅰⅱⅲⅳⅴⅵⅶⅷⅸⅹ"⟩,
  ⟨0xA6, 0xE0,
    "\ufe35\ufe36\ufe39\ufe3a\ufe3f\ufe40\ufe3d\ufe3e\ufe41\ufe42\ufe43\ufe44\ufffd\ufffd\ufe3b" ++
    "\ufe3c\ufe37\ufe38\ufe31\ufffd\ufe33\ufe34"⟩,
  ⟨0xA8, 0x40, "ˊˋ˙\u2013\u2015\u2025\u2035℅℉↖↗↘↙∕∟∣≒≦≧⊿═║╒╓╔╕╖╗╘╙╚╛╜╝╞╟╠╡╢╣╤╥╦╧╨╩╪╫╬╭╮╯╰╱╲╳▁▂▃▄▅▆▇"⟩,
  ⟨0xA8, 0x80, "█▉▊▋▌▍▎▏▓▔▕▼▽◢◣◤◥☉⊕〒〝〞"⟩,
  ⟨0xA8, 0xBB, "ɑ\ufffdńň\ufffdɡ"⟩,
  ⟨0xA9, 0x40, "〡〢〣〤〥〦〧〨〩㊣㎎㎏㎜㎝㎞㎡㏄㏎㏑㏒㏕\ufe30￢￤\ufffd℡㈱\ufffd\u2010"⟩,
  ⟨0xA9, 0x60,
    "ー゛゜ヽヾ〆ゝゞ\ufe49\ufe4a\ufe4b\ufe4c\ufe4d\ufe4e\ufe4f\ufe50\ufe51\ufe52\ufe54\ufe55\ufe56" ++
    "\ufe57\ufe59\ufe5a\ufe5b\ufe5c\ufe5d\ufe5e\ufe5f\ufe60\ufe61"⟩,
  ⟨0xA9, 0x80, "\ufe62\ufe63\ufe64\ufe65\ufe66\ufe68\ufe69\ufe6a\ufe6b"⟩,
  ⟨0xA9, 0x96, "〇"⟩,
  ⟨0xFD, 0x9C, "\uf92c\uf979\uf995\uf9e7\uf9f1"⟩,
  ⟨0xFE, 0x40,
    "\ufa0c\ufa0d\ufa0e\ufa0f\ufa11\ufa13\ufa14\ufa18\ufa1f\ufa20\ufa21\ufa23\ufa24\ufa27\ufa28" ++
    "\ufa29"⟩]

/-- The extended set. Its hanzi stand before the basic codes and beside them. -/
def extendedChineseTable : PairTable :=
  (basicChineseTable.fill
    (codesOf (between 0x81 0xA0) allTrails ++ codesOf (between 0xAA 0xFE) lowTrails)
    (basicChineseTable.charsWithout 0x4E00 0x9FA5)).write extendedRows

/-- The characters that the national set adds to codes of two bytes. -/
def nationalRows : List Stretch := [
  ⟨0xA2, 0xE3, "€"⟩,
  ⟨0xA8, 0xBF, "ǹ"⟩,
  ⟨0xA9, 0x89, "〾⿰⿱⿲⿳⿴⿵⿶⿷⿸⿹⿺⿻"⟩,
  ⟨0xFE, 0x50,
    "⺁\ufffd\ufffd\ufffd⺄㑳㑇⺈⺋\ufffd㖞㘚㘎⺌⺗㥮㤘\ufffd㧏㧟㩳㧐\ufffd\ufffd㭎㱮㳠⺧\ufffd\ufffd⺪䁖䅟⺮䌷⺳⺶⺷\ufffd" ++
    "䎱䎬⺻䏝䓖䙡䙌"⟩,
  ⟨0xFE, 0x80, "䜣䜩䝼䞍⻊䥇䥺䥽䦂䦃䦅䦆䦟䦛䦷䦶\ufffd\ufffd䲣䲟䲠䲡䱷䲢䴓䴔䴕䴖䴗䴘䴙䶮"⟩]

/-- The codes for private use, in three blocks. -/
def privateCodes : List (Nat × Nat) :=
  codesOf (between 0xAA 0xAF ++ between 0xF8 0xFE) (between 0xA1 0xFE) ++
    codesOf (between 0xA1 0xA7) lowTrails

/-- The characters for private use, in order. -/
def privateChars : List Char := (between 0xE000 0xF8FF).map Char.ofNat

/-- The codes of two bytes of the national set. Those that no block claims go on with private use
where the blocks end. -/
def nationalChineseTable : PairTable :=
  let table := extendedChineseTable.fill privateCodes privateChars
  let unclaimed := (codesOf (between 0x81 0xFE) allTrails).filter fun (lead, trail) =>
    (table.char? lead trail).isNone
  (table.fill unclaimed (privateChars.drop privateCodes.length)).write nationalRows

/-- The characters of the basic plane that have no code of two bytes. Their codes of four bytes
count them. -/
def nationalRest : Array Char := (nationalChineseTable.charsWithout 0x80 0xFFFF).toArray

/-- The character of a code of four bytes: 126 by 10 codes follow one another for each of the first
two bytes. -/
def nationalQuad? (a b c d : Nat) : Option Char :=
  if a < 0x81 || a > 0xFE || c < 0x81 || c > 0xFE || d < 0x30 || d > 0x39 then none
  else
    let within := (b - 0x30) * 1260 + (c - 0x81) * 10 + (d - 0x30)
    if a < 0x85 then nationalRest[(a - 0x81) * 12600 + within]?
    else if a < 0x90 then none
    else
      let n := 0x10000 + (a - 0x90) * 12600 + within
      if n ≤ 0x10FFFF then some (Char.ofNat n) else none

/-- What stands at the front of a text in the national set. -/
def nationalFront (state : Unit) (byte : UInt8) (rest : List UInt8) : Front Unit :=
  match rest with
  | second :: more =>
    if byte.toNat < 0x80 || second.toNat < 0x30 || second.toNat > 0x39 then
      frontOfPairs nationalChineseTable.char? state byte rest
    else
      match more with
      | third :: fourth :: _ =>
        .ofChar? 4 (nationalQuad? byte.toNat second.toNat third.toNat fourth.toNat)
      | _ => .torn
  | [] => frontOfPairs nationalChineseTable.char? state byte rest

/-- What stands at the front of a text of seven bits. The state tells whether the basic set is
on. -/
def tildeFront (isOn : Bool) (byte : UInt8) (rest : List UInt8) : Front Bool :=
  let n := byte.toNat
  if n == '~'.toNat then
    match rest with
    | [] => .torn
    | second :: _ =>
      let mark := Char.ofNat second.toNat
      if isOn then
        if mark == '\x7d' then .code 2 [] false else .stray 1
      else if mark == '~' then .code 2 ['~'] false
      else if mark == '\x7b' then .code 2 [] true
      else if mark == '\n' then .code 2 [] false
      else .stray 1
  else if n ≥ 0x80 then .stray 1
  else if isOn then
    match rest with
    | [] => .torn
    | second :: _ =>
      match basicChineseTable.char? (n + 0x80) (second.toNat + 0x80) with
      | some c => .code 2 [c] true
      | none => .stray 1
  else .code 1 [Char.ofNat n] false

/-! ## Traditional Chinese -/

/-- The set of traditional Chinese. -/
def traditionalChineseTable : PairTable := PairTable.empty.write traditionalRows

/-- What desktop systems changed in it. -/
def desktopTraditionalRows : List Stretch := [
  ⟨0xA1, 0x45, "\u2027"⟩,
  ⟨0xA1, 0x4E, "\ufe51"⟩,
  ⟨0xA1, 0xC2, "¯"⟩,
  ⟨0xA1, 0xE3, "～"⟩,
  ⟨0xA1, 0xF2, "⊕⊙"⟩,
  ⟨0xA2, 0x41, "∕\ufe68\ufffd￥\ufffd￠￡"⟩,
  ⟨0xA3, 0xE1, "€"⟩,
  ⟨0xF9, 0xD6, "碁銹裏墻恒粧嫺╔╦╗╠╬╣╚╩╝╒╤╕╞╪╡╘╧╛╓╥╖╟╫╢╙╨╜║═╭╮╰╯▓"⟩]

/-- The set of traditional Chinese on desktop systems. -/
def desktopTraditionalTable : PairTable := traditionalChineseTable.write desktopTraditionalRows

/-- The supplement of Hong Kong but for its codes of two characters. -/
def hongKongTable : PairTable := PairTable.empty.write hongKongRows

/-- The codes of two characters that the supplement has. -/
def hongKongMarked : List MarkedStretch := [
  ⟨⟨0x88, 0x62, "Ê"⟩, '\u0304'⟩,
  ⟨⟨0x88, 0x64, "Ê"⟩, '\u030c'⟩,
  ⟨⟨0x88, 0xA3, "ê"⟩, '\u0304'⟩,
  ⟨⟨0x88, 0xA5, "ê"⟩, '\u030c'⟩]

/-- The codes that the supplement has for itself. -/
def isHongKongOwn (lead trail : Nat) : Bool :=
  0xC6 ≤ lead && lead ≤ 0xC8 && (0xC7 ≤ lead || 0xA1 ≤ trail)

/-- What stands at the front of a text in the set with the supplement of Hong Kong. -/
def hongKongFront (_ : Unit) (byte : UInt8) (rest : List UInt8) : Front Unit :=
  let chars? (lead trail : Nat) : Option (List Char) :=
    let basic? :=
      if isHongKongOwn lead trail then none else traditionalChineseTable.char? lead trail
    ((basic?.or (hongKongTable.char? lead trail)).map ([·])).or
      (markedChars? hongKongMarked lead trail)
  frontOfTwo (fun lead trail => .ofChars? 2 (chars? lead trail)) byte rest

end ODataExplorer.Charset
