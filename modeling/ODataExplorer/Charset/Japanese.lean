import ODataExplorer.Charset.JapaneseRows
import ODataExplorer.Charset.Front
import ODataExplorer.Charset.SupplementRows

/-!
Japanese character sets.

The basic set has 94 rows of 94 characters. It is coded in two ways: by two bytes above 0xA0, with
marks for half-width letters and for the supplementary set, or shifted, so that half-width letters
keep codes of one byte. The shifted code of desktop systems has further characters.
-/

namespace ODataExplorer.Charset

open Text

/-- The basic set, by row and cell from 0xA1 on. -/
def basicJapaneseTable : PairTable := PairTable.empty.write japaneseRows

/-- The supplementary set, by row and cell from 0xA1 on. -/
def supplementaryJapaneseTable : PairTable := PairTable.empty.write supplementRows

/-- The half-width letter of a byte. -/
def halfWidth? (n : Nat) : Option Char :=
  if 0xA1 ≤ n && n ≤ 0xDF then some (Char.ofNat (0xFF61 + (n - 0xA1))) else none

/-- The letter of a byte below 0x80 where a yen sign and an overline stand for two of ASCII. -/
def romanLetter (n : Nat) : Char :=
  if n == 0x5C then '¥' else if n == 0x7E then '\u203e' else Char.ofNat n

/-! ## Codes with marks -/

/-- What stands at the front of a text with marks. -/
def markedJapaneseFront (state : Unit) (byte : UInt8) (rest : List UInt8) : Front Unit :=
  if byte.toNat == 0x8F then
    match rest with
    | row :: cell :: _ => .ofChar? 3 (supplementaryJapaneseTable.char? row.toNat cell.toNat)
    | _ => .torn
  else
    frontOfPairs
      (fun lead trail =>
        if lead == 0x8E then halfWidth? trail else basicJapaneseTable.char? lead trail)
      state byte rest

/-! ## Shifted codes -/

/-- The second bytes of shifted codes. -/
def shiftedTrails : List Nat := between 0x40 0x7E ++ between 0x80 0xFC

/-- The basic set in shifted codes. Each first byte has two rows. -/
def shiftedJapaneseTable : PairTable :=
  PairTable.empty.fill (codesOf (between 0x81 0x9F ++ between 0xE0 0xEF) shiftedTrails)
    ((codesOf (between 0xA1 0xFE) (between 0xA1 0xFE)).map fun (row, cell) =>
      (basicJapaneseTable.char? row cell).getD Utf8.replacement)

/-- Whether a byte is the first of a shifted code of two. -/
def isShiftedLead (n : Nat) : Bool := (0x81 ≤ n && n ≤ 0x9F) || (0xE0 ≤ n && n ≤ 0xFC)

/-- What stands at the front of a text in shifted codes, given the table and the characters of other
bytes. -/
def shiftedFront (table : PairTable) (single? : Nat → Option Char) (state : Unit) (byte : UInt8)
    (rest : List UInt8) : Front Unit :=
  if isShiftedLead byte.toNat then frontOfPairs table.char? state byte rest
  else .ofChar? 1 (single? byte.toNat)

/-- The character of one byte. -/
def shiftedSingle? (n : Nat) : Option Char :=
  if n < 0x80 then some (Char.ofNat n) else halfWidth? n

/-- The kanji that desktop systems add. -/
def desktopKanji : String :=
  "纊褜鍈銈蓜俉炻昱棈鋹曻彅丨仡仼伀伃伹佖侒侊侚侔俍偀倢俿倞偆偰偂傔僴僘兊兤冝冾凬刕劜劦勀勛匀匇匤卲厓厲叝\ufa0e咜咊咩哿喆坙坥垬埈埇\ufa0f\ufa10增墲夋奓奛奝奣妤妺孖寀甯寘" ++
  "寬尞岦岺峵崧嵓\ufa11嵂嵭嶸嶹巐弡弴彧德忞恝悅悊惞惕愠惲愑愷愰憘戓抦揵摠撝擎敎昀昕昻昉昮昞昤晥晗晙\ufa12晳暙暠暲暿曺朎\uf929杦枻桒柀栁桄棏\ufa13楨\ufa14榘槢" ++
  "樰橫橆橳橾櫢櫤毖氿汜沆汯泚洄涇浯涖涬淏淸淲淼渹湜渧渼溿澈澵濵瀅瀇瀨炅炫焏焄煜煆煇\ufa15燁燾犱犾猤\ufa16獷玽珉珖珣珒琇珵琦琪琩琮瑢璉璟甁畯皂皜皞皛皦\ufa17睆劯砡硎硤硺礰" ++
  "\ufa18\ufa19\ufa1a禔\ufa1b禛竑竧\ufa1c竫箞\ufa1d絈絜綷綠緖繒罇羡\ufa1e茁荢荿菇菶葈蒴蕓蕙蕫\ufa1f薰\ufa20\ufa21蠇裵訒訷詹誧誾" ++
  "諟\ufa22諶譓譿賰賴贒赶\ufa23軏\ufa24\ufa25遧郞\ufa26鄕鄧釚釗釞釭釮釤釥鈆鈐鈊鈺鉀鈼鉎鉙鉑鈹鉧銧鉷鉸鋧鋗鋙鋐\ufa27鋕鋠鋓錥錡鋻\ufa28錞鋿錝錂鍰鍗" ++
  "鎤鏆鏞鏸鐱鑅鑈閒\uf9dc\ufa29隝隯霳霻靃靍靏靑靕顗顥\ufa2a\ufa2b餧\ufa2c馞驎髙髜魵魲鮏鮱鮻鰀鵰鵫\ufa2d鸙黑"

/-- The other characters that desktop systems add or change. -/
def desktopJapaneseRows : List Stretch := [
  ⟨0x81, 0x60, "～∥"⟩,
  ⟨0x81, 0x7C, "－"⟩,
  ⟨0x81, 0x91, "￠￡"⟩,
  ⟨0x81, 0xCA, "￢"⟩,
  ⟨0x87, 0x40, "①②③④⑤⑥⑦⑧⑨⑩⑪⑫⑬⑭⑮⑯⑰⑱⑲⑳ⅠⅡⅢⅣⅤⅥⅦⅧⅨⅩ\ufffd㍉㌔㌢㍍㌘㌧㌃㌶㍑㍗㌍㌦㌣㌫㍊㌻㎜㎝㎞㎎㎏㏄㎡"⟩,
  ⟨0x87, 0x7E, "㍻\ufffd〝〟№㏍℡㊤㊥㊦㊧㊨㈱㈲㈹㍾㍽㍼≒≡∫∮∑√⊥∠∟⊿∵∩∪"⟩,
  ⟨0xEE, 0xEF, "ⅰⅱⅲⅳⅴⅵⅶⅷⅸⅹ￢￤＇＂"⟩,
  ⟨0xFA, 0x40, "ⅰⅱⅲⅳⅴⅵⅶⅷⅸⅹⅠⅡⅢⅣⅤⅥⅦⅧⅨⅩ￢￤＇＂㈱№℡∵"⟩]

/-- The shifted codes of desktop systems. The added kanji have two codes each, and ten first bytes
are for private use. -/
def desktopJapaneseTable : PairTable :=
  let kanji := desktopKanji.toList
  let added := (shiftedJapaneseTable.fill (codesOf [0xED, 0xEE] shiftedTrails) kanji).fill
    ((codesOf [0xFA, 0xFB, 0xFC] shiftedTrails).drop (0x5C - 0x40)) kanji
  (added.fill (codesOf (between 0xF0 0xF9) shiftedTrails)
    ((between 0xE000 0xE757).map Char.ofNat)).write desktopJapaneseRows

/-- The character of one byte on desktop systems. -/
def desktopSingle? (n : Nat) : Option Char :=
  if n ≤ 0x80 then some (Char.ofNat n)
  else if n == 0xA0 then some '\uf8f0'
  else if 0xFD ≤ n then some (Char.ofNat (0xF8F1 + (n - 0xFD)))
  else halfWidth? n

end ODataExplorer.Charset
