import ODataExplorer.Charset.Basic
import ODataExplorer.Proofs.Text.Utf8

/-!
Which character sets refuse.

A few of the known names are of encodings that make no text, or not of all bytes. Every other set
makes some text of any bytes (`decode_of_makesText`), and UTF-8 makes of written text that text
(`decode_utf8_encode`).
-/

namespace ODataExplorer.Charset

open Text

/-- Whether a set makes text of bytes, whatever these are. -/
def makesText : Charset → Bool
  | .multilingualMail | .insertions | .bytes | .domain | .undefined => false
  | _ => true

variable {charset : Charset}

theorem text?_of_makesText (h : charset.makesText = true) (bytes : List UInt8) :
    ∃ text, charset.text? bytes = .ok text := by
  cases charset with
  | multilingualMail | insertions | bytes | domain | undefined => cases h
  | utf16 order | utf32 order => cases order <;> exact ⟨_, rfl⟩
  | _ => exact ⟨_, rfl⟩

/-- **A set that makes text refuses no bytes.** -/
theorem decode_of_makesText (h : charset.makesText = true) (bytes : List UInt8) :
    ∃ text, charset.decode bytes = .ok text := by
  rw [decode]
  split
  · exact ⟨"", rfl⟩
  · obtain ⟨text, htext⟩ := text?_of_makesText h bytes
    exact ⟨String.ofList text, by rw [htext]; rfl⟩

/-- **A text written in UTF-8 is read as that text.** -/
theorem decode_utf8_encode (text : String) :
    Charset.utf8.decode (Utf8.encode text.toList) = .ok text := by
  rw [decode]
  split
  · next hempty =>
    have hback := Utf8.decode?_encode text.toList
    rw [List.isEmpty_iff.mp hempty] at hback
    rw [String.toList_eq_nil_iff.mp (Option.some.inj hback).symm]
  · rw [text?, Utf8.decodeLossy_encode]
    exact congrArg Except.ok String.ofList_toList

end ODataExplorer.Charset
