import ODataExplorer.Text.Utf8

/-!
Decoding code by code.

A text of bytes is read from its front. There stands the code of some characters, or bytes that are
the code of nothing, or the beginning of a code that the text ends within. What is no code is
replaced by one sign, and so is all that is left of a text that ends within one.
-/

namespace ODataExplorer.Charset

open Text

/-- What stands at the front of a text of bytes. Some sets have codes that write nothing and change
how later ones are read: the state. -/
inductive Front (σ : Type) where
  /-- A code of some bytes, its characters, and the state after it. -/
  | code (length : Nat) (chars : List Char) (state : σ)
  /-- Bytes that are no code. -/
  | stray (length : Nat)
  /-- The text ends within a code. -/
  | torn

/-- The text of bytes and the state at their end, given what stands at the front of any of their
ends. A front takes at least the first byte. -/
def readFronts {σ : Type} (front : σ → UInt8 → List UInt8 → Front σ) (state : σ) :
    List UInt8 → List Char × σ
  | [] => ([], state)
  | byte :: rest =>
    match front state byte rest with
    | .code length chars state =>
      let (text, last) := readFronts front state (rest.drop (length - 1))
      (chars ++ text, last)
    | .stray length =>
      let (text, last) := readFronts front state (rest.drop (length - 1))
      (Utf8.replacement :: text, last)
    | .torn => ([Utf8.replacement], state)
termination_by bytes => bytes.length

/-- The text of bytes, given what stands at the front of any of their ends. -/
def decodeFronts {σ : Type} (front : σ → UInt8 → List UInt8 → Front σ) (state : σ)
    (bytes : List UInt8) : List Char :=
  (readFronts front state bytes).1

/-- A code without a state. -/
def Front.plain (length : Nat) (c : Char) : Front Unit := .code length [c] ()

/-- A code that may be one of nothing. -/
def Front.ofChars? (length : Nat) (chars? : Option (List Char)) : Front Unit :=
  match chars? with
  | some chars => .code length chars ()
  | none => .stray 1

/-- A code of one character, or of nothing. -/
def Front.ofChar? (length : Nat) (c? : Option Char) : Front Unit :=
  .ofChars? length (c?.map ([·]))

/-- What stands at the front of a text in a set that agrees with ASCII. All other bytes begin codes
of two, which are looked up. -/
def frontOfTwo (look : Nat → Nat → Front Unit) (byte : UInt8) (rest : List UInt8) : Front Unit :=
  if byte.toNat < 0x80 then .plain 1 (Char.ofNat byte.toNat)
  else
    match rest with
    | second :: _ => look byte.toNat second.toNat
    | [] => .torn

/-- What stands at the front of a text in a set that agrees with ASCII, whose other codes are two
bytes and of one character. -/
def frontOfPairs (pair? : Nat → Nat → Option Char) (_ : Unit) (byte : UInt8) (rest : List UInt8) :
    Front Unit :=
  frontOfTwo (fun lead trail => .ofChar? 2 (pair? lead trail)) byte rest

end ODataExplorer.Charset
