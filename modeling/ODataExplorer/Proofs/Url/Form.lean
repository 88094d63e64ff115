import Mathlib.Data.List.Basic
import ODataExplorer.Proofs.Text.Split
import ODataExplorer.Proofs.Text.Utf8
import ODataExplorer.Url.Form

/-!
Forms: what a reader makes of encoded fields.

A reader cuts a form at its ampersands and each part at its first equals sign, drops the parts
without a value, and undoes the encoding of what is left (`readFields?`). Encoded text holds neither
of the two separators, and its bytes are those of the text; so fields that have values come back as
they were, none lost and none added (`readFields?_encodeFields`).
-/

namespace ODataExplorer.Url.Form

open Text

/-! ## Reading -/

/-- The name and the value of a part of a form, still encoded. A part without a value is none. -/
def field? (part : List Char) : Option (List Char × List Char) :=
  match cut? '=' part with
  | some (name, value) => if value.isEmpty then none else some (name, value)
  | none => none

/-- A field with its encoding undone, if what it encodes is text. -/
def decodedField? (field : List Char × List Char) : Option (String × String) := do
  let name ← decode? field.1
  let value ← decode? field.2
  return (String.ofList name, String.ofList value)

/-- The fields of a form. -/
def readFields? (form : List Char) : Option (List (String × String)) :=
  ((pieces '&' form).filterMap field?).mapM decodedField?

/-- Characters that a form is written with: letters, digits and eight signs. -/
def isFormChar (c : Char) : Bool := isUnreserved c || ['%', '+', '&', '='].contains c

/-! ## Bytes -/

theorem hexValue?_upperHexDigit : ∀ n < 16, hexValue? (upperHexDigit n) = some n := by decide

theorem isUnreserved_upperHexDigit : ∀ n < 16, isUnreserved (upperHexDigit n) = true := by decide

/-- A byte comes back from its digits. -/
theorem decodedBytes_encodeByte (byte : UInt8) (cs : List Char) :
    decodedBytes (encodeByte byte ++ cs) = byte :: decodedBytes cs := by
  have hbyte : byte.toNat < 256 := UInt8.toNat_lt_size byte
  have hsum : 16 * (byte.toNat / 16) + byte.toNat % 16 = byte.toNat := Nat.div_add_mod _ _
  simp only [encodeByte, List.cons_append, List.nil_append]
  rw [decodedBytes, hexValue?_upperHexDigit _ (by omega), hexValue?_upperHexDigit _ (by omega)]
  simp only [hsum]
  exact congrArg (· :: _) UInt8.ofNat_toNat

theorem decodedBytes_encodeBytes (bytes : List UInt8) (cs : List Char) :
    decodedBytes (bytes.flatMap encodeByte ++ cs) = bytes ++ decodedBytes cs := by
  induction bytes with
  | nil => rfl
  | cons byte bytes ih =>
    rw [List.flatMap_cons, List.append_assoc, decodedBytes_encodeByte, ih, List.cons_append]

/-- A character that is neither of the two signs of the encoding stands for itself. -/
theorem decodedBytes_cons {c : Char} (hpercent : c ≠ '%') (hplus : c ≠ '+') (cs : List Char) :
    decodedBytes (c :: cs) = Utf8.encodeChar c ++ decodedBytes cs := by
  rw [decodedBytes]
  · exact fun _ _ _ heq => absurd heq hpercent
  · exact hplus

theorem ne_of_isUnreserved {c sign : Char} (h : isUnreserved c = true)
    (hsign : isUnreserved sign = false) : c ≠ sign := by
  rintro rfl
  rw [h] at hsign
  cases hsign

/-- **A character comes back from its encoding,** as the bytes it has. -/
theorem decodedBytes_encodeChar (c : Char) (cs : List Char) :
    decodedBytes (encodeChar c ++ cs) = Utf8.encodeChar c ++ decodedBytes cs := by
  rw [encodeChar]
  split
  · next hplain =>
    exact decodedBytes_cons (ne_of_isUnreserved hplain rfl) (ne_of_isUnreserved hplain rfl) cs
  · split
    · next hspace =>
      rw [beq_iff_eq.mp hspace]
      rfl
    · exact decodedBytes_encodeBytes _ cs

/-! ## Texts -/

/-- A writing stands for a text if, wherever it is written, the bytes of the text come out and what
follows is read on its own. -/
def StandsFor (written text : List Char) : Prop :=
  ∀ rest, decodedBytes (written ++ rest) = Utf8.encode text ++ decodedBytes rest

namespace StandsFor

variable {written written' text text' : List Char}

theorem nil : StandsFor [] [] := fun _ => rfl

/-- Writings one after another stand for the texts one after another. -/
theorem append (h : StandsFor written text) (h' : StandsFor written' text') :
    StandsFor (written ++ written') (text ++ text') := by
  intro rest
  rw [List.append_assoc, h, h', Utf8.encode, Utf8.encode, Utf8.encode, List.flatMap_append,
    List.append_assoc]

/-- A writing that stands for a text is read as that text. -/
theorem decode?_eq (h : StandsFor written text) : decode? written = some text := by
  have hbytes := h []
  rw [List.append_nil, decodedBytes, List.append_nil] at hbytes
  rw [decode?, hbytes, Utf8.decode?_encode]

end StandsFor

theorem standsFor_encodeChar (c : Char) : StandsFor (encodeChar c) [c] := by
  intro rest
  rw [decodedBytes_encodeChar, Utf8.encode, List.flatMap_singleton]

/-- A text without the two signs of the encoding stands for itself. -/
theorem standsFor_self {cs : List Char} (hpercent : '%' ∉ cs) (hplus : '+' ∉ cs) :
    StandsFor cs cs := by
  induction cs with
  | nil => exact StandsFor.nil
  | cons c cs ih =>
    obtain ⟨hcpercent, hpercent⟩ := List.ne_and_not_mem_of_not_mem_cons hpercent
    obtain ⟨hcplus, hplus⟩ := List.ne_and_not_mem_of_not_mem_cons hplus
    have hfirst : StandsFor [c] [c] := by
      intro rest
      rw [List.singleton_append, decodedBytes_cons hcpercent.symm hcplus.symm, Utf8.encode,
        List.flatMap_singleton]
    exact hfirst.append (ih hpercent hplus)

theorem standsFor_encode (cs : List Char) : StandsFor (encode cs) cs := by
  induction cs with
  | nil => exact StandsFor.nil
  | cons c cs ih =>
    rw [encode, List.flatMap_cons]
    exact (standsFor_encodeChar c).append ih

/-- **A text comes back from its encoding.** -/
theorem decode?_encode (cs : List Char) : decode? (encode cs) = some cs :=
  (standsFor_encode cs).decode?_eq

/-! ## Characters -/

/-- What an encoded text is written with. -/
theorem mem_encode {c : Char} {cs : List Char} (h : c ∈ encode cs) :
    isUnreserved c = true ∨ c = '%' ∨ c = '+' := by
  obtain ⟨source, -, hc⟩ := List.mem_flatMap.mp h
  rw [encodeChar] at hc
  split at hc
  · next hplain =>
    rw [List.mem_singleton.mp hc]
    exact .inl hplain
  · split at hc
    · exact .inr (.inr (List.mem_singleton.mp hc))
    · obtain ⟨byte, -, hc⟩ := List.mem_flatMap.mp hc
      have hbyte : byte.toNat < 256 := UInt8.toNat_lt_size byte
      rw [encodeByte] at hc
      simp only [List.mem_cons, List.not_mem_nil, or_false] at hc
      obtain rfl | rfl | rfl := hc
      · exact .inr (.inl rfl)
      · exact .inl (isUnreserved_upperHexDigit _ (by omega))
      · exact .inl (isUnreserved_upperHexDigit _ (by omega))

/-- An encoded text holds no separator of fields. -/
theorem notMem_encode {sign : Char} (hsign : sign = '&' ∨ sign = '=') (cs : List Char) :
    sign ∉ encode cs := by
  intro hmem
  rcases hsign with rfl | rfl <;> rcases mem_encode hmem with h | h | h <;> cases h

theorem encode_ne_nil {cs : List Char} (h : cs ≠ []) : encode cs ≠ [] := by
  intro hnil
  have hback := decode?_encode cs
  rw [hnil] at hback
  exact h (Option.some.inj hback).symm

theorem mem_encodeField {c : Char} {field : String × String} (h : c ∈ encodeField field) :
    isUnreserved c = true ∨ c = '%' ∨ c = '+' ∨ c = '=' := by
  have hencoded : ∀ cs, c ∈ encode cs → isUnreserved c = true ∨ c = '%' ∨ c = '+' ∨ c = '=' :=
    fun cs hc => (mem_encode hc).imp_right (Or.imp_right .inl)
  rw [encodeField, List.mem_append, List.mem_cons] at h
  rcases h with h | h | h
  · exact hencoded _ h
  · exact .inr (.inr (.inr h))
  · exact hencoded _ h

theorem notMem_encodeField (field : String × String) : '&' ∉ encodeField field := by
  intro hmem
  rcases mem_encodeField hmem with h | h | h | h <;> cases h

/-- **Encoded fields are written with few characters,** all of ASCII. -/
theorem isFormChar_of_mem_encodeFields {c : Char} {fields : List (String × String)}
    (h : c ∈ encodeFields fields) : isFormChar c = true := by
  rw [isFormChar, Bool.or_eq_true, List.contains_iff_mem]
  rcases mem_joinWith h with rfl | ⟨part, hpart, h⟩
  · exact .inr (by decide)
  · obtain ⟨field, -, rfl⟩ := List.mem_map.mp hpart
    rcases mem_encodeField h with h | rfl | rfl | rfl
    · exact .inl h
    · exact .inr (by decide)
    · exact .inr (by decide)
    · exact .inr (by decide)

/-! ## Fields -/

theorem field?_append {name value : List Char} (hname : '=' ∉ name) (hvalue : value ≠ []) :
    field? (name ++ '=' :: value) = some (name, value) := by
  rw [field?, cut?_append hname]
  exact if_neg fun hempty => hvalue (List.isEmpty_iff.mp hempty)

theorem encode_value_ne_nil {field : String × String} (h : field.2 ≠ "") :
    encode field.2.toList ≠ [] :=
  encode_ne_nil fun hnil => h (String.toList_eq_nil_iff.mp hnil)

theorem field?_encodeField {field : String × String} (h : field.2 ≠ "") :
    field? (encodeField field) = some (encode field.1.toList, encode field.2.toList) :=
  field?_append (notMem_encode (.inr rfl) _) (encode_value_ne_nil h)

theorem decodedField?_eq_some_iff {name value : List Char} {field : String × String} :
    decodedField? (name, value) = some field ↔
      decode? name = some field.1.toList ∧ decode? value = some field.2.toList := by
  simp only [decodedField?, Option.bind_eq_bind, Option.bind_eq_some_iff]
  constructor
  · rintro ⟨name, hname, value, hvalue, heq⟩
    cases heq
    rw [String.toList_ofList, String.toList_ofList]
    exact ⟨hname, hvalue⟩
  · rintro ⟨hname, hvalue⟩
    refine ⟨_, hname, _, hvalue, ?_⟩
    rw [String.ofList_toList, String.ofList_toList]
    rfl

theorem decodedField?_encode (field : String × String) :
    decodedField? (encode field.1.toList, encode field.2.toList) = some field :=
  decodedField?_eq_some_iff.mpr ⟨decode?_encode _, decode?_encode _⟩

/-- Fields before an ampersand are read on their own. -/
theorem readFields?_append_cons (before after : List Char) :
    readFields? (before ++ '&' :: after) =
      (do
        let first ← readFields? before
        let rest ← readFields? after
        return first ++ rest) := by
  rw [readFields?, pieces_append_cons, List.filterMap_append, List.mapM_append]
  rfl

/-- **Fields with values come back from their form.** -/
theorem readFields?_encodeFields {fields : List (String × String)}
    (h : ∀ field ∈ fields, field.2 ≠ "") : readFields? (encodeFields fields) = some fields := by
  by_cases hnil : fields = []
  · rw [hnil]
    rfl
  · have hparts : ∀ part ∈ fields.map encodeField, '&' ∉ part := by
      intro part hpart
      obtain ⟨field, -, rfl⟩ := List.mem_map.mp hpart
      exact notMem_encodeField field
    have hfields : (fields.map encodeField).filterMap field? =
        fields.map fun field => (encode field.1.toList, encode field.2.toList) := by
      rw [List.filterMap_map, ← List.filterMap_eq_map']
      exact List.filterMap_congr fun field hfield => field?_encodeField (h field hfield)
    rw [readFields?, encodeFields, pieces_joinWith (fun hmap => hnil (List.map_eq_nil_iff.mp hmap))
      hparts, hfields, List.mapM_map, Function.comp_def]
    simp only [decodedField?_encode]
    exact List.mapM_pure.trans (congrArg some (List.map_id fields))

/-- The separators inside a value are no separators, and the second part has no value. -/
example : readFields? "%24filter=a%26b%3D%2B&x=".toList = some [("$filter", "a&b=+")] := by decide

/-- A field with nothing encoded. -/
def shownField (field : String × String) : List Char :=
  field.1.toList ++ '=' :: field.2.toList

/-- Fields with ampersands between them and nothing encoded. -/
def shownFields (fields : List (String × String)) : List Char :=
  joinWith ['&'] (fields.map shownField)

theorem standsFor_encodeField (field : String × String) :
    StandsFor (encodeField field) (shownField field) := by
  have hsign : StandsFor ['='] ['='] := standsFor_self (by decide) (by decide)
  exact (standsFor_encode _).append (hsign.append (standsFor_encode _))

/-- **Encoded fields are read as they were,** when nobody asks where one ends. -/
theorem standsFor_encodeFields (fields : List (String × String)) :
    StandsFor (encodeFields fields) (shownFields fields) := by
  unfold encodeFields shownFields
  induction fields with
  | nil => exact StandsFor.nil
  | cons field fields ih =>
    cases fields with
    | nil => exact standsFor_encodeField field
    | cons next fields =>
      have hsign : StandsFor ['&'] ['&'] := standsFor_self (by decide) (by decide)
      have hrest : ∀ write : String × String → List Char, (next :: fields).map write ≠ [] :=
        fun write => List.cons_ne_nil _ _
      rw [List.map_cons (a := field), List.map_cons (a := field), joinWith_cons _ (hrest _),
        joinWith_cons _ (hrest _)]
      exact (standsFor_encodeField field).append (hsign.append ih)

theorem encodeFields_eq_nil_iff {fields : List (String × String)} :
    encodeFields fields = [] ↔ fields = [] := by
  constructor
  · intro hempty
    by_contra hne
    obtain ⟨field, hfield⟩ := List.exists_mem_of_ne_nil fields hne
    refine joinWith_ne_nil (List.mem_map_of_mem hfield) ?_ hempty
    exact List.append_ne_nil_of_right_ne_nil _ (List.cons_ne_nil _ _)
  · rintro rfl
    rfl

end ODataExplorer.Url.Form
