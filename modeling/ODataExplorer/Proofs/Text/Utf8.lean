import Mathlib.Tactic.SplitIfs
import ODataExplorer.Text.Utf8

/-!
Reading UTF-8 that was written.

The reader takes a byte at a time, so what it does on a written character follows from two facts:
the lead byte opens a sequence of the right length, in a range that holds the next byte, and every
later byte adds six bits. So a text comes back from its bytes, whether invalid pieces are refused or
replaced (`decode?_encode`, `decodeLossy_encode`).

No byte of ASCII lies in one of those ranges. So it is its character wherever it stands, even where
a sequence is broken off, and what follows is read on its own (`readPieces_append_ascii`).
-/

namespace ODataExplorer.Text.Utf8

/-- The number of a byte that was written from it. -/
theorem toNat_toUInt8 {n : Nat} (h : n < 0x100) : n.toUInt8.toNat = n := by
  rw [Nat.toUInt8, UInt8.toNat_ofNat', Nat.mod_eq_of_lt h]

/-! ## Lead bytes -/

variable {n : Nat}

theorem lead_one (h : n < 0x80) : lead n.toUInt8 = .whole (Char.ofNat n) := by
  rw [lead, toNat_toUInt8 (by omega)]
  exact if_pos h

theorem lead_two (hlow : 0x80 ≤ n) (hhigh : n < 0x800) :
    lead (0xC0 + n / 0x40).toUInt8 = .opens ⟨n / 0x40, 1, 0x80, 0xBF⟩ := by
  rw [lead, toNat_toUInt8 (by omega), if_neg (by omega), if_neg (by omega), if_pos (by omega),
    Nat.add_sub_cancel_left]

/-- The range of the second of three bytes leaves out overlong forms and surrogates. -/
theorem lead_three (hlow : 0x800 ≤ n) (hhigh : n < 0x10000) (hvalid : n < 0xD800 ∨ 0xDFFF < n) :
    ∃ low high, lead (0xE0 + n / 0x1000).toUInt8 = .opens ⟨n / 0x1000, 2, low, high⟩ ∧
      low ≤ 0x80 + n / 0x40 % 0x40 ∧ 0x80 + n / 0x40 % 0x40 ≤ high := by
  rw [lead, toNat_toUInt8 (by omega)]
  simp only [beq_iff_eq]
  rw [if_neg (by omega), if_neg (by omega), if_neg (by omega)]
  split
  · next hfirst =>
    have hzero : n / 0x1000 = 0 := by omega
    exact ⟨0xA0, 0xBF, by rw [hzero], by omega, by omega⟩
  · split
    · next hsurrogates =>
      have hvalue : n / 0x1000 = 0xD := by omega
      exact ⟨0x80, 0x9F, by rw [hvalue], by omega, by omega⟩
    · rw [if_pos (by omega), Nat.add_sub_cancel_left]
      exact ⟨0x80, 0xBF, rfl, by omega, by omega⟩

/-- The range of the second of four bytes leaves out overlong forms and what is beyond the last
character. -/
theorem lead_four (hlow : 0x10000 ≤ n) (hhigh : n < 0x110000) :
    ∃ low high, lead (0xF0 + n / 0x40000).toUInt8 = .opens ⟨n / 0x40000, 3, low, high⟩ ∧
      low ≤ 0x80 + n / 0x1000 % 0x40 ∧ 0x80 + n / 0x1000 % 0x40 ≤ high := by
  rw [lead, toNat_toUInt8 (by omega)]
  simp only [beq_iff_eq]
  rw [if_neg (by omega), if_neg (by omega), if_neg (by omega), if_neg (by omega),
    if_neg (by omega), if_neg (by omega)]
  split
  · next hfirst =>
    have hzero : n / 0x40000 = 0 := by omega
    exact ⟨0x90, 0xBF, by rw [hzero], by omega, by omega⟩
  · split
    · rw [Nat.add_sub_cancel_left]
      exact ⟨0x80, 0xBF, rfl, by omega, by omega⟩
    · rw [if_pos (by omega)]
      have hvalue : n / 0x40000 = 4 := by omega
      exact ⟨0x80, 0x8F, by rw [hvalue], by omega, by omega⟩

/-! ## Later bytes -/

variable {value low high : Nat} {rest : List UInt8}

/-- The last byte of a character completes it. -/
theorem readPieces_last (hlow : low ≤ 0x80 + n) (hhigh : 0x80 + n ≤ high) (hn : n < 0x40) :
    readPieces (some ⟨value, 1, low, high⟩) ((0x80 + n).toUInt8 :: rest) =
      some (Char.ofNat (value * 0x40 + n)) :: readPieces none rest := by
  simp only [readPieces, toNat_toUInt8 (show 0x80 + n < 0x100 by omega), Nat.add_sub_cancel_left]
  rw [if_pos]
  simp only [Bool.and_eq_true, decide_eq_true_eq]
  exact ⟨hlow, hhigh⟩

/-- A byte before the last one adds its bits to the value. -/
theorem readPieces_next {missing : Nat} (hlow : low ≤ 0x80 + n) (hhigh : 0x80 + n ≤ high)
    (hn : n < 0x40) :
    readPieces (some ⟨value, missing + 2, low, high⟩) ((0x80 + n).toUInt8 :: rest) =
      readPieces (some ⟨value * 0x40 + n, missing + 1, 0x80, 0xBF⟩) rest := by
  simp only [readPieces, toNat_toUInt8 (show 0x80 + n < 0x100 by omega), Nat.add_sub_cancel_left]
  rw [if_pos]
  simp only [Bool.and_eq_true, decide_eq_true_eq]
  exact ⟨hlow, hhigh⟩

theorem readPieces_opens {byte : UInt8} {pending : Pending} (h : lead byte = .opens pending) :
    readPieces none (byte :: rest) = readPieces (some pending) rest := by
  rw [readPieces, h]

/-! ## Characters and texts -/

/-- **A character comes back from its bytes,** whatever follows them. -/
theorem readPieces_encodeChar (c : Char) (rest : List UInt8) :
    readPieces none (encodeChar c ++ rest) = some c :: readPieces none rest := by
  have hvalid : c.toNat < 0xD800 ∨ 0xDFFF < c.toNat ∧ c.toNat < 0x110000 := c.valid
  have hchar : Char.ofNat c.toNat = c := Char.ofNat_toNat c
  rw [encodeChar]
  generalize c.toNat = n at hvalid hchar
  subst hchar
  split
  · next hone =>
    rw [List.singleton_append, readPieces, lead_one hone]
  · split
    · next hone htwo =>
      have hsum : n / 0x40 * 0x40 + n % 0x40 = n := by omega
      simp only [List.cons_append, List.nil_append]
      rw [readPieces_opens (lead_two (by omega) htwo),
        readPieces_last (by omega) (by omega) (by omega), hsum]
    · split
      · next hone htwo hthree =>
        have hsum : (n / 0x1000 * 0x40 + n / 0x40 % 0x40) * 0x40 + n % 0x40 = n := by omega
        obtain ⟨low, high, hlead, hlow, hhigh⟩ := lead_three (by omega) hthree (by omega)
        simp only [List.cons_append, List.nil_append]
        rw [readPieces_opens hlead, readPieces_next hlow hhigh (by omega),
          readPieces_last (by omega) (by omega) (by omega), hsum]
      · next hone htwo hthree =>
        have hsum : ((n / 0x40000 * 0x40 + n / 0x1000 % 0x40) * 0x40 + n / 0x40 % 0x40) * 0x40 +
            n % 0x40 = n := by omega
        obtain ⟨low, high, hlead, hlow, hhigh⟩ := lead_four (n := n) (by omega) (by omega)
        simp only [List.cons_append, List.nil_append]
        rw [readPieces_opens hlead, readPieces_next hlow hhigh (by omega),
          readPieces_next (by omega) (by omega) (by omega),
          readPieces_last (by omega) (by omega) (by omega), hsum]

theorem readPieces_encode (cs : List Char) : readPieces none (encode cs) = cs.map some := by
  induction cs with
  | nil => rfl
  | cons c cs ih =>
    rw [encode, List.flatMap_cons, readPieces_encodeChar, List.map_cons]
    exact congrArg _ ih

/-- **A text comes back from its bytes.** -/
theorem decode?_encode (cs : List Char) : decode? (encode cs) = some cs := by
  rw [decode?, readPieces_encode, List.mapM_map]
  exact List.mapM_pure.trans (congrArg some (List.map_id cs))

/-- A text comes back from its bytes, and nothing in it is replaced. -/
theorem decodeLossy_encode (cs : List Char) : decodeLossy (encode cs) = cs := by
  rw [decodeLossy, readPieces_encode, List.map_map]
  exact List.map_id cs

/-! ## Bytes of ASCII -/

variable {byte : UInt8}

theorem lead_of_lt (h : byte.toNat < 0x80) : lead byte = .whole (Char.ofNat byte.toNat) := by
  rw [lead]
  exact if_pos h

/-- Wherever a sequence begins, its next byte is none of ASCII. -/
theorem low_of_lead {pending : Pending} (h : lead byte = .opens pending) : 0x80 ≤ pending.low := by
  rw [lead] at h
  split_ifs at h <;> grind

/-- **A byte of ASCII is its character, whatever stands before it,** and what follows is read on its
own: a sequence that is not complete when the byte comes is invalid. -/
theorem readPieces_append_ascii (hbyte : byte.toNat < 0x80) {begun : Option Pending}
    (hbegun : ∀ pending ∈ begun, 0x80 ≤ pending.low) (bytes rest : List UInt8) :
    ∃ before, readPieces begun (bytes ++ byte :: rest) =
      before ++ some (Char.ofNat byte.toNat) :: readPieces none rest := by
  have hnone : ∀ pending ∈ (none : Option Pending), 0x80 ≤ pending.low := nofun
  fun_induction readPieces begun bytes with
  | case1 => exact ⟨[], by rw [List.nil_append, readPieces, lead_of_lt hbyte]; rfl⟩
  | case2 pending =>
    have hlow : 0x80 ≤ pending.low := hbegun pending rfl
    refine ⟨[none], ?_⟩
    rw [List.nil_append, readPieces, lead_of_lt hbyte, if_neg]
    · rfl
    · rw [Bool.and_eq_true, decide_eq_true_eq]
      omega
  | case3 first bytes c hlead ih =>
    obtain ⟨before, hbefore⟩ := ih hnone
    exact ⟨some c :: before, by rw [List.cons_append, readPieces, hlead]; exact congrArg _ hbefore⟩
  | case4 first bytes pending hlead ih =>
    rw [List.cons_append, readPieces, hlead]
    exact ih fun _ h => Option.some.inj h ▸ low_of_lead hlead
  | case5 first bytes hlead ih =>
    obtain ⟨before, hbefore⟩ := ih hnone
    exact ⟨none :: before, by rw [List.cons_append, readPieces, hlead]; exact congrArg _ hbefore⟩
  | case6 pending first bytes b hrange value hmissing ih =>
    obtain ⟨before, hbefore⟩ := ih hnone
    refine ⟨some (Char.ofNat value) :: before, ?_⟩
    rw [List.cons_append, readPieces, if_pos hrange, hmissing]
    exact congrArg _ hbefore
  | case7 pending first bytes b hrange value hmissing ih =>
    obtain ⟨before, hbefore⟩ := ih hnone
    refine ⟨some (Char.ofNat value) :: before, ?_⟩
    rw [List.cons_append, readPieces, if_pos hrange, hmissing]
    exact congrArg _ hbefore
  | case8 pending first bytes b hrange value missing hpositive hmissing ih =>
    rw [List.cons_append, readPieces, if_pos hrange, hmissing]
    cases missing with
    | zero => exact absurd rfl hpositive
    | succ missing => exact ih fun _ h => Option.some.inj h ▸ Nat.le_refl _
  | case9 pending first bytes b hrange ih ihfresh =>
    rw [List.cons_append, readPieces, if_neg hrange]
    cases hlead : lead first with
    | whole c =>
      obtain ⟨before, hbefore⟩ := ih hnone
      exact ⟨none :: some c :: before, congrArg _ (congrArg _ hbefore)⟩
    | opens fresh =>
      obtain ⟨before, hbefore⟩ := ihfresh fresh fun _ h => Option.some.inj h ▸ low_of_lead hlead
      exact ⟨none :: before, congrArg _ hbefore⟩
    | invalid =>
      obtain ⟨before, hbefore⟩ := ih hnone
      exact ⟨none :: none :: before, congrArg _ (congrArg _ hbefore)⟩

/-- Where bytes with one of ASCII among them are text, so are those behind it. -/
theorem exists_of_decode?_append_ascii (hbyte : byte.toNat < 0x80) {bytes rest : List UInt8}
    {cs : List Char} (h : decode? (bytes ++ byte :: rest) = some cs) :
    ∃ before after, cs = before ++ Char.ofNat byte.toNat :: after ∧ decode? rest = some after := by
  have hnone : ∀ pending ∈ (none : Option Pending), 0x80 ≤ pending.low := nofun
  obtain ⟨pieces, hpieces⟩ := readPieces_append_ascii hbyte hnone bytes rest
  rw [decode?, hpieces, List.mapM_append, Option.bind_eq_bind, Option.bind_eq_some_iff] at h
  obtain ⟨before, -, h⟩ := h
  obtain ⟨later, hlater, heq⟩ := Option.bind_eq_some_iff.mp h
  rw [List.mapM_cons, id, Option.bind_eq_bind, Option.bind_some, Option.bind_eq_bind,
    Option.bind_eq_some_iff] at hlater
  obtain ⟨after, hafter, hcons⟩ := hlater
  cases hcons
  exact ⟨before, after, (Option.some.inj heq).symm, hafter⟩

end ODataExplorer.Text.Utf8
