import Mathlib.Data.List.Infix
import Mathlib.Logic.Relation
import ODataExplorer.Fetch.Client
import ODataExplorer.Proofs.Number.Numeral
import ODataExplorer.Proofs.Outcome

/-!
Reading a body within a limit.

Between two pieces, reading holds the bytes that it has kept (`Reading`). A step takes the next
piece and keeps it (`Reading.Step`), and where there is no such step reading stops, with all the
bytes or without any (`Reading.Stops`). What is held is the beginning of the body and is within the
limit before the first step and after every one (`Reading.Within.reaches`), so what reading stops
with is told from the number of bytes alone, however they were cut (`readPieces_within`).

A declared length above the limit is believed without reading anything; any other is not believed
(`readLimited_exact`).
-/

namespace ODataExplorer.Fetch

open Text

/-! ## Taking pieces -/

/-- What reading holds between two pieces: the number of bytes that have come and of pieces taken,
the bytes that were kept, and the pieces that are left. -/
structure Reading where
  received : Nat
  taken : Nat
  done : List UInt8
  rest : Pieces

namespace Reading

/-- Nothing was taken yet. -/
def start (content : Pieces) : Reading := ⟨0, 0, [], content⟩

/-- What reading gives from here. -/
def result (limit : Int) (reading : Reading) : Except BodyFault (List UInt8) × Nat :=
  readPieces limit reading.received reading.taken reading.done reading.rest

/-- A piece is taken and kept. An empty one is not counted, so it is never too much. -/
inductive Step (limit : Int) : Reading → Reading → Prop where
  | take {received taken : Nat} {done piece : List UInt8} {rest : Pieces}
      (fits : piece ≠ [] → ((received + piece.length : Nat) : Int) ≤ limit) :
      Step limit ⟨received, taken, done, .ok piece :: rest⟩
        ⟨received + piece.length, taken + 1, done ++ piece, rest⟩

/-- Reading stops: no pieces are left, or the next one is too much or makes no sense. -/
inductive Stops (limit : Int) : Reading → Except BodyFault (List UInt8) × Nat → Prop where
  | all (received taken : Nat) (done : List UInt8) :
      Stops limit ⟨received, taken, done, []⟩ (.ok done, taken)
  | tooLarge {received taken : Nat} {done piece : List UInt8} {rest : Pieces}
      (more : limit < ((received + piece.length : Nat) : Int)) :
      Stops limit ⟨received, taken, done, .ok piece :: rest⟩ (.error .tooLarge, taken + 1)
  | coding {received taken : Nat} {done : List UInt8} {rest : Pieces} (fault : Deflate.Fault) :
      Stops limit ⟨received, taken, done, .error fault :: rest⟩ (.error (.coding fault), taken + 1)

/-- Later states of reading. -/
abbrev Reaches (limit : Int) : Reading → Reading → Prop := Relation.ReflTransGen (Step limit)

variable {limit : Int} {reading next : Reading}

/-- A step makes no difference to what reading gives. -/
theorem Step.result_eq (h : Step limit reading next) :
    reading.result limit = next.result limit := by
  cases h with
  | @take received taken done piece rest fits =>
    cases piece with
    | nil =>
      rw [result, readPieces, List.append_nil]
      rfl
    | cons byte piece =>
      have hfits : ¬((received + (byte :: piece).length : Nat) : Int) > limit :=
        Int.not_lt.mpr (fits (List.cons_ne_nil _ _))
      rw [result, result, readPieces]
      · exact if_neg hfits
      · exact List.cons_ne_nil _ _

/-- **Reading goes step by step to where it stops.** -/
theorem exists_stops (limit : Int) (reading : Reading) :
    ∃ last, Reaches limit reading last ∧ Stops limit last (reading.result limit) := by
  obtain ⟨received, taken, done, rest⟩ := reading
  induction rest generalizing received taken done with
  | nil => exact ⟨_, .refl, .all received taken done⟩
  | cons piece rest ih =>
    cases piece with
    | error fault => exact ⟨_, .refl, .coding fault⟩
    | ok piece =>
      by_cases hfits : piece ≠ [] → ((received + piece.length : Nat) : Int) ≤ limit
      · have hstep : Step limit ⟨received, taken, done, .ok piece :: rest⟩ _ := .take hfits
        obtain ⟨last, hreaches, hstops⟩ := ih (received + piece.length) (taken + 1) (done ++ piece)
        exact ⟨last, .head hstep hreaches, hstep.result_eq ▸ hstops⟩
      · obtain ⟨hne, hmore⟩ := Classical.not_imp.mp hfits
        have hmore : limit < ((received + piece.length : Nat) : Int) := Int.not_le.mp hmore
        refine ⟨_, .refl, ?_⟩
        rw [result, readPieces, if_pos hmore]
        · exact .tooLarge hmore
        · exact hne

/-- What is held is the beginning of a body in pieces, and it is within the limit. -/
structure Within (limit : Int) (parts : List (List UInt8)) (reading : Reading) : Prop where
  rest : reading.rest = plainPieces (parts.drop reading.taken)
  done : reading.done = (parts.take reading.taken).flatten
  received : reading.received = reading.done.length
  fits : (reading.done.length : Int) ≤ limit

variable {parts : List (List UInt8)}

theorem within_start (h : 0 ≤ limit) (parts : List (List UInt8)) :
    (start (plainPieces parts)).Within limit parts :=
  ⟨rfl, rfl, rfl, h⟩

/-- The piece that comes next is the one behind those that were taken. -/
theorem Within.next_piece (h : reading.Within limit parts) {piece : List UInt8} {rest : Pieces}
    (hrest : reading.rest = .ok piece :: rest) :
    rest = plainPieces (parts.drop (reading.taken + 1)) ∧
      reading.done ++ piece = (parts.take (reading.taken + 1)).flatten := by
  have hplain := h.rest.symm.trans hrest
  obtain ⟨first, others, hparts, hfirst, hothers⟩ := List.map_eq_cons_iff.mp hplain
  cases hfirst
  have hpiece : parts[reading.taken]? = some piece := by
    rw [← List.head?_drop, hparts]
    rfl
  constructor
  · rw [← List.tail_drop, hparts]
    exact hothers.symm
  · rw [List.take_add_one, hpiece, List.flatten_append, ← h.done]
    exact congrArg _ (List.append_nil piece).symm

/-- **A step keeps what is held within the limit.** -/
theorem Within.step (h : reading.Within limit parts) (hstep : Step limit reading next) :
    next.Within limit parts := by
  cases hstep with
  | @take received taken done piece rest fits =>
    obtain ⟨hrest, hdone⟩ := h.next_piece rfl
    have hreceived : received = done.length := h.received
    refine ⟨hrest, hdone, ?_, ?_⟩
    · rw [hreceived, List.length_append]
    · by_cases hempty : piece = []
      · rw [hempty, List.append_nil]
        exact h.fits
      · rw [List.length_append, ← hreceived]
        exact fits hempty

/-- So what is held is within the limit whenever reading has got there. -/
theorem Within.reaches (h : reading.Within limit parts) (hreaches : Reaches limit reading next) :
    next.Within limit parts := by
  induction hreaches with
  | refl => exact h
  | tail _ hstep ih => exact ih.step hstep

theorem length_take_le {j k : Nat} (h : j ≤ k) (parts : List (List UInt8)) :
    (parts.take j).flatten.length ≤ (parts.take k).flatten.length :=
  (List.take_prefix_take_left h).flatten.length_le

/-- Where reading stops, it has all the bytes, or more came than the limit allows. It took no piece
behind the first one with which more came. -/
theorem Within.stops (h : reading.Within limit parts)
    {result : Except BodyFault (List UInt8) × Nat} (hstops : Stops limit reading result) :
    result.1 = (if limit < parts.flatten.length then .error .tooLarge else .ok parts.flatten) ∧
      ∀ k, limit < (parts.take k).flatten.length → result.2 ≤ k := by
  have hwhole : ∀ k, (parts.take k).flatten.length ≤ parts.flatten.length := fun k =>
    (List.take_prefix k parts).flatten.length_le
  cases hstops with
  | all received taken done =>
    have hnone : parts.drop taken = [] := List.map_eq_nil_iff.mp h.rest.symm
    have hdone : done = parts.flatten := by
      rw [← List.take_append_drop taken parts, hnone, List.append_nil]
      exact h.done
    have hfits : (done.length : Int) ≤ limit := h.fits
    rw [hdone] at hfits ⊢
    refine ⟨(if_neg (Int.not_lt.mpr hfits)).symm, fun k hk => ?_⟩
    have hk' := hwhole k
    omega
  | @tooLarge received taken done piece rest more =>
    have hdone : done ++ piece = (parts.take (taken + 1)).flatten := (h.next_piece rfl).2
    have hreceived : received = done.length := h.received
    have htaken : done = (parts.take taken).flatten := h.done
    have hfits : (done.length : Int) ≤ limit := h.fits
    rw [hreceived, ← List.length_append, hdone] at more
    have hmore : limit < parts.flatten.length := by
      have hnext := hwhole (taken + 1)
      omega
    refine ⟨(if_pos hmore).symm, fun k hk => Nat.lt_of_not_le fun hearly => ?_⟩
    have hmono := length_take_le hearly parts
    rw [← htaken] at hmono
    omega
  | coding fault =>
    obtain ⟨first, others, -, hfirst, -⟩ := List.map_eq_cons_iff.mp h.rest.symm
    cases hfirst

end Reading

/-- **Reading pieces is told from the number of their bytes,** and no piece is taken behind the
first one with which more came than the limit allows. -/
theorem readPieces_within {limit : Int} (h : 0 ≤ limit) (parts : List (List UInt8)) :
    (readPieces limit 0 0 [] (plainPieces parts)).1 =
        (if limit < parts.flatten.length then .error .tooLarge else .ok parts.flatten) ∧
      ∀ k, limit < (parts.take k).flatten.length →
        (readPieces limit 0 0 [] (plainPieces parts)).2 ≤ k := by
  obtain ⟨last, hreaches, hstops⟩ := Reading.exists_stops limit (.start (plainPieces parts))
  exact ((Reading.within_start h parts).reaches hreaches).stops hstops

/-! ## Declared lengths -/

/-- The text of the declared length; empty where none is declared. -/
def Response.declaredLength (response : Response) : String :=
  (response.header? "content-length").getD ""

/-- The declared length is a number above the limit. -/
def Response.DeclaresAbove (limit : Int) (response : Response) : Prop :=
  isDigitText response.declaredLength = true ∧
    limit < Number.numeralValue response.declaredLength

instance (limit : Int) (response : Response) : Decidable (response.DeclaresAbove limit) :=
  inferInstanceAs (Decidable (_ ∧ _))

/-- What a declared length says is known unless it is made of digits and no number. -/
theorem declaresTooMuch_eq {response : Response}
    (h : ¬Number.IsFalseNumeral response.declaredLength) (limit : Int) :
    declaresTooMuch limit response = .ok (decide (response.DeclaresAbove limit)) := by
  rw [declaresTooMuch, ← Response.declaredLength]
  by_cases hdigits : isDigitText response.declaredLength = true
  · have hnumeral := Decidable.not_not.mp fun hfalse => h ⟨hdigits, hfalse⟩
    have habove : response.DeclaresAbove limit ↔
        (Number.numeralValue response.declaredLength : Int) > limit := and_iff_right hdigits
    rw [if_pos hdigits, Number.readInteger_of_isNumeral hnumeral]
    exact congrArg Except.ok (decide_eq_decide.mpr habove.symm)
  · rw [if_neg hdigits, decide_eq_false fun habove => hdigits habove.1]

/-! ## The bytes of a response -/

/-- The failure of a fetch whose bytes are not all there. -/
def BodyFault.failure (client : Client) (url : String) : BodyFault → Failure
  | .tooLarge => .tooLarge url client.maxResponseBytes
  | .coding fault => .unreached url fault.message

/-- Reads the bytes of a response within the limit of the client: the bytes, or why there are none,
and the number of pieces taken. -/
def readLimited (client : Client) (url : String) (response : Response) :
    Except Failure (List UInt8) × Nat :=
  match declaresTooMuch client.maxResponseBytes response with
  | .error fault => (.error (.unreadableLength fault), 0)
  | .ok true => (.error (.tooLarge url client.maxResponseBytes), 0)
  | .ok false =>
    let (bytes, taken) := response.readBody client.maxResponseBytes
    (bytes.mapError (BodyFault.failure client url), taken)

variable {client : Client} {url : String} {response : Response} {parts : List (List UInt8)}

/-- The text of a response is that of the bytes which are read within the limit. -/
theorem readText_eq (client : Client) (url : String) (response : Response) :
    readText client url response =
      ((readLimited client url response).1 >>= response.textOf,
        (readLimited client url response).2) := by
  rw [readText, readLimited]
  dsimp only
  cases declaresTooMuch client.maxResponseBytes response with
  | error fault => rfl
  | ok much =>
    cases much with
    | true => rfl
    | false =>
      obtain ⟨bytes, taken⟩ := response.readBody client.maxResponseBytes
      cases bytes with
      | error fault => cases fault <;> rfl
      | ok bytes => rfl

/-- A declared length above the limit is believed, and nothing is read. -/
theorem readLimited_of_declaresAbove (hdeclared : ¬Number.IsFalseNumeral response.declaredLength)
    (h : response.DeclaresAbove client.maxResponseBytes) :
    readLimited client url response = (.error (.tooLarge url client.maxResponseBytes), 0) := by
  rw [readLimited, declaresTooMuch_eq hdeclared, decide_eq_true h]

/-- Any other declared length makes no difference. -/
theorem readLimited_of_not_declaresAbove
    (hdeclared : ¬Number.IsFalseNumeral response.declaredLength)
    (h : ¬response.DeclaresAbove client.maxResponseBytes) :
    readLimited client url response =
      ((readPieces client.maxResponseBytes 0 0 [] response.content).1.mapError
          (BodyFault.failure client url),
        response.body.countOf (readPieces client.maxResponseBytes 0 0 [] response.content).2) := by
  rw [readLimited, declaresTooMuch_eq hdeclared, decide_eq_false h]
  rfl

theorem Body.countOf_le (body : Body) (taken : Nat) : body.countOf taken ≤ taken := by
  cases body with
  | whole bytes => exact Nat.zero_le taken
  | pieces parts => exact Nat.le_refl taken

/-- What is read within the limit, told from the declared length and the number of bytes. -/
theorem fst_readLimited (hdeclared : ¬Number.IsFalseNumeral response.declaredLength)
    (hlimit : 0 ≤ client.maxResponseBytes) (hcontent : response.content = plainPieces parts) :
    (readLimited client url response).1 =
      if response.DeclaresAbove client.maxResponseBytes ∨
          client.maxResponseBytes < parts.flatten.length then
        .error (.tooLarge url client.maxResponseBytes)
      else .ok parts.flatten := by
  by_cases habove : response.DeclaresAbove client.maxResponseBytes
  · rw [readLimited_of_declaresAbove hdeclared habove, if_pos (.inl habove)]
  · rw [readLimited_of_not_declaresAbove hdeclared habove, hcontent,
      (readPieces_within hlimit parts).1]
    by_cases hmore : client.maxResponseBytes < parts.flatten.length
    · rw [if_pos hmore, if_pos (.inr hmore)]
      rfl
    · rw [if_neg hmore, if_neg (not_or_intro habove hmore)]
      rfl

/-- **The limit is exact, and only the number of bytes counts.** The bytes that the text is made of
are all there, or there are none because too many are declared or came. Nothing is taken if too many
are declared, no piece is taken behind the one with which too many came, and what is kept stays
within the limit from the start to where reading stops. Other cuts of the same bytes change nothing.
-/
theorem readLimited_exact (hlimit : 0 ≤ client.maxResponseBytes)
    (hcontent : response.content = plainPieces parts)
    (hdeclared : ¬Number.IsFalseNumeral response.declaredLength) :
    readText client url response =
      ((readLimited client url response).1 >>= response.textOf,
        (readLimited client url response).2) ∧
    (readLimited client url response).1 =
      (if response.DeclaresAbove client.maxResponseBytes ∨
          client.maxResponseBytes < parts.flatten.length then
        .error (.tooLarge url client.maxResponseBytes)
      else .ok parts.flatten) ∧
    (response.DeclaresAbove client.maxResponseBytes → (readLimited client url response).2 = 0) ∧
    (∀ k, client.maxResponseBytes < (parts.take k).flatten.length →
      (readPieces client.maxResponseBytes 0 0 [] response.content).2 ≤ k ∧
        (readLimited client url response).2 ≤ k) ∧
    (∃ last, Reading.Reaches client.maxResponseBytes (.start response.content) last ∧
      Reading.Stops client.maxResponseBytes last
        (readPieces client.maxResponseBytes 0 0 [] response.content)) ∧
    (∀ reading, Reading.Reaches client.maxResponseBytes (.start response.content) reading →
      (reading.done.length : Int) ≤ client.maxResponseBytes) ∧
    ∀ (other : Response) (otherParts : List (List UInt8)),
      other.declaredLength = response.declaredLength → other.content = plainPieces otherParts →
      otherParts.flatten = parts.flatten →
      (readLimited client url other).1 = (readLimited client url response).1 := by
  refine ⟨readText_eq client url response, fst_readLimited hdeclared hlimit hcontent,
    fun habove => ?_, fun k hk => ?_, Reading.exists_stops _ _, fun reading hreaches => ?_,
    fun other otherParts hsame hother hbytes => ?_⟩
  · rw [readLimited_of_declaresAbove hdeclared habove]
  · have hpieces := (readPieces_within hlimit parts).2 k hk
    rw [← hcontent] at hpieces
    refine ⟨hpieces, ?_⟩
    by_cases habove : response.DeclaresAbove client.maxResponseBytes
    · rw [readLimited_of_declaresAbove hdeclared habove]
      exact Nat.zero_le k
    · rw [readLimited_of_not_declaresAbove hdeclared habove]
      exact (response.body.countOf_le _).trans hpieces
  · rw [hcontent] at hreaches
    exact ((Reading.within_start hlimit parts).reaches hreaches).fits
  · have habove : other.DeclaresAbove client.maxResponseBytes ↔
        response.DeclaresAbove client.maxResponseBytes := by
      rw [Response.DeclaresAbove, Response.DeclaresAbove, hsame]
    rw [fst_readLimited (hsame ▸ hdeclared) hlimit hother,
      fst_readLimited hdeclared hlimit hcontent, hbytes]
    simp only [habove]

/-- Three bytes, one of them alone, with a declared length of one. -/
def understated : Response := ⟨200, [("Content-Length", "1")], .pieces [[1, 2], [], [3]]⟩

/-- A limit of three bytes lets them through, and one of two bytes does not. -/
theorem readLimited_exact_understated :
    understated.content = plainPieces [[1, 2], [], [3]] ∧
    ¬Number.IsFalseNumeral understated.declaredLength ∧
    (readLimited { maxResponseBytes := 3 } "http://h/" understated).1 = .ok [1, 2, 3] ∧
    (readLimited { maxResponseBytes := 2 } "http://h/" understated).1 =
      .error (.tooLarge "http://h/" 2) := by
  have hcontent : understated.content = plainPieces [[1, 2], [], [3]] := by rfl
  have hdeclared : ¬Number.IsFalseNumeral understated.declaredLength := by decide +kernel
  obtain ⟨-, hfits, -⟩ := @readLimited_exact { maxResponseBytes := 3 } "http://h/" understated _
    (by decide) hcontent hdeclared
  obtain ⟨-, hmore, -⟩ := @readLimited_exact { maxResponseBytes := 2 } "http://h/" understated _
    (by decide) hcontent hdeclared
  rw [if_neg (by decide +kernel)] at hfits
  rw [if_pos (by decide +kernel)] at hmore
  exact ⟨hcontent, hdeclared, hfits, hmore⟩

end ODataExplorer.Fetch
