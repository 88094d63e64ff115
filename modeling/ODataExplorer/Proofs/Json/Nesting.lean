import ODataExplorer.Proofs.Json.Beginning

/-!
Reading JSON in a room.

The room for what is nested decides nothing but where a reader gives up: as long as it does not, it
reads what the reader with all the room reads (`readWithin_eq`).
-/

namespace ODataExplorer.Json

open Text

/-- Two outcomes are the same, unless the first one is that there is no room. -/
def SameUnlessDeep {α : Type} (bounded free : Except Stop α) : Prop :=
  (∃ container, bounded = .error (.tooDeep container)) ∨ bounded = free

namespace SameUnlessDeep

variable {α β : Type}

theorem refl (outcome : Except Stop α) : SameUnlessDeep outcome outcome := .inr rfl

theorem bind {bounded free : Except Stop α} {next next' : α → Except Stop β}
    (h : SameUnlessDeep bounded free) (hnext : ∀ a, SameUnlessDeep (next a) (next' a)) :
    SameUnlessDeep (bounded >>= next) (free >>= next') := by
  obtain ⟨container, rfl⟩ | rfl := h
  · exact .inl ⟨container, rfl⟩
  · cases bounded with
    | error stop => exact .inr rfl
    | ok a => exact hnext a

end SameUnlessDeep

/-- With so much fuel the readers of any room agree with those that have all of it. -/
structure ReadersAgree (fuel : Nat) : Prop where
  value : ∀ room cs, SameUnlessDeep (readValue fuel room cs) (readValue fuel .unbounded cs)
  items : ∀ room done cs,
    SameUnlessDeep (readItems fuel room done cs) (readItems fuel .unbounded done cs)
  members : ∀ room done cs,
    SameUnlessDeep (readMembers fuel room done cs) (readMembers fuel .unbounded done cs)

section Steps

variable {fuel : Nat} (ih : ∀ less < fuel, ReadersAgree less)

include ih

/-- A container is entered if there is a level left for it, and of all the room there always is. -/
theorem sameUnlessDeep_readValue (room : Room) (cs : List Char) :
    SameUnlessDeep (readValue fuel room cs) (readValue fuel .unbounded cs) := by
  fun_cases readValue fuel room cs with
  | case1 | case2 => exact .refl _
  | case3 | case6 => exact .inl ⟨_, rfl⟩
  | case4 fuel _ cs inner _ rest hspace | case7 fuel _ cs inner _ rest hspace =>
    rw [readValue, hspace]
    exact .refl _
  | case5 fuel _ cs inner _ hspace =>
    rw [readValue]
    dsimp only [Room.inside?]
    split
    · next rest hclosed => exact (hspace rest hclosed).elim
    · exact (ih fuel (Nat.lt_succ_self fuel)).items inner [] _
  | case8 fuel _ cs inner _ hspace =>
    rw [readValue]
    dsimp only [Room.inside?]
    split
    · next rest hclosed => exact (hspace rest hclosed).elim
    · exact (ih fuel (Nat.lt_succ_self fuel)).members inner [] _
  | case9 fuel _ _ hstring harray hobject =>
    rw [readValue]
    · exact .refl _
    · exact hstring
    · exact harray
    · exact hobject

theorem sameUnlessDeep_readItems (room : Room) (done : List Json) (cs : List Char) :
    SameUnlessDeep (readItems fuel room done cs) (readItems fuel .unbounded done cs) := by
  cases fuel with
  | zero => exact .refl _
  | succ fuel =>
    have hless := ih fuel (Nat.lt_succ_self fuel)
    rw [readItems, readItems]
    refine .bind (hless.value room cs) fun found => ?_
    obtain ⟨item, rest⟩ := found
    dsimp only
    split
    · exact .refl _
    · exact hless.items room _ _
    · exact .refl _

theorem sameUnlessDeep_readMembers (room : Room) (done : List (String × Json)) (cs : List Char) :
    SameUnlessDeep (readMembers fuel room done cs) (readMembers fuel .unbounded done cs) := by
  fun_cases readMembers fuel room done cs with
  | case1 => exact .refl _
  | case2 fuel cs =>
    have hless := ih fuel (Nat.lt_succ_self fuel)
    rw [readMembers]
    refine .bind (.refl _) fun found => ?_
    obtain ⟨name, rest⟩ := found
    dsimp only
    split
    · refine .bind (hless.value room _) fun found => ?_
      obtain ⟨value, rest⟩ := found
      dsimp only
      split
      · exact .refl _
      · exact hless.members room _ _
      · exact .refl _
    · exact .refl _
  | case3 _ _ _ _ hstring =>
    rw [readMembers]
    · exact .refl _
    · exact hstring

end Steps

/-- The readers agree with any fuel: none of them passes on as much as it has. -/
theorem readersAgree (fuel : Nat) : ReadersAgree fuel := by
  induction fuel using Nat.strongRecOn with
  | ind fuel ih =>
    exact ⟨sameUnlessDeep_readValue ih, sameUnlessDeep_readItems ih, sameUnlessDeep_readMembers ih⟩

/-- **A text is read in a room as it is anywhere,** unless there is no room for what is nested in
it. -/
theorem readWithin_eq (room : Room) (text : String) (h : overflow? room text = none) :
    readWithin room text = read text := by
  have hdocument : SameUnlessDeep (readDocument room text.toList)
      (readDocument .unbounded text.toList) := by
    unfold readDocument
    split
    · exact .refl _
    · exact .bind ((readersAgree _).value room _) fun _ => .refl _
  obtain ⟨container, hdeep⟩ | hsame := hdocument
  · rw [overflow?, readWithin, hdeep] at h
    cases h
  · rw [read, readWithin, readWithin, hsame]

end ODataExplorer.Json
