import ODataExplorer.Log.Entry

/-!
Values with the log of how they came about.

The entries of a computation stand in the order in which its steps wrote them.
-/

namespace ODataExplorer.Log

/-- A value and the entries that were written on the way to it. -/
structure Logged (α : Type) where
  value : α
  log : List Entry := []

namespace Logged

/-- A value after entries that are written anyway. -/
def after {α : Type} (entries : List Entry) (logged : Logged α) : Logged α :=
  ⟨logged.value, entries ++ logged.log⟩

instance : Monad Logged where
  pure a := ⟨a, []⟩
  bind logged next := (next logged.value).after logged.log

instance : LawfulMonad Logged :=
  LawfulMonad.mk' Logged
    (fun ⟨_, _⟩ => by simp [Functor.map, after])
    (fun _ _ => by simp [bind, pure, after])
    (fun _ _ _ => by simp [bind, after, List.append_assoc])

/-- Writes one entry. -/
def write (entry : Entry) : Logged Unit := ⟨(), [entry]⟩

end Logged

end ODataExplorer.Log
