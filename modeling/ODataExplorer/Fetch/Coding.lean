import ODataExplorer.Deflate.Wrapping
import ODataExplorer.Text.Blank
import ODataExplorer.Text.Case
import ODataExplorer.Text.Split

/-!
Content codings.

A body may be coded in several ways, one after another; they are undone from the last to the first.
A body in pieces is decoded piece by piece: each piece gives what could not be told before it came.
Codings that are not known are passed over.
-/

namespace ODataExplorer.Fetch

open Text

/-- A known coding. -/
inductive Coding where
  | gzip
  | deflate
  deriving DecidableEq, Repr

/-- The coding of a name. -/
def Coding.named? (name : String) : Option Coding :=
  match lower (trim name) with
  | "gzip" => some .gzip
  | "deflate" => some .deflate
  | _ => none

/-- The codings that a list names, in the order in which they were applied. -/
def codingsOf (list : String) : List Coding :=
  (pieces ',' list.toList).filterMap fun name => Coding.named? (String.ofList name)

/-- Pieces of a body, up to the first that makes no sense. -/
abbrev Pieces := List (Except Deflate.Fault (List UInt8))

/-- What makes no sense in pieces, if anything does not. -/
def Pieces.fault? (parts : Pieces) : Option Deflate.Fault :=
  parts.findSome? fun
    | .error fault => some fault
    | .ok _ => none

/-- Pieces that come as they are. -/
def plainPieces (parts : List (List UInt8)) : Pieces := parts.map .ok

/-- Unpacks pieces one after another. `before` are the bytes that have come, `made` counts what they
gave. -/
def unpackPieces (wrapping : Deflate.Wrapping) (before : List UInt8) (made : Nat) :
    Pieces → Pieces
  | [] => []
  | .error fault :: _ => [.error fault]
  | .ok piece :: rest =>
    let bytes := before ++ piece
    match wrapping.unpack bytes with
    | .error fault => [.error fault]
    | .ok all => .ok (all.toList.drop made) :: unpackPieces wrapping bytes all.size rest

/-- Undoes a coding. Deflated bodies should have a short header; if the first piece shows that one
has none, it is taken for bare blocks. -/
def Coding.undo (coding : Coding) (parts : Pieces) : Pieces :=
  match coding, parts with
  | .gzip, parts => unpackPieces .long [] 0 parts
  | .deflate, .ok first :: rest =>
    let wrapping : Deflate.Wrapping :=
      match Deflate.Wrapping.short.unpack first with
      | .ok _ => .short
      | .error _ => .bare
    unpackPieces wrapping [] 0 (.ok first :: rest)
  | .deflate, parts => parts

/-- Undoes codings, the last one first. -/
def undoCodings (codings : List Coding) (parts : Pieces) : Pieces :=
  codings.foldr Coding.undo parts

end ODataExplorer.Fetch
