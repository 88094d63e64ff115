import ODataExplorer.Text.Digit
import ODataExplorer.Text.Split

/-!
Internet addresses.

An address of version 4 is four numbers below 256, without leading zeros. One of version 6 is eight
groups of up to four hexadecimal digits; one run of groups that are zero may be left out, the last
two groups may be written as an address of version 4, and a zone may follow.
-/

namespace ODataExplorer.Url

open Text

/-- A number below 256 in decimal digits. -/
def isOctet (digits : List Char) : Bool :=
  !digits.isEmpty && digits.length ≤ 3 &&
  digits.all (fun c => (asciiDigitValue? c).isSome) &&
  (digits.length == 1 || digits.head? != some '0') &&
  (digits.filterMap asciiDigitValue?).foldl (fun n digit => 10 * n + digit) 0 < 256

/-- An address of version 4. -/
def isIpv4Address (cs : List Char) : Bool :=
  let octets := pieces '.' cs
  octets.length == 4 && octets.all isOctet

/-- A group of an address of version 6. -/
def isGroup (digits : List Char) : Bool :=
  !digits.isEmpty && digits.length ≤ 4 && digits.all fun c => (hexValue? c).isSome

/-- The groups with a final address of version 4 replaced by the two groups it stands for. -/
def withoutIpv4Suffix? (groups : List (List Char)) : Option (List (List Char)) :=
  match groups.getLast? with
  | some last =>
    if last.contains '.' then
      if isIpv4Address last then some (groups.dropLast ++ [['0'], ['0']]) else none
    else some groups
  | none => none

/-- The groups before and after those left out; the mark for these is an empty piece inside. -/
def omission (groups : List (List Char)) : List (List Char) × List (List Char) :=
  match groups with
  | first :: rest =>
    (first :: rest.takeWhile (!·.isEmpty), (rest.dropWhile (!·.isEmpty)).drop 1)
  | [] => ([], [])

/-- Whether the pieces between colons make up an address. Where groups are left out, the text may
begin or end with the mark. -/
def areGroups (groups : List (List Char)) : Bool :=
  let inner := (groups.drop 1).dropLast
  match inner.count [] with
  | 0 => groups.length == 8 && groups.all isGroup
  | 1 =>
    let (before, after) := omission groups
    let before := if before.head? == some [] then before.drop 1 else before
    let after := if after.getLast? == some [] then after.dropLast else after
    groups.length ≤ 9 && before.length + after.length ≤ 7 &&
      before.all isGroup && after.all isGroup &&
      (groups.head? != some [] || before.isEmpty) &&
      (groups.getLast? != some [] || after.isEmpty)
  | _ => false

/-- An address of version 6 without a zone. -/
def isPlainIpv6Address (cs : List Char) : Bool :=
  let groups := pieces ':' cs
  3 ≤ groups.length &&
    match withoutIpv4Suffix? groups with
    | some groups => areGroups groups
    | none => false

/-- An address of version 6. A zone, after a per cent sign, is not empty and holds no other such
sign. -/
def isIpv6Address (cs : List Char) : Bool :=
  !cs.contains '/' &&
    match cut? '%' cs with
    | none => isPlainIpv6Address cs
    | some (address, zone) => !zone.isEmpty && !zone.contains '%' && isPlainIpv6Address address

end ODataExplorer.Url
