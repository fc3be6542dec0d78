import RackElevation.Text.Cut

/-
  Hosts in brackets

  A host in brackets is an IPv6 address, perhaps with a zone after a percent
  sign, or an address of a later kind, which starts with the letter v, a
  hexadecimal version and a dot.
-/

namespace RackElevation.Uri

open Text

/-- Whether a character is a hexadecimal digit. -/
def isHex (c : Char) : Bool := c.isDigit || ('a' ≤ c && c ≤ 'f') || ('A' ≤ c && c ≤ 'F')

/-- Whether a text is a number from 0 to 255 without a leading zero. -/
def isOctet (s : List Char) : Bool :=
  !s.isEmpty && s.all Char.isDigit && s.length ≤ 3 && (s == ['0'] || s.head? != some '0') &&
    s.foldl (fun n c => 10 * n + (c.toNat - 48)) 0 ≤ 255

/-- Whether a text is an IPv4 address. -/
def isIPv4 (s : List Char) : Bool :=
  let parts := fields '.' s
  parts.length == 4 && parts.all isOctet

/-- Whether a text is one of the groups of an IPv6 address. -/
def isGroup (s : List Char) : Bool := !s.isEmpty && s.length ≤ 4 && s.all isHex

/-- The groups of an address, where an IPv4 address at the end counts as two. -/
def groups? (s : List Char) : Option (List (List Char)) :=
  let parts := fields ':' s
  match parts.reverse with
  | last :: before =>
    if parts.length < 3 then none
    else if last.contains '.' then
      if isIPv4 last then some (before.reverse ++ [['0'], ['0']]) else none
    else some parts
  | [] => none

/-- Whether groups without a gap make an address. -/
def areEightGroups (parts : List (List Char)) : Bool := parts.length == 8 && parts.all isGroup

/-- Whether the groups on one side of a gap are well formed; `outer` is the group at the end of the
address, which may be empty only if it is the only one on its side. -/
def isSide (side : List (List Char)) : Bool := side == [[]] || side.all isGroup

/-- The number of groups on one side of a gap. -/
def sideSize (side : List (List Char)) : Nat := if side == [[]] then 0 else side.length

/-- Whether groups, of which an empty one marks a gap, make an address. -/
def areGroups (parts : List (List Char)) : Bool :=
  match parts with
  | first :: rest =>
    let inner := rest.dropLast
    if inner.all (!·.isEmpty) then areEightGroups parts
    else
      let high := first :: inner.takeWhile (!·.isEmpty)
      let low := (inner.dropWhile (!·.isEmpty)).drop 1 ++ rest.getLast?.toList
      isSide high && isSide low && sideSize high + sideSize low < 8
  | [] => false

/-- Whether a text is an IPv6 address. -/
def isIPv6 (s : List Char) : Bool :=
  let (address, zone) := cut '%' s
  (match zone with
    | none => true
    | some z => !z.isEmpty && !z.contains '%') &&
  match groups? address with
  | some parts => parts.length ≤ 9 && areGroups parts
  | none => false

/-- Whether a text that starts with v is an address of a later kind. -/
def isFutureAddress (s : List Char) : Bool :=
  let version := (s.drop 1).takeWhile isHex
  match (s.drop 1).dropWhile isHex with
  | '.' :: r => !version.isEmpty && !r.isEmpty
  | _ => false

end RackElevation.Uri
