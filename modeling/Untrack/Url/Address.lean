/-
  Untrack.Url.Address — Internet addresses as text. An IPv4 address is four decimal numbers of at most three
  digits, up to 255 and without leading zeros. An IPv6 address is eight groups of at most four hexadecimal
  digits, where one run of groups may be left out as `::`, the last two groups may be written as an IPv4
  address, and a zone may follow after `%`. An address of a future version starts with a `v`.
-/

import Untrack.Text.Basic
import Untrack.Number.Hex

namespace Untrack.Url

def isOctet (t : Text) : Bool :=
  !t.isEmpty && t.all Char.isDigit && t.length ≤ 3 && (t == ['0'] || t.head? != some '0') &&
    ofDigits 10 (t.map fun c => c.toNat - 48) ≤ 255

def isIPv4 (t : Text) : Bool :=
  let octets := t.pieces (· == '.')
  octets.length == 4 && octets.all isOctet

def isHexGroup (t : Text) : Bool := !t.isEmpty && t.length ≤ 4 && t.all isHexDigit

/-- The groups of an address, where an IPv4 address at the end stands for two groups. -/
def groupsOf (t : Text) : Option (List Text) :=
  let parts := t.pieces (· == ':')
  match parts.getLast? with
  | some last =>
    if parts.length < 3 then none
    else if last.contains '.' then if isIPv4 last then some (parts.dropLast ++ [['0'], ['0']]) else none
    else some parts
  | none => none

/-- How many groups stand on one side of `::`; a side may be empty. -/
def sideCount (side : List Text) : Option Nat :=
  if side == [[]] then some 0 else if side.all isHexGroup then some side.length else none

/-- Eight groups, or fewer around one gap; the gap is the first group without digits that is not at an end. -/
def isIPv6Groups (groups : List Text) : Bool :=
  match (groups.drop 1).dropLast.findIdx? (·.isEmpty) with
  | none => groups.length == 8 && groups.all isHexGroup
  | some i =>
    match sideCount (groups.take (i + 1)), sideCount (groups.drop (i + 2)) with
    | some front, some back => front + back < 8
    | _, _ => false

/-- The address without its zone; an empty zone, or two, are not allowed. -/
def withoutZone (t : Text) : Option Text :=
  match t.after? '%' with
  | none => some t
  | some zone => if zone.isEmpty || zone.contains '%' then none else some (t.before '%')

def isIPv6 (t : Text) : Bool :=
  !t.contains '/' &&
    match (withoutZone t).bind groupsOf with
    | some groups => isIPv6Groups groups
    | none => false

/-- `v`, a version in hexadecimal digits, a point, and at least one more character. -/
def isFutureAddress (t : Text) : Bool :=
  match t with
  | 'v' :: r =>
    !(r.takeWhile isHexDigit).isEmpty &&
      match r.dropWhile isHexDigit with
      | '.' :: _ :: _ => true
      | _ => false
  | _ => false

end Untrack.Url
