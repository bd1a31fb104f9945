import TaggedCache.Bytes
import TaggedCache.Numeral
import TaggedCache.Text.Words

/-!
# Internet addresses

Addresses of version 4 are four numbers of a byte. Addresses of version 6 are eight groups of sixteen
bits; two colons stand for at least one group of zeros, and the last two groups may be written as an
address of version 4.
-/

namespace TaggedCache
namespace Net

/-- True for a number up to 255 without a leading zero. -/
def isOctet (cs : List Char) : Bool :=
  cs.length ≤ 3 && (cs.length ≤ 1 || cs.head? ≠ some '0') &&
    (Numeral.value? cs).any (· ≤ 255)

/-- True for an address of version 4. -/
def isIpv4 (cs : List Char) : Bool :=
  let parts := Text.splitOn '.' cs
  parts.length = 4 && parts.all isOctet

/-- True for a group of an address of version 6. -/
def isHextet (cs : List Char) : Bool :=
  !cs.isEmpty && cs.length ≤ 4 && cs.all fun c => (Bytes.hexValue? c).isSome

/-- The number of groups in a part of an address of version 6. Only at its end may an address of
version 4 stand. -/
def groups? (final : Bool) (cs : List Char) : Option Nat :=
  if cs.isEmpty then some 0
  else
    let parts := Text.splitOn ':' cs
    if parts.all isHextet then some parts.length
    else if final && parts.dropLast.all isHextet && (parts.getLast?.any isIpv4) then
      some (parts.length + 1)
    else none

/-- Splits a text at the first two colons. -/
def splitColons? : List Char → Option (List Char × List Char)
  | ':' :: ':' :: rest => some ([], rest)
  | c :: rest => (splitColons? rest).map fun (left, right) => (c :: left, right)
  | [] => none

/-- True for an address of version 6. -/
def isIpv6 (cs : List Char) : Bool :=
  match splitColons? cs with
  | none => groups? true cs = some 8
  | some (left, right) =>
    match groups? false left, groups? true right with
    | some m, some n => m + n ≤ 7
    | _, _ => false

/-- True for an address of either version. -/
def isAddress (cs : List Char) : Bool := isIpv4 cs || isIpv6 cs

end Net
end TaggedCache
