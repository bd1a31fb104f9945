/-!
# Punycode

A label of a domain name with characters beyond ASCII is written in ASCII: first the ASCII characters
of the label, then, behind a hyphen, numbers that tell which other characters stand where. The digits of
these numbers have weights that are adapted to the numbers before.
-/

namespace TaggedCache
namespace Net
namespace Punycode

/-- The value of a digit: the letters come first. -/
def digit? (c : Char) : Option Nat :=
  if 'a' ≤ c ∧ c ≤ 'z' then some (c.toNat - 97)
  else if '0' ≤ c ∧ c ≤ '9' then some (c.toNat - 48 + 26)
  else none

/-- The least digit at a place that is not the last one of its number. -/
def threshold (place bias : Nat) : Nat :=
  if place ≤ bias then 1 else if bias + 26 ≤ place then 26 else place - bias

/-- Scales a number down to the range of the bias, and counts the places. -/
def scaled (delta place : Nat) : Nat :=
  if 455 < delta then scaled (delta / 35) (place + 36) else place + 36 * delta / (delta + 38)
termination_by delta
decreasing_by exact Nat.div_lt_self (by omega) (by omega)

/-- The bias behind a number that put in the character with this count. -/
def adapt (delta count : Nat) (first : Bool) : Nat :=
  let delta := if first then delta / 700 else delta / 2
  scaled (delta + delta / count) 0

/-- Reads a number whose next digit has the given place and weight, and what is behind it; the weights
have 32 bits. -/
def readNumber (bias place weight : Nat) (cs : List Char) : Option (Nat × List Char) :=
  match cs with
  | [] => none
  | c :: rest => do
    let d ← digit? c
    let base := 36 - threshold place bias
    if d + base < 36 then some (d * weight, rest)
    else
      guard (weight * base ≤ 0xFFFFFFFF)
      let (higher, rest) ← readNumber bias (place + 36) (weight * base) rest
      some (d * weight + higher, rest)

/-- True for the code points of characters. -/
def isCharacter (n : Nat) : Bool := n < 0xD800 || (0xDFFF < n && n < 0x110000)

/-- Puts one character after another into a text. The fuel is the number of digits left. -/
def insertFrom (bias code place : Nat) (done : List Char) : Nat → List Char → Option (List Char)
  | _, [] => some done
  | 0, _ => none
  | fuel + 1, cs => do
    let (steps, rest) ← readNumber bias 36 1 cs
    let count := done.length + 1
    let code := code + (place + steps) / count
    guard (isCharacter code)
    let spot := (place + steps) % count
    insertFrom (adapt steps count (place = 0)) code (spot + 1)
      (done.insertIdx spot (Char.ofNat code)) fuel rest

/-- Reads a label. No hyphen may stand in front of the numbers when there is nothing before it. -/
def decode? (cs : List Char) : Option (List Char) :=
  match cs.reverse.span (· ≠ '-') with
  | (numbers, []) => insertFrom 72 128 0 [] cs.length numbers.reverse
  | (_, [_]) => none
  | (numbers, _ :: basic) => insertFrom 72 128 0 basic.reverse cs.length numbers.reverse

end Punycode
end Net
end TaggedCache
