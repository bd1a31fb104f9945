import TaggedCache.Decimal.Floating
import TaggedCache.Numeral

/-!
# Reading a float from text

The grammar is an optional sign, then `inf`, `infinity` or `nan` in any case, or digits with at most
one point and at least one digit, then an optional exponent. The value is rounded once, so it is the
nearest value of the format.
-/

namespace TaggedCache
namespace Decimal

/-- The digits at the front of a text, and the rest. -/
def spanDigits (cs : List Char) : List Char × List Char :=
  cs.span fun c => (Numeral.digitValue? c).isSome

def readExponent? : List Char → Option Int
  | [] => some 0
  | c :: rest =>
    if c = 'e' ∨ c = 'E' then
      match rest with
      | '-' :: ds => (Numeral.value? ds).map fun n => -(n : Int)
      | '+' :: ds => (Numeral.value? ds).map fun n => (n : Int)
      | ds => (Numeral.value? ds).map fun n => (n : Int)
    else none

def readMagnitude? (f : Floating.Format) (negative : Bool) (cs : List Char) : Option Floating := do
  let (whole, rest) := spanDigits cs
  let (fraction, rest) := match rest with
    | '.' :: tail => spanDigits tail
    | _ => ([], rest)
  let digits ← Numeral.value? (whole ++ fraction)
  let exponent ← readExponent? rest
  some (f.ofDecimal negative digits (exponent - fraction.length))

/-- Reads a float; nothing when the text is none. -/
def read? (f : Floating.Format) (cs : List Char) : Option Floating :=
  let (negative, body) := match cs with
    | '-' :: rest => (true, rest)
    | '+' :: rest => (false, rest)
    | _ => (false, cs)
  let word := String.ofList (body.map Char.toLower)
  if word = "inf" ∨ word = "infinity" then some (.infinite negative)
  else if word = "nan" then some .nan
  else readMagnitude? f negative body

end Decimal
end TaggedCache
