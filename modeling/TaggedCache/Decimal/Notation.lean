import TaggedCache.Decimal.Shortest
import TaggedCache.Numeral

/-!
# Laying out a decimal

The digits of a float come from `Decimal.shortest`; a `Notation` says how they are laid out: which
exponents are written positionally, whether a whole number keeps a fraction digit, and how ties
between two shortest decimals go.
-/

namespace TaggedCache
namespace Decimal

/-- How the digits of a float are written. -/
structure Notation where
  format : Floating.Format
  /-- Exponents of the leading digit written positionally, or all of them. -/
  positional : Option (Int × Int)
  /-- Whole numbers written positionally end in `.0`. -/
  keepFraction : Bool
  tie : Tie

/-- `digits * 10 ^ exponent` without an exponent. -/
def positionalText (keepFraction : Bool) (digits : List Char) (exponent : Int) : List Char :=
  if 0 ≤ exponent then
    digits ++ List.replicate exponent.toNat '0' ++ (if keepFraction then ['.', '0'] else [])
  else
    let places := (-exponent).toNat
    if places < digits.length then
      digits.take (digits.length - places) ++ '.' :: digits.drop (digits.length - places)
    else '0' :: '.' :: List.replicate (places - digits.length) '0' ++ digits

/-- One digit, the others behind a point, and a signed exponent. -/
def exponentText (digits : List Char) (exponent : Int) : List Char :=
  let fraction := match digits.tail with
    | [] => []
    | rest => '.' :: rest
  let sign := if exponent < 0 then '-' else '+'
  digits.take 1 ++ fraction ++ 'e' :: sign :: Numeral.digits exponent.natAbs

def Notation.magnitudeText (n : Notation) (mantissa : Nat) (exponent : Int) : List Char :=
  let (count, grid) := shortest n.format n.tie mantissa exponent
  let digits := Numeral.digits count
  let leading : Int := grid + digits.length - 1
  match n.positional with
  | none => positionalText n.keepFraction digits grid
  | some (least, greatest) =>
    if count = 0 ∨ (least ≤ leading ∧ leading ≤ greatest) then
      positionalText n.keepFraction digits grid
    else exponentText digits leading

def Notation.text (n : Notation) : Floating → List Char
  | .nan => ['N', 'a', 'N']
  | .infinite negative => if negative then ['-', 'i', 'n', 'f'] else ['i', 'n', 'f']
  | .finite negative m e =>
    if negative then '-' :: n.magnitudeText m e else n.magnitudeText m e

/-- Floats inside tags and messages: never an exponent, no fraction on whole numbers, ties upward. -/
def plain : Notation := ⟨Floating.binary64, none, false, .up⟩

def plainText (x : Floating) : String := String.ofList (plain.text x)

end Decimal
end TaggedCache
