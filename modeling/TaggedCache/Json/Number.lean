import TaggedCache.Json.Basic
import TaggedCache.Numeral

/-!
# Reading a JSON number

An integer that fits 64 bits, signed or unsigned, stays an integer; `-0` does not. Anything else
becomes a float. Its significand keeps as many leading digits as fit 64 bits, is rounded to a float,
and is then multiplied or divided by a rounded power of ten, so far from every text the nearest float
is read. A number too large for a float is refused.
-/

namespace TaggedCache
namespace Json

def significandLimit : Nat := Numeral.wordLimit

/-- Appends digits to a significand while it stays within the limit; the digits left over come back
as well. -/
def takeDigits (significand : Nat) : List Char → Nat × List Char
  | [] => (significand, [])
  | c :: rest =>
    let next := 10 * significand + (Numeral.digitValue? c).getD 0
    if next ≤ significandLimit then takeDigits next rest else (significand, c :: rest)

/-- The rounded power of ten. -/
def powerOfTen (n : Nat) : Floating := Floating.binary64.round false (Nat.pow 10 n) 1

/-- `significand * 10 ^ exponent`, scaled in steps of at most `10 ^ 308`; nothing when it is too large. -/
def scaleDecimal? : Nat → Floating → Int → Option Floating
  | 0, f, _ => some f
  | fuel + 1, f, exponent =>
    if exponent.natAbs ≤ 308 then
      if 0 ≤ exponent then
        let scaled := Floating.binary64.mul f (powerOfTen exponent.natAbs)
        if scaled.isFinite then some scaled else none
      else some (Floating.binary64.div f (powerOfTen exponent.natAbs))
    else if f.isZero then some f
    else if 0 ≤ exponent then none
    else scaleDecimal? fuel (Floating.binary64.div f (powerOfTen 308)) (exponent + 308)

/-- The float of a significand and a decimal exponent. Four steps bring every significand to zero. -/
def floatOf? (negative : Bool) (significand : Nat) (exponent : Int) : Option Floating := do
  let f ← scaleDecimal? 4 (Floating.binary64.round false significand 1) exponent
  some (if negative then f.neg else f)

/-- The parts of a number text. -/
structure NumberText where
  negative : Bool
  whole : List Char
  /-- The digits behind the point, if there is one. -/
  fraction : Option (List Char)
  /-- The exponent, if there is one. -/
  exponent : Option Int

/-- The digits at the front of a text, and the rest. -/
def splitDigits (cs : List Char) : List Char × List Char :=
  cs.span fun c => (Numeral.digitValue? c).isSome

/-- Reads the exponent behind its letter. -/
def exponentText? : List Char → Option Int
  | '-' :: ds => (Numeral.value? ds).map fun n => -(n : Int)
  | '+' :: ds => (Numeral.value? ds).map fun n => (n : Int)
  | ds => (Numeral.value? ds).map fun n => (n : Int)

/-- Splits a number text. No leading zero stands before another digit, and a point and an exponent
letter need a digit behind them. -/
def numberText? (cs : List Char) : Option NumberText := do
  let (negative, body) := match cs with
    | '-' :: rest => (true, rest)
    | _ => (false, cs)
  let (whole, rest) := splitDigits body
  guard (whole ≠ [] ∧ (whole.head? = some '0' → whole.length = 1))
  let (fraction, rest) := match rest with
    | '.' :: tail => let (f, r) := splitDigits tail; (some f, r)
    | _ => (none, rest)
  guard (fraction ≠ some [])
  match rest with
  | [] => some ⟨negative, whole, fraction, none⟩
  | c :: tail =>
    if c = 'e' ∨ c = 'E' then
      (exponentText? tail).map fun e => ⟨negative, whole, fraction, some e⟩
    else none

def NumberText.number? (t : NumberText) : Option Number :=
  let (significand, left) := takeDigits 0 t.whole
  match t.fraction, t.exponent, left with
  | none, none, [] =>
    if !t.negative then some (.integer significand)
    else if 0 < significand ∧ significand ≤ Numeral.negatives 64 then some (.integer (-(significand : Int)))
    else (floatOf? true significand 0).map .float
  | fraction, exponent, left =>
    let digits := fraction.getD []
    let (significand, dropped) := takeDigits significand digits
    let places : Int := (digits.length : Int) - dropped.length
    (floatOf? t.negative significand (left.length - places + exponent.getD 0)).map .float

def readNumber? (cs : List Char) : Option Number := do (← numberText? cs).number?

end Json
end TaggedCache
