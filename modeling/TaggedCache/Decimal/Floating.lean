/-!
# Binary floating point

A value is a sign with a magnitude `mantissa * 2 ^ exponent`, an infinity, or not a number. All
arithmetic here is exact arithmetic on naturals followed by one rounding to nearest, ties to even.
-/

namespace TaggedCache

/-- A binary floating point value. -/
inductive Floating where
  | nan
  | infinite (negative : Bool)
  /-- The value `mantissa * 2 ^ exponent`, negated when `negative`. -/
  | finite (negative : Bool) (mantissa : Nat) (exponent : Int)
deriving DecidableEq, Repr, Inhabited

namespace Floating

/-- The widths of a floating point format: significant bits, and the least and greatest exponent of
the last of them. -/
structure Format where
  precision : Nat
  /-- The exponent of the last bit of the smallest values. -/
  minExponent : Int
  /-- The exponent of the last bit of the largest values. -/
  maxExponent : Int
deriving DecidableEq

def binary64 : Format := ⟨53, -1074, 971⟩

def binary32 : Format := ⟨24, -149, 104⟩

/-- True unless the value is not a number or an infinity. -/
def isFinite : Floating → Bool
  | .finite .. => true
  | _ => false

/-- True for both zeros. -/
def isZero : Floating → Bool
  | .finite _ 0 _ => true
  | _ => false

/-- The quotient rounded to the nearest natural, ties to the even one. -/
def roundHalfEven (num den : Nat) : Nat :=
  let quotient := num / den
  let twice := 2 * (num % den)
  if twice < den then quotient
  else if twice = den then quotient + quotient % 2
  else quotient + 1

/-- Numerator and denominator of `num / den * 2 ^ shift`. -/
def scaleBinary (num den : Nat) (shift : Int) : Nat × Nat :=
  if 0 ≤ shift then (num <<< shift.toNat, den) else (num, den <<< (-shift).toNat)

/-- The exponent at which `num / den` has `precision` bits before the binary point. -/
def bitScale (precision num den : Nat) : Int :=
  let guess : Int := (num.log2 : Int) - (den.log2 : Int) - (precision : Int)
  let (n, d) := scaleBinary num den (-guess)
  if n < d <<< precision then guess else guess + 1

/-- The value of the format nearest to `num / den`; past the largest it is an infinity. -/
def Format.round (f : Format) (negative : Bool) (num den : Nat) : Floating :=
  if num = 0 then .finite negative 0 f.minExponent
  else
    let exponent := max (bitScale f.precision num den) f.minExponent
    let (n, d) := scaleBinary num den (-exponent)
    let m := roundHalfEven n d
    let (m, exponent) :=
      if m = 1 <<< f.precision then (1 <<< (f.precision - 1), exponent + 1) else (m, exponent)
    if f.maxExponent < exponent then .infinite negative else .finite negative m exponent

/-- The value of the format nearest to `digits * 10 ^ exponent`. Exponents far outside every format
are answered without building the power. -/
def Format.ofDecimal (f : Format) (negative : Bool) (digits : Nat) (exponent : Int) : Floating :=
  let magnitude : Int := (Nat.toDigits 10 digits).length + exponent
  if digits = 0 ∨ magnitude < -400 then .finite negative 0 f.minExponent
  else if 400 < magnitude then .infinite negative
  else if 0 ≤ exponent then f.round negative (digits * Nat.pow 10 exponent.toNat) 1
  else f.round negative digits (Nat.pow 10 (-exponent).toNat)

/-- The product of two magnitudes, rounded once. -/
def Format.mul (f : Format) : Floating → Floating → Floating
  | .finite s m e, .finite t n k =>
    let (num, den) := scaleBinary (m * n) 1 (e + k)
    f.round (s != t) num den
  | _, _ => .nan

/-- The quotient of two magnitudes, rounded once. The divisor is not zero. -/
def Format.div (f : Format) : Floating → Floating → Floating
  | .finite s m e, .finite t n k =>
    let (num, den) := scaleBinary m n (e - k)
    f.round (s != t) num den
  | _, _ => .nan

/-- The same magnitude with the other sign. -/
def neg : Floating → Floating
  | .nan => .nan
  | .infinite s => .infinite (!s)
  | .finite s m e => .finite (!s) m e

/-- The nearest integer, halves going away from zero. Infinities and not-a-number have none. -/
def roundAway? : Floating → Option Int
  | .finite s m e =>
    let (num, den) := scaleBinary m 1 e
    let magnitude : Int := ((2 * num + den) / (2 * den) : Nat)
    some (if s then -magnitude else magnitude)
  | _ => none

/-- The nearest integer within `lo` and `hi`, halves going away from zero; not-a-number counts as
zero and an infinity as the end of the range on its side. -/
def roundClamped (lo hi : Int) (x : Floating) : Int :=
  match x.roundAway? with
  | some i => max lo (min i hi)
  | none =>
    match x with
    | .infinite s => if s then lo else hi
    | _ => 0

/-- The same value in another format, rounded once. -/
def Format.convert (f : Format) : Floating → Floating
  | .finite s m e =>
    let (num, den) := scaleBinary m 1 e
    f.round s num den
  | x => x

end Floating
end TaggedCache
