/-!
# Decimal integers as text

Writing is canonical: no sign on a natural number, no leading zero. Reading accepts an optional
sign and leading zeros and says why it refuses. Main statement: a written natural number reads back
(`Numeral.value?_digits`).
-/

namespace TaggedCache
namespace Numeral

def digit (n : Nat) : Char := Char.ofNat (48 + n)

def digitValue? (c : Char) : Option Nat :=
  if '0' ≤ c ∧ c ≤ '9' then some (c.toNat - 48) else none

/-- The decimal digits of a natural number, most significant first. -/
def digits (n : Nat) : List Char :=
  if n < 10 then [digit n] else digits (n / 10) ++ [digit (n % 10)]

/-- The decimal text of an integer, with a sign on negative ones only. -/
def ofInt (i : Int) : List Char :=
  if i < 0 then '-' :: digits i.natAbs else digits i.natAbs

/-- The value of a digit string, read on from `acc`; nothing on a character that is no digit. -/
def valueFrom? (acc : Nat) : List Char → Option Nat
  | [] => some acc
  | c :: rest =>
    match digitValue? c with
    | some d => valueFrom? (10 * acc + d) rest
    | none => none

/-- The value of a digit string. The empty string has none. -/
def value? : List Char → Option Nat
  | [] => none
  | cs => valueFrom? 0 cs

/-! ## Reading with a range -/

/-- Why a text is no integer of the wanted range. -/
inductive Fault where
  /-- The text is empty. -/
  | empty
  | invalidDigit
  | tooLarge
  | tooSmall
deriving DecidableEq, Repr

def Fault.message : Fault → String
  | .empty => "cannot parse integer from empty string"
  | .invalidDigit => "invalid digit found in string"
  | .tooLarge => "number too large to fit in target type"
  | .tooSmall => "number too small to fit in target type"

/-- Reads one digit after another, keeping the number at most `limit`. The first fault from the left
counts: a bad digit after the number has grown too large is not seen. -/
def readFrom (limit : Nat) (overflow : Fault) (acc : Nat) : List Char → Except Fault Nat
  | [] => .ok acc
  | c :: rest =>
    match digitValue? c with
    | none => .error .invalidDigit
    | some d =>
      if 10 * acc + d ≤ limit then readFrom limit overflow (10 * acc + d) rest
      else .error overflow

/-- Reads an unsigned integer of at most `limit`; a plus sign may stand in front. -/
def readNat (limit : Nat) : List Char → Except Fault Nat
  | [] => .error .empty
  | ['+'] => .error .invalidDigit
  | '+' :: rest => readFrom limit .tooLarge 0 rest
  | cs => readFrom limit .tooLarge 0 cs

def wordLimit : Nat := UInt64.size - 1

/-- True for the integers of 64 bits with a sign. -/
def isInt64 (i : Int) : Bool := -9223372036854775808 ≤ i && i ≤ 9223372036854775807

/-- How many negative integers of `bits` bits there are. -/
def negatives (bits : Nat) : Nat := Nat.pow 2 (bits - 1)

/-- Reads a signed integer of `bits` bits. -/
def readInt (bits : Nat) : List Char → Except Fault Int
  | [] => .error .empty
  | ['+'] | ['-'] => .error .invalidDigit
  | '-' :: rest => do
    let n ← readFrom (negatives bits) .tooSmall 0 rest
    .ok (-(n : Int))
  | '+' :: rest => do
    let n ← readFrom (negatives bits - 1) .tooLarge 0 rest
    .ok (n : Int)
  | cs => do
    let n ← readFrom (negatives bits - 1) .tooLarge 0 cs
    .ok (n : Int)

/-! ## Written numbers read back -/

theorem digitValue?_digit {n : Nat} (h : n < 10) : digitValue? (digit n) = some n := by
  have : n = 0 ∨ n = 1 ∨ n = 2 ∨ n = 3 ∨ n = 4 ∨ n = 5 ∨ n = 6 ∨ n = 7 ∨ n = 8 ∨ n = 9 := by omega
  rcases this with rfl | rfl | rfl | rfl | rfl | rfl | rfl | rfl | rfl | rfl <;> decide

theorem valueFrom?_append (acc : Nat) (xs ys : List Char) :
    valueFrom? acc (xs ++ ys) = (valueFrom? acc xs).bind fun n => valueFrom? n ys := by
  induction xs generalizing acc with
  | nil => rfl
  | cons c rest ih =>
    simp only [List.cons_append, valueFrom?]
    cases digitValue? c with
    | none => rfl
    | some d => exact ih _

theorem digits_ne_nil (n : Nat) : digits n ≠ [] := by
  rw [digits]
  split <;> simp

theorem valueFrom?_digits (n : Nat) : valueFrom? 0 (digits n) = some n := by
  induction n using Nat.strongRecOn with
  | ind n ih =>
    rw [digits]
    split
    · next h => simp [valueFrom?, digitValue?_digit h]
    · next h =>
      rw [valueFrom?_append, ih (n / 10) (by omega)]
      simp only [Option.bind_some, valueFrom?, digitValue?_digit (Nat.mod_lt n (by omega : 10 > 0))]
      congr 1
      omega

theorem value?_digits (n : Nat) : value? (digits n) = some n := by
  have h := valueFrom?_digits n
  cases hd : digits n with
  | nil => exact absurd hd (digits_ne_nil n)
  | cons c rest => rw [hd] at h; exact h

end Numeral
end TaggedCache
