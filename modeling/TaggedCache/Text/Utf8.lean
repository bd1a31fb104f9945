import TaggedCache.Bytes

/-!
# Where bytes stop being text

Bytes that are no UTF-8 are reported with the place of the first character that is not well formed, or
they are repaired: each such place becomes a replacement character.
-/

namespace TaggedCache
namespace Utf8

/-- The first character that is not well formed. -/
structure Fault where
  index : Nat
  /-- How many bytes are wrong, unless the bytes end within the character. -/
  length : Option Nat
deriving DecidableEq, Repr

def Fault.message (f : Fault) : String :=
  match f.length with
  | some n =>
    "invalid utf-8 sequence of " ++ toString n ++ " bytes from index " ++ toString f.index
  | none => "incomplete utf-8 byte sequence from index " ++ toString f.index

def continued : Nat × Nat := (0x80, 0xBF)

/-- The ranges of the bytes that follow the first one of a character. Overlong forms, surrogates and
numbers beyond the last code point are left out. -/
def following (first : Nat) : Option (List (Nat × Nat)) :=
  if first < 0x80 then some []
  else if first < 0xC2 then none
  else if first < 0xE0 then some [continued]
  else if first = 0xE0 then some [(0xA0, 0xBF), continued]
  else if first = 0xED then some [(0x80, 0x9F), continued]
  else if first < 0xF0 then some [continued, continued]
  else if first = 0xF0 then some [(0x90, 0xBF), continued, continued]
  else if first < 0xF4 then some [continued, continued, continued]
  else if first = 0xF4 then some [(0x80, 0x8F), continued, continued]
  else none

/-- Looks for a fault from `index` on, in a character that began at `start` and that still needs bytes
of the ranges `due`. -/
def faultFrom (index start : Nat) (due : List (Nat × Nat)) : Bytes → Option Fault
  | [] => if due.isEmpty then none else some ⟨start, none⟩
  | b :: rest =>
    match due with
    | [] =>
      match following b.toNat with
      | some due => faultFrom (index + 1) index due rest
      | none => some ⟨index, some 1⟩
    | (lo, hi) :: due =>
      if lo ≤ b.toNat ∧ b.toNat ≤ hi then faultFrom (index + 1) start due rest
      else some ⟨start, some (index - start)⟩

/-- The first fault of some bytes. -/
def fault? (bs : Bytes) : Option Fault := faultFrom 0 0 [] bs

/-- The character in the place of bytes that are no text. -/
def replacement : Char := '\uFFFD'

/-- The characters of some bytes, with a replacement for every fault. The fuel is the number of bytes. -/
def repairedFrom : Nat → Bytes → List Char
  | 0, _ => []
  | fuel + 1, bs =>
    let textOf (bs : Bytes) : List Char := ((Bytes.toText? bs).getD "").toList
    match fault? bs with
    | none => textOf bs
    | some f =>
      textOf (bs.take f.index) ++ replacement ::
        (match f.length with
        | some n => repairedFrom fuel (bs.drop (f.index + n))
        | none => [])

/-- The text of some bytes, with a replacement for every fault. -/
def repaired (bs : Bytes) : String := String.ofList (repairedFrom (bs.length + 1) bs)

end Utf8
end TaggedCache
