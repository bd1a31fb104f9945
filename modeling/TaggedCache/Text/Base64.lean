import TaggedCache.Bytes

/-!
# Base64

The standard alphabet with padding. Reading accepts only what writing produces: padding is required
and the bits behind the last byte are zero. Main statement: reading undoes writing (`decode?_encode`).
-/

namespace TaggedCache
namespace Base64

def letter (n : Nat) : Char :=
  if n < 26 then Char.ofNat (65 + n)
  else if n < 52 then Char.ofNat (71 + n)
  else if n < 62 then Char.ofNat (n - 4)
  else if n = 62 then '+'
  else '/'

def value? (c : Char) : Option Nat :=
  if 'A' ≤ c ∧ c ≤ 'Z' then some (c.toNat - 65)
  else if 'a' ≤ c ∧ c ≤ 'z' then some (c.toNat - 71)
  else if '0' ≤ c ∧ c ≤ '9' then some (c.toNat + 4)
  else if c = '+' then some 62
  else if c = '/' then some 63
  else none

/-- Four characters for every three bytes, the last group padded. -/
def encode : Bytes → List Char
  | [] => []
  | [a] => [letter (a.toNat / 4), letter (a.toNat % 4 * 16), '=', '=']
  | [a, b] =>
    [letter (a.toNat / 4), letter (a.toNat % 4 * 16 + b.toNat / 16), letter (b.toNat % 16 * 4), '=']
  | a :: b :: c :: rest =>
    letter (a.toNat / 4) :: letter (a.toNat % 4 * 16 + b.toNat / 16)
      :: letter (b.toNat % 16 * 4 + c.toNat / 64) :: letter (c.toNat % 64) :: encode rest

def decode? : List Char → Option Bytes
  | [] => some []
  | [a, b, '=', '='] => do
    let a ← value? a
    let b ← value? b
    if b % 16 = 0 then some [UInt8.ofNat (a * 4 + b / 16)] else none
  | [a, b, c, '='] => do
    let a ← value? a
    let b ← value? b
    let c ← value? c
    if c % 4 = 0 then some [UInt8.ofNat (a * 4 + b / 16), UInt8.ofNat (b % 16 * 16 + c / 4)]
    else none
  | a :: b :: c :: d :: rest => do
    let a ← value? a
    let b ← value? b
    let c ← value? c
    let d ← value? d
    let bytes ← decode? rest
    some (UInt8.ofNat (a * 4 + b / 16) :: UInt8.ofNat (b % 16 * 16 + c / 4)
      :: UInt8.ofNat (c % 4 * 64 + d) :: bytes)
  | _ => none

/-! ## Reading undoes writing -/

theorem value?_letter : ∀ n < 64, value? (letter n) = some n := by decide

theorem letter_ne_pad : ∀ n < 64, letter n ≠ '=' := by decide

theorem ofNat_eq {n : Nat} {a : UInt8} (h : n = a.toNat) : UInt8.ofNat n = a := by
  subst h
  exact UInt8.ofNat_toNat

theorem decode?_group {a b c d : Char} {rest : List Char} (h : d ≠ '=') :
    decode? (a :: b :: c :: d :: rest) = (do
      let a ← value? a
      let b ← value? b
      let c ← value? c
      let d ← value? d
      let bytes ← decode? rest
      some (UInt8.ofNat (a * 4 + b / 16) :: UInt8.ofNat (b % 16 * 16 + c / 4)
        :: UInt8.ofNat (c % 4 * 64 + d) :: bytes)) := by
  rw [decode?]
  · intro he
    simp_all
  · intro he
    simp_all

theorem decode?_encode (bs : Bytes) : decode? (encode bs) = some bs := by
  fun_induction encode bs with
  | case1 => rfl
  | case2 a =>
    have ha := a.toNat_lt
    simp only [decode?, value?_letter _ (show a.toNat / 4 < 64 by omega),
      value?_letter _ (show a.toNat % 4 * 16 < 64 by omega), Option.bind_eq_bind, Option.bind_some]
    rw [if_pos (by omega), ofNat_eq (a := a) (by omega)]
  | case3 a b =>
    have ha := a.toNat_lt
    have hb := b.toNat_lt
    have hc := letter_ne_pad (b.toNat % 16 * 4) (by omega)
    simp only [decode?, value?_letter _ (show a.toNat / 4 < 64 by omega),
      value?_letter _ (show a.toNat % 4 * 16 + b.toNat / 16 < 64 by omega),
      value?_letter _ (show b.toNat % 16 * 4 < 64 by omega), Option.bind_eq_bind, Option.bind_some]
    rw [if_pos (by omega), ofNat_eq (a := a) (by omega), ofNat_eq (a := b) (by omega)]
  | case4 a b c rest ih =>
    have ha := a.toNat_lt
    have hb := b.toNat_lt
    have hc := c.toNat_lt
    have hd := letter_ne_pad (c.toNat % 64) (by omega)
    rw [decode?_group hd]
    simp only [value?_letter _ (show a.toNat / 4 < 64 by omega),
      value?_letter _ (show a.toNat % 4 * 16 + b.toNat / 16 < 64 by omega),
      value?_letter _ (show b.toNat % 16 * 4 + c.toNat / 64 < 64 by omega),
      value?_letter _ (show c.toNat % 64 < 64 by omega), Option.bind_eq_bind, Option.bind_some, ih]
    rw [ofNat_eq (a := a) (by omega), ofNat_eq (a := b) (by omega), ofNat_eq (a := c) (by omega)]

end Base64
end TaggedCache
