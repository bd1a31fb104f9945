/-!
# Bytes

Payloads, header values and hashed text are sequences of bytes. This file fixes their two text
forms, UTF-8 and hexadecimal, and shows that reading either undoes writing it.
-/

namespace TaggedCache

/-- A finite sequence of bytes. -/
abbrev Bytes := List UInt8

namespace Bytes

/-- The UTF-8 encoding of a text. -/
def ofText (s : String) : Bytes := s.toByteArray.data.toList

/-- The text these bytes encode, if they are valid UTF-8. -/
def toText? (bs : Bytes) : Option String := String.fromUTF8? ⟨bs.toArray⟩

theorem toText?_ofText (s : String) : toText? (ofText s) = some s := by
  have hb : (⟨(ofText s).toArray⟩ : ByteArray) = s.toByteArray := by simp [ofText]
  unfold toText? String.fromUTF8?
  rw [hb, dif_pos s.isValidUTF8]
  rfl

theorem ofText_of_toText? {bs : Bytes} {s : String} (h : toText? bs = some s) : ofText s = bs := by
  simp only [toText?, String.fromUTF8?] at h
  split at h
  · obtain rfl := Option.some.inj h
    simp [ofText, String.fromUTF8]
  · cases h

theorem ofText_injective {s t : String} (h : ofText s = ofText t) : s = t := by
  have hs := toText?_ofText s
  rw [h, toText?_ofText t] at hs
  exact (Option.some.inj hs).symm

theorem ofText_eq_flatMap (s : String) : ofText s = s.toList.flatMap String.utf8EncodeChar := by
  have h := s.ofList_toList
  rw [ofText, ← h, String.toByteArray_ofList, List.utf8Encode, List.toList_data_toByteArray, h]

/-! ## Hexadecimal -/

/-- The lower-case hexadecimal digit of a number below sixteen. -/
def hexDigit (n : Nat) : Char :=
  if n < 10 then Char.ofNat (48 + n) else Char.ofNat (87 + n)

/-- The value of a hexadecimal digit of either case. -/
def hexValue? (c : Char) : Option Nat :=
  if '0' ≤ c ∧ c ≤ '9' then some (c.toNat - 48)
  else if 'a' ≤ c ∧ c ≤ 'f' then some (c.toNat - 87)
  else if 'A' ≤ c ∧ c ≤ 'F' then some (c.toNat - 55)
  else none

/-- Two lower-case hexadecimal digits per byte. -/
def hexDigits (bs : Bytes) : List Char :=
  bs.flatMap fun b => [hexDigit (b.toNat / 16), hexDigit (b.toNat % 16)]

/-- The lower-case hexadecimal text of some bytes. -/
def hex (bs : Bytes) : String := String.ofList bs.hexDigits

def ofHexDigits? : List Char → Option Bytes
  | [] => some []
  | [_] => none
  | h :: l :: rest => do
    let high ← hexValue? h
    let low ← hexValue? l
    let bytes ← ofHexDigits? rest
    some (UInt8.ofNat (16 * high + low) :: bytes)

theorem hexValue?_hexDigit {n : Nat} (h : n < 16) : hexValue? (hexDigit n) = some n := by
  have hall : ∀ n < 16, hexValue? (hexDigit n) = some n := by decide
  exact hall n h

theorem ofHexDigits?_hexDigits (bs : Bytes) : ofHexDigits? bs.hexDigits = some bs := by
  induction bs with
  | nil => rfl
  | cons b rest ih =>
    have hb := b.toNat_lt
    have hhigh : b.toNat / 16 < 16 := by omega
    have hlow : b.toNat % 16 < 16 := by omega
    have hdigits : hexDigits (b :: rest) =
        hexDigit (b.toNat / 16) :: hexDigit (b.toNat % 16) :: hexDigits rest := rfl
    rw [hdigits, ofHexDigits?, hexValue?_hexDigit hhigh, hexValue?_hexDigit hlow, ih]
    show some (UInt8.ofNat (16 * (b.toNat / 16) + b.toNat % 16) :: rest) = some (b :: rest)
    rw [Nat.div_add_mod, UInt8.ofNat_toNat]

theorem hex_injective {bs cs : Bytes} (h : hex bs = hex cs) : bs = cs := by
  have hb := ofHexDigits?_hexDigits bs
  rw [String.ofList_injective h, ofHexDigits?_hexDigits cs] at hb
  exact (Option.some.inj hb).symm

end Bytes
end TaggedCache
