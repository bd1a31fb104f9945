import TaggedCache.Bytes
import TaggedCache.MaxAge
import TaggedCache.TagSet

/-!
# Items

What a bin holds under a key, when it expires, and what a read of it answers.
-/

namespace TaggedCache

/-- A stored payload with the tags and the age it was written with. -/
structure Item where
  data : Bytes
  tags : TagSet
  /-- How long it stays valid. -/
  maxAge : MaxAge
  /-- When it was written, in seconds of the clock. -/
  created : UInt64
deriving DecidableEq, Repr, Inhabited

namespace Item

/-- The sum of two times; what exceeds the clock counts as its greatest value. -/
def addClamped (a b : UInt64) : UInt64 :=
  if a.toNat + b.toNat < UInt64.size then a + b else UInt64.ofNat (UInt64.size - 1)

/-- The time from which the item is expired, if it ever is. -/
def expiresAt (i : Item) : Option UInt64 :=
  match i.maxAge with
  | .permanent => none
  | .seconds n => some (addClamped i.created n.toUInt64)

/-- True when the item is expired at a time. -/
def isExpired (i : Item) (now : UInt64) : Bool :=
  match i.expiresAt with
  | some t => t ≤ now
  | none => false

theorem toNat_addClamped (a b : UInt64) :
    (addClamped a b).toNat = min (a.toNat + b.toNat) (UInt64.size - 1) := by
  unfold addClamped
  split
  · next h =>
    rw [UInt64.toNat_add, Nat.mod_eq_of_lt h]
    omega
  · next h =>
    have hmax : (UInt64.ofNat (UInt64.size - 1)).toNat = UInt64.size - 1 := by decide
    rw [hmax]
    omega

theorem addClamped_le (a b : UInt64) : (addClamped a b).toNat ≤ a.toNat + b.toNat :=
  toNat_addClamped a b ▸ Nat.min_le_left _ _

/-- An item that has not expired is younger than its age. -/
theorem lt_of_not_expired {i : Item} {now : UInt64} {n : UInt32} (h : i.isExpired now = false)
    (ha : i.maxAge = .seconds n) : now.toNat < i.created.toNat + n.toNat := by
  have hle := addClamped_le i.created n.toUInt64
  unfold isExpired expiresAt at h
  rw [ha] at h
  have hlt := Nat.lt_of_not_le fun hn => of_decide_eq_false h (UInt64.le_iff_toNat_le.mpr hn)
  rw [UInt32.toNat_toUInt64] at hle
  omega

end Item

/-- What a read answers. A stale item is still there and must not be served. -/
inductive Lookup where
  | fresh (item : Item)
  | stale (item : Item)
  | absent
deriving DecidableEq, Repr, Inhabited

namespace Lookup

/-- The item, if it may be served. -/
def fresh? : Lookup → Option Item
  | .fresh i => some i
  | _ => none

/-- True when the item may be served. -/
def isFresh : Lookup → Bool
  | .fresh _ => true
  | _ => false

/-- True when the item is there and may not be served. -/
def isStale : Lookup → Bool
  | .stale _ => true
  | _ => false

/-- True when there is no item. -/
def isAbsent : Lookup → Bool
  | .absent => true
  | _ => false

end Lookup
end TaggedCache
