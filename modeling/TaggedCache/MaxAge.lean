/-!
# Maximum age

How long an item may be served: a number of seconds, or until it is invalidated. Zero seconds means
not at all. On the wire an age is an integer, and every negative one means permanent.
-/

namespace TaggedCache

/-- How long an item may be cached. -/
inductive MaxAge where
  | permanent
  /-- For this many seconds. -/
  | seconds (count : UInt32)
deriving DecidableEq, Repr

namespace MaxAge

instance : Inhabited MaxAge := ⟨.permanent⟩

def zero : MaxAge := .seconds 0

/-- True for zero seconds. -/
def isZero (a : MaxAge) : Bool := a = zero

/-- The age as an integer, with `-1` for permanent. -/
def toInt : MaxAge → Int
  | .permanent => -1
  | .seconds n => n.toNat

/-- The age of an integer: every negative one is permanent, and what exceeds 32 bits counts as the
greatest number of seconds. -/
def ofInt (i : Int) : MaxAge :=
  if i < 0 then .permanent else .seconds (UInt32.ofNat (min i.toNat (UInt32.size - 1)))

/-- Permanent is greater than every number of seconds. -/
def compare : MaxAge → MaxAge → Ordering
  | .permanent, .permanent => .eq
  | .permanent, .seconds _ => .gt
  | .seconds _, .permanent => .lt
  | .seconds a, .seconds b => if a < b then .lt else if a = b then .eq else .gt

def min (a b : MaxAge) : MaxAge := if compare a b = .gt then b else a

def max (a b : MaxAge) : MaxAge := if compare a b = .gt then a else b

theorem ofInt_toInt (a : MaxAge) : ofInt a.toInt = a := by
  cases a with
  | permanent => rfl
  | seconds n =>
    have hn : ¬ (MaxAge.seconds n).toInt < 0 := by
      show ¬ (n.toNat : Int) < 0
      omega
    have hm : Min.min (MaxAge.seconds n).toInt.toNat (UInt32.size - 1) = n.toNat := by
      show Min.min (n.toNat : Int).toNat (UInt32.size - 1) = n.toNat
      rw [Int.toNat_natCast]
      exact Nat.min_eq_left (Nat.le_sub_one_of_lt n.toNat_lt)
    unfold ofInt
    rw [if_neg hn, hm, UInt32.ofNat_toNat]

theorem toInt_bounds (a : MaxAge) : -1 ≤ a.toInt ∧ a.toInt < 4294967296 := by
  cases a with
  | permanent => decide
  | seconds n =>
    have hn := n.toNat_lt
    show -1 ≤ (n.toNat : Int) ∧ (n.toNat : Int) < 4294967296
    omega

end MaxAge
end TaggedCache
