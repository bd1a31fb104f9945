/-!
# Room

What keeps a limited number of things keeps at least one of them, so a limit of zero counts as one.
-/

namespace TaggedCache

def roomFor (limit : Nat) : Nat := max limit 1

theorem roomFor_pos (limit : Nat) : 0 < roomFor limit :=
  Nat.lt_of_lt_of_le Nat.one_pos (Nat.le_max_right limit 1)

theorem roomFor_of_ne_zero {limit : Nat} (h : limit ≠ 0) : roomFor limit = limit :=
  Nat.max_eq_left (Nat.pos_of_ne_zero h)

end TaggedCache
