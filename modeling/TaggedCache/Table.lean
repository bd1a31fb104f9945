/-!
# Finite maps

A table is a list of pairs with distinct keys. New keys go to the end and a present key keeps its
place. `get?_put` and `get?_erase` say what each operation does to what can be read.
-/

namespace TaggedCache

/-- A finite map as a list of pairs with distinct keys. -/
structure Table (κ α : Type) where
  /-- The pairs, in the order in which their keys came. -/
  pairs : List (κ × α)
  nodup : (pairs.map Prod.fst).Nodup

namespace Table

variable {κ α : Type}

/-- The table without pairs. -/
def empty : Table κ α := ⟨[], List.nodup_nil⟩

instance : Inhabited (Table κ α) := ⟨empty⟩

/-- The keys, in the order in which they came. -/
def keys (t : Table κ α) : List κ := t.pairs.map Prod.fst

def size (t : Table κ α) : Nat := t.pairs.length

variable [DecidableEq κ]

/-- The value beside a key in a list of pairs. -/
def find (k : κ) : List (κ × α) → Option α
  | [] => none
  | (j, v) :: rest => if j = k then some v else find k rest

def get? (t : Table κ α) (k : κ) : Option α := find k t.pairs

def putList (k : κ) (v : α) : List (κ × α) → List (κ × α)
  | [] => [(k, v)]
  | (j, w) :: rest => if j = k then (k, v) :: rest else (j, w) :: putList k v rest

theorem keys_putList (k : κ) (v : α) (ps : List (κ × α)) :
    (putList k v ps).map Prod.fst =
      if k ∈ ps.map Prod.fst then ps.map Prod.fst else ps.map Prod.fst ++ [k] := by
  induction ps with
  | nil => simp [putList]
  | cons p rest ih =>
    unfold putList
    split
    · next h => simp [h]
    · next h =>
      have h' : ¬ k = p.1 := fun e => h e.symm
      simp only [List.map_cons, ih, List.mem_cons, h', false_or]
      split <;> simp

theorem nodup_putList {k : κ} {v : α} {ps : List (κ × α)} (h : (ps.map Prod.fst).Nodup) :
    ((putList k v ps).map Prod.fst).Nodup := by
  rw [keys_putList]
  split
  · exact h
  · next hk =>
    exact List.nodup_append.mpr ⟨h, by simp, fun a ha b hb e => hk (by simp_all)⟩

def put (t : Table κ α) (k : κ) (v : α) : Table κ α := ⟨putList k v t.pairs, nodup_putList t.nodup⟩

/-- The table without a key. -/
def erase (t : Table κ α) (k : κ) : Table κ α where
  pairs := t.pairs.filter fun p => p.1 ≠ k
  nodup := List.Pairwise.sublist (List.Sublist.map Prod.fst List.filter_sublist) t.nodup

/-- Adds one to the number beside a key; a key without a number starts at zero. -/
def increment (t : Table κ Nat) (k : κ) : Table κ Nat := t.put k ((t.get? k).getD 0 + 1)

/-! ## What can be read -/

theorem find_eq_none_iff {k : κ} {ps : List (κ × α)} : find k ps = none ↔ k ∉ ps.map Prod.fst := by
  induction ps with
  | nil => simp [find]
  | cons p rest ih =>
    unfold find
    split
    · next h => simp [h]
    · next h =>
      have h' : ¬ k = p.1 := fun e => h e.symm
      simp only [List.map_cons, List.mem_cons, h', false_or]
      exact ih

theorem find_eq_some_iff {k : κ} {v : α} {ps : List (κ × α)} (h : (ps.map Prod.fst).Nodup) :
    find k ps = some v ↔ (k, v) ∈ ps := by
  induction ps with
  | nil => simp [find]
  | cons p rest ih =>
    have ⟨hnot, hrest⟩ := List.nodup_cons.mp (List.map_cons ▸ h)
    unfold find
    split
    · next hk =>
      have hr : (k, v) ∉ rest := fun hm => hnot (List.mem_map.mpr ⟨_, hm, hk.symm⟩)
      simp only [List.mem_cons, hr, or_false, Option.some.injEq]
      constructor
      · rintro rfl
        rw [← hk]
      · rintro rfl
        rfl
    · next hk =>
      rw [ih hrest, List.mem_cons]
      constructor
      · exact .inr
      · rintro (rfl | hm)
        · exact absurd rfl hk
        · exact hm

theorem find_putList (k j : κ) (v : α) (ps : List (κ × α)) :
    find j (putList k v ps) = if k = j then some v else find j ps := by
  induction ps with
  | nil => simp [putList, find]
  | cons p rest ih =>
    unfold putList
    split
    · next h => by_cases hj : k = j <;> simp [find, h, hj]
    · next h =>
      by_cases hp : p.1 = j
      · have hj : ¬ k = j := fun e => h (hp.trans e.symm)
        simp [find, hp, hj]
      · simp [find, hp, ih]

theorem find_filter (k j : κ) (ps : List (κ × α)) :
    find j (ps.filter fun p => p.1 ≠ k) = if k = j then none else find j ps := by
  induction ps with
  | nil => simp [find]
  | cons p rest ih =>
    by_cases hk : p.1 = k
    · by_cases hj : k = j
      · simp_all
      · have hp : ¬ p.1 = j := fun e => hj (hk.symm.trans e)
        simp_all [find]
    · by_cases hp : p.1 = j
      · have hj : ¬ k = j := fun e => hk (hp.trans e.symm)
        simp_all [find]
      · simp_all [find]

@[simp] theorem get?_empty (k : κ) : (empty : Table κ α).get? k = none := rfl

@[simp] theorem get?_put (t : Table κ α) (k j : κ) (v : α) :
    (t.put k v).get? j = if k = j then some v else t.get? j := find_putList k j v t.pairs

@[simp] theorem get?_erase (t : Table κ α) (k j : κ) :
    (t.erase k).get? j = if k = j then none else t.get? j := find_filter k j t.pairs

theorem mem_keys_iff {t : Table κ α} {k : κ} : k ∈ t.keys ↔ (t.get? k).isSome := by
  have h : find k t.pairs = none ↔ k ∉ t.pairs.map Prod.fst := find_eq_none_iff
  rw [Option.isSome_iff_ne_none, Ne, get?, h]
  simp [keys]

end Table
end TaggedCache
