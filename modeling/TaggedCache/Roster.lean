/-!
# Maps from names

A roster is a finite map from texts to values, kept in ascending order of the names. Walking it visits
every name once and in order. `get?_insert` and `get?_update` say what writing does to what can be
read.
-/

namespace TaggedCache

/-- A finite map from names, in name order. -/
structure Roster (α : Type) where
  toList : List (String × α)
  ascending : (toList.map Prod.fst).Pairwise (· < ·)

namespace Roster

variable {α β : Type}

instance [DecidableEq α] : DecidableEq (Roster α) := fun a b =>
  decidable_of_iff (a.toList = b.toList) ⟨by cases a; cases b; simp, by rintro rfl; rfl⟩

/-- The roster without names. -/
def empty : Roster α := ⟨[], List.Pairwise.nil⟩

instance : Inhabited (Roster α) := ⟨empty⟩

/-- The names, in order. -/
def names (r : Roster α) : List String := r.toList.map Prod.fst

def size (r : Roster α) : Nat := r.toList.length

/-- The value beside a name in a list. -/
def find (name : String) : List (String × α) → Option α
  | [] => none
  | (n, v) :: rest => if n = name then some v else find name rest

def get? (r : Roster α) (name : String) : Option α := find name r.toList

/-- True when the name has a value. -/
def contains (r : Roster α) (name : String) : Bool := (r.get? name).isSome

/-! ## Writing -/

def insertList (name : String) (value : α) : List (String × α) → List (String × α)
  | [] => [(name, value)]
  | (n, v) :: rest =>
    if name < n then (name, value) :: (n, v) :: rest
    else if name = n then (name, value) :: rest
    else (n, v) :: insertList name value rest

theorem mem_names_insertList {name m : String} {value : α} {ps : List (String × α)} :
    m ∈ (insertList name value ps).map Prod.fst ↔ m = name ∨ m ∈ ps.map Prod.fst := by
  induction ps with
  | nil => simp [insertList]
  | cons p rest ih =>
    unfold insertList
    split
    · simp
    · split
      · next h => simp [h]
      · simp only [List.map_cons, List.mem_cons, ih]
        constructor <;> rintro (h | h | h) <;> simp [h]

theorem ascending_insertList {name : String} {value : α} {ps : List (String × α)}
    (h : (ps.map Prod.fst).Pairwise (· < ·)) :
    ((insertList name value ps).map Prod.fst).Pairwise (· < ·) := by
  induction ps with
  | nil => simp [insertList]
  | cons p rest ih =>
    have hp := List.pairwise_cons.mp h
    unfold insertList
    split
    · next hlt =>
      refine List.pairwise_cons.mpr ⟨fun m hm => ?_, h⟩
      rcases List.mem_cons.mp hm with rfl | hm
      · exact hlt
      · exact String.lt_trans hlt (hp.1 m hm)
    · split
      · next heq =>
        subst heq
        exact h
      · next hlt hne =>
        refine List.pairwise_cons.mpr ⟨fun m hm => ?_, ih hp.2⟩
        rcases mem_names_insertList.mp hm with rfl | hm
        · rcases Decidable.em (p.1 < m) with hpm | hpm
          · exact hpm
          · exact absurd (String.le_antisymm (String.not_lt.mp hpm) (String.not_lt.mp hlt)) hne
        · exact hp.1 m hm

def insert (r : Roster α) (name : String) (value : α) : Roster α :=
  ⟨insertList name value r.toList, ascending_insertList r.ascending⟩

/-- The roster of a list; the last value of a name counts. -/
def ofList (ps : List (String × α)) : Roster α := ps.foldl (fun r p => r.insert p.1 p.2) empty

/-- The roster with every value replaced by what `f` makes of it. -/
def map (f : String → α → β) (r : Roster α) : Roster β where
  toList := r.toList.map fun p => (p.1, f p.1 p.2)
  ascending := by
    have h : (r.toList.map fun p => (p.1, f p.1 p.2)).map Prod.fst = r.toList.map Prod.fst := by
      simp
    rw [h]
    exact r.ascending

/-- The roster with every value replaced by what `f` makes of it. The first error ends it. -/
def mapM {ε : Type} (f : String → α → Except ε β) (r : Roster α) : Except ε (Roster β) :=
  r.toList.foldlM (fun made p => do .ok (made.insert p.1 (← f p.1 p.2))) empty

/-- The roster with the value of one name replaced; without the name nothing changes. -/
def update (r : Roster α) (name : String) (f : α → α) : Roster α :=
  r.map fun n v => if n = name then f v else v

/-! ## What can be read -/

theorem find_insertList (name m : String) (value : α) {ps : List (String × α)} :
    find m (insertList name value ps) = if name = m then some value else find m ps := by
  induction ps with
  | nil => simp [insertList, find]
  | cons p rest ih =>
    unfold insertList
    split
    · by_cases h : name = m <;> simp [find, h]
    · split
      · next heq =>
        by_cases h : name = m
        · simp [find, h]
        · have hp : ¬ p.1 = m := fun e => h (heq.trans e)
          simp [find, h, hp]
      · next hne =>
        by_cases hp : p.1 = m
        · have h : ¬ name = m := fun e => hne (e.trans hp.symm)
          simp [find, hp, h]
        · simp [find, hp, ih]

@[simp] theorem get?_insert (r : Roster α) (name m : String) (value : α) :
    (r.insert name value).get? m = if name = m then some value else r.get? m :=
  find_insertList name m value

theorem get?_map (f : String → α → β) (r : Roster α) (name : String) :
    (r.map f).get? name = (r.get? name).map (f name) := by
  show find name (r.toList.map fun p => (p.1, f p.1 p.2)) = (find name r.toList).map (f name)
  induction r.toList with
  | nil => rfl
  | cons p rest ih =>
    by_cases hp : p.1 = name
    · simp [find, hp]
    · simp [find, hp, ih]

theorem get?_update (r : Roster α) (name m : String) (f : α → α) :
    (r.update name f).get? m = if m = name then (r.get? m).map f else r.get? m := by
  rw [update, get?_map]
  split
  · rfl
  · cases r.get? m <;> rfl

@[simp] theorem names_map (f : String → α → β) (r : Roster α) : (r.map f).names = r.names := by
  simp [names, map]

end Roster
end TaggedCache
