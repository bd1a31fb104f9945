import TaggedCache.Tag

/-!
# Tag sets

The tags of an item, each once and in ascending order, so that two items with the same tags have the
same set, the same joined text and the same JSON form. Union walks both sets once and membership
halves the list again and again; `mem_union` and `contains_iff` say that both are what they are for
sets.
-/

namespace TaggedCache

/-- A finite set of tags, kept as an ascending list. -/
structure TagSet where
  /-- The tags in ascending order. -/
  toList : List Tag
  ascending : toList.Pairwise (· < ·)
deriving DecidableEq, Repr

namespace Tag

theorem lt_irrefl (a : Tag) : ¬ a < a := String.lt_irrefl a.text

theorem lt_trans {a b c : Tag} (hab : a < b) (hbc : b < c) : a < c :=
  String.lt_trans (a := a.text) hab hbc

theorem eq_of_text_eq {a b : Tag} (h : a.text = b.text) : a = b := by
  cases a
  cases b
  simp_all

theorem lt_of_not_lt_of_ne {a b : Tag} (h : ¬ a < b) (hne : a ≠ b) : b < a := by
  have h' : b.text ≤ a.text := String.not_lt.mp h
  rcases Decidable.em (b.text < a.text) with hlt | hge
  · exact hlt
  · exact absurd (eq_of_text_eq (String.le_antisymm (String.not_lt.mp hge) h')) hne

end Tag

namespace TagSet

/-- A tag belongs to a set when it is one of its list. -/
instance : Membership Tag TagSet := ⟨fun s t => t ∈ s.toList⟩

instance (t : Tag) (s : TagSet) : Decidable (t ∈ s) := inferInstanceAs (Decidable (t ∈ s.toList))

theorem mem_def {t : Tag} {s : TagSet} : t ∈ s ↔ t ∈ s.toList := Iff.rfl

/-- The set without tags. -/
def empty : TagSet := ⟨[], List.Pairwise.nil⟩

instance : Inhabited TagSet := ⟨empty⟩

/-- True for the set without tags. -/
def isEmpty (s : TagSet) : Bool := s.toList.isEmpty

/-! ## Building -/

def insertList (t : Tag) : List Tag → List Tag
  | [] => [t]
  | u :: rest =>
    if t < u then t :: u :: rest
    else if t = u then u :: rest
    else u :: insertList t rest

theorem mem_insertList {t u : Tag} {ts : List Tag} : u ∈ insertList t ts ↔ u = t ∨ u ∈ ts := by
  induction ts with
  | nil => simp [insertList]
  | cons v rest ih =>
    unfold insertList
    split
    · simp
    · split
      · next h => subst h; simp
      · simp only [List.mem_cons, ih]
        constructor <;> rintro (h | h | h) <;> simp [h]

theorem ascending_insertList {t : Tag} {ts : List Tag} (h : ts.Pairwise (· < ·)) :
    (insertList t ts).Pairwise (· < ·) := by
  induction ts with
  | nil => simp [insertList]
  | cons u rest ih =>
    have hu := List.pairwise_cons.mp h
    unfold insertList
    split
    · next htu =>
      refine List.pairwise_cons.mpr ⟨fun v hv => ?_, h⟩
      rcases List.mem_cons.mp hv with rfl | hv
      · exact htu
      · exact Tag.lt_trans htu (hu.1 v hv)
    · split
      · exact h
      · next htu hne =>
        refine List.pairwise_cons.mpr ⟨fun v hv => ?_, ih hu.2⟩
        rcases mem_insertList.mp hv with rfl | hv
        · exact Tag.lt_of_not_lt_of_ne htu hne
        · exact hu.1 v hv

def insert (t : Tag) (s : TagSet) : TagSet := ⟨insertList t s.toList, ascending_insertList s.ascending⟩

def ofList : List Tag → TagSet
  | [] => empty
  | t :: rest => insert t (ofList rest)

theorem mem_insert {t u : Tag} {s : TagSet} : u ∈ insert t s ↔ u = t ∨ u ∈ s := mem_insertList

theorem mem_ofList {t : Tag} {ts : List Tag} : t ∈ ofList ts ↔ t ∈ ts := by
  induction ts with
  | nil => simp [ofList, empty, mem_def]
  | cons u rest ih => simp [ofList, mem_insert, ih]

/-- The set of some texts; the first empty one is refused. -/
def ofTexts (texts : List String) : Except Fault TagSet := do
  .ok (ofList (← Tag.listFrom Tag.ofText 0 texts))

/-- The set of some JSON values; the first that is no text, or empty, is refused. -/
def ofValues (values : List Json) : Except Fault TagSet := do
  .ok (ofList (← Tag.listFrom Tag.ofValue 0 values))

/-- The set of the tags `stem:suffix`. -/
def ofFamily (stem : String) (suffixes : List Tag.Suffix) : TagSet := ofList (Tag.family stem suffixes)

/-! ## Union -/

/-- Walks two ascending lists once and takes the smaller head, or one of two equal heads. -/
def mergeLists : List Tag → List Tag → List Tag
  | [], us => us
  | t :: ts, [] => t :: ts
  | t :: ts, u :: us =>
    if t < u then t :: mergeLists ts (u :: us)
    else if t = u then t :: mergeLists ts us
    else u :: mergeLists (t :: ts) us
termination_by ts us => ts.length + us.length

theorem mem_mergeLists {v : Tag} {ts us : List Tag} : v ∈ mergeLists ts us ↔ v ∈ ts ∨ v ∈ us := by
  fun_induction mergeLists ts us with
  | case1 => simp
  | case2 => simp
  | case3 t ts u us h ih =>
    simp only [List.mem_cons, ih]
    constructor
    · rintro (h | h | h | h) <;> simp [h]
    · rintro ((h | h) | h | h) <;> simp [h]
  | case4 t ts us h ih =>
    simp only [List.mem_cons, ih]
    constructor
    · rintro (h | h | h) <;> simp [h]
    · rintro ((h | h) | h | h) <;> simp [h]
  | case5 t ts u us h hne ih =>
    simp only [List.mem_cons, ih]
    constructor
    · rintro (h | (h | h) | h) <;> simp [h]
    · rintro ((h | h) | h | h) <;> simp [h]

theorem ascending_mergeLists {ts us : List Tag} (ht : ts.Pairwise (· < ·))
    (hu : us.Pairwise (· < ·)) : (mergeLists ts us).Pairwise (· < ·) := by
  fun_induction mergeLists ts us with
  | case1 => exact hu
  | case2 => exact ht
  | case3 t ts u us h ih =>
    have ht' := List.pairwise_cons.mp ht
    have hu' := List.pairwise_cons.mp hu
    refine List.pairwise_cons.mpr ⟨fun v hv => ?_, ih ht'.2 hu⟩
    rcases mem_mergeLists.mp hv with hv | hv
    · exact ht'.1 v hv
    · rcases List.mem_cons.mp hv with rfl | hv
      · exact h
      · exact Tag.lt_trans h (hu'.1 v hv)
  | case4 t ts us h ih =>
    have ht' := List.pairwise_cons.mp ht
    have hu' := List.pairwise_cons.mp hu
    refine List.pairwise_cons.mpr ⟨fun v hv => ?_, ih ht'.2 hu'.2⟩
    rcases mem_mergeLists.mp hv with hv | hv
    · exact ht'.1 v hv
    · exact hu'.1 v hv
  | case5 t ts u us h hne ih =>
    have ht' := List.pairwise_cons.mp ht
    have hu' := List.pairwise_cons.mp hu
    have hlt : u < t := Tag.lt_of_not_lt_of_ne h hne
    refine List.pairwise_cons.mpr ⟨fun v hv => ?_, ih ht hu'.2⟩
    rcases mem_mergeLists.mp hv with hv | hv
    · rcases List.mem_cons.mp hv with rfl | hv
      · exact hlt
      · exact Tag.lt_trans hlt (ht'.1 v hv)
    · exact hu'.1 v hv

/-- The tags of either set. -/
def union (s u : TagSet) : TagSet :=
  ⟨mergeLists s.toList u.toList, ascending_mergeLists s.ascending u.ascending⟩

instance : Union TagSet := ⟨union⟩

theorem mem_union {t : Tag} {s u : TagSet} : t ∈ s ∪ u ↔ t ∈ s ∨ t ∈ u := mem_mergeLists

/-- The tags of either set, in place of the first one. -/
def extendFrom (s u : TagSet) : TagSet := if u.isEmpty then s else s ∪ u

def merge (sets : List TagSet) : TagSet := ofList (sets.flatMap toList)

/-! ## Asking -/

/-- Looks for a text in an ascending list: at the tag in the middle, and then in the half where it would
be. The fuel is the number of tags. -/
def findIn (text : String) : Nat → List Tag → Bool
  | 0, _ => false
  | fuel + 1, ts =>
    match ts.drop (ts.length / 2) with
    | [] => false
    | t :: upper =>
      if t.text = text then true
      else if t.text < text then findIn text fuel upper
      else findIn text fuel (ts.take (ts.length / 2))

/-- True when the set has a tag of this text. -/
def contains (s : TagSet) (text : String) : Bool := findIn text s.toList.length s.toList

theorem findIn_iff {text : String} {fuel : Nat} {ts : List Tag} (h : ts.Pairwise (· < ·))
    (hf : ts.length ≤ fuel) : findIn text fuel ts = true ↔ ∃ t ∈ ts, t.text = text := by
  induction fuel generalizing ts with
  | zero =>
    have : ts = [] := List.length_eq_zero_iff.mp (by omega)
    simp [this, findIn]
  | succ fuel ih =>
    have hsplit := List.take_append_drop (ts.length / 2) ts
    unfold findIn
    split
    · next hd =>
      have hl := congrArg List.length hd
      simp only [List.length_drop, List.length_nil] at hl
      have : ts = [] := List.length_eq_zero_iff.mp (by omega)
      simp [this]
    · next t upper hd =>
      have hl := congrArg List.length hd
      simp only [List.length_drop, List.length_cons] at hl
      rw [hd] at hsplit
      generalize hlow : ts.take (ts.length / 2) = lower at hsplit ⊢
      have hlower : lower.length ≤ fuel := by
        have := congrArg List.length hlow
        simp only [List.length_take] at this
        omega
      rw [← hsplit] at h
      have ⟨h₁, h₂, h₃⟩ := List.pairwise_append.mp h
      have h₄ := List.pairwise_cons.mp h₂
      rw [← hsplit]
      split
      · next he => exact iff_of_true rfl ⟨t, by simp, he⟩
      · next hne =>
        split
        · next hlt =>
          rw [ih h₄.2 (by omega)]
          constructor
          · rintro ⟨u, hu, he⟩
            exact ⟨u, by simp [hu], he⟩
          · rintro ⟨u, hu, he⟩
            rcases List.mem_append.mp hu with hu | hu
            · exact absurd (String.lt_trans (he ▸ h₃ u hu t (by simp) : text < t.text) hlt)
                (String.lt_irrefl _)
            · rcases List.mem_cons.mp hu with rfl | hu
              · exact absurd he hne
              · exact ⟨u, hu, he⟩
        · next hge =>
          rw [ih h₁ hlower]
          constructor
          · rintro ⟨u, hu, he⟩
            exact ⟨u, by simp [hu], he⟩
          · rintro ⟨u, hu, he⟩
            rcases List.mem_append.mp hu with hu | hu
            · exact ⟨u, hu, he⟩
            · rcases List.mem_cons.mp hu with rfl | hu
              · exact absurd he hne
              · exact absurd (he ▸ h₄.1 u hu : t.text < text) hge

theorem contains_iff {s : TagSet} {text : String} :
    s.contains text = true ↔ ∃ t ∈ s, t.text = text :=
  findIn_iff s.ascending (Nat.le_refl _)

/-- True when the sets have a tag in common. -/
def intersects (s u : TagSet) : Bool := u.toList.any fun t => s.contains t.text

theorem intersects_iff {s u : TagSet} : s.intersects u = true ↔ ∃ t, t ∈ s ∧ t ∈ u := by
  simp only [intersects, List.any_eq_true, contains_iff]
  constructor
  · rintro ⟨t, ht, v, hv, he⟩
    exact ⟨t, Tag.eq_of_text_eq he ▸ hv, ht⟩
  · rintro ⟨t, hs, hu⟩
    exact ⟨t, hu, t, hs, rfl⟩

/-! ## Text and JSON -/

/-- The texts of the tags, in order. -/
def texts (s : TagSet) : List String := s.toList.map (·.text)

def join (separator : String) (s : TagSet) : String := Text.join separator s.texts

def toJson (s : TagSet) : Json := Json.texts s.texts

def textsOf? : Json → Option (List String)
  | .array items => items.mapM fun
    | .text s => some s
    | _ => none
  | _ => none

/-- The set of a JSON array of texts. Nothing comes back when it is no such array. -/
def ofJson? (v : Json) : Option (Except Fault TagSet) := (textsOf? v).map ofTexts

end TagSet
end TaggedCache
