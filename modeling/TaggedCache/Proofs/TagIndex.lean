import TaggedCache.TagIndex

/-!
# The tag index describes one map

The two tables of an index say the same about which key carries which tag (`TagIndex.Sound`), and both
ways of writing keep it so. The tags that a write reports as orphaned are exactly those that the key
carried before and that no key carries after it (`mem_orphans_unregister`, `mem_orphans_register`).
-/

namespace TaggedCache

theorem TagSet.nodup (s : TagSet) : s.toList.Nodup :=
  s.ascending.imp (by
    rintro a b h rfl
    exact Tag.lt_irrefl a h)

namespace TagIndex

/-- A key carries the tags that it was registered with. -/
def Carries (i : TagIndex) (key : String) (tag : Tag) : Prop :=
  ∃ tags, i.tagsOf.get? key = some tags ∧ tag ∈ tags

/-- The keys listed for a tag. -/
def keysAt (keysOf : Table Tag (List String)) (tag : Tag) : List String := (keysOf.get? tag).getD []

/-- The keys listed for a tag are those that carry it, and no tag is listed without a key. -/
structure Sound (i : TagIndex) : Prop where
  mem_keysAt : ∀ key tag, key ∈ keysAt i.keysOf tag ↔ i.Carries key tag
  ne_nil : ∀ tag, i.keysOf.get? tag ≠ some []

variable {i : TagIndex} {key k : String} {tag t : Tag} {tags : TagSet}
variable {keysOf : Table Tag (List String)}

theorem Sound.empty : Sound .empty := by
  constructor
  · intro key tag
    simp [keysAt, TagIndex.empty, Carries]
  · intro tag
    simp [TagIndex.empty]

/-! ## Taking a key away -/

theorem keysAt_erase : keysAt (keysOf.erase t) tag = if t = tag then [] else keysAt keysOf tag := by
  unfold keysAt
  rw [Table.get?_erase]
  split <;> rfl

theorem keysAt_put {ks : List String} :
    keysAt (keysOf.put t ks) tag = if t = tag then ks else keysAt keysOf tag := by
  unfold keysAt
  rw [Table.get?_put]
  split <;> rfl

theorem keysAt_detach (key : String) (ts : List Tag) (keysOf : Table Tag (List String)) (tag : Tag) :
    keysAt (detach key ts keysOf).2 tag =
      if tag ∈ ts then (keysAt keysOf tag).filter (· ≠ key) else keysAt keysOf tag := by
  induction ts generalizing keysOf with
  | nil => simp [detach]
  | cons t rest ih =>
    have hsame : ∀ ks, keysOf.get? t = some ks → keysAt keysOf t = ks := by
      intro ks h
      simp [keysAt, h]
    unfold detach
    split
    · next hn =>
      rw [ih]
      by_cases ht : tag = t
      · subst ht
        simp [keysAt, hn]
      · simp [ht]
    · next ks hs =>
      split
      · next hf =>
        simp only [ih, keysAt_erase]
        by_cases ht : tag = t
        · subst ht
          simp only [List.mem_cons, true_or, ↓reduceIte, hsame ks hs, hf, List.filter_nil, ite_self]
        · simp [ht, Ne.symm ht]
      · next k₁ ks₁ hf =>
        simp only [ih, keysAt_put]
        by_cases ht : tag = t
        · subst ht
          have hk : (k₁ :: ks₁).filter (· ≠ key) = k₁ :: ks₁ := by
            rw [← hf]
            simp
          simp only [List.mem_cons, true_or, ↓reduceIte, hsame ks hs, hf, hk, ite_self]
        · simp [ht, Ne.symm ht]

theorem ne_nil_detach {ts : List Tag} (h : ∀ tag, keysOf.get? tag ≠ some []) (tag : Tag) :
    (detach key ts keysOf).2.get? tag ≠ some [] := by
  induction ts generalizing keysOf with
  | nil => exact h tag
  | cons t rest ih =>
    unfold detach
    split
    · exact ih h
    · split
      · refine ih fun u => ?_
        rw [Table.get?_erase]
        split
        · simp
        · exact h u
      · refine ih fun u => ?_
        rw [Table.get?_put]
        split
        · simp
        · exact h u

theorem mem_orphans_detach {ts : List Tag} (hts : ts.Nodup) :
    tag ∈ (detach key ts keysOf).1 ↔
      tag ∈ ts ∧ (keysOf.get? tag).isSome ∧ (keysAt keysOf tag).filter (· ≠ key) = [] := by
  induction ts generalizing keysOf with
  | nil => simp [detach]
  | cons t rest ih =>
    have ⟨hnot, hrest⟩ := List.nodup_cons.mp hts
    -- A tag of the rest is another one, so the step at `t` leaves its keys alone.
    have hne : tag ∈ rest → t ≠ tag := fun hm e => hnot (e ▸ hm)
    unfold detach
    split
    · next hn =>
      rw [ih hrest]
      constructor
      · rintro ⟨hm, h⟩
        exact ⟨List.mem_cons_of_mem _ hm, h⟩
      · rintro ⟨hm, hs, h⟩
        rcases List.mem_cons.mp hm with rfl | hm
        · simp [hn] at hs
        · exact ⟨hm, hs, h⟩
    · next ks hs =>
      split
      · next hf =>
        simp only [List.mem_cons, ih hrest, keysAt_erase, Table.get?_erase]
        constructor
        · rintro (rfl | ⟨hm, h⟩)
          · exact ⟨.inl rfl, by simp [hs], by simp only [keysAt, hs, Option.getD_some, hf]⟩
          · simp only [hne hm, ↓reduceIte] at h
            exact ⟨.inr hm, h⟩
        · rintro ⟨rfl | hm, h⟩
          · exact .inl rfl
          · simp only [hne hm, ↓reduceIte]
            exact .inr ⟨hm, h⟩
      · next k₁ ks₁ hf =>
        simp only [ih hrest, keysAt_put, Table.get?_put, List.mem_cons]
        constructor
        · rintro ⟨hm, h⟩
          simp only [hne hm, ↓reduceIte] at h
          exact ⟨.inr hm, h⟩
        · rintro ⟨rfl | hm, h⟩
          · simp only [keysAt, hs, Option.getD_some, hf] at h
            cases h.2
          · simp only [hne hm, ↓reduceIte]
            exact ⟨hm, h⟩

theorem tagsOf_unregister (i : TagIndex) (key k : String) :
    (i.unregister key).2.tagsOf.get? k = if key = k then none else i.tagsOf.get? k := by
  unfold unregister
  split
  · next hn =>
    split
    · next he => exact he ▸ hn
    · rfl
  · exact Table.get?_erase ..

theorem carries_unregister : (i.unregister key).2.Carries k t ↔ k ≠ key ∧ i.Carries k t := by
  unfold Carries
  rw [tagsOf_unregister]
  by_cases h : key = k
  · simp [h]
  · simp [h, Ne.symm h]

theorem keysAt_unregister (h : i.Sound) :
    k ∈ keysAt (i.unregister key).2.keysOf tag ↔ k ≠ key ∧ k ∈ keysAt i.keysOf tag := by
  unfold unregister
  split
  · next hn =>
    have hk : ¬ i.Carries key tag := by
      rintro ⟨tags, ht, -⟩
      simp [hn] at ht
    constructor
    · intro hm
      exact ⟨fun e => hk ((h.mem_keysAt _ _).mp (e ▸ hm)), hm⟩
    · exact fun hm => hm.2
  · next tags hs =>
    rw [keysAt_detach]
    split
    · simp [and_comm]
    · next hm =>
      have hk : key ∉ keysAt i.keysOf tag := by
        rw [h.mem_keysAt]
        rintro ⟨tags', ht, hmem⟩
        exact hm (Option.some.inj (hs.symm.trans ht) ▸ hmem)
      constructor
      · intro hmem
        exact ⟨fun e => hk (e ▸ hmem), hmem⟩
      · exact fun hmem => hmem.2

theorem Sound.unregister (h : i.Sound) (key : String) : (i.unregister key).2.Sound := by
  constructor
  · intro k tag
    rw [keysAt_unregister h, carries_unregister, h.mem_keysAt]
  · intro tag
    unfold TagIndex.unregister
    split
    · exact h.ne_nil tag
    · exact ne_nil_detach h.ne_nil tag

/-- A tag is orphaned when the key carried it and no other key does. -/
theorem mem_orphans_unregister (h : i.Sound) :
    t ∈ (i.unregister key).1 ↔ i.Carries key t ∧ ∀ k, k ≠ key → ¬ i.Carries k t := by
  have hothers : (keysAt i.keysOf t).filter (· ≠ key) = [] ↔ ∀ k, k ≠ key → ¬ i.Carries k t := by
    simp only [List.filter_eq_nil_iff, h.mem_keysAt]
    constructor
    · intro hall k hk hc
      simpa [hk] using hall k hc
    · intro hall k hc
      have : k = key := Decidable.byContradiction fun hk => hall k hk hc
      simp [this]
  unfold TagIndex.unregister
  split
  · next hn =>
    constructor
    · intro hm
      cases hm
    · rintro ⟨⟨tags, ht, -⟩, -⟩
      simp [hn] at ht
  · next tags hs =>
    rw [mem_orphans_detach tags.nodup, hothers]
    have hcarries : i.Carries key t ↔ t ∈ tags.toList := by
      constructor
      · rintro ⟨tags', ht, hm⟩
        exact Option.some.inj (hs.symm.trans ht) ▸ hm
      · exact fun hm => ⟨tags, hs, hm⟩
    rw [hcarries]
    constructor
    · exact fun ⟨hm, _, hall⟩ => ⟨hm, hall⟩
    · rintro ⟨hm, hall⟩
      refine ⟨hm, ?_, hall⟩
      have hk := (h.mem_keysAt key t).mpr (hcarries.mpr hm)
      cases hg : i.keysOf.get? t with
      | none => simp [keysAt, hg] at hk
      | some _ => rfl

/-! ## Registering a key -/

theorem mem_keysAt_attach {u : Tag} :
    k ∈ keysAt (attach key keysOf u) tag ↔ k ∈ keysAt keysOf tag ∨ (k = key ∧ tag = u) := by
  show k ∈ keysAt (keysOf.put u
    (if key ∈ keysAt keysOf u then keysAt keysOf u else keysAt keysOf u ++ [key])) tag ↔ _
  rw [keysAt_put]
  by_cases hu : u = tag
  · subst hu
    simp only [↓reduceIte, and_true]
    split
    · next hm =>
      constructor
      · exact .inl
      · rintro (h | rfl)
        · exact h
        · exact hm
    · simp
  · simp [hu, Ne.symm hu]

theorem mem_keysAt_attachAll {ts : List Tag} :
    k ∈ keysAt (ts.foldl (attach key) keysOf) tag ↔ k ∈ keysAt keysOf tag ∨ (k = key ∧ tag ∈ ts) := by
  induction ts generalizing keysOf with
  | nil => simp
  | cons u rest ih =>
    rw [List.foldl_cons, ih, mem_keysAt_attach, List.mem_cons]
    constructor
    · rintro ((h | ⟨hk, ht⟩) | ⟨hk, ht⟩)
      · exact .inl h
      · exact .inr ⟨hk, .inl ht⟩
      · exact .inr ⟨hk, .inr ht⟩
    · rintro (h | ⟨hk, ht | ht⟩)
      · exact .inl (.inl h)
      · exact .inl (.inr ⟨hk, ht⟩)
      · exact .inr ⟨hk, ht⟩

theorem ne_nil_attachAll {ts : List Tag} (h : ∀ tag, keysOf.get? tag ≠ some []) (tag : Tag) :
    (ts.foldl (attach key) keysOf).get? tag ≠ some [] := by
  induction ts generalizing keysOf with
  | nil => exact h tag
  | cons u rest ih =>
    refine ih fun v => ?_
    unfold attach
    rw [Table.get?_put]
    split
    · intro he
      have he := Option.some.inj he
      split at he
      · next hm => simp [he] at hm
      · simp at he
    · exact h v

theorem tagsOf_register (i : TagIndex) (key k : String) (tags : TagSet) :
    (i.register key tags).2.tagsOf.get? k = if key = k then some tags else i.tagsOf.get? k := by
  show ((i.unregister key).2.tagsOf.put key tags).get? k = _
  rw [Table.get?_put, tagsOf_unregister]
  split <;> rfl

theorem carries_register :
    (i.register key tags).2.Carries k t ↔ (k = key ∧ t ∈ tags) ∨ (k ≠ key ∧ i.Carries k t) := by
  unfold Carries
  rw [tagsOf_register]
  by_cases h : key = k
  · simp [h]
  · simp [h, Ne.symm h]

theorem Sound.register (h : i.Sound) (key : String) (tags : TagSet) :
    (i.register key tags).2.Sound := by
  have hu := h.unregister key
  constructor
  · intro k tag
    show k ∈ keysAt (tags.toList.foldl (attach key) (i.unregister key).2.keysOf) tag ↔ _
    rw [mem_keysAt_attachAll, hu.mem_keysAt, carries_unregister, carries_register, or_comm]
    rfl
  · intro tag
    exact ne_nil_attachAll hu.ne_nil tag

/-- A tag is orphaned when the key carried it, does so no longer, and no other key does. -/
theorem mem_orphans_register (h : i.Sound) :
    t ∈ (i.register key tags).1 ↔
      i.Carries key t ∧ t ∉ tags ∧ ∀ k, k ≠ key → ¬ i.Carries k t := by
  have hc : tags.contains t.text = true ↔ t ∈ tags := by
    rw [TagSet.contains_iff]
    constructor
    · rintro ⟨u, hu, he⟩
      exact Tag.eq_of_text_eq he ▸ hu
    · exact fun hm => ⟨t, hm, rfl⟩
  show t ∈ (i.unregister key).1.filter (fun tag => !tags.contains tag.text) ↔ _
  rw [List.mem_filter, mem_orphans_unregister h, Bool.not_eq_true', ← Bool.not_eq_true, hc]
  constructor
  · exact fun ⟨⟨hk, hall⟩, hn⟩ => ⟨hk, hn, hall⟩
  · exact fun ⟨hk, hn, hall⟩ => ⟨⟨hk, hall⟩, hn⟩

/-! ## Asking -/

theorem hasTag_iff (h : i.Sound) : i.hasTag tag = true ↔ ∃ k, i.Carries k tag := by
  unfold hasTag
  cases hg : i.keysOf.get? tag with
  | none =>
    have hnone : ∀ k, ¬ i.Carries k tag := by
      intro k hk
      rw [← h.mem_keysAt] at hk
      simp [keysAt, hg] at hk
    simp [hnone]
  | some ks =>
    cases ks with
    | nil => exact absurd hg (h.ne_nil tag)
    | cons k ks =>
      have hk : i.Carries k tag := by
        rw [← h.mem_keysAt]
        simp [keysAt, hg]
      simpa using ⟨k, hk⟩

theorem mem_keysForTags (h : i.Sound) :
    k ∈ i.keysForTags tags ↔ ∃ tag ∈ tags.toList, i.Carries k tag := by
  unfold keysForTags
  rw [List.mem_eraseDups, List.mem_flatMap]
  simp only [← h.mem_keysAt]
  rfl

end TagIndex
end TaggedCache
