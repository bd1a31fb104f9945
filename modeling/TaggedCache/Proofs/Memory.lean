import Mathlib.Data.List.Basic
import TaggedCache.Memory
import TaggedCache.Proofs.Shelf
import TaggedCache.Proofs.TagIndex

/-!
# A bin in memory behaves like a plain store

`Memory.view` reads a bin as a plain store: an item is flagged when the sum of its counters is not the
one it was written with. Every call commutes with it (`view_step`), as long as the counters were raised
less often than they can count. Two invariants carry this. The index, the counters and the entries
speak of the same items (`Sound`), so no counter of a stored item is ever dropped; and the sums lag
behind by what was counted since, not more (`Within`).
-/

namespace TaggedCache

namespace Memory

variable {counters more : Table Tag UInt64} {tags : TagSet} {t u : Tag}

/-! ## Counters -/

theorem get?_forget (ts : List Tag) (counters : Table Tag UInt64) (t : Tag) :
    (forget ts counters).get? t = if t ∈ ts then none else counters.get? t := by
  unfold forget
  induction ts generalizing counters with
  | nil => simp
  | cons u rest ih =>
    rw [List.foldl_cons, ih, Table.get?_erase]
    by_cases hr : t ∈ rest
    · simp [hr]
    · by_cases hu : u = t
      · simp [hu]
      · simp [hr, hu, Ne.symm hu]

/-- The counter of a tag, which is zero as long as there is none. -/
def count (counters : Table Tag UInt64) (t : Tag) : UInt64 := (counters.get? t).getD 0

theorem checksum_eq : checksum counters tags = tags.toList.foldl (fun s t => s + count counters t) 0 :=
  rfl

theorem checksum_congr (h : ∀ t ∈ tags.toList, counters.get? t = more.get? t) :
    checksum counters tags = checksum more tags := by
  rw [checksum_eq, checksum_eq]
  refine List.foldl_ext _ _ _ fun s t ht => ?_
  rw [count, h t ht, count]

theorem get?_bump : (bump counters u).get? t =
    if u = t then some ((counters.get? t).getD 0 + 1) else counters.get? t := by
  unfold bump
  rw [Table.get?_put]
  by_cases h : u = t
  · simp [h]
  · simp [h]

/-- A sum that starts one higher ends one higher. -/
theorem sum_succ (f : Tag → UInt64) (ts : List Tag) (sum : UInt64) :
    ts.foldl (fun s t => s + f t) (sum + 1) = ts.foldl (fun s t => s + f t) sum + 1 := by
  induction ts generalizing sum with
  | nil => rfl
  | cons t rest ih =>
    have : sum + 1 + f t = sum + f t + 1 := by ac_rfl
    rw [List.foldl_cons, this, ih, List.foldl_cons]

theorem count_bump : count (bump counters u) t = count counters t + if u = t then 1 else 0 := by
  unfold count
  rw [get?_bump]
  by_cases h : u = t
  · simp [h]
  · simp [h]

theorem sum_bump {ts : List Tag} (hn : ts.Nodup) (sum : UInt64) :
    ts.foldl (fun s t => s + count (bump counters u) t) sum =
      ts.foldl (fun s t => s + count counters t) sum + if u ∈ ts then 1 else 0 := by
  induction ts generalizing sum with
  | nil => simp
  | cons t rest ih =>
    have ⟨hnot, hrest⟩ := List.nodup_cons.mp hn
    rw [List.foldl_cons, List.foldl_cons, count_bump]
    by_cases hu : u = t
    · -- The tag comes once, so the rest of the sum sees the old counters.
      subst hu
      rw [if_pos rfl, ← UInt64.add_assoc, ih hrest, sum_succ]
      simp [hnot]
    · rw [if_neg hu, ih hrest]
      simp [hu]

theorem checksum_bump (counters : Table Tag UInt64) (tags : TagSet) (u : Tag) :
    checksum (bump counters u) tags = checksum counters tags + if u ∈ tags.toList then 1 else 0 :=
  sum_bump tags.nodup 0

theorem checksum_bumps (ts : List Tag) (counters : Table Tag UInt64) (tags : TagSet) :
    checksum (ts.foldl bump counters) tags =
      checksum counters tags + UInt64.ofNat (ts.countP (· ∈ tags.toList)) := by
  induction ts generalizing counters with
  | nil => simp
  | cons u rest ih =>
    rw [List.foldl_cons, ih, checksum_bump, List.countP_cons]
    by_cases hu : u ∈ tags.toList
    · simp only [hu, ↓reduceIte, decide_true, UInt64.ofNat_add]
      rw [UInt64.add_assoc, UInt64.add_comm 1]
      rfl
    · simp [hu]

theorem isSome_bumps (ts : List Tag) (counters : Table Tag UInt64) (t : Tag) :
    ((ts.foldl bump counters).get? t).isSome ↔ t ∈ ts ∨ (counters.get? t).isSome := by
  induction ts generalizing counters with
  | nil => simp
  | cons u rest ih =>
    rw [List.foldl_cons, ih, get?_bump, List.mem_cons]
    by_cases hu : u = t
    · simp [hu]
    · simp [hu, Ne.symm hu]

/-! ## Entries, index and counters speak of the same items -/

/-- The keys of the entries are distinct, the index holds the tags of every stored item and nothing
else, and a counted tag is carried by a stored item. -/
structure Sound (m : Memory) : Prop where
  nodup : (m.entries.map Prod.fst).Nodup
  index : m.index.Sound
  tagsOf : ∀ key, m.index.tagsOf.get? key = (Table.find key m.entries).map (·.item.tags)
  counted : ∀ tag, (m.counters.get? tag).isSome → ∃ key, m.index.Carries key tag

variable {m : Memory} {key k : String} {e : Entry} {item : Item} {now : UInt64}

theorem Sound.new (name : String) (capacity : Nat) : (new name capacity).Sound where
  nodup := List.nodup_nil
  index := TagIndex.Sound.empty
  tagsOf _ := rfl
  counted tag h := by simp [Memory.new] at h

theorem Sound.carries (h : m.Sound) (he : (k, e) ∈ m.entries) :
    m.index.Carries k t ↔ t ∈ e.item.tags.toList := by
  have hf := (Table.find_eq_some_iff h.nodup).mpr he
  unfold TagIndex.Carries
  rw [h.tagsOf, hf]
  constructor
  · rintro ⟨tags, ht, hm⟩
    obtain rfl : e.item.tags = tags := Option.some.inj ht
    exact hm
  · exact fun hm => ⟨_, rfl, hm⟩

theorem nodup_filter (h : (m.entries.map Prod.fst).Nodup) (p : String × Entry → Bool) :
    ((m.entries.filter p).map Prod.fst).Nodup := h.sublist (List.filter_sublist.map _)

theorem Sound.delete (h : m.Sound) (key : String) : (m.delete key).Sound where
  nodup := nodup_filter h.nodup _
  index := h.index.unregister key
  tagsOf k := by
    show (m.index.unregister key).2.tagsOf.get? k = _
    rw [TagIndex.tagsOf_unregister, h.tagsOf]
    show _ = (Table.find k (m.entries.filter fun e => e.1 ≠ key)).map _
    rw [Table.find_filter]
    split <;> rfl
  counted tag hs := by
    replace hs : ((forget (m.index.unregister key).1 m.counters).get? tag).isSome := hs
    rw [get?_forget] at hs
    split at hs
    · cases hs
    · next hnot =>
      obtain ⟨k, hk⟩ := h.counted tag hs
      by_cases hkey : k = key
      · -- The tag is no orphan, so another key carries it as well.
        subst hkey
        rw [TagIndex.mem_orphans_unregister h.index] at hnot
        simp only [hk, true_and, Classical.not_forall, Classical.not_not] at hnot
        obtain ⟨k', hne, hk'⟩ := hnot
        exact ⟨k', TagIndex.carries_unregister.mpr ⟨hne, hk'⟩⟩
      · exact ⟨k, TagIndex.carries_unregister.mpr ⟨hkey, hk⟩⟩

/-- The counters of the items that stay are not dropped. -/
theorem checksum_delete (h : m.Sound) (he : (k, e) ∈ m.entries) (hk : k ≠ key) :
    checksum (m.delete key).counters e.item.tags = checksum m.counters e.item.tags := by
  refine checksum_congr fun t ht => ?_
  show (forget (m.index.unregister key).1 m.counters).get? t = _
  rw [get?_forget, if_neg]
  rw [TagIndex.mem_orphans_unregister h.index]
  exact fun ho => ho.2 k hk ((h.carries he).mpr ht)

/-! ## Writing, with too many entries perhaps -/

/-- The bin with an item in front, before room is made. -/
def place (key : String) (item : Item) (m : Memory) : Memory :=
  let counters := forget (m.index.register key item.tags).1 m.counters
  { m with
    entries := (key, ⟨item, checksum counters item.tags⟩) :: m.entries.filter fun e => e.1 ≠ key
    index := (m.index.register key item.tags).2
    counters := counters }

theorem Sound.place (h : m.Sound) (key : String) (item : Item) : (m.place key item).Sound where
  nodup := by
    show (key :: (m.entries.filter fun e => e.1 ≠ key).map Prod.fst).Nodup
    refine List.nodup_cons.mpr ⟨?_, nodup_filter h.nodup _⟩
    intro hm
    obtain ⟨e, he, hk⟩ := List.mem_map.mp hm
    have := (List.mem_filter.mp he).2
    simp [hk] at this
  index := h.index.register key item.tags
  tagsOf k := by
    show (m.index.register key item.tags).2.tagsOf.get? k = _
    rw [TagIndex.tagsOf_register, h.tagsOf]
    show _ = (if key = k then _ else Table.find k (m.entries.filter fun e => e.1 ≠ key)).map _
    split
    · rfl
    · next hk => rw [Table.find_filter, if_neg hk]
  counted tag hs := by
    replace hs : ((forget (m.index.register key item.tags).1 m.counters).get? tag).isSome := hs
    rw [get?_forget] at hs
    split at hs
    · cases hs
    · next hnot =>
      obtain ⟨k, hk⟩ := h.counted tag hs
      by_cases ht : tag ∈ item.tags
      · exact ⟨key, TagIndex.carries_register.mpr (.inl ⟨rfl, ht⟩)⟩
      · by_cases hkey : k = key
        · subst hkey
          rw [TagIndex.mem_orphans_register h.index] at hnot
          simp only [hk, ht, not_false_eq_true, true_and, Classical.not_forall,
            Classical.not_not] at hnot
          obtain ⟨k', hne, hk'⟩ := hnot
          exact ⟨k', TagIndex.carries_register.mpr (.inr ⟨hne, hk'⟩)⟩
        · exact ⟨k, TagIndex.carries_register.mpr (.inr ⟨hkey, hk⟩)⟩

theorem checksum_place (h : m.Sound) (he : (k, e) ∈ m.entries) (hk : k ≠ key) :
    checksum (m.place key item).counters e.item.tags = checksum m.counters e.item.tags := by
  refine checksum_congr fun t ht => ?_
  show (forget (m.index.register key item.tags).1 m.counters).get? t = _
  rw [get?_forget, if_neg]
  rw [TagIndex.mem_orphans_register h.index]
  exact fun ho => ho.2.2 k hk ((h.carries he).mpr ht)

theorem filter_getLast {p : String × Entry} {entries : List (String × Entry)}
    (h : (entries.map Prod.fst).Nodup) (hl : entries.getLast? = some p) :
    (entries.filter fun e => e.1 ≠ p.1) = entries.dropLast := by
  obtain ⟨front, rfl⟩ := List.getLast?_eq_some_iff.mp hl
  have hn : ∀ e ∈ front, e.1 ≠ p.1 := by
    rw [List.map_append, List.nodup_append] at h
    exact fun e he => h.2.2 e.1 (List.mem_map_of_mem he) p.1 (by simp)
  rw [List.filter_append, List.dropLast_concat, List.filter_eq_self.mpr (by simpa using hn)]
  simp

/-- Writing puts an item in front, and deletes the last one when there are too many. -/
theorem set_eq (h : m.Sound) (hz : item.maxAge ≠ .zero) :
    ((m.place key item).entries.length ≤ m.capacity ∧ m.set key item = m.place key item) ∨
    ∃ p, (m.place key item).entries.getLast? = some p ∧ m.capacity < (m.place key item).entries.length ∧
      m.set key item = { (m.place key item).delete p.1 with
        counts := { m.counts with evictions := m.counts.evictions + 1 } } := by
  have hz' : item.maxAge.isZero = false := by simpa [MaxAge.isZero] using hz
  have hpush : push m.capacity key ⟨item, checksum (m.place key item).counters item.tags⟩ m.entries =
      if (m.place key item).entries.length ≤ m.capacity then (none, (m.place key item).entries)
      else ((m.place key item).entries.getLast?.map (·.1), (m.place key item).entries.dropLast) := rfl
  by_cases hl : (m.place key item).entries.length ≤ m.capacity
  · refine .inl ⟨hl, ?_⟩
    rw [if_pos hl] at hpush
    simp only [Memory.set, hz', Bool.false_eq_true, ↓reduceIte]
    erw [hpush]
    rfl
  · refine .inr ?_
    cases hlast : (m.place key item).entries.getLast? with
    | none => simp [Memory.place] at hlast
    | some p =>
      refine ⟨p, rfl, Nat.lt_of_not_le hl, ?_⟩
      rw [if_neg hl, hlast, ← filter_getLast (h.place key item).nodup hlast] at hpush
      simp only [Memory.set, hz', Bool.false_eq_true, ↓reduceIte]
      erw [hpush]
      rfl

theorem Sound.set (h : m.Sound) (key : String) (item : Item) : (m.set key item).Sound := by
  by_cases hz : item.maxAge = .zero
  · have : m.set key item = m := by simp [Memory.set, MaxAge.isZero, hz]
    rw [this]
    exact h
  · rcases set_eq h hz with ⟨-, he⟩ | ⟨p, -, -, he⟩
    · rw [he]
      exact h.place key item
    · have hd := (h.place key item).delete p.1
      rw [he]
      exact ⟨hd.nodup, hd.index, hd.tagsOf, hd.counted⟩

/-! ## The other calls -/

theorem Sound.find (h : m.Sound) (key : String) : (m.find key).2.Sound := by
  unfold Memory.find
  split
  · exact h
  · next e hf =>
    constructor
    · show (key :: (m.entries.filter fun e => e.1 ≠ key).map Prod.fst).Nodup
      refine List.nodup_cons.mpr ⟨?_, nodup_filter h.nodup _⟩
      intro hm
      obtain ⟨e, he, hk⟩ := List.mem_map.mp hm
      have := (List.mem_filter.mp he).2
      simp [hk] at this
    · exact h.index
    · intro k
      show m.index.tagsOf.get? k =
        (if key = k then _ else Table.find k (m.entries.filter fun e => e.1 ≠ key)).map _
      rw [h.tagsOf, Table.find_filter]
      split
      · next hk => rw [← hk, hf]
      · rfl
    · exact h.counted

theorem find_fst (key : String) (m : Memory) : (m.find key).1 = Table.find key m.entries := by
  unfold Memory.find
  split <;> simp [*]

theorem find_counters (key : String) (m : Memory) : (m.find key).2.counters = m.counters := by
  unfold Memory.find
  split <;> rfl

theorem judge_fields (now : UInt64) (found : Option Entry) (m : Memory) :
    (m.judge now found).2 = { m with counts := (m.judge now found).2.counts } := by
  unfold judge
  split
  · rfl
  · split <;> rfl

theorem Sound.get (h : m.Sound) (now : UInt64) (key : String) : (m.get now key).2.Sound := by
  have hf := h.find key
  show ((m.find key).2.judge now (m.find key).1).2.Sound
  rw [judge_fields]
  exact ⟨hf.nodup, hf.index, hf.tagsOf, hf.counted⟩

theorem Sound.invalidate (h : m.Sound) (tags : TagSet) : (m.invalidate tags).Sound where
  nodup := h.nodup
  index := h.index
  tagsOf := h.tagsOf
  counted tag hs := by
    rcases (isSome_bumps _ _ _).mp hs with ht | hs
    · exact (TagIndex.hasTag_iff h.index).mp (List.mem_filter.mp ht).2
    · exact h.counted tag hs

theorem Sound.deleteAll (h : m.Sound) (keys : List String) :
    (keys.foldl (fun m key => m.delete key) m).Sound := by
  induction keys generalizing m with
  | nil => exact h
  | cons key rest ih => exact ih (h.delete key)

theorem Sound.deleteTags (h : m.Sound) (tags : TagSet) : (m.deleteTags tags).Sound := h.deleteAll _

theorem Sound.clear (m : Memory) : m.clear.Sound where
  nodup := List.nodup_nil
  index := TagIndex.Sound.empty
  tagsOf _ := rfl
  counted tag h := by simp [Memory.clear] at h

/-! ## A bin read as a plain store -/

/-- An entry as a slot. The flag is set when the sum is no longer what it was. -/
def slot (counters : Table Tag UInt64) (e : String × Entry) : Slot :=
  ⟨e.1, e.2.item, e.2.checksum ≠ checksum counters e.2.item.tags⟩

/-- A bin as a plain store. -/
def view (m : Memory) : Shelf := ⟨m.capacity, m.entries.map (slot m.counters)⟩

@[simp] theorem view_new (name : String) (capacity : Nat) :
    (new name capacity).view = .empty (roomFor capacity) := rfl

theorem view_size (m : Memory) : m.view.size = m.size := by
  simp [view, Shelf.size, size]

theorem map_slot_congr {entries : List (String × Entry)}
    (h : ∀ e ∈ entries, checksum counters e.2.item.tags = checksum more e.2.item.tags) :
    entries.map (slot counters) = entries.map (slot more) := by
  refine List.map_congr_left fun e he => ?_
  rw [slot, h e he, slot]

theorem map_slot_filter (key : String) (entries : List (String × Entry)) :
    (entries.filter fun e => e.1 ≠ key).map (slot counters) =
      Shelf.without key (entries.map (slot counters)) := by
  unfold Shelf.without
  rw [List.filter_map]
  rfl

theorem view_delete (h : m.Sound) (key : String) : (m.delete key).view = m.view.delete key := by
  unfold view Shelf.delete
  rw [← map_slot_filter]
  congr 1
  refine map_slot_congr fun e he => ?_
  have ⟨hm, hk⟩ := List.mem_filter.mp he
  exact checksum_delete h hm (of_decide_eq_true hk)

theorem view_place (h : m.Sound) (key : String) (item : Item) :
    (m.place key item).view =
      { m.view with slots := ⟨key, item, false⟩ :: Shelf.without key m.view.slots } := by
  unfold view
  rw [← map_slot_filter]
  have hkeep : (m.entries.filter fun e => e.1 ≠ key).map (slot (m.place key item).counters) =
      (m.entries.filter fun e => e.1 ≠ key).map (slot m.counters) := by
    refine map_slot_congr fun e he => ?_
    have ⟨hm, hk⟩ := List.mem_filter.mp he
    exact checksum_place h hm (of_decide_eq_true hk)
  rw [← hkeep]
  simp [place, slot]

theorem without_getLast (counters : Table Tag UInt64) {p : String × Entry}
    {entries : List (String × Entry)} (h : (entries.map Prod.fst).Nodup) (hl : entries.getLast? = some p) :
    Shelf.without p.1 (entries.map (slot counters)) = (entries.map (slot counters)).dropLast := by
  rw [← map_slot_filter, filter_getLast h hl, List.map_dropLast]

theorem view_set (h : m.Sound) (key : String) (item : Item) :
    (m.set key item).view = m.view.set key item := by
  unfold Shelf.set
  split
  · next hz => simp [Memory.set, MaxAge.isZero, hz]
  · next hz =>
    have hplace := view_place h key item
    have hslots : (m.place key item).entries.map (slot (m.place key item).counters) =
        ⟨key, item, false⟩ :: Shelf.without key m.view.slots := congrArg Shelf.slots hplace
    have hlen := congrArg List.length hslots
    rw [List.length_map] at hlen
    rcases set_eq h hz with ⟨hl, he⟩ | ⟨p, hlast, hl, he⟩
    · have hfits : (⟨key, item, false⟩ :: Shelf.without key m.view.slots).length ≤ m.view.capacity :=
        hlen ▸ hl
      simp only
      rw [he, hplace, if_pos hfits]
    · have hfull : ¬ (⟨key, item, false⟩ :: Shelf.without key m.view.slots).length ≤ m.view.capacity :=
        Nat.not_le_of_lt (hlen ▸ hl)
      have hdel : ((m.place key item).delete p.1).view = (m.place key item).view.delete p.1 :=
        view_delete (h.place key item) p.1
      have hlast' := without_getLast (m.place key item).counters (h.place key item).nodup hlast
      rw [hslots] at hlast'
      simp only
      rw [he, if_neg hfull, ← hlast']
      show ((m.place key item).delete p.1).view = _
      rw [hdel, hplace]
      rfl

theorem find_view (key : String) (m : Memory) :
    (m.view.slots.find? fun e => e.key = key) =
      (Table.find key m.entries).map fun e => slot m.counters (key, e) := by
  show (m.entries.map (slot m.counters)).find? _ = _
  induction m.entries with
  | nil => rfl
  | cons p rest ih =>
    unfold Table.find
    rw [List.map_cons, List.find?_cons]
    by_cases hk : p.1 = key
    · subst hk
      simp [slot]
    · simpa [slot, hk] using ih

theorem view_get (now : UInt64) (key : String) (m : Memory) :
    ((m.get now key).1, (m.get now key).2.view) = m.view.get now key := by
  unfold Shelf.get
  rw [find_view]
  cases hf : Table.find key m.entries with
  | none => simp [Memory.get, Memory.find, hf, judge, view]
  | some e =>
    have hget : m.get now key = judge now (some e)
        { m with entries := (key, e) :: m.entries.filter fun e => e.1 ≠ key } := by
      simp [Memory.get, Memory.find, hf]
    have hview : ({ m with entries := (key, e) :: m.entries.filter fun e => e.1 ≠ key } : Memory).view =
        { m.view with slots := slot m.counters (key, e) :: Shelf.without key m.view.slots } := by
      simp only [view, List.map_cons, map_slot_filter]
    rw [hget, judge_fields]
    show (_, ({ m with entries := (key, e) :: m.entries.filter fun e => e.1 ≠ key } : Memory).view) = _
    rw [hview]
    simp only [Option.map_some, judge, slot, decide_eq_true_eq]
    by_cases hs : e.checksum = checksum m.counters e.item.tags
    · by_cases hx : e.item.isExpired now <;> simp [hs, hx]
    · simp [hs]

theorem view_clear (m : Memory) : m.clear.view = m.view.clear := rfl

theorem view_deleteAll (h : m.Sound) (keys : List String) :
    (keys.foldl (fun m key => m.delete key) m).view =
      { m.view with slots := m.view.slots.filter fun e => e.key ∉ keys } := by
  induction keys generalizing m with
  | nil => simp
  | cons key rest ih =>
    rw [List.foldl_cons, ih (h.delete key), view_delete h]
    simp only [Shelf.delete, Shelf.without, List.filter_filter]
    congr 2
    funext e
    by_cases hk : e.key = key <;> simp [hk]

theorem view_deleteTags (h : m.Sound) (tags : TagSet) :
    (m.deleteTags tags).view = m.view.deleteTags tags := by
  have hslots : (m.view.slots.filter fun e => e.key ∉ m.index.keysForTags tags) =
      m.view.slots.filter fun e => ¬ e.item.tags.Meets tags := by
    refine List.filter_congr fun s hs => ?_
    obtain ⟨e, he, rfl⟩ := List.mem_map.mp hs
    have hmem : e.1 ∈ m.index.keysForTags tags ↔ e.2.item.tags.Meets tags := by
      rw [TagIndex.mem_keysForTags h.index]
      constructor
      · rintro ⟨t, ht, hc⟩
        exact ⟨t, (h.carries he).mp hc, ht⟩
      · rintro ⟨t, hc, ht⟩
        exact ⟨t, ht, (h.carries he).mpr hc⟩
    simp [slot, hmem]
  unfold Memory.deleteTags Shelf.deleteTags
  rw [view_deleteAll h, hslots]

/-! ## How far the sums lag behind -/

/-- Since an entry was written, the counters of its tags were raised at most `n` times in all. -/
def Within (n : Nat) (m : Memory) : Prop :=
  ∀ p ∈ m.entries, ∃ j ≤ n,
    checksum m.counters p.2.item.tags = p.2.checksum + UInt64.ofNat j

theorem ne_add_iff {a : UInt64} {j : Nat} (hj : j < UInt64.size) :
    a ≠ a + UInt64.ofNat j ↔ j ≠ 0 := by
  have hsum : (a + UInt64.ofNat j).toNat = (a.toNat + j) % UInt64.size := by
    simp [UInt64.toNat_add]
  have ha := a.toNat_lt
  constructor
  · rintro h rfl
    exact h (by simp)
  · intro h he
    have := congrArg UInt64.toNat he
    rw [hsum] at this
    unfold UInt64.size at *
    omega

theorem Within.new (name : String) (capacity : Nat) : (new name capacity).Within 0 := by
  intro p hp
  cases hp

/-- Entries keep their lag when their sums stay, and what was just written has none. -/
theorem Within.of_entries {n : Nat} {m m' : Memory} (h : m.Within n)
    (hp : ∀ p ∈ m'.entries, checksum m'.counters p.2.item.tags = p.2.checksum ∨
      (p ∈ m.entries ∧ checksum m'.counters p.2.item.tags = checksum m.counters p.2.item.tags)) :
    m'.Within n := by
  intro p hm
  rcases hp p hm with he | ⟨hold, he⟩
  · exact ⟨0, Nat.zero_le n, by simpa using he⟩
  · obtain ⟨j, hj, hs⟩ := h p hold
    exact ⟨j, hj, he.trans hs⟩

variable {n : Nat}

theorem Within.delete (h : m.Within n) (hm : m.Sound) (key : String) : (m.delete key).Within n := by
  refine h.of_entries fun p hp => .inr ?_
  have ⟨hmem, hk⟩ := List.mem_filter.mp hp
  exact ⟨hmem, checksum_delete hm hmem (of_decide_eq_true hk)⟩

theorem Within.place (h : m.Within n) (hm : m.Sound) (key : String) (item : Item) :
    (m.place key item).Within n := by
  refine h.of_entries fun p hp => ?_
  rcases List.mem_cons.mp hp with rfl | hp
  · exact .inl rfl
  · have ⟨hmem, hk⟩ := List.mem_filter.mp hp
    exact .inr ⟨hmem, checksum_place hm hmem (of_decide_eq_true hk)⟩

theorem Within.set (h : m.Within n) (hm : m.Sound) (key : String) (item : Item) :
    (m.set key item).Within n := by
  by_cases hz : item.maxAge = .zero
  · have : m.set key item = m := by simp [Memory.set, MaxAge.isZero, hz]
    rw [this]
    exact h
  · rcases set_eq hm hz with ⟨-, he⟩ | ⟨p, -, -, he⟩
    · rw [he]
      exact h.place hm key item
    · rw [he]
      exact (h.place hm key item).delete (hm.place key item) p.1

theorem Within.get (h : m.Within n) (hm : m.Sound) (now : UInt64) (key : String) :
    (m.get now key).2.Within n := by
  show ((m.find key).2.judge now (m.find key).1).2.Within n
  rw [judge_fields]
  refine h.of_entries fun p hp => .inr ?_
  unfold Memory.find at hp ⊢
  split at hp
  · exact ⟨hp, rfl⟩
  · next e hf =>
    refine ⟨?_, rfl⟩
    rcases List.mem_cons.mp hp with rfl | hp
    · exact (Table.find_eq_some_iff hm.nodup).mp hf
    · exact (List.mem_filter.mp hp).1

theorem Within.deleteTags (h : m.Within n) (hm : m.Sound) (tags : TagSet) :
    (m.deleteTags tags).Within n := by
  unfold Memory.deleteTags
  induction m.index.keysForTags tags generalizing m with
  | nil => exact h
  | cons key rest ih => exact ih (h.delete hm key) (hm.delete key)

/-- The tags whose counters an invalidation raises. -/
def raised (tags : TagSet) (m : Memory) : List Tag := tags.toList.filter m.index.hasTag

theorem invalidate_of_raised_nil (h : m.raised tags = []) : m.invalidate tags = m := by
  show { m with counters := (m.raised tags).foldl bump m.counters } = m
  rw [h]
  rfl

theorem Within.invalidate (h : m.Within n) (tags : TagSet) :
    (m.invalidate tags).Within (n + (m.raised tags).length) := by
  intro p hp
  obtain ⟨j, hj, hs⟩ := h p hp
  refine ⟨j + (m.raised tags).countP (· ∈ p.2.item.tags.toList),
    Nat.add_le_add hj List.countP_le_length, ?_⟩
  show checksum ((m.raised tags).foldl bump m.counters) p.2.item.tags = _
  rw [checksum_bumps, hs, UInt64.ofNat_add, UInt64.add_assoc]

/-- A tag of a stored item is raised when it is invalidated, and that shows in the sum. -/
theorem view_invalidate (h : m.Sound) (hw : m.Within n) (tags : TagSet)
    (hn : n + (m.raised tags).length < UInt64.size) :
    (m.invalidate tags).view = m.view.invalidate tags := by
  show Shelf.mk m.capacity (m.entries.map (slot ((m.raised tags).foldl bump m.counters))) =
    Shelf.mk m.capacity ((m.entries.map (slot m.counters)).map (Slot.flag tags))
  rw [List.map_map]
  congr 1
  refine List.map_congr_left fun p hp => ?_
  obtain ⟨j, hj, hs⟩ := hw p hp
  have hle : (m.raised tags).countP (· ∈ p.2.item.tags.toList) ≤ (m.raised tags).length :=
    List.countP_le_length
  have hmeets : (m.raised tags).countP (· ∈ p.2.item.tags.toList) ≠ 0 ↔ p.2.item.tags.Meets tags := by
    rw [Ne, List.countP_eq_zero]
    simp only [decide_eq_true_eq, not_forall, Classical.not_not]
    constructor
    · rintro ⟨t, ht, hm⟩
      exact ⟨t, hm, (List.mem_filter.mp ht).1⟩
    · rintro ⟨t, hm, ht⟩
      have hc := (TagIndex.hasTag_iff h.index).mpr ⟨_, (h.carries hp).mpr hm⟩
      exact ⟨t, List.mem_filter.mpr ⟨ht, hc⟩, hm⟩
  have hstale : (p.2.checksum ≠ checksum ((m.raised tags).foldl bump m.counters) p.2.item.tags) ↔
      p.2.checksum ≠ checksum m.counters p.2.item.tags ∨ p.2.item.tags.Meets tags := by
    rw [checksum_bumps, hs, UInt64.add_assoc, ← UInt64.ofNat_add, ne_add_iff (by omega),
      ne_add_iff (by omega), ← hmeets]
    omega
  show Slot.mk _ _ (decide _) = Slot.mk _ _ (decide _ || decide (p.2.item.tags.Meets tags))
  rw [decide_eq_decide.mpr hstale, Bool.decide_or]
  rfl

end Memory
end TaggedCache
