import Mathlib.Data.List.Dedup
import Mathlib.Data.List.Perm.Subperm
import TaggedCache.Proofs.MemoryRun

/-!
# A bin in memory keeps its books

After any run of calls a bin holds no more than it has room for, and its index and its counters speak of stored
items and of nothing else (`Tidy`). What it counts is what happened in the run: every read is counted once, by what
it answered, and every key that a write pushed out (`counts_after`). `tidy_run` puts this together.
-/

namespace TaggedCache

/-- True for a read. -/
def BinCall.isGet : BinCall → Bool
  | .get _ _ => true
  | _ => false

/-- A read answers in one of three ways. -/
theorem Lookup.countP_kinds (ls : List Lookup) :
    ls.countP isFresh + ls.countP isStale + ls.countP isAbsent = ls.length := by
  induction ls with
  | nil => rfl
  | cons l rest ih =>
    simp only [List.countP_cons, List.length_cons]
    cases l <;> simp [isFresh, isStale, isAbsent] <;> omega

theorem Table.length_keys {κ α : Type} (t : Table κ α) : t.keys.length = t.size := List.length_map _

namespace Memory

/-- The stored keys, the last used one first. -/
def keys (m : Memory) : List String := m.entries.map Prod.fst

/-- The tags of the stored items, each once. -/
def storedTags (m : Memory) : List Tag := (m.entries.flatMap fun e => e.2.item.tags.toList).dedup

/-- The keys that leave to make room for a write. -/
def pushedOut (m : Memory) : BinCall → List String
  | .set key item => m.keys.filter fun k => k ∉ (m.set key item).keys
  | _ => []

/-- The keys that leave a bin to make room in a run. -/
def departures : List BinCall → Memory → List String
  | [], _ => []
  | c :: rest, m => m.pushedOut c ++ departures rest (m.step c).2

/-- What the reads of a run answer. -/
def reads (calls : List BinCall) (m : Memory) : List Lookup :=
  (BinCall.answers step size calls m).filterMap Prod.fst

variable {m : Memory} {key k : String} {item : Item} {t : Tag} {p : String × Entry}

/-! ## Keys -/

theorem mem_keys_delete : k ∈ (m.delete key).keys ↔ k ≠ key ∧ k ∈ m.keys := by
  show k ∈ (m.entries.filter fun e => e.1 ≠ key).map Prod.fst ↔ k ≠ key ∧ k ∈ m.entries.map Prod.fst
  simp only [List.mem_map, List.mem_filter, decide_eq_true_eq]
  constructor
  · rintro ⟨e, ⟨he, hne⟩, rfl⟩
    exact ⟨hne, e, he, rfl⟩
  · rintro ⟨hne, e, he, rfl⟩
    exact ⟨e, ⟨he, hne⟩, rfl⟩

theorem mem_keys_place : k ∈ (m.place key item).keys ↔ k = key ∨ k ∈ m.keys := by
  show k ∈ key :: (m.delete key).keys ↔ _
  rw [List.mem_cons, mem_keys_delete]
  constructor
  · exact Or.imp id And.right
  · intro h
    by_cases hk : k = key
    · exact .inl hk
    · exact .inr ⟨hk, h.resolve_left hk⟩

/-- Only a key that was there already is pushed out: the new one stands in front. -/
theorem last_ne (h : m.Sound) (hlast : (m.place key item).entries.getLast? = some p)
    (hfull : m.capacity < (m.place key item).entries.length) : p.1 ≠ key := by
  rintro rfl
  obtain ⟨front, hfront⟩ := List.getLast?_eq_some_iff.mp hlast
  have hnodup := (h.place p.1 item).nodup
  rw [hfront] at hnodup hfull
  cases front with
  | nil =>
    have hpos := m.capacity_pos
    rw [List.nil_append, List.length_singleton] at hfull
    omega
  | cons q rest =>
    have hq : q = (p.1, ⟨item, _⟩) := (List.cons.inj hfront).1.symm
    rw [hq] at hnodup
    simp at hnodup

/-! ## Room -/

theorem set_of_zero (h : item.maxAge = .zero) : m.set key item = m := by
  simp [Memory.set, MaxAge.isZero, h]

theorem size_delete_le (m : Memory) (key : String) : (m.delete key).size ≤ m.size := List.length_filter_le _ _

/-- Deleting keys adds no entry, and changes neither the room nor the counts. -/
theorem deleteAll_keeps (keys : List String) (m : Memory) :
    (keys.foldl (fun m key => m.delete key) m).size ≤ m.size ∧
      (keys.foldl (fun m key => m.delete key) m).capacity = m.capacity ∧
      (keys.foldl (fun m key => m.delete key) m).counts = m.counts := by
  induction keys generalizing m with
  | nil => exact ⟨Nat.le_refl _, rfl, rfl⟩
  | cons key rest ih =>
    obtain ⟨hsize, hcapacity, hcounts⟩ := ih (m.delete key)
    exact ⟨Nat.le_trans hsize (size_delete_le m key), hcapacity, hcounts⟩

theorem size_find_le (h : m.Sound) (key : String) : (m.find key).2.size ≤ m.size := by
  unfold Memory.find
  split
  · exact Nat.le_refl _
  · next e he =>
    have hmem := (Table.find_eq_some_iff h.nodup).mp he
    show (m.entries.filter fun e => e.1 ≠ key).length + 1 ≤ m.entries.length
    exact List.length_filter_lt_length_iff_exists.mpr ⟨_, hmem, by simp⟩

theorem size_set_le (h : m.Sound) (hroom : m.size ≤ m.capacity) (key : String) (item : Item) :
    (m.set key item).size ≤ m.capacity := by
  by_cases hz : item.maxAge = .zero
  · rw [set_of_zero hz]
    exact hroom
  · rcases set_eq h hz with ⟨hl, he⟩ | ⟨p, hlast, -, he⟩
    · rw [he]
      exact hl
    · have hplace : (m.place key item).entries.length ≤ m.size + 1 :=
        Nat.succ_le_succ (size_delete_le m key)
      rw [he]
      show ((m.place key item).entries.filter fun e => e.1 ≠ p.1).length ≤ m.capacity
      rw [filter_getLast (h.place key item).nodup hlast, List.length_dropLast]
      omega

theorem room_step (h : m.Sound) (hroom : m.size ≤ m.capacity) (c : BinCall) :
    (m.step c).2.size ≤ m.capacity := by
  cases c with
  | set key item => exact size_set_le h hroom key item
  | get now key =>
    show ((m.find key).2.judge now (m.find key).1).2.size ≤ m.capacity
    rw [judge_fields]
    exact Nat.le_trans (size_find_le h key) hroom
  | delete key => exact Nat.le_trans (size_delete_le m key) hroom
  | invalidate tags => exact hroom
  | deleteTags tags => exact Nat.le_trans (deleteAll_keeps _ m).1 hroom
  | clear => exact Nat.zero_le _

theorem capacity_step (h : m.Sound) (c : BinCall) : (m.step c).2.capacity = m.capacity := by
  cases c with
  | set key item =>
    by_cases hz : item.maxAge = .zero
    · rw [Memory.step, set_of_zero hz]
    · rcases set_eq h hz with ⟨-, he⟩ | ⟨p, -, -, he⟩ <;>
      · rw [Memory.step, he]
        rfl
  | get now key =>
    show ((m.find key).2.judge now (m.find key).1).2.capacity = m.capacity
    rw [judge_fields]
    unfold Memory.find
    split <;> rfl
  | delete key => rfl
  | invalidate tags => rfl
  | deleteTags tags => exact (deleteAll_keeps _ m).2.1
  | clear => rfl

theorem capacity_after (h : m.Sound) (calls : List BinCall) :
    (BinCall.after step calls m).capacity = m.capacity := by
  induction calls generalizing m with
  | nil => rfl
  | cons c rest ih => exact (ih (h.step c)).trans (capacity_step h c)

theorem room_after (h : m.Sound) (hroom : m.size ≤ m.capacity) (calls : List BinCall) :
    (BinCall.after step calls m).size ≤ m.capacity := by
  induction calls generalizing m with
  | nil => exact hroom
  | cons c rest ih =>
    have hcapacity := capacity_step h c
    rw [BinCall.after_cons, ← hcapacity]
    exact ih (h.step c) (hcapacity ▸ room_step h hroom c)

/-! ## Counts -/

theorem pushedOut_of_subset (h : m.keys ⊆ (m.set key item).keys) : m.pushedOut (.set key item) = [] :=
  List.filter_eq_nil_iff.mpr fun k hk => by simpa using h hk

/-- A write that finds no room pushes out one key, and one that does pushes out none. -/
theorem counts_set (h : m.Sound) (key : String) (item : Item) : (m.set key item).counts =
    { m.counts with evictions := m.counts.evictions + (m.pushedOut (.set key item)).length } := by
  by_cases hz : item.maxAge = .zero
  · have hset : m.set key item = m := set_of_zero hz
    rw [pushedOut_of_subset (hset.symm ▸ List.Subset.refl m.keys), hset]
    rfl
  · rcases set_eq h hz with ⟨-, hset⟩ | ⟨p, hlast, hfull, hset⟩
    · rw [pushedOut_of_subset fun k hk => hset ▸ mem_keys_place.mpr (.inr hk), hset]
      rfl
    · have hkeys : ∀ k ∈ m.keys, k ∉ (m.set key item).keys ↔ k = p.1 := by
        intro k hk
        have hmem : k ∈ (m.set key item).keys ↔ k ≠ p.1 := by
          rw [hset]
          show k ∈ ((m.place key item).delete p.1).keys ↔ _
          rw [mem_keys_delete, mem_keys_place]
          exact and_iff_left (.inr hk)
        rw [hmem, not_not]
      have hold : p.1 ∈ m.keys := by
        have hplace : p.1 ∈ (m.place key item).keys := List.mem_map_of_mem (List.mem_of_getLast? hlast)
        exact (mem_keys_place.mp hplace).resolve_left (last_ne h hlast hfull)
      -- The stored keys are distinct, so the one that leaves is counted once.
      have hone : (m.pushedOut (.set key item)).length = 1 := by
        rw [pushedOut, ← List.countP_eq_length_filter, ← List.count_eq_one_of_mem h.nodup hold]
        exact List.countP_congr fun k hk => by simpa using hkeys k hk
      rw [hone, hset]

theorem counts_judge (now : UInt64) (found : Option Entry) (m : Memory) : (m.judge now found).2.counts =
    { m.counts with
      hits := m.counts.hits + [(m.judge now found).1].countP Lookup.isFresh
      stale := m.counts.stale + [(m.judge now found).1].countP Lookup.isStale
      misses := m.counts.misses + [(m.judge now found).1].countP Lookup.isAbsent } := by
  unfold judge
  split
  · rfl
  · split <;> rfl

/-- What a call does to the counts: its answer is counted, and so are the keys that it pushes out. -/
theorem counts_step (h : m.Sound) (c : BinCall) : (m.step c).2.counts =
    { hits := m.counts.hits + (m.step c).1.toList.countP Lookup.isFresh
      stale := m.counts.stale + (m.step c).1.toList.countP Lookup.isStale
      misses := m.counts.misses + (m.step c).1.toList.countP Lookup.isAbsent
      evictions := m.counts.evictions + (m.pushedOut c).length } := by
  cases c with
  | set key item => exact counts_set h key item
  | get now key =>
    have hcounts : (m.find key).2.counts = m.counts := by
      unfold Memory.find
      split <;> rfl
    have hjudge := counts_judge now (m.find key).1 (m.find key).2
    rw [hcounts] at hjudge
    exact hjudge
  | delete key => rfl
  | invalidate tags => rfl
  | deleteTags tags => exact (deleteAll_keeps _ m).2.2
  | clear => rfl

theorem reads_cons (c : BinCall) (calls : List BinCall) (m : Memory) :
    reads (c :: calls) m = (m.step c).1.toList ++ reads calls (m.step c).2 := by
  rw [reads, BinCall.answers_cons, List.filterMap_cons]
  cases hanswer : (m.step c).1 with
  | none => rfl
  | some l => rfl

/-- A run counts its reads by what they answered, and the keys that were pushed out. -/
theorem counts_after (h : m.Sound) (calls : List BinCall) : (BinCall.after step calls m).counts =
    { hits := m.counts.hits + (reads calls m).countP Lookup.isFresh
      stale := m.counts.stale + (reads calls m).countP Lookup.isStale
      misses := m.counts.misses + (reads calls m).countP Lookup.isAbsent
      evictions := m.counts.evictions + (departures calls m).length } := by
  induction calls generalizing m with
  | nil => rfl
  | cons c rest ih =>
    rw [BinCall.after_cons, ih (h.step c), counts_step h c, reads_cons, departures]
    simp only [List.countP_append, List.length_append, Nat.add_assoc]

theorem length_reads (calls : List BinCall) (m : Memory) :
    (reads calls m).length = calls.countP BinCall.isGet := by
  induction calls generalizing m with
  | nil => rfl
  | cons c rest ih =>
    rw [reads_cons, List.length_append, ih, List.countP_cons, Nat.add_comm]
    cases c <;> rfl

/-! ## Index and counters -/

/-- No more is stored than there is room for, and index and counters speak of stored items only. -/
structure Tidy (m : Memory) : Prop where
  room : m.size ≤ m.capacity
  nodup : m.keys.Nodup
  /-- The index knows the stored keys. -/
  keys : m.index.tagsOf.keys.Perm m.keys
  tagsForKey : ∀ key, m.index.tagsForKey key = (Table.find key m.entries).map (·.item.tags)
  keysForTags : ∀ tags key, key ∈ m.index.keysForTags tags ↔ ∃ e, (key, e) ∈ m.entries ∧ e.item.tags.Meets tags
  hasTag : ∀ tag, m.index.hasTag tag = true ↔ tag ∈ m.storedTags
  /-- The tags with a counter are tags of stored items. -/
  counted : m.counters.keys ⊆ m.storedTags
  tracked : m.trackedTags ≤ m.storedTags.length

theorem mem_storedTags : t ∈ m.storedTags ↔ ∃ p ∈ m.entries, t ∈ p.2.item.tags := by
  rw [storedTags, List.mem_dedup, List.mem_flatMap]
  rfl

/-- A key carries the tags of the item that is stored under it. -/
theorem carries_iff (h : m.Sound) : m.index.Carries key t ↔ ∃ e, (key, e) ∈ m.entries ∧ t ∈ e.item.tags := by
  constructor
  · rintro ⟨tags, htags, ht⟩
    rw [h.tagsOf, Option.map_eq_some_iff] at htags
    obtain ⟨e, he, rfl⟩ := htags
    exact ⟨e, (Table.find_eq_some_iff h.nodup).mp he, ht⟩
  · rintro ⟨e, he, ht⟩
    exact (h.carries he).mpr ht

theorem exists_carries_iff (h : m.Sound) : (∃ key, m.index.Carries key t) ↔ t ∈ m.storedTags := by
  rw [mem_storedTags, Prod.exists]
  exact exists_congr fun key => carries_iff h

theorem tagsOf_keys_perm (h : m.Sound) : m.index.tagsOf.keys.Perm m.keys := by
  refine (List.perm_ext_iff_of_nodup m.index.tagsOf.nodup h.nodup).mpr fun k => ?_
  show k ∈ m.index.tagsOf.keys ↔ k ∈ m.entries.map Prod.fst
  rw [Table.mem_keys_iff, h.tagsOf, Option.isSome_map, Option.isSome_iff_ne_none, Ne, Table.find_eq_none_iff,
    not_not]

theorem mem_keysForTags (h : m.Sound) (tags : TagSet) (key : String) :
    key ∈ m.index.keysForTags tags ↔ ∃ e, (key, e) ∈ m.entries ∧ e.item.tags.Meets tags := by
  rw [TagIndex.mem_keysForTags h.index]
  constructor
  · rintro ⟨t, ht, hkey⟩
    obtain ⟨e, he, hmem⟩ := (carries_iff h).mp hkey
    exact ⟨e, he, t, hmem, ht⟩
  · rintro ⟨e, he, t, hmem, ht⟩
    exact ⟨t, ht, (carries_iff h).mpr ⟨e, he, hmem⟩⟩

theorem Sound.tidy (h : m.Sound) (hroom : m.size ≤ m.capacity) : m.Tidy := by
  have hcounted : m.counters.keys ⊆ m.storedTags :=
    fun t ht => (exists_carries_iff h).mp (h.counted t (Table.mem_keys_iff.mp ht))
  constructor
  case room => exact hroom
  case nodup => exact h.nodup
  case keys => exact tagsOf_keys_perm h
  case tagsForKey => exact h.tagsOf
  case keysForTags => exact mem_keysForTags h
  case hasTag => exact fun t => (TagIndex.hasTag_iff h.index).trans (exists_carries_iff h)
  case counted => exact hcounted
  case tracked =>
    rw [trackedTags, ← Table.length_keys]
    exact (List.subperm_of_subset m.counters.nodup hcounted).length_le

/-- After any run of calls a new bin is tidy, has counted the keys that were pushed out, and has counted each read
by what it answered. -/
theorem tidy_run (name : String) (capacity : Nat) (calls : List BinCall) :
    let start := new name capacity
    let m := BinCall.after step calls start
    m.Tidy ∧ m.size ≤ roomFor capacity ∧
      m.counts.evictions = (departures calls start).length ∧
      m.counts.hits = (reads calls start).countP Lookup.isFresh ∧
      m.counts.stale = (reads calls start).countP Lookup.isStale ∧
      m.counts.misses = (reads calls start).countP Lookup.isAbsent ∧
      m.counts.hits + m.counts.stale + m.counts.misses = calls.countP BinCall.isGet := by
  intro start m
  have hsound : start.Sound := Sound.new name capacity
  have hroom : m.size ≤ roomFor capacity := room_after hsound (Nat.zero_le _) calls
  have hcapacity : m.capacity = roomFor capacity := capacity_after hsound calls
  have hcounts : m.counts = _ := counts_after hsound calls
  have hzero : start.counts = .zero := rfl
  simp only [hzero, Counts.zero, Nat.zero_add] at hcounts
  refine ⟨(hsound.after calls).tidy (hcapacity ▸ hroom), hroom, ?_⟩
  rw [hcounts]
  exact ⟨rfl, rfl, rfl, rfl, (Lookup.countP_kinds _).trans (length_reads calls start)⟩

end Memory
end TaggedCache
