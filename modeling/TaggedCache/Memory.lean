import TaggedCache.Room
import TaggedCache.Storage
import TaggedCache.TagIndex

/-!
# Bins in memory

Items lie in the order of their last use, and the last one leaves when there is no room. Invalidating
a tag touches no item: it raises the counter of the tag. An item remembers the sum of its tags'
counters from when it was written, and a sum that has changed since makes it stale. A tag has a
counter only while some item carries it.
-/

namespace TaggedCache
namespace Memory

/-- A stored item with the counter sum of its tags from when it was written. -/
structure Entry where
  item : Item
  checksum : UInt64
deriving DecidableEq, Inhabited

/-- How often each thing happened to a bin. -/
structure Counts where
  hits : Nat
  stale : Nat
  /-- Reads that gave nothing. -/
  misses : Nat
  /-- Items that left because there was no room. -/
  evictions : Nat
deriving DecidableEq, Repr, Inhabited

/-- Nothing has happened yet. -/
def Counts.zero : Counts := ⟨0, 0, 0, 0⟩

/-- The sum of the counters of some tags; a tag without a counter adds nothing. -/
def checksum (counters : Table Tag UInt64) (tags : TagSet) : UInt64 :=
  tags.toList.foldl (fun sum tag => sum + (counters.get? tag).getD 0) 0

def forget (tags : List Tag) (counters : Table Tag UInt64) : Table Tag UInt64 :=
  tags.foldl Table.erase counters

/-- Puts an entry in front. When that is more than `capacity` entries the last one leaves, and its key
comes back. -/
def push (capacity : Nat) (key : String) (entry : Entry) (entries : List (String × Entry)) :
    Option String × List (String × Entry) :=
  let entries := (key, entry) :: entries.filter fun e => e.1 ≠ key
  if entries.length ≤ capacity then (none, entries)
  else (entries.getLast?.map (·.1), entries.dropLast)

end Memory

/-- A bin in memory. -/
structure Memory where
  name : String
  capacity : Nat
  capacity_pos : 0 < capacity
  /-- The entries, the last used one first. -/
  entries : List (String × Memory.Entry)
  index : TagIndex
  counters : Table Tag UInt64
  /-- What has happened so far. -/
  counts : Memory.Counts

namespace Memory

/-- An empty bin. A capacity of zero counts as one. The room for so many items is taken before (`Pending.make`). -/
def new (name : String) (capacity : Nat) : Memory :=
  ⟨name, roomFor capacity, roomFor_pos capacity, [], .empty, .empty, .zero⟩

def size (m : Memory) : Nat := m.entries.length

def trackedTags (m : Memory) : Nat := m.counters.size

/-- The bin without items and counters. -/
def clear (m : Memory) : Memory := { m with entries := [], index := .empty, counters := .empty }

/-! ## Reading -/

/-- The first half of a read: finds an entry and moves it to the front. -/
def find (key : String) (m : Memory) : Option Entry × Memory :=
  match Table.find key m.entries with
  | none => (none, m)
  | some entry =>
    (some entry, { m with entries := (key, entry) :: m.entries.filter fun e => e.1 ≠ key })

/-- The second half of a read: says what the entry found before is worth now. -/
def judge (now : UInt64) (found : Option Entry) (m : Memory) : Lookup × Memory :=
  match found with
  | none => (.absent, { m with counts := { m.counts with misses := m.counts.misses + 1 } })
  | some entry =>
    if entry.item.isExpired now ∨ entry.checksum ≠ checksum m.counters entry.item.tags then
      (.stale entry.item, { m with counts := { m.counts with stale := m.counts.stale + 1 } })
    else (.fresh entry.item, { m with counts := { m.counts with hits := m.counts.hits + 1 } })

def get (now : UInt64) (key : String) (m : Memory) : Lookup × Memory :=
  let (found, m) := m.find key
  m.judge now found

/-! ## Writing -/

/-- Removes a key from the index, together with the counters of the tags that lost their last key. -/
def unindex (key : String) (m : Memory) : Memory :=
  let (orphans, index) := m.index.unregister key
  { m with index := index, counters := forget orphans m.counters }

/-- Writes an item. Its counter sum is that of its tags now, so it starts out valid. -/
def set (key : String) (item : Item) (m : Memory) : Memory :=
  if item.maxAge.isZero then m
  else
    let (orphans, index) := m.index.register key item.tags
    let counters := forget orphans m.counters
    let (evicted, entries) := push m.capacity key ⟨item, checksum counters item.tags⟩ m.entries
    let m := { m with entries := entries, index := index, counters := counters }
    match evicted with
    | none => m
    | some old =>
      unindex old { m with counts := { m.counts with evictions := m.counts.evictions + 1 } }

def delete (key : String) (m : Memory) : Memory :=
  unindex key { m with entries := m.entries.filter fun e => e.1 ≠ key }

/-! ## Tags -/

def bump (counters : Table Tag UInt64) (tag : Tag) : Table Tag UInt64 :=
  counters.put tag ((counters.get? tag).getD 0 + 1)

/-- Makes every item stale that carries one of the tags. Tags that no item carries keep no trace. -/
def invalidate (tags : TagSet) (m : Memory) : Memory :=
  { m with counters := (tags.toList.filter m.index.hasTag).foldl bump m.counters }

def deleteTags (tags : TagSet) (m : Memory) : Memory :=
  (m.index.keysForTags tags).foldl (fun m key => m.delete key) m

/-- Invalidates or removes every item that carries one of the tags. -/
def applyTags : Operation → TagSet → Memory → Memory
  | .invalidate => invalidate
  | .delete => deleteTags

/-- The operations of a bin in memory succeed, and take no time. -/
instance : Storage Memory where
  kind _ := "memory"
  get now key m :=
    let (lookup, m) := m.get now key
    (.ok lookup, m)
  set key item m := (.ok (), m.set key item)
  delete key m := (.ok (), m.delete key)
  applyTags operation tags m := ⟨0, .ok (), m.applyTags operation tags, m⟩

end Memory
end TaggedCache
