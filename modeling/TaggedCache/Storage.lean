import TaggedCache.Fault
import TaggedCache.Item

/-!
# Bins

A bin keeps items under keys. The caches above work with every kind of bin: they ask only for the
operations of `Storage`. Each operation may fail and gives the bin as it is afterwards. A tag operation
also takes time, because a broadcast waits only so long for it.
-/

namespace TaggedCache

/-- How one tag operation of a bin goes. -/
structure Reply (β : Type) where
  /-- The milliseconds it takes. -/
  delay : Nat
  outcome : Except BinFault Unit
  after : β
  /-- The bin when it is cut off before it ends. -/
  cut : β

/-- What every kind of bin can do. -/
class Storage (β : Type) where
  kind : β → String
  get : UInt64 → String → β → Except BinFault Lookup × β
  /-- Writes an item under a key. An item of age zero is not written. -/
  set : String → Item → β → Except BinFault Unit × β
  delete : String → β → Except BinFault Unit × β
  /-- Invalidates or removes every item that carries one of the tags. -/
  applyTags : Operation → TagSet → β → Reply β

end TaggedCache
