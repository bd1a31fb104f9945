import TaggedCache.Fault
import TaggedCache.Room
import TaggedCache.TagSet

/-!
# The failure log

Broadcasts that did not reach every bin wait here to be tried again, oldest first. The log holds a
limited number of them, and a full log makes room by dropping the oldest. Records are numbered in the
order in which they come.
-/

namespace TaggedCache
namespace FailureLog

/-- A broadcast that did not reach every bin. -/
structure Record where
  epoch : UInt64
  operation : Operation
  tags : TagSet
  /-- The bins that failed, in name order. -/
  failedBins : List String
deriving DecidableEq, Repr

end FailureLog

/-- The broadcasts that wait to be tried again. -/
structure FailureLog where
  /-- The waiting records, the oldest first. -/
  records : List FailureLog.Record
  limit : Nat
  limit_pos : 0 < limit
  /-- There is room for all that waits. -/
  size_le : records.length ≤ limit
  nextEpoch : UInt64
  dropped : Nat
  /-- The length after the latest change, if there was a change. -/
  gauge : Option Nat

namespace FailureLog

/-- An empty log. A limit of zero counts as one. -/
def new (limit : Nat) : FailureLog where
  records := []
  limit := roomFor limit
  limit_pos := roomFor_pos limit
  size_le := Nat.zero_le _
  nextEpoch := 0
  dropped := 0
  gauge := none

def size (l : FailureLog) : Nat := l.records.length

/-- True when nothing waits. -/
def isEmpty (l : FailureLog) : Bool := l.records.isEmpty

/-- What still waits when another record comes in: a full log drops its oldest. -/
def kept (l : FailureLog) : List Record :=
  if l.limit ≤ l.records.length then l.records.drop 1 else l.records

theorem kept_of_lt {l : FailureLog} (hroom : l.records.length < l.limit) : l.kept = l.records :=
  if_neg (Nat.not_le_of_lt hroom)

theorem length_kept_lt (l : FailureLog) : l.kept.length < l.limit := by
  have hpos := l.limit_pos
  have hle := l.size_le
  unfold kept
  split
  · rw [List.length_drop]
    omega
  · omega

/-- Adds a record of a broadcast. A full log drops its oldest record first. -/
def record (fault : BroadcastFault) (tags : TagSet) (l : FailureLog) : Record × FailureLog :=
  let entry : Record := ⟨l.nextEpoch, fault.operation, tags, fault.failedBins⟩
  (entry, { l with
    records := l.kept ++ [entry]
    size_le := List.length_append ▸ l.length_kept_lt
    nextEpoch := l.nextEpoch + 1
    dropped := if l.limit ≤ l.records.length then l.dropped + 1 else l.dropped
    gauge := some (l.kept ++ [entry]).length })

theorem records_record (fault : BroadcastFault) (tags : TagSet) (l : FailureLog) :
    (l.record fault tags).2.records = l.kept ++ [(l.record fault tags).1] := rfl

/-- Takes out up to `count` records, the oldest first. -/
def drain (count : Nat) (l : FailureLog) : List Record × FailureLog :=
  (l.records.take count, { l with
    records := l.records.drop count
    size_le := Nat.le_trans (List.length_drop ▸ Nat.sub_le _ _) l.size_le
    gauge := some (l.records.drop count).length })

end FailureLog
end TaggedCache
