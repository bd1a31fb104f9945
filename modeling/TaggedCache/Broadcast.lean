import TaggedCache.Registry
import TaggedCache.Storage
import TaggedCache.Table

/-!
# Broadcasting tag operations

A tag operation goes to every bin. The calls run side by side, each with the same time limit, so how
one ends depends on its own bin only. A broadcast never stops at a bin that fails: it reports the bins
that failed beside those that did not.
-/

namespace TaggedCache

/-- A broadcast that every bin applied. -/
structure Report where
  operation : Operation
  tags : TagSet
  /-- The bins that applied it, in name order. -/
  bins : List String
deriving DecidableEq, Repr

namespace Broadcast

/-- How often each outcome occurred. -/
structure Counts where
  outcomes : Table (Operation × Bool) Nat
  failures : Table (Operation × String) Nat

/-- Nothing has happened yet. -/
def Counts.zero : Counts := ⟨.empty, .empty⟩

/-- Counts a broadcast with its failed bins. -/
def Counts.add (operation : Operation) (failedBins : List String) (c : Counts) : Counts where
  outcomes := c.outcomes.increment (operation, failedBins.isEmpty)
  failures := failedBins.foldl (fun f name => f.increment (operation, name)) c.failures

variable {β : Type}

/-- How a call ends when it is given `limit`, and the bin after that. -/
def settle (limit : Duration) (reply : Reply β) : Except BinFault Unit × β :=
  if reply.delay ≤ limit.millis then (reply.outcome, reply.after)
  else (.error (.timeout limit), reply.cut)

/-- The failed calls, in name order. -/
def failures (settled : Roster (Except BinFault Unit × β)) : List BinFailure :=
  settled.toList.filterMap fun
    | (name, .error fault, _) => some ⟨name, fault⟩
    | (_, .ok _, _) => none

/-- The bins whose calls succeeded, in name order. -/
def successes (settled : Roster (Except BinFault Unit × β)) : List String :=
  settled.toList.filterMap fun
    | (name, .ok _, _) => some name
    | (_, .error _, _) => none

end Broadcast

/-- The bins of a cache with what a broadcast to them needs. -/
structure Broadcaster (β : Type) where
  bins : Registry β
  timeout : Duration
  /-- What has happened so far. -/
  counts : Broadcast.Counts

namespace Broadcaster

variable {β : Type}

def new (bins : Registry β) (timeout : Duration) : Broadcaster β := ⟨bins, timeout, .zero⟩

variable [Storage β]

/-- Asks every bin for an operation. Without tags there is nothing to ask for. -/
def send (operation : Operation) (tags : TagSet) (b : Broadcaster β) :
    Except BroadcastFault Report × Broadcaster β :=
  if tags.isEmpty then (.ok ⟨operation, .empty, []⟩, b)
  else
    let settled := b.bins.map fun _ bin =>
      Broadcast.settle b.timeout (Storage.applyTags operation tags bin)
    let failures := Broadcast.failures settled
    let succeeded := Broadcast.successes settled
    let after := { b with
      bins := settled.map fun _ s => s.2
      counts := b.counts.add operation (failures.map (·.bin)) }
    if failures.isEmpty then (.ok ⟨operation, tags, succeeded⟩, after)
    else (.error ⟨operation, failures, succeeded⟩, after)

/-- Hands a set to a broadcast if there is one; a fault is passed on and no bin is touched. -/
def sendChecked (operation : Operation) (tags : Except Fault TagSet) (b : Broadcaster β) :
    Except Fault Report × Broadcaster β :=
  match tags with
  | .error fault => (.error fault, b)
  | .ok tags =>
    let (result, b) := b.send operation tags
    (result.mapError .broadcast, b)

/-- Broadcasts an operation for tags given as texts, which are checked before any bin is asked. -/
def sendTexts (operation : Operation) (tags : List String) (b : Broadcaster β) :
    Except Fault Report × Broadcaster β := b.sendChecked operation (TagSet.ofTexts tags)

/-- Broadcasts an operation for tags given as JSON values, which are checked before any bin is asked. -/
def sendValues (operation : Operation) (tags : List Json) (b : Broadcaster β) :
    Except Fault Report × Broadcaster β := b.sendChecked operation (TagSet.ofValues tags)

end Broadcaster
end TaggedCache
