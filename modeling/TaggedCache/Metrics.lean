import TaggedCache.Memory
import TaggedCache.Notifier

/-!
# Metrics

The counts that bins, broadcasters and the failure log keep, under the names and labels by which they
are published. What was never counted is not published.
-/

namespace TaggedCache

/-- The value of a metric. -/
inductive Metric.Value where
  /-- A sum that only grows. -/
  | counter (total : Nat)
  | gauge (value : Nat)
  | histogram (samples : Nat)
deriving DecidableEq, Repr

/-- A published value. -/
structure Metric where
  name : String
  labels : List (String × String)
  value : Metric.Value
deriving DecidableEq, Repr

namespace Metric

/-- True when one metric stands before another: by name, then by labels. -/
def before (a b : Metric) : Bool :=
  a.name < b.name ∨ (a.name = b.name ∧
    (a.labels.flatMap fun l => [l.1, l.2]) < (b.labels.flatMap fun l => [l.1, l.2]))

/-- The metrics in order. -/
def sorted (ms : List Metric) : List Metric := ms.mergeSort fun a b => !before b a

def counter? (name : String) (labels : List (String × String)) (total : Nat) : List Metric :=
  if total = 0 then [] else [⟨name, labels, .counter total⟩]

def ofMemory (m : Memory) : List Metric :=
  let labels := [("bin", m.name)]
  counter? "tagcache_memory_evict_total" labels m.counts.evictions
    ++ counter? "tagcache_memory_hit_total" labels m.counts.hits
    ++ counter? "tagcache_memory_miss_total" labels m.counts.misses
    ++ counter? "tagcache_memory_stale_total" labels m.counts.stale

/-- The word for a broadcast that every bin applied, or not. -/
def outcomeWord (complete : Bool) : String := if complete then "ok" else "partial"

def broadcasts (c : Broadcast.Counts) (operation : Operation) (complete : Bool) : Nat :=
  (c.outcomes.get? (operation, complete)).getD 0

def ofOperation (c : Broadcast.Counts) (operation : Operation) : List Metric :=
  let samples := broadcasts c operation true + broadcasts c operation false
  let time : List Metric :=
    if samples = 0 then []
    else [⟨"tagcache_invalidation_ms", [("operation", operation.word)], .histogram samples⟩]
  time ++ [true, false].flatMap fun complete =>
    counter? "tagcache_invalidation_total"
      [("operation", operation.word), ("outcome", outcomeWord complete)]
      (broadcasts c operation complete)

def ofBroadcasts (c : Broadcast.Counts) : List Metric :=
  (c.failures.pairs.flatMap fun ((operation, bin), total) =>
    counter? "tagcache_invalidation_bin_failure_total"
      [("bin", bin), ("operation", operation.word)] total)
    ++ ofOperation c .invalidate ++ ofOperation c .delete

def ofLog (l : FailureLog) : List Metric :=
  counter? "tagcache_failure_log_dropped_total" [] l.dropped
    ++ match l.gauge with
      | some length => [⟨"tagcache_failure_log_len", [], .gauge length⟩]
      | none => []

def ofNotifier {β : Type} (n : Notifier β) : List Metric :=
  ofBroadcasts n.broadcaster.counts ++ ofLog n.log

end Metric
end TaggedCache
