import TaggedCache.Broadcast
import TaggedCache.FailureLog

/-!
# Telling the cache what changed

Whoever writes data must not fail because a bin is out of reach. So a broadcast that does not reach
every bin is put into the failure log, to be tried again later, and is not an error here. Only tags
that are no tags are.
-/

namespace TaggedCache

/-- What became of a notification. -/
inductive Outcome where
  | applied (report : Report)
  | deferred (record : FailureLog.Record)
deriving DecidableEq, Repr

/-- True when every bin applied the notification. -/
def Outcome.isApplied : Outcome → Bool
  | .applied _ => true
  | .deferred _ => false

/-- How a pass over the failure log went. -/
structure RetrySummary where
  /-- The records that were tried again. -/
  attempted : Nat
  recovered : Nat
  /-- Those that did not, and wait again. -/
  failedAgain : Nat
deriving DecidableEq, Repr

/-- A broadcaster with the log of what did not reach every bin. -/
structure Notifier (β : Type) where
  broadcaster : Broadcaster β
  log : FailureLog

namespace Notifier

variable {β : Type}

def new (broadcaster : Broadcaster β) (logLimit : Nat) : Notifier β :=
  ⟨broadcaster, FailureLog.new logLimit⟩

variable [Storage β]

/-- Broadcasts an operation and puts it into the log if some bin fails. -/
def notify (operation : Operation) (tags : TagSet) (n : Notifier β) : Outcome × Notifier β :=
  let (result, broadcaster) := n.broadcaster.send operation tags
  match result with
  | .ok report => (.applied report, { n with broadcaster })
  | .error fault =>
    let (record, log) := n.log.record fault tags
    (.deferred record, { n with broadcaster, log })

/-- Notifies of tags given as texts, which are checked before any bin is asked. -/
def notifyTexts (operation : Operation) (tags : List String) (n : Notifier β) :
    Except Fault Outcome × Notifier β :=
  match TagSet.ofTexts tags with
  | .error fault => (.error fault, n)
  | .ok tags =>
    let (outcome, n) := n.notify operation tags
    (.ok outcome, n)

/-- The data behind the tags has changed: items that depend on it become stale. -/
def tagsChanged (tags : List String) (n : Notifier β) : Except Fault Outcome × Notifier β :=
  n.notifyTexts .invalidate tags

/-- The data behind the tags is gone: items that depend on it are removed. -/
def tagsDeleted (tags : List String) (n : Notifier β) : Except Fault Outcome × Notifier β :=
  n.notifyTexts .delete tags

/-- Broadcasts some records again, one after another. -/
def replay (records : List FailureLog.Record) (summary : RetrySummary) (n : Notifier β) :
    RetrySummary × Notifier β :=
  match records with
  | [] => (summary, n)
  | r :: rest =>
    match n.notify r.operation r.tags with
    | (.applied _, n) => replay rest { summary with recovered := summary.recovered + 1 } n
    | (.deferred _, n) => replay rest { summary with failedAgain := summary.failedAgain + 1 } n

/-- Takes up to `count` records out of the log and broadcasts them again. Those that fail again are put
back with new numbers. -/
def retryFailed (count : Nat) (n : Notifier β) : RetrySummary × Notifier β :=
  let (records, log) := n.log.drain count
  replay records ⟨records.length, 0, 0⟩ { n with log }

end Notifier
end TaggedCache
