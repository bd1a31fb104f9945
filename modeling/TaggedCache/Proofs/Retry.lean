import TaggedCache.Proofs.Notifier

/-!
# What a retry does

A retry takes the oldest records out of the log and broadcasts them again, one after another. As the log never
outgrows its limit, there is room for every record that comes back (`replay_extends`), and so none is dropped:
`retryFailed_exact` says what a retry leaves.
-/

namespace TaggedCache

namespace FailureLog

/-- Some records under new numbers, counted from `epoch`. -/
def renumber (epoch : UInt64) : List Record → List Record
  | [] => []
  | r :: rest => { r with epoch } :: renumber (epoch + 1) rest

/-- A log after some records came to its end under the next numbers, with nothing dropped for them. -/
structure Extends (l : FailureLog) (rs : List Record) (l' : FailureLog) : Prop where
  records : l'.records = l.records ++ renumber l.nextEpoch rs
  limit : l'.limit = l.limit
  next : l'.nextEpoch = l.nextEpoch + UInt64.ofNat rs.length
  dropped : l'.dropped = l.dropped

variable {l l' : FailureLog} {rs : List Record} {es : List Event}

@[simp] theorem recorded_records (rs : List Record) : recorded (rs.map .record) = rs := by
  simp [recorded, Event.recorded?, Function.comp_def]

@[simp] theorem departed_records (rs : List Record) : departed (rs.map .record) = [] := by
  simp [departed, Event.departed?]

@[simp] theorem overflowed_records (rs : List Record) : overflowed (rs.map .record) = [] := by
  simp [overflowed, Event.dropped?]

theorem length_renumber (epoch : UInt64) (rs : List Record) : (renumber epoch rs).length = rs.length := by
  induction rs generalizing epoch with
  | nil => rfl
  | cons r rest ih => exact congrArg (· + 1) (ih (epoch + 1))

theorem epochs_renumber (start : Nat) (rs : List Record) :
    (renumber (UInt64.ofNat start) rs).map Record.epoch = (List.range' start rs.length).map UInt64.ofNat := by
  induction rs generalizing start with
  | nil => rfl
  | cons r rest ih =>
    have hnext : UInt64.ofNat start + 1 = UInt64.ofNat (start + 1) := by
      rw [UInt64.ofNat_add]
      rfl
    rw [renumber, List.map_cons, hnext, ih, List.length_cons, List.range'_succ, List.map_cons]

theorem Extends.refl (l : FailureLog) : Extends l [] l where
  records := (List.append_nil l.records).symm
  limit := rfl
  next := (UInt64.add_zero l.nextEpoch).symm
  dropped := rfl

/-- With room left, a record of a failure comes first among those that are put at the end. -/
theorem Extends.record {r : Record} {fault : BroadcastFault} (hroom : l.records.length < l.limit)
    (hoperation : fault.operation = r.operation) (h : Extends (l.record fault r.tags).2 rs l') :
    Extends l ({ r with failedBins := fault.failedBins } :: rs) l' where
  records := by
    rw [h.records, records_record, kept_of_lt hroom, List.append_assoc, renumber, ← hoperation]
    rfl
  limit := h.limit
  next := by
    have hnext : (l.record fault r.tags).2.nextEpoch = l.nextEpoch + 1 := rfl
    rw [h.next, hnext, List.length_cons, UInt64.ofNat_add, UInt64.add_assoc, UInt64.add_comm 1]
    rfl
  dropped := h.dropped.trans (if_neg (Nat.not_le_of_lt hroom))

/-- Records put at the end are numbered on from all that was ever recorded. -/
theorem Booked.extends (h : Booked l es) (hl : Extends l rs l') :
    Booked l' (es ++ (renumber l.nextEpoch rs).map .record) := by
  have hlength := length_renumber l.nextEpoch rs
  constructor
  case split =>
    rw [recorded_append, departed_append, recorded_records, departed_records, List.append_nil, h.split,
      List.append_assoc, hl.records]
  case drops =>
    rw [overflowed_append, overflowed_records, List.append_nil, h.drops, hl.dropped]
  case next =>
    rw [recorded_append, recorded_records, List.length_append, hlength, UInt64.ofNat_add, ← h.next, hl.next]
  case epochs =>
    rw [recorded_append, recorded_records, List.map_append, h.epochs, h.next, epochs_renumber, ← h.next,
      List.length_append, hlength, List.range_add, ← List.range'_eq_map_range, List.map_append]

end FailureLog

namespace Notifier

open FailureLog (Record Booked Extends recorded renumber)

variable {β : Type} [Storage β]

/-- The bins after some records were broadcast again, one after another. -/
def resent (rs : List Record) (b : Broadcaster β) : Broadcaster β :=
  rs.foldl (fun b r => (b.send r.operation r.tags).2) b

/-- Records that are broadcast again one after another, each with the bins that fail it this time. -/
def tried : List Record → Broadcaster β → List Record
  | [], _ => []
  | r :: rest, b =>
    { r with failedBins := b.failing r.operation r.tags } :: tried rest (b.send r.operation r.tags).2

/-- Those of them that fail again. -/
def failedAgain (rs : List Record) (b : Broadcaster β) : List Record :=
  (tried rs b).filter fun r => r.failedBins ≠ []

/-- How many of them reach every bin. -/
def recoveries (rs : List Record) (b : Broadcaster β) : Nat :=
  (tried rs b).countP fun r => r.failedBins = []

theorem length_tried (rs : List Record) (b : Broadcaster β) : (tried rs b).length = rs.length := by
  induction rs generalizing b with
  | nil => rfl
  | cons r rest ih => exact congrArg (· + 1) (ih _)

theorem recoveries_add (rs : List Record) (b : Broadcaster β) :
    recoveries rs b + (failedAgain rs b).length = rs.length := by
  have h := List.length_eq_countP_add_countP (fun r : Record => r.failedBins = []) (l := tried rs b)
  rw [length_tried] at h
  rw [failedAgain, recoveries, ← List.countP_eq_length_filter, h]
  simp

section

variable {r : Record} {rest pending : List Record} {b : Broadcaster β} {n : Notifier β}

theorem failedAgain_of_reached (h : b.failing r.operation r.tags = []) :
    failedAgain (r :: rest) b = failedAgain rest (b.send r.operation r.tags).2 :=
  List.filter_cons_of_neg (by simpa using h)

theorem failedAgain_of_failing (h : b.failing r.operation r.tags ≠ []) :
    failedAgain (r :: rest) b = { r with failedBins := b.failing r.operation r.tags } ::
      failedAgain rest (b.send r.operation r.tags).2 :=
  List.filter_cons_of_pos (by simpa using h)

theorem recoveries_of_reached (h : b.failing r.operation r.tags = []) :
    recoveries (r :: rest) b = recoveries rest (b.send r.operation r.tags).2 + 1 :=
  List.countP_cons_of_pos (by simpa using h)

theorem recoveries_of_failing (h : b.failing r.operation r.tags ≠ []) :
    recoveries (r :: rest) b = recoveries rest (b.send r.operation r.tags).2 :=
  List.countP_cons_of_neg (by simpa using h)

theorem replay_of_applied {n' : Notifier β} {report : Report} {summary : RetrySummary}
    (h : n.notify r.operation r.tags = (.applied report, n')) : n.replay (r :: rest) summary =
      n'.replay rest { summary with recovered := summary.recovered + 1 } := by
  rw [Notifier.replay, h]

theorem replay_of_deferred {n' : Notifier β} {s : Record} {summary : RetrySummary}
    (h : n.notify r.operation r.tags = (.deferred s, n')) : n.replay (r :: rest) summary =
      n'.replay rest { summary with failedAgain := summary.failedAgain + 1 } := by
  rw [Notifier.replay, h]

/-- As long as the log has room for all that is still to be broadcast, what fails again comes to its end and
nothing leaves it. -/
theorem replay_extends (summary : RetrySummary) (hroom : n.log.records.length + pending.length ≤ n.log.limit) :
    (n.replay pending summary).1 = ⟨summary.attempted, summary.recovered + recoveries pending n.broadcaster,
      summary.failedAgain + (failedAgain pending n.broadcaster).length⟩ ∧
    (n.replay pending summary).2.broadcaster = resent pending n.broadcaster ∧
    Extends n.log (failedAgain pending n.broadcaster) (n.replay pending summary).2.log := by
  induction pending generalizing n summary with
  | nil => exact ⟨rfl, rfl, .refl n.log⟩
  | cons r rest ih =>
    rw [List.length_cons] at hroom
    rcases notify_cases r.operation r.tags n with ⟨hf, report, ho, hl, -⟩ | ⟨hf, -, fault, ho, hl, hop, hb⟩
    · -- A broadcast that reaches every bin leaves the log alone.
      have hnotify : n.notify r.operation r.tags =
          (.applied report, ⟨(n.broadcaster.send r.operation r.tags).2, n.log⟩) := by
        rw [← ho, ← hl, ← notify_broadcaster]
      have hrest : n.log.records.length + rest.length ≤ n.log.limit := by omega
      obtain ⟨hsummary, hresent, hextends⟩ :=
        ih (n := ⟨(n.broadcaster.send r.operation r.tags).2, n.log⟩)
          { summary with recovered := summary.recovered + 1 } hrest
      rw [replay_of_applied hnotify, failedAgain_of_reached hf, recoveries_of_reached hf, hsummary,
        Nat.add_comm (recoveries _ _), ← Nat.add_assoc]
      exact ⟨rfl, hresent, hextends⟩
    · -- The record that is made of it takes the place that its predecessor left.
      have hnotify : n.notify r.operation r.tags = (.deferred (n.log.record fault r.tags).1,
          ⟨(n.broadcaster.send r.operation r.tags).2, (n.log.record fault r.tags).2⟩) := by
        rw [← ho, ← hl, ← notify_broadcaster]
      have hspace : n.log.records.length < n.log.limit := by omega
      have hrest : (n.log.record fault r.tags).2.records.length + rest.length ≤ n.log.limit := by
        rw [FailureLog.records_record, FailureLog.kept_of_lt hspace, List.length_append, List.length_singleton]
        omega
      obtain ⟨hsummary, hresent, hextends⟩ :=
        ih (n := ⟨(n.broadcaster.send r.operation r.tags).2, (n.log.record fault r.tags).2⟩)
          { summary with failedAgain := summary.failedAgain + 1 } hrest
      rw [replay_of_deferred hnotify, failedAgain_of_failing hf, recoveries_of_failing hf, hsummary, ← hb,
        List.length_cons, Nat.add_comm (List.length _), ← Nat.add_assoc]
      exact ⟨rfl, hresent, hextends.record hspace hop⟩

theorem retryFailed_extends (n : Notifier β) (count : Nat) :
    (n.retryFailed count).1 = ⟨min count n.log.records.length,
      recoveries (n.log.records.take count) n.broadcaster,
      (failedAgain (n.log.records.take count) n.broadcaster).length⟩ ∧
    (n.retryFailed count).2.broadcaster = resent (n.log.records.take count) n.broadcaster ∧
    Extends (n.log.drain count).2 (failedAgain (n.log.records.take count) n.broadcaster)
      (n.retryFailed count).2.log := by
  have hroom : (n.log.drain count).2.records.length + (n.log.records.take count).length ≤ n.log.limit := by
    have hsize := n.log.size_le
    show (n.log.records.drop count).length + _ ≤ _
    rw [List.length_drop, List.length_take]
    omega
  obtain ⟨hsummary, hresent, hextends⟩ := replay_extends (n := ⟨n.broadcaster, (n.log.drain count).2⟩)
    ⟨(n.log.records.take count).length, 0, 0⟩ hroom
  rw [Nat.zero_add, Nat.zero_add] at hsummary
  refine ⟨?_, hresent, hextends⟩
  rw [← List.length_take]
  exact hsummary

/-- A retry broadcasts the oldest waiting records again, each once and in order, and counts those that reach every
bin and those that fail again. The others stay as they are, and behind them come those that failed again, in order
and each with the bins that failed it this time. Nothing is dropped, also from a full log. The new numbers go on
from all that the log has ever given, as long as they do not run out. -/
theorem retryFailed_exact (n : Notifier β) (count : Nat) :
    let batch := n.log.records.take count
    let again := renumber n.log.nextEpoch (failedAgain batch n.broadcaster)
    let summary := (n.retryFailed count).1
    let after := (n.retryFailed count).2
    summary.attempted = min count n.log.records.length ∧
      summary.recovered = recoveries batch n.broadcaster ∧
      summary.failedAgain = again.length ∧
      summary.recovered + summary.failedAgain = summary.attempted ∧
      after.broadcaster = resent batch n.broadcaster ∧
      after.log.records = n.log.records.drop count ++ again ∧
      after.log.dropped = n.log.dropped ∧
      after.log.limit = n.log.limit ∧
      ∀ es, Booked n.log es → (recorded es).length + again.length < 2 ^ 64 →
        (recorded es ++ again).Pairwise fun r s => r.epoch < s.epoch := by
  intro batch again summary after
  obtain ⟨hsummary, hresent, hextends⟩ := retryFailed_extends n count
  have hsummary : summary = ⟨min count n.log.records.length, recoveries batch n.broadcaster,
      (failedAgain batch n.broadcaster).length⟩ := hsummary
  have hagain : again.length = (failedAgain batch n.broadcaster).length := FailureLog.length_renumber _ _
  have hbatch : recoveries batch n.broadcaster + (failedAgain batch n.broadcaster).length =
      min count n.log.records.length := by
    rw [recoveries_add, List.length_take]
  rw [hsummary]
  refine ⟨rfl, rfl, hagain.symm, hbatch, hresent, hextends.records, hextends.dropped, hextends.limit,
    fun es hes hlength => ?_⟩
  have hbooked := (hes.drain count).extends hextends
  have hrecorded :
      recorded (es ++ (n.log.drain count).1.map .drain ++ again.map .record) = recorded es ++ again := by
    rw [FailureLog.recorded_append, FailureLog.recorded_append, FailureLog.recorded_drains, List.append_nil,
      FailureLog.recorded_records]
  rw [← List.length_append, ← hrecorded] at hlength
  rw [← hrecorded]
  exact hbooked.ascending hlength

end

/-- One bin that fails its first three calls. -/
def shaky : Broadcaster Scripted :=
  let down := (0, .error (.unavailable "down"))
  .new (Roster.empty.insert "render" ⟨"shaky", [down, down, down], (0, .ok ()), []⟩) ⟨1000⟩

/-- Two broadcasts that do not reach the bin. -/
def lost : List Call := [.tell .invalidate ["menu:main"], .tell .delete ["node:6"]]

/-- They fill a log of two records. -/
def backlog : Notifier Scripted := after lost (new shaky 2)

/-- What comes back of them: the first fails again, the second reaches the bin. -/
def relapse : Record := ⟨2, .invalidate, .ofList [⟨"menu:main", by decide⟩], ["render"]⟩

theorem retryFailed_exact_backlog :
    backlog.log.records.length = backlog.log.limit ∧
      (backlog.retryFailed 2).1 = ⟨2, 1, 1⟩ ∧ (backlog.retryFailed 2).2.log.records = [relapse] ∧
      (backlog.retryFailed 2).2.log.dropped = 0 ∧
      Booked backlog.log (history lost (new shaky 2)) ∧
      ∀ r ∈ recorded (history lost (new shaky 2)), r.epoch < relapse.epoch := by
  have hfull : backlog.log.records.length = backlog.log.limit := by decide +kernel
  have hbooked : Booked backlog.log (history lost (new shaky 2)) := ((Kept.new shaky 2).after lost).booked
  obtain ⟨-, -, -, -, -, hrecords, hdropped, -, hfresh⟩ := retryFailed_exact backlog 2
  have hagain : renumber backlog.log.nextEpoch (failedAgain (backlog.log.records.take 2) backlog.broadcaster) =
      [relapse] := by decide +kernel
  have hlength : (recorded (history lost (new shaky 2))).length = 2 := by decide +kernel
  have hdrop : backlog.log.records.drop 2 = [] := by decide +kernel
  rw [hagain] at hrecords hfresh
  refine ⟨hfull, by decide +kernel, ?_, ?_, hbooked, fun r hr => ?_⟩
  · rw [hrecords, hdrop, List.nil_append]
  · rw [hdropped]
    decide +kernel
  · have hpairs := hfresh _ hbooked (by rw [hlength]; decide)
    exact (List.pairwise_append.mp hpairs).2.2 r hr relapse (List.mem_singleton_self _)

end Notifier
end TaggedCache
