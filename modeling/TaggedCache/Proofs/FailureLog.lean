import Mathlib.Algebra.Group.Nat.Defs
import TaggedCache.Notifier

/-!
# The history of a failure log

Events say what happened to the records of a log. `Booked` ties a log to its events: what was recorded has
left the log or is in it, in the order in which it came.
-/

namespace TaggedCache
namespace FailureLog

variable {l : FailureLog} {fault : BroadcastFault} {tags : TagSet}

/-- What the next record drops: the oldest of a full log. -/
def overflow (l : FailureLog) : List Record := if l.limit ≤ l.records.length then l.records.take 1 else []

theorem overflow_kept (l : FailureLog) : l.overflow ++ l.kept = l.records := by
  unfold overflow kept
  split
  · exact List.take_append_drop 1 l.records
  · rfl

theorem overflow_record :
    l.overflow ++ (l.record fault tags).2.records = l.records ++ [(l.record fault tags).1] := by
  rw [records_record, ← List.append_assoc, overflow_kept]

theorem mem_record : (l.record fault tags).1 ∈ (l.record fault tags).2.records := by
  simp [record]

theorem dropped_record : (l.record fault tags).2.dropped = l.dropped + l.overflow.length := by
  simp only [record, overflow]
  split
  · next h =>
    have hl := l.limit_pos
    rw [List.length_take, Nat.min_eq_left (by omega)]
  · rfl

theorem drain_append (count : Nat) : (l.drain count).1 ++ (l.drain count).2.records = l.records :=
  List.take_append_drop count l.records

/-! ## Events -/

/-- What happens to a record. -/
inductive Event where
  /-- It is made for a broadcast that did not reach every bin. -/
  | record (r : Record)
  /-- It is dropped to make room. -/
  | drop (r : Record)
  /-- A retry takes it out of the log. -/
  | drain (r : Record)
  /-- A retry broadcasts it again, with this outcome. -/
  | retry (r : Record) (outcome : Outcome)

def Event.recorded? : Event → Option Record
  | .record r => some r
  | _ => none

def Event.departed? : Event → Option Record
  | .drop r | .drain r => some r
  | _ => none

def Event.dropped? : Event → Option Record
  | .drop r => some r
  | _ => none

/-- The records ever made, in order. -/
def recorded (es : List Event) : List Record := es.filterMap Event.recorded?

/-- The records that were drained or dropped, in order. -/
def departed (es : List Event) : List Record := es.filterMap Event.departed?

/-- The records that were dropped, in order. -/
def overflowed (es : List Event) : List Record := es.filterMap Event.dropped?

/-- What a broadcast means for the records, given the log before it. -/
def noted (before : FailureLog) : Outcome → List Event
  | .applied _ => []
  | .deferred r => before.overflow.map .drop ++ [.record r]

@[simp] theorem recorded_append (es fs : List Event) :
    recorded (es ++ fs) = recorded es ++ recorded fs := List.filterMap_append

@[simp] theorem departed_append (es fs : List Event) :
    departed (es ++ fs) = departed es ++ departed fs := List.filterMap_append

@[simp] theorem overflowed_append (es fs : List Event) :
    overflowed (es ++ fs) = overflowed es ++ overflowed fs := List.filterMap_append

@[simp] theorem recorded_noted (l : FailureLog) (r : Record) :
    recorded (noted l (.deferred r)) = [r] := by
  simp [noted, recorded, Event.recorded?]

@[simp] theorem departed_noted (l : FailureLog) (r : Record) :
    departed (noted l (.deferred r)) = l.overflow := by
  simp [noted, departed, Event.departed?, Function.comp_def]

@[simp] theorem overflowed_noted (l : FailureLog) (r : Record) :
    overflowed (noted l (.deferred r)) = l.overflow := by
  simp [noted, overflowed, Event.dropped?, Function.comp_def]

@[simp] theorem recorded_drains (rs : List Record) : recorded (rs.map .drain) = [] := by
  simp [recorded, Event.recorded?]

@[simp] theorem departed_drains (rs : List Record) : departed (rs.map .drain) = rs := by
  simp [departed, Event.departed?, Function.comp_def]

@[simp] theorem overflowed_drains (rs : List Record) : overflowed (rs.map .drain) = [] := by
  simp [overflowed, Event.dropped?]

@[simp] theorem recorded_retry (r : Record) (o : Outcome) : recorded [.retry r o] = [] := rfl

@[simp] theorem departed_retry (r : Record) (o : Outcome) : departed [.retry r o] = [] := rfl

@[simp] theorem overflowed_retry (r : Record) (o : Outcome) : overflowed [.retry r o] = [] := rfl

/-! ## Accounts -/

/-- The log is what its events leave of it. -/
structure Booked (l : FailureLog) (es : List Event) : Prop where
  split : recorded es = departed es ++ l.records
  drops : (overflowed es).length = l.dropped
  next : l.nextEpoch = UInt64.ofNat (recorded es).length
  epochs : (recorded es).map (·.epoch) = (List.range (recorded es).length).map UInt64.ofNat

namespace Booked

variable {es : List Event}

theorem new (limit : Nat) : Booked (new limit) [] where
  split := rfl
  drops := rfl
  next := rfl
  epochs := rfl

theorem record (h : Booked l es) (fault : BroadcastFault) (tags : TagSet) :
    Booked (l.record fault tags).2 (es ++ noted l (.deferred (l.record fault tags).1)) where
  split := by
    rw [recorded_append, departed_append, recorded_noted, departed_noted, h.split, List.append_assoc,
      ← overflow_record, List.append_assoc]
  drops := by
    rw [dropped_record, overflowed_append, overflowed_noted, List.length_append, h.drops]
  next := by
    have hn : (l.record fault tags).2.nextEpoch = l.nextEpoch + 1 := rfl
    rw [hn, h.next, recorded_append, recorded_noted, List.length_append, List.length_singleton,
      UInt64.ofNat_add]
    rfl
  epochs := by
    have he : (l.record fault tags).1.epoch = l.nextEpoch := rfl
    rw [recorded_append, recorded_noted, List.map_append, h.epochs, List.length_append,
      List.length_singleton, List.range_succ, List.map_append, List.map_singleton, List.map_singleton,
      ← h.next, he]

theorem drain (h : Booked l es) (count : Nat) :
    Booked (l.drain count).2 (es ++ (l.drain count).1.map .drain) where
  split := by
    rw [recorded_append, departed_append, recorded_drains, departed_drains, List.append_nil, h.split,
      List.append_assoc, drain_append]
  drops := by
    rw [overflowed_append, overflowed_drains, List.append_nil, h.drops]
    rfl
  next := by
    rw [recorded_append, recorded_drains, List.append_nil, ← h.next]
    rfl
  epochs := by
    rw [recorded_append, recorded_drains, List.append_nil, h.epochs]

theorem retry (h : Booked l es) (r : Record) (o : Outcome) : Booked l (es ++ [.retry r o]) where
  split := by simpa using h.split
  drops := by simpa using h.drops
  next := by simpa using h.next
  epochs := by simpa using h.epochs

/-- Numbers are in use once as long as they do not run out. -/
theorem ascending (h : Booked l es) (hes : (recorded es).length < 2 ^ 64) :
    (recorded es).Pairwise fun r s => r.epoch < s.epoch := by
  have hnat : ∀ i ∈ List.range (recorded es).length, (UInt64.ofNat i).toNat = i := by
    intro i hi
    have hlt := List.mem_range.mp hi
    exact UInt64.toNat_ofNat_of_lt' (Nat.lt_trans hlt hes)
  have hp : ((recorded es).map Record.epoch).Pairwise (· < ·) := by
    rw [h.epochs, List.pairwise_map]
    refine List.pairwise_lt_range.imp_of_mem fun hi hj hij => ?_
    rw [UInt64.lt_iff_toNat_lt, hnat _ hi, hnat _ hj]
    exact hij
  exact List.pairwise_map.mp hp

end Booked
end FailureLog
end TaggedCache
