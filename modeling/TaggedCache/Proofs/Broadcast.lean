import TaggedCache.Broadcast

/-!
# What a broadcast answers

`Broadcaster.failing` is read off the bins alone. A broadcast succeeds exactly when no bin fails, and
names the failing bins otherwise.
-/

namespace TaggedCache

variable {β : Type}

/-- The call ends in time and well. -/
def Reply.succeeds (limit : Duration) (reply : Reply β) : Bool :=
  decide (reply.delay ≤ limit.millis) && reply.outcome.isOk

namespace Broadcast

theorem isOk_settle (limit : Duration) (reply : Reply β) :
    (settle limit reply).1.isOk = reply.succeeds limit := by
  unfold settle Reply.succeeds
  split
  · next h => simp [h]
  · next h => simp [h, Except.isOk, Except.toBool]

theorem failures_bins (settled : Roster (Except BinFault Unit × β)) :
    (failures settled).map (·.bin) = (settled.toList.filter fun p => !p.2.1.isOk).map Prod.fst := by
  unfold failures
  induction settled.toList with
  | nil => rfl
  | cons p rest ih =>
    obtain ⟨name, outcome, bin⟩ := p
    cases outcome with
    | error fault => simpa [Except.isOk, Except.toBool] using ih
    | ok u => simpa [Except.isOk, Except.toBool] using ih

theorem successes_of_no_failures {settled : Roster (Except BinFault Unit × β)}
    (h : failures settled = []) : successes settled = settled.names := by
  unfold failures at h
  unfold successes Roster.names
  generalize settled.toList = ps at h
  induction ps with
  | nil => rfl
  | cons p rest ih =>
    obtain ⟨name, outcome, bin⟩ := p
    cases outcome with
    | error fault => simp at h
    | ok u => simpa using ih (by simpa using h)

end Broadcast

namespace Broadcaster

variable [Storage β] {operation : Operation} {tags : TagSet} {b : Broadcaster β}

/-- The bins that fail an operation, in name order. Without tags no bin is asked, so none fails. -/
def failing (operation : Operation) (tags : TagSet) (b : Broadcaster β) : List String :=
  if tags.isEmpty then []
  else (b.bins.toList.filter fun p =>
    !(Storage.applyTags operation tags p.2).succeeds b.timeout).map Prod.fst

/-- How the calls of a broadcast end. -/
def settled (operation : Operation) (tags : TagSet) (b : Broadcaster β) :
    Roster (Except BinFault Unit × β) :=
  b.bins.map fun _ bin => Broadcast.settle b.timeout (Storage.applyTags operation tags bin)

theorem send_fst (ht : tags.isEmpty = false) :
    (b.send operation tags).1 =
      if Broadcast.failures (b.settled operation tags) = [] then
        .ok ⟨operation, tags, Broadcast.successes (b.settled operation tags)⟩
      else .error ⟨operation, Broadcast.failures (b.settled operation tags),
        Broadcast.successes (b.settled operation tags)⟩ := by
  simp only [send, ht, Bool.false_eq_true, if_false, List.isEmpty_iff, settled]
  exact apply_ite Prod.fst _ _ _

theorem failures_settled (ht : tags.isEmpty = false) :
    (Broadcast.failures (b.settled operation tags)).map (·.bin) = b.failing operation tags := by
  rw [Broadcast.failures_bins, failing, if_neg (by simp [ht])]
  simp [settled, Roster.map, List.filter_map, Function.comp_def, Broadcast.isOk_settle]

theorem send_names (operation : Operation) (tags : TagSet) (b : Broadcaster β) :
    (b.send operation tags).2.bins.names = b.bins.names := by
  simp only [send]
  split
  · rfl
  · split <;> simp

theorem send_report (ht : tags.isEmpty = false) (h : b.failing operation tags = []) :
    (b.send operation tags).1 = .ok ⟨operation, tags, b.bins.names⟩ := by
  have hf : Broadcast.failures (b.settled operation tags) = [] := by
    rw [← List.map_eq_nil_iff, failures_settled ht, h]
  rw [send_fst ht, if_pos hf, Broadcast.successes_of_no_failures hf, settled, Roster.names_map]

theorem send_of_none_failing (h : b.failing operation tags = []) :
    ∃ report, (b.send operation tags).1 = .ok report ∧
      (tags.isEmpty = false → report.bins = b.bins.names) := by
  cases ht : tags.isEmpty with
  | true => exact ⟨⟨operation, .empty, []⟩, by simp [send, ht], nofun⟩
  | false => exact ⟨_, send_report ht h, fun _ => rfl⟩

theorem send_of_failing (h : b.failing operation tags ≠ []) :
    tags.isEmpty = false ∧ ∃ fault, (b.send operation tags).1 = .error fault ∧
      fault.operation = operation ∧ fault.failedBins = b.failing operation tags := by
  have ht : tags.isEmpty = false := by
    rw [Bool.eq_false_iff]
    intro ht
    exact h (by simp [failing, ht])
  have hf : Broadcast.failures (b.settled operation tags) ≠ [] := by
    rw [← failures_settled ht] at h
    exact fun he => h (by rw [he, List.map_nil])
  refine ⟨ht, _, by rw [send_fst ht, if_neg hf], rfl, ?_⟩
  exact failures_settled ht

end Broadcaster
end TaggedCache
