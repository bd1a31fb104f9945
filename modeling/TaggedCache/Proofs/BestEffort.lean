import Mathlib.Data.List.Basic
import Mathlib.Logic.Relation
import TaggedCache.Proofs.Broadcast
import TaggedCache.Proofs.Roster
import TaggedCache.Storage.Scripted

/-!
# Broadcasts are best effort

The calls of a broadcast run side by side and end one after another in any order (`Broadcast.Ends`). However
they end, every bin is asked once, the answer accounts for every bin (`Broadcast.Accounts`), and each bin is
as its own call left it (`send_best_effort`).
-/

namespace TaggedCache

/-! ## Bins that remember what they are asked -/

/-- A bin with the tag operations it was asked for. -/
structure Watched (β : Type) where
  bin : β
  asked : List (Operation × TagSet)

namespace Watched

variable {β : Type} [Storage β]

/-- An operation that is cut off was asked for all the same. -/
instance : Storage (Watched β) where
  kind w := Storage.kind w.bin
  get now key w :=
    let (result, bin) := Storage.get now key w.bin
    (result, { w with bin })
  set key item w :=
    let (result, bin) := Storage.set key item w.bin
    (result, { w with bin })
  delete key w :=
    let (result, bin) := Storage.delete key w.bin
    (result, { w with bin })
  applyTags operation tags w :=
    let r := Storage.applyTags operation tags w.bin
    let asked := w.asked ++ [(operation, tags)]
    ⟨r.delay, r.outcome, ⟨r.after, asked⟩, ⟨r.cut, asked⟩⟩

theorem settle_applyTags (limit : Duration) (operation : Operation) (tags : TagSet) (w : Watched β) :
    Broadcast.settle limit (Storage.applyTags operation tags w) =
      ((Broadcast.settle limit (Storage.applyTags operation tags w.bin)).1,
        ⟨(Broadcast.settle limit (Storage.applyTags operation tags w.bin)).2,
          w.asked ++ [(operation, tags)]⟩) := by
  simp only [Broadcast.settle, Storage.applyTags]
  split <;> rfl

end Watched

namespace Broadcast

variable {β γ : Type}

/-! ## Calls that run side by side -/

/-- The call of one bin. -/
inductive Call (β : Type) where
  | running (bin : β)
  | ended (outcome : Except BinFault Unit) (bin : β)

/-- One of the running calls ends: in time with an outcome of its own, or because it is cut off. Which
one it is is left open. -/
inductive Ends [Storage β] (operation : Operation) (tags : TagSet) (limit : Duration) :
    Roster (Call β) → Roster (Call β) → Prop where
  | inTime {calls : Roster (Call β)} {name : String} {bin : β} :
      calls.get? name = some (.running bin) →
      (Storage.applyTags operation tags bin).delay ≤ limit.millis →
      Ends operation tags limit calls (calls.update name fun _ =>
        .ended (Storage.applyTags operation tags bin).outcome (Storage.applyTags operation tags bin).after)
  | cutOff {calls : Roster (Call β)} {name : String} {bin : β} :
      calls.get? name = some (.running bin) →
      limit.millis < (Storage.applyTags operation tags bin).delay →
      Ends operation tags limit calls (calls.update name fun _ =>
        .ended (.error (.timeout limit)) (Storage.applyTags operation tags bin).cut)

/-- No call is running. -/
def Over (calls : Roster (Call β)) : Prop := ∀ name bin, calls.get? name ≠ some (.running bin)

section Ends

variable [Storage β] {operation : Operation} {tags : TagSet} {limit : Duration}
  {calls more : Roster (Call β)} {name : String} {bin : β}

/-- A call that ends gives what the broadcast settles for its bin. -/
theorem Ends.settles (h : Ends operation tags limit calls more) :
    ∃ name bin, calls.get? name = some (.running bin) ∧ more = calls.update name fun _ =>
      .ended (settle limit (Storage.applyTags operation tags bin)).1
        (settle limit (Storage.applyTags operation tags bin)).2 := by
  cases h with
  | inTime hr ht => exact ⟨_, _, hr, by rw [settle, if_pos ht]⟩
  | cutOff hr ht => exact ⟨_, _, hr, by rw [settle, if_neg (Nat.not_le_of_lt ht)]⟩

/-- A running call can end. -/
theorem Ends.of_running (h : calls.get? name = some (.running bin)) :
    Ends operation tags limit calls (calls.update name fun _ =>
      .ended (settle limit (Storage.applyTags operation tags bin)).1
        (settle limit (Storage.applyTags operation tags bin)).2) := by
  by_cases ht : (Storage.applyTags operation tags bin).delay ≤ limit.millis
  · rw [settle, if_pos ht]
    exact .inTime h ht
  · rw [settle, if_neg ht]
    exact .cutOff h (Nat.lt_of_not_le ht)

theorem Ends.exists_run (operation : Operation) (tags : TagSet) (limit : Duration) (names : List String)
    (calls : Roster (Call β)) :
    ∃ final, Relation.ReflTransGen (Ends operation tags limit) calls final ∧
      ∀ name bin, final.get? name = some (.running bin) →
        calls.get? name = some (.running bin) ∧ name ∉ names := by
  induction names generalizing calls with
  | nil => exact ⟨calls, .refl, fun name bin h => ⟨h, List.not_mem_nil⟩⟩
  | cons m rest ih =>
    by_cases hm : ∃ bin, calls.get? m = some (.running bin)
    · obtain ⟨bin, hm⟩ := hm
      obtain ⟨final, hrun, hf⟩ := ih (calls.update m fun _ =>
        .ended (settle limit (Storage.applyTags operation tags bin)).1
          (settle limit (Storage.applyTags operation tags bin)).2)
      refine ⟨final, .head (Ends.of_running hm) hrun, fun name bin' h => ?_⟩
      obtain ⟨hr, hn⟩ := hf name bin' h
      rw [Roster.get?_update] at hr
      split at hr
      · next he => simp [he, hm] at hr
      · next he => exact ⟨hr, by simp [he, hn]⟩
    · obtain ⟨final, hrun, hf⟩ := ih calls
      refine ⟨final, hrun, fun name bin h => ?_⟩
      obtain ⟨hr, hn⟩ := hf name bin h
      have he : name ≠ m := fun he => hm ⟨bin, he ▸ hr⟩
      exact ⟨hr, by simp [he, hn]⟩

end Ends

/-! ## What an answer accounts for -/

/-- The lists of an answer say of each of the named bins how its call ended. -/
structure Accounts (names : List String) (calls : Roster (Call β)) (succeeded : List String)
    (failures : List BinFailure) : Prop where
  succeeded_ascending : succeeded.Pairwise (· < ·)
  failed_ascending : (failures.map (·.bin)).Pairwise (· < ·)
  disjoint : ∀ name ∈ succeeded, name ∉ failures.map (·.bin)
  complete : ∀ name, (name ∈ succeeded ∨ name ∈ failures.map (·.bin)) ↔ name ∈ names
  succeeds_iff : ∀ name, name ∈ succeeded ↔ ∃ bin, calls.get? name = some (.ended (.ok ()) bin)
  fails_iff : ∀ name fault,
    ⟨name, fault⟩ ∈ failures ↔ ∃ bin, calls.get? name = some (.ended (.error fault) bin)

variable {settled : Roster (Except BinFault Unit × β)} {name : String}

theorem mem_successes : name ∈ successes settled ↔ ∃ bin, settled.get? name = some (.ok (), bin) := by
  simp only [successes, List.mem_filterMap, Roster.get?_eq_some_iff]
  constructor
  · rintro ⟨⟨m, outcome, bin⟩, hp, hm⟩
    cases outcome with
    | error fault => simp at hm
    | ok u =>
      obtain rfl : m = name := by simpa using hm
      exact ⟨bin, hp⟩
  · rintro ⟨bin, hp⟩
    exact ⟨_, hp, rfl⟩

theorem mem_failures {fault : BinFault} :
    ⟨name, fault⟩ ∈ failures settled ↔ ∃ bin, settled.get? name = some (.error fault, bin) := by
  simp only [failures, List.mem_filterMap, Roster.get?_eq_some_iff]
  constructor
  · rintro ⟨⟨m, outcome, bin⟩, hp, hm⟩
    cases outcome with
    | error e =>
      obtain ⟨rfl, rfl⟩ : m = name ∧ e = fault := by simpa using hm
      exact ⟨bin, hp⟩
    | ok u => simp at hm
  · rintro ⟨bin, hp⟩
    exact ⟨_, hp, rfl⟩

theorem mem_failed : name ∈ (failures settled).map (·.bin) ↔
    ∃ fault bin, settled.get? name = some (.error fault, bin) := by
  constructor
  · intro h
    obtain ⟨failure, hf, rfl⟩ := List.mem_map.mp h
    exact ⟨failure.fault, mem_failures.mp hf⟩
  · rintro ⟨fault, h⟩
    exact List.mem_map.mpr ⟨⟨name, fault⟩, mem_failures.mpr h, rfl⟩

theorem successes_sublist (settled : Roster (Except BinFault Unit × β)) :
    (successes settled).Sublist settled.names := by
  unfold successes Roster.names
  induction settled.toList with
  | nil => exact .slnil
  | cons p rest ih =>
    obtain ⟨name, outcome, bin⟩ := p
    cases outcome with
    | error fault => simpa using ih.cons name
    | ok u => simpa using ih

theorem failures_sublist (settled : Roster (Except BinFault Unit × β)) :
    ((failures settled).map (·.bin)).Sublist settled.names := by
  rw [failures_bins]
  exact List.filter_sublist.map _

/-- The answer does not depend on what the bins are like afterwards. -/
theorem failures_map (f : β → γ) (settled : Roster (Except BinFault Unit × β)) :
    failures (settled.map fun _ s => (s.1, f s.2)) = failures settled := by
  unfold failures Roster.map
  rw [List.filterMap_map]
  refine List.filterMap_congr fun p hp => ?_
  obtain ⟨name, outcome, bin⟩ := p
  cases outcome <;> rfl

theorem successes_map (f : β → γ) (settled : Roster (Except BinFault Unit × β)) :
    successes (settled.map fun _ s => (s.1, f s.2)) = successes settled := by
  unfold successes Roster.map
  rw [List.filterMap_map]
  refine List.filterMap_congr fun p hp => ?_
  obtain ⟨name, outcome, bin⟩ := p
  cases outcome <;> rfl

theorem accounts_settled {calls : Roster (Call β)}
    (h : ∀ name, calls.get? name = (settled.get? name).map fun s => .ended s.1 s.2) :
    Accounts settled.names calls (successes settled) (failures settled) where
  succeeded_ascending := settled.ascending.sublist (successes_sublist settled)
  failed_ascending := settled.ascending.sublist (failures_sublist settled)
  disjoint name hs hf := by
    obtain ⟨bin, hs⟩ := mem_successes.mp hs
    obtain ⟨fault, bin', hf⟩ := mem_failed.mp hf
    simp [hs] at hf
  complete name := by
    rw [Roster.mem_names_iff, mem_successes, mem_failed]
    constructor
    · rintro (⟨bin, hs⟩ | ⟨fault, bin, hs⟩)
      · exact ⟨_, hs⟩
      · exact ⟨_, hs⟩
    · rintro ⟨⟨outcome, bin⟩, hs⟩
      cases outcome with
      | ok u => exact .inl ⟨bin, hs⟩
      | error fault => exact .inr ⟨fault, bin, hs⟩
  succeeds_iff name := by
    rw [mem_successes, h]
    simp
  fails_iff name fault := by
    rw [mem_failures, h]
    simp

end Broadcast

namespace Broadcaster

open Broadcast (Call Ends Over Accounts)

variable {β : Type}

/-- The calls of a broadcast before any of them has ended. -/
def started (b : Broadcaster β) : Roster (Call β) := b.bins.map fun _ bin => .running bin

/-- The broadcaster with bins that remember what they are asked. Nothing was asked yet. -/
def watched (b : Broadcaster β) : Broadcaster (Watched β) where
  bins := b.bins.map fun _ bin => ⟨bin, []⟩
  timeout := b.timeout
  counts := b.counts

variable [Storage β] {operation : Operation} {tags : TagSet} {b : Broadcaster β}
  {calls more : Roster (Call β)}

/-! ## Every order of endings -/

/-- Each call is running, or has ended as the broadcast settles it. -/
def Tracks (operation : Operation) (tags : TagSet) (b : Broadcaster β) (calls : Roster (Call β)) : Prop :=
  ∀ name, calls.get? name = (b.bins.get? name).map .running ∨
    calls.get? name = ((b.settled operation tags).get? name).map fun s => .ended s.1 s.2

theorem Tracks.started (operation : Operation) (tags : TagSet) (b : Broadcaster β) :
    b.Tracks operation tags b.started := fun name => .inl (by rw [Broadcaster.started, Roster.get?_map])

theorem Tracks.step (h : b.Tracks operation tags calls) (hs : Ends operation tags b.timeout calls more) :
    b.Tracks operation tags more := by
  obtain ⟨m, bin, hm, rfl⟩ := hs.settles
  intro name
  rw [Roster.get?_update]
  split
  · next he =>
    subst he
    -- The call was running, so its bin is the one that was registered.
    have hbin : b.bins.get? name = some bin := by
      rcases h name with hr | hr
      · simpa [hm] using hr.symm
      · rw [hm] at hr
        obtain ⟨s, -, hs⟩ := Option.map_eq_some_iff.mp hr.symm
        cases hs
    right
    rw [hm, settled, Roster.get?_map, hbin]
    rfl
  · exact h name

theorem Tracks.run (h : Relation.ReflTransGen (Ends operation tags b.timeout) b.started calls) :
    b.Tracks operation tags calls := by
  induction h with
  | refl => exact Tracks.started operation tags b
  | tail _ hs ih => exact ih.step hs

theorem Tracks.over (h : b.Tracks operation tags calls) (ho : Over calls) (name : String) :
    calls.get? name = ((b.settled operation tags).get? name).map fun s => .ended s.1 s.2 := by
  rcases h name with hr | hr
  · cases hb : b.bins.get? name with
    | none => rw [hr, settled, Roster.get?_map, hb]; rfl
    | some bin =>
      rw [hb] at hr
      exact absurd hr (ho name bin)
  · exact hr

theorem exists_over (operation : Operation) (tags : TagSet) (b : Broadcaster β) :
    ∃ calls, Relation.ReflTransGen (Ends operation tags b.timeout) b.started calls ∧ Over calls := by
  obtain ⟨calls, hrun, hc⟩ := Ends.exists_run operation tags b.timeout b.bins.names b.started
  refine ⟨calls, hrun, fun name bin hr => ?_⟩
  obtain ⟨hs, hn⟩ := hc name bin hr
  have hm : name ∈ b.started.names := Roster.mem_names_iff.mpr ⟨_, hs⟩
  rw [started, Roster.names_map] at hm
  exact hn hm

/-! ## What is left of a broadcast -/

theorem send_bins (ht : tags.isEmpty = false) :
    (b.send operation tags).2.bins = (b.settled operation tags).map fun _ s => s.2 := by
  simp only [send, ht, Bool.false_eq_true, if_false, settled]
  split <;> rfl

theorem send_of_isEmpty (ht : tags.isEmpty = true) :
    b.send operation tags = (.ok ⟨operation, .empty, []⟩, b) := by
  simp [send, ht]

theorem settled_watched (operation : Operation) (tags : TagSet) (b : Broadcaster β) :
    b.watched.settled operation tags =
      (b.settled operation tags).map fun _ s => (s.1, ⟨s.2, [(operation, tags)]⟩) := by
  simp only [settled, watched, Roster.map, List.map_map, Function.comp_def, Watched.settle_applyTags,
    List.nil_append]

/-- Watching bins changes no answer. -/
theorem send_watched_fst (operation : Operation) (tags : TagSet) (b : Broadcaster β) :
    (b.watched.send operation tags).1 = (b.send operation tags).1 := by
  cases ht : tags.isEmpty with
  | true => rw [send_of_isEmpty ht, send_of_isEmpty ht]
  | false =>
    let watch (bin : β) : Watched β := ⟨bin, [(operation, tags)]⟩
    rw [send_fst ht, send_fst ht, settled_watched, Broadcast.failures_map watch,
      Broadcast.successes_map watch]

/-- A watched bin ends like the bin inside it, and was asked once if there was anything to ask for. -/
theorem send_watched_bins (operation : Operation) (tags : TagSet) (b : Broadcaster β) :
    (b.watched.send operation tags).2.bins = (b.send operation tags).2.bins.map fun _ bin =>
      ⟨bin, if tags.isEmpty then [] else [(operation, tags)]⟩ := by
  cases ht : tags.isEmpty with
  | true =>
    rw [send_of_isEmpty ht, send_of_isEmpty ht]
    rfl
  | false =>
    rw [send_bins ht, send_bins ht, settled_watched]
    simp [Roster.map, Function.comp_def]

/-- A broadcast asks every bin once for its operation, with its tags; without tags it asks none. In
whatever order the calls end, the answer accounts for all of them, and is a report exactly when none
failed. Each bin ends as its own call left it: changed by the operation alone when that was in time, and
cut off with a timeout otherwise. -/
theorem send_best_effort (operation : Operation) (tags : TagSet) (b : Broadcaster β) :
    (b.watched.send operation tags).1 = (b.send operation tags).1 ∧
    (b.watched.send operation tags).2.bins = ((b.send operation tags).2.bins.map fun _ bin =>
      ⟨bin, if tags.isEmpty then [] else [(operation, tags)]⟩) ∧
    (tags.isEmpty = true → b.send operation tags = (.ok ⟨operation, .empty, []⟩, b)) ∧
    (tags.isEmpty = false →
      (∃ calls, Relation.ReflTransGen (Ends operation tags b.timeout) b.started calls ∧ Over calls) ∧
      ∀ calls, Relation.ReflTransGen (Ends operation tags b.timeout) b.started calls → Over calls →
        (∃ succeeded failures, Accounts b.bins.names calls succeeded failures ∧
          (b.send operation tags).1 =
            if failures = [] then .ok ⟨operation, tags, b.bins.names⟩
            else .error ⟨operation, failures, succeeded⟩) ∧
        (∀ name bin, b.bins.get? name = some bin →
          let reply := Storage.applyTags operation tags bin
          calls.get? name = some (if reply.delay ≤ b.timeout.millis then .ended reply.outcome reply.after
            else .ended (.error (.timeout b.timeout)) reply.cut)) ∧
        ∀ name bin, (b.send operation tags).2.bins.get? name = some bin ↔
          ∃ outcome, calls.get? name = some (.ended outcome bin)) := by
  refine ⟨send_watched_fst operation tags b, send_watched_bins operation tags b, send_of_isEmpty,
    fun ht => ⟨exists_over operation tags b, fun calls hrun ho => ?_⟩⟩
  have hc := (Tracks.run hrun).over ho
  have hnames : (b.settled operation tags).names = b.bins.names := Roster.names_map _ _
  refine ⟨⟨_, _, hnames ▸ Broadcast.accounts_settled hc, ?_⟩, ?_, ?_⟩
  · rw [send_fst ht]
    split
    · next hf => rw [Broadcast.successes_of_no_failures hf, hnames]
    · rfl
  · intro name bin hb reply
    rw [hc, settled, Roster.get?_map, hb]
    show some (Call.ended (Broadcast.settle b.timeout reply).1 (Broadcast.settle b.timeout reply).2) = _
    unfold Broadcast.settle
    split <;> rfl
  · intro name bin
    rw [send_bins ht, Roster.get?_map, hc]
    simp [Option.map_eq_some_iff]

/-- One bin applies the operation, one refuses it and one is too slow. -/
def mixed : Broadcaster Scripted :=
  let bins : Roster Scripted := ((Roster.empty.insert "data" (.idle "quick")).insert "page"
    ⟨"down", [], (0, .error (.unavailable "down")), []⟩).insert "render" ⟨"slow", [], (60000, .ok ()), []⟩
  .new bins ⟨50⟩

theorem send_best_effort_mixed :
    let tags : TagSet := ⟨[⟨"node:5", by decide⟩], by simp⟩
    let failures : List BinFailure := [⟨"page", .unavailable "down"⟩, ⟨"render", .timeout ⟨50⟩⟩]
    tags.isEmpty = false ∧
      (mixed.send .invalidate tags).1 = .error ⟨.invalidate, failures, ["data"]⟩ ∧
      ∃ calls : Roster (Call Scripted),
        Relation.ReflTransGen (Ends .invalidate tags ⟨50⟩) mixed.started calls ∧ Over calls ∧
        Accounts ["data", "page", "render"] calls ["data"] failures := by
  intro tags failures
  have hsend : (mixed.send .invalidate tags).1 = .error ⟨.invalidate, failures, ["data"]⟩ := by
    decide +kernel
  obtain ⟨-, -, -, hall⟩ := send_best_effort .invalidate tags mixed
  obtain ⟨⟨calls, hrun, ho⟩, hcalls⟩ := hall rfl
  obtain ⟨⟨named, failed, ha, he⟩, -, -⟩ := hcalls calls hrun ho
  refine ⟨rfl, hsend, calls, hrun, ho, ?_⟩
  rw [hsend] at he
  split at he
  · cases he
  · obtain ⟨-, rfl, rfl⟩ := BroadcastFault.mk.inj (Except.error.inj he)
    exact ha

end Broadcaster
end TaggedCache
