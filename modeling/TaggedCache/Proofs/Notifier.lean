import Mathlib.Logic.Relation
import TaggedCache.Proofs.Broadcast
import TaggedCache.Proofs.FailureLog
import TaggedCache.Proofs.Tag
import TaggedCache.Storage.Scripted

/-!
# No failure is lost

A run of calls has a history. `Kept` is what a notifier and its history have to do with one another in
the middle of a retry, where some drained records are still to be broadcast again.
-/

namespace TaggedCache

namespace Notifier

open FailureLog (Record Event Booked recorded departed overflowed noted)

variable {β : Type}

/-! ## Runs -/

section Runs

variable [Storage β]

/-- Tells of a change or of a deletion. -/
def tell : Operation → List String → Notifier β → Except Fault Outcome × Notifier β
  | .invalidate, tags, n => n.tagsChanged tags
  | .delete, tags, n => n.tagsDeleted tags

theorem tell_eq (operation : Operation) (tags : List String) (n : Notifier β) :
    n.tell operation tags = n.notifyTexts operation tags := by
  cases operation with
  | invalidate => rfl
  | delete => rfl

/-- A call of a notifier. -/
inductive Call where
  /-- Something has changed or is gone. -/
  | tell (operation : Operation) (tags : List String)
  /-- Up to so many waiting records are to be tried again. -/
  | retry (count : Nat)

/-- The notifier after a call. -/
def Call.apply (n : Notifier β) : Call → Notifier β
  | .tell operation tags => (n.tell operation tags).2
  | .retry count => (n.retryFailed count).2

/-- What happens while records are broadcast again, one after another. -/
def replayed : List Record → Notifier β → List Event
  | [], _ => []
  | r :: rest, n =>
    noted n.log (n.notify r.operation r.tags).1 ++ [.retry r (n.notify r.operation r.tags).1]
      ++ replayed rest (n.notify r.operation r.tags).2

/-- What happens to the records in a call. -/
def Call.events (n : Notifier β) : Call → List Event
  | .tell operation tags =>
    match (n.tell operation tags).1 with
    | .ok outcome => noted n.log outcome
    | .error _ => []
  | .retry count =>
    (n.log.drain count).1.map .drain
      ++ replayed (n.log.drain count).1 { n with log := (n.log.drain count).2 }

/-- The notifier after a run. -/
def after (calls : List Call) (n : Notifier β) : Notifier β := calls.foldl Call.apply n

/-- What happens to the records in a run. -/
def history : List Call → Notifier β → List Event
  | [], _ => []
  | c :: calls, n => c.events n ++ history calls (c.apply n)

theorem history_append (calls more : List Call) (n : Notifier β) :
    history (calls ++ more) n = history calls n ++ history more (after calls n) := by
  induction calls generalizing n with
  | nil => rfl
  | cons c calls ih =>
    rw [List.cons_append, history, history, ih, List.append_assoc]
    rfl

/-- A broadcast either reaches every bin it asks and leaves the log alone, or makes a record that names
the failing bins. -/
theorem notify_cases (operation : Operation) (tags : TagSet) (n : Notifier β) :
    (n.broadcaster.failing operation tags = [] ∧
        ∃ report, (n.notify operation tags).1 = .applied report ∧
          (n.notify operation tags).2.log = n.log ∧
          (tags.isEmpty = false → report.bins = n.broadcaster.bins.names)) ∨
      (n.broadcaster.failing operation tags ≠ [] ∧ tags.isEmpty = false ∧
        ∃ fault, (n.notify operation tags).1 = .deferred (n.log.record fault tags).1 ∧
          (n.notify operation tags).2.log = (n.log.record fault tags).2 ∧
          fault.operation = operation ∧
          fault.failedBins = n.broadcaster.failing operation tags) := by
  by_cases hf : n.broadcaster.failing operation tags = []
  · obtain ⟨report, hr, hb⟩ := Broadcaster.send_of_none_failing hf
    exact .inl ⟨hf, report, by simp [notify, hr], by simp [notify, hr], hb⟩
  · obtain ⟨ht, fault, hr, ho, hb⟩ := Broadcaster.send_of_failing hf
    exact .inr ⟨hf, ht, fault, by simp [notify, hr], by simp [notify, hr], ho, hb⟩

theorem notify_broadcaster (operation : Operation) (tags : TagSet) (n : Notifier β) :
    (n.notify operation tags).2.broadcaster = (n.broadcaster.send operation tags).2 := by
  cases hr : (n.broadcaster.send operation tags).1 with
  | ok report => simp [notify, hr]
  | error fault => simp [notify, hr]

theorem notify_names (operation : Operation) (tags : TagSet) (n : Notifier β) :
    (n.notify operation tags).2.broadcaster.bins.names = n.broadcaster.bins.names := by
  rw [notify_broadcaster, Broadcaster.send_names]

end Runs

/-! ## Where a request is -/

/-- A retry of one record made the other. -/
def Renewed (es : List Event) (r s : Record) : Prop := .retry r (.deferred s) ∈ es

/-- Where a record is that was not renewed: it waits, was dropped, or reached all bins in a retry. -/
def Rests (names : List String) (l : FailureLog) (es : List Event) (r : Record) : Prop :=
  r ∈ l.records ∨ .drop r ∈ es ∨ ∃ report, .retry r (.applied report) ∈ es ∧ report.bins = names

/-- The request of a record asks for the same in the last record made for it. -/
def Followed (rests : Record → Prop) (es : List Event) (r : Record) : Prop :=
  ∃ last, Relation.ReflTransGen (Renewed es) r last ∧ last.operation = r.operation ∧
    last.tags = r.tags ∧ rests last

section Requests

variable {names : List String} {l : FailureLog} {es fs : List Event} {r s : Record}
  {rests rests' : Record → Prop}

theorem Rests.later {l' : FailureLog} (h : Rests names l es r) (hes : ∀ e ∈ es, e ∈ fs)
    (hl : r ∈ l.records → r ∈ l'.records ∨ .drop r ∈ fs) : Rests names l' fs r := by
  rcases h with h | h | ⟨report, h, hb⟩
  · rcases hl h with h | h
    · exact .inl h
    · exact .inr (.inl h)
  · exact .inr (.inl (hes _ h))
  · exact .inr (.inr ⟨report, hes _ h, hb⟩)

theorem Rests.record (h : Rests names l es r) (fault : BroadcastFault) (tags : TagSet) :
    Rests names (l.record fault tags).2 (es ++ noted l (.deferred (l.record fault tags).1)) r := by
  refine h.later (fun e he => List.mem_append_left _ he) fun hr => ?_
  have hmem : r ∈ l.overflow ++ (l.record fault tags).2.records := by
    rw [FailureLog.overflow_record]
    exact List.mem_append_left _ hr
  rcases List.mem_append.mp hmem with h | h
  · exact .inr (List.mem_append_right _ (List.mem_append_left _ (List.mem_map_of_mem h)))
  · exact .inl h

theorem Followed.self (h : rests r) : Followed rests es r := ⟨r, .refl, rfl, rfl, h⟩

theorem Followed.of_renewed (h : .retry r (.deferred s) ∈ es) (ho : s.operation = r.operation)
    (ht : s.tags = r.tags) (hs : rests s) : Followed rests es r :=
  ⟨s, .single h, ho, ht, hs⟩

theorem Followed.later (h : Followed rests es r) (hes : ∀ e ∈ es, e ∈ fs)
    (hr : ∀ s, rests s → Followed rests' fs s) : Followed rests' fs r := by
  obtain ⟨mid, hmid, ho, ht, hm⟩ := h
  obtain ⟨last, hlast, ho', ht', hl⟩ := hr mid hm
  have hmid' := Relation.ReflTransGen.mono (fun _ _ hs => hes _ hs) r mid hmid
  exact ⟨last, hmid'.trans hlast, ho'.trans ho, ht'.trans ht, hl⟩

end Requests

/-! ## What a run keeps -/

/-- What holds while the `pending` records are still to be broadcast again. -/
structure Kept (names : List String) (limit : Nat) (pending : List Record) (n : Notifier β)
    (es : List Event) : Prop where
  names_eq : n.broadcaster.bins.names = names
  limit_eq : n.log.limit = limit
  booked : Booked n.log es
  tagged : ∀ r ∈ recorded es, r.tags.isEmpty = false
  drained : ∀ r ∈ pending, r ∈ recorded es
  followed : ∀ r ∈ recorded es, Followed (fun s => Rests names n.log es s ∨ s ∈ pending) es r

namespace Kept

variable {names : List String} {limit : Nat} {pending : List Record} {n : Notifier β} {es : List Event}

theorem new (b : Broadcaster β) (limit : Nat) :
    Kept b.bins.names (roomFor limit) [] (new b limit) [] where
  names_eq := rfl
  limit_eq := rfl
  booked := Booked.new limit
  tagged := nofun
  drained := nofun
  followed := nofun

/-- Taking records out leaves them pending. -/
theorem drain (h : Kept names limit [] n es) (count : Nat) :
    Kept names limit (n.log.drain count).1 { n with log := (n.log.drain count).2 }
      (es ++ (n.log.drain count).1.map .drain) where
  names_eq := h.names_eq
  limit_eq := h.limit_eq
  booked := h.booked.drain count
  tagged := by simpa using h.tagged
  drained r hr := by
    rw [FailureLog.recorded_append, h.booked.split]
    exact List.mem_append_left _ (List.mem_append_right _ (List.mem_of_mem_take hr))
  followed r hr := by
    rw [FailureLog.recorded_append, FailureLog.recorded_drains, List.append_nil] at hr
    have hes : ∀ e ∈ es, e ∈ es ++ (n.log.drain count).1.map .drain :=
      fun e he => List.mem_append_left _ he
    refine (h.followed r hr).later hes fun s hs => .self ?_
    have hs := hs.resolve_right List.not_mem_nil
    by_cases hp : s ∈ (n.log.drain count).1
    · exact .inr hp
    · refine .inl (hs.later hes fun hl => ?_)
      rw [← FailureLog.drain_append count] at hl
      exact .inl ((List.mem_append.mp hl).resolve_left hp)

/-- A record that was broadcast again is no longer pending: it has reached every bin or was renewed. -/
theorem retry {r : Record} {o : Outcome} (h : Kept names limit (r :: pending) n es)
    (ho : (∃ report, o = .applied report ∧ report.bins = names) ∨
      ∃ s ∈ n.log.records, o = .deferred s ∧ s.operation = r.operation ∧ s.tags = r.tags) :
    Kept names limit pending n (es ++ [.retry r o]) where
  names_eq := h.names_eq
  limit_eq := h.limit_eq
  booked := h.booked.retry r o
  tagged := by simpa using h.tagged
  drained s hs := by
    rw [FailureLog.recorded_append]
    exact List.mem_append_left _ (h.drained s (List.mem_cons_of_mem _ hs))
  followed s hs := by
    rw [FailureLog.recorded_append, FailureLog.recorded_retry, List.append_nil] at hs
    have hes : ∀ e ∈ es, e ∈ es ++ [.retry r o] := fun e he => List.mem_append_left _ he
    have hlast : .retry r o ∈ es ++ [.retry r o] :=
      List.mem_append_right _ (List.mem_singleton_self _)
    refine (h.followed s hs).later hes fun t ht => ?_
    rcases ht with ht | ht
    · exact .self (.inl (ht.later hes .inl))
    · rcases List.mem_cons.mp ht with rfl | ht
      · rcases ho with ⟨report, rfl, hb⟩ | ⟨u, hu, rfl, hop, htags⟩
        · exact .self (.inl (.inr (.inr ⟨report, hlast, hb⟩)))
        · exact .of_renewed hlast hop htags (.inl (.inl hu))
      · exact .self (.inr ht)

variable [Storage β]

theorem notify (h : Kept names limit pending n es) (operation : Operation) (tags : TagSet) :
    Kept names limit pending (n.notify operation tags).2
      (es ++ noted n.log (n.notify operation tags).1) := by
  have hn : (n.notify operation tags).2.broadcaster.bins.names = names := by
    rw [notify_names, h.names_eq]
  rcases notify_cases operation tags n with ⟨-, report, ho, hl, -⟩ | ⟨-, ht, fault, ho, hl, -, -⟩
  · rw [ho, noted, List.append_nil]
    exact ⟨hn, hl ▸ h.limit_eq, hl ▸ h.booked, h.tagged, h.drained, hl ▸ h.followed⟩
  · rw [ho]
    refine ⟨hn, hl ▸ h.limit_eq, hl ▸ h.booked.record fault tags, ?_, ?_, ?_⟩
    · intro r hr
      rw [FailureLog.recorded_append, FailureLog.recorded_noted] at hr
      rcases List.mem_append.mp hr with hr | hr
      · exact h.tagged r hr
      · rw [List.mem_singleton.mp hr]
        exact ht
    · intro r hr
      rw [FailureLog.recorded_append]
      exact List.mem_append_left _ (h.drained r hr)
    · intro r hr
      rw [FailureLog.recorded_append, FailureLog.recorded_noted] at hr
      rw [hl]
      rcases List.mem_append.mp hr with hr | hr
      · refine (h.followed r hr).later (fun e he => List.mem_append_left _ he) fun s hs => .self ?_
        exact hs.imp_left fun hs => hs.record fault tags
      · rw [List.mem_singleton.mp hr]
        exact .self (.inl (.inl FailureLog.mem_record))

theorem replay (h : Kept names limit pending n es) (summary : RetrySummary) :
    Kept names limit [] (n.replay pending summary).2 (es ++ replayed pending n) := by
  induction pending generalizing n es summary with
  | nil => simpa [Notifier.replay, replayed] using h
  | cons r rest ih =>
    have ht := h.tagged r (h.drained r List.mem_cons_self)
    have hn := h.notify r.operation r.tags
    have hk : Kept names limit rest (n.notify r.operation r.tags).2
        (es ++ noted n.log (n.notify r.operation r.tags).1 ++
          [.retry r (n.notify r.operation r.tags).1]) := by
      refine hn.retry ?_
      rcases notify_cases r.operation r.tags n with
        ⟨-, report, ho, -, hb⟩ | ⟨-, -, fault, ho, hl, hop, -⟩
      · exact .inl ⟨report, ho, (hb ht).trans h.names_eq⟩
      · refine .inr ⟨_, ?_, ho, hop, rfl⟩
        rw [hl]
        exact FailureLog.mem_record
    rw [replayed, ← List.append_assoc, ← List.append_assoc, Notifier.replay]
    split
    · next hr => exact hr ▸ ih (by simpa [hr] using hk) _
    · next hr => exact hr ▸ ih (by simpa [hr] using hk) _

theorem apply (h : Kept names limit [] n es) (c : Call) :
    Kept names limit [] (c.apply n) (es ++ c.events n) := by
  cases c with
  | tell operation tags =>
    simp only [Call.apply, Call.events, tell_eq, notifyTexts]
    cases TagSet.ofTexts tags with
    | error fault => simpa using h
    | ok tags => exact h.notify operation tags
  | retry count =>
    rw [Call.events, ← List.append_assoc]
    exact (h.drain count).replay _

theorem after (h : Kept names limit [] n es) (calls : List Call) :
    Kept names limit [] (after calls n) (es ++ history calls n) := by
  induction calls generalizing n es with
  | nil => simpa [Notifier.after, history] using h
  | cons c calls ih =>
    rw [history, ← List.append_assoc]
    exact ih (h.apply c)

end Kept

section Answers

variable [Storage β]

theorem recorded_of_told {calls before rest : List Call} {operation : Operation} {texts : List String}
    {r : Record} {n : Notifier β} (hc : calls = before ++ .tell operation texts :: rest)
    (h : ((Notifier.after before n).tell operation texts).1 = .ok (.deferred r)) :
    r ∈ recorded (history calls n) := by
  rw [hc, history_append, history, Call.events, h, FailureLog.recorded_append,
    FailureLog.recorded_append, FailureLog.recorded_noted]
  simp

theorem tell_of_valid (operation : Operation) {texts : List String} (h : ∀ t ∈ texts, t ≠ "")
    (n : Notifier β) : ∃ tags : TagSet, (∀ t, t ∈ tags ↔ t.text ∈ texts) ∧
      (n.tell operation texts).1 = .ok (n.notify operation tags).1 := by
  obtain ⟨tags, ht, hm⟩ := TagSet.ofTexts_of_ne h
  exact ⟨tags, hm, by rw [tell_eq, notifyTexts, ht]⟩

/-- A notification of valid tags is never an error: it is applied when no bin fails it, and deferred with
the failing bins otherwise. What was recorded was drained, dropped or waits, in this order and counted,
and the request of each record waits, was dropped or reached every bin in a retry. -/
theorem no_failure_is_lost (b : Broadcaster β) {limit : Nat} (hlimit : 0 < limit) (calls : List Call)
    (hrecords : (recorded (history calls (new b limit))).length < 2 ^ 64) :
    let n := after calls (new b limit)
    let es := history calls (new b limit)
    (∀ operation texts, (∀ t ∈ texts, t ≠ "") → ∃ tags : TagSet, (∀ t, t ∈ tags ↔ t.text ∈ texts) ∧
      (n.broadcaster.failing operation tags = [] →
        ∃ report, (n.tell operation texts).1 = .ok (.applied report)) ∧
      (n.broadcaster.failing operation tags ≠ [] →
        ∃ r, (n.tell operation texts).1 = .ok (.deferred r) ∧ r.operation = operation ∧ r.tags = tags ∧
          r.failedBins = n.broadcaster.failing operation tags)) ∧
    recorded es = departed es ++ n.log.records ∧
    (overflowed es).length = n.log.dropped ∧
    (recorded es).Pairwise (fun r s => r.epoch < s.epoch) ∧
    n.log.records.length ≤ limit ∧
    n.log.records.Pairwise (fun r s => r.epoch < s.epoch) ∧
    (∀ before operation texts rest r, calls = before ++ .tell operation texts :: rest →
      ((after before (new b limit)).tell operation texts).1 = .ok (.deferred r) → r ∈ recorded es) ∧
    (∀ r ∈ recorded es, Followed (Rests b.bins.names n.log es) es r) := by
  intro n es
  have hk : Kept b.bins.names (roomFor limit) [] n es := (Kept.new b limit).after calls
  have hasc := hk.booked.ascending hrecords
  refine ⟨?_, hk.booked.split, hk.booked.drops, hasc, ?_, ?_, ?_, ?_⟩
  · intro operation texts ht
    obtain ⟨tags, hm, htell⟩ := tell_of_valid operation ht n
    refine ⟨tags, hm, ?_, ?_⟩
    · intro hf
      rcases notify_cases operation tags n with ⟨-, report, ho, -⟩ | ⟨hne, -⟩
      · exact ⟨report, by rw [htell, ho]⟩
      · exact absurd hf hne
    · intro hf
      rcases notify_cases operation tags n with ⟨hnil, -⟩ | ⟨-, -, fault, ho, -, hop, hb⟩
      · exact absurd hnil hf
      · exact ⟨_, by rw [htell, ho], hop, rfl, hb⟩
  · have hs := n.log.size_le
    rw [hk.limit_eq, roomFor, Nat.max_eq_left hlimit] at hs
    exact hs
  · rw [hk.booked.split] at hasc
    exact (List.pairwise_append.mp hasc).2.1
  · intro before operation texts rest r hc h
    exact recorded_of_told hc h
  · intro r hr
    refine (hk.followed r hr).later (fun e he => he) fun s hs => .self ?_
    exact hs.resolve_right List.not_mem_nil

/-- One bin that fails its first two calls. -/
def flaky : Broadcaster Scripted :=
  let down := (0, .error (.unavailable "down"))
  .new (Roster.empty.insert "render" ⟨"flaky", [down, down], (0, .ok ()), []⟩) ⟨1000⟩

/-- With room for one record the first is dropped, and the second reaches the bin in the retry. -/
def outage : List Call := [.tell .invalidate ["node:5"], .tell .delete ["node:6"], .retry 1]

theorem no_failure_is_lost_outage :
    (recorded (history outage (new flaky 1))).length = 2 ∧
      (overflowed (history outage (new flaky 1))).length = 1 ∧
      (after outage (new flaky 1)).log.records = [] ∧
      ∀ r ∈ recorded (history outage (new flaky 1)),
        Followed (Rests ["render"] (after outage (new flaky 1)).log (history outage (new flaky 1)))
          (history outage (new flaky 1)) r := by
  have hlen : (recorded (history outage (new flaky 1))).length = 2 := by decide +kernel
  obtain ⟨-, -, -, -, -, -, -, hf⟩ :=
    no_failure_is_lost flaky (by decide : 0 < 1) outage (by rw [hlen]; decide)
  exact ⟨hlen, by decide +kernel, by decide +kernel, hf⟩

end Answers
end Notifier
end TaggedCache
