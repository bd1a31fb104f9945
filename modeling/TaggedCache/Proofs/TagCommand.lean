import TaggedCache.Command.Report
import TaggedCache.Proofs.BestEffort
import TaggedCache.Proofs.Notifier

/-!
# What a command for tags says, and what it did

A command broadcasts its operation, and once more if a bin fails. But the second broadcast is of the record
that has waited longest (`applyTags_retried`), and that is the command's own only when nothing else waits.
So its answer tells the truth about its own operation for every kind of bin exactly when the log is empty or
has room for one record (`truthful_iff_alone`).
-/

namespace TaggedCache
namespace Notifier

variable {β : Type} [Storage β] {n : Notifier β} {operation : Operation} {tags : TagSet}
  {r : FailureLog.Record} {rest : List FailureLog.Record}

/-- The notifier when its longest waiting record was taken out. -/
def drained (n : Notifier β) : Notifier β := { n with log := (n.log.drain 1).2 }

theorem retryFailed_one (h : n.log.records = r :: rest) :
    (n.retryFailed 1).2 = (n.drained.notify r.operation r.tags).2 ∧
      (n.retryFailed 1).1.recovered =
        if (n.drained.notify r.operation r.tags).1.isApplied then 1 else 0 := by
  have hdrain : (n.log.drain 1).1 = [r] := by simp [FailureLog.drain, h]
  have hretry : n.retryFailed 1 = replay [r] ⟨1, 0, 0⟩ n.drained := by
    simp only [retryFailed, hdrain]
    rfl
  simp only [hretry, replay]
  cases hn : n.drained.notify r.operation r.tags with
  | mk outcome after =>
    cases outcome with
    | applied report => exact ⟨rfl, rfl⟩
    | deferred record => exact ⟨rfl, rfl⟩

end Notifier

namespace Command

open Notifier (drained)

variable {β : Type} [Storage β]

/-! ## The broadcasts of a command -/

/-- A broadcast with the bins that failed it. -/
structure Attempt where
  operation : Operation
  tags : TagSet
  failed : List String
deriving DecidableEq

def attempt (operation : Operation) (tags : TagSet) (n : Notifier β) : Attempt :=
  ⟨operation, tags, n.broadcaster.failing operation tags⟩

/-- The broadcasts that a command makes, in order. -/
def attempts (operation : Operation) (tags : TagSet) (n : Notifier β) : List Attempt :=
  let next := (n.notify operation tags).2
  attempt operation tags n ::
    if n.broadcaster.failing operation tags = [] then []
    else (next.log.drain 1).1.map fun r => attempt r.operation r.tags next

/-- What a command says of its operation is true. It reports success only when one broadcast of just this
operation for just these tags reached every bin, and otherwise names the bins that failed the last one. -/
structure Truthful (operation : Operation) (tags : TagSet) (names : List String) (made : List Attempt)
    (result : Except Failure String) : Prop where
  reports : ∀ text, result = .ok text → (∃ retried, text = applied operation tags names retried) ∧
    ∃ a ∈ made, a.operation = operation ∧ a.tags = tags ∧ a.failed = []
  admits : (∀ a ∈ made, a.operation = operation → a.tags = tags → a.failed ≠ []) →
    ∃ a, (made.filter fun a => a.operation = operation ∧ a.tags = tags).getLast? = some a ∧
      result = .error (.incomplete operation a.failed)

section Cases

variable (n : Notifier β) {operation : Operation} {texts : List String} {tags : TagSet}

theorem applyTags_eq (ht : TagSet.ofTexts texts = .ok tags) :
    applyTags operation texts n =
      match n.notify operation tags with
      | (.applied report, next) =>
        (.ok (applied report.operation report.tags report.bins false), next)
      | (.deferred record, next) =>
        (if (next.retryFailed 1).1.recovered = 0 then
          .error (.incomplete operation
            (((next.retryFailed 1).2.log.records.getLast?.map (·.failedBins)).getD record.failedBins))
        else .ok (applied operation record.tags (next.retryFailed 1).2.broadcaster.bins.names true),
        (next.retryFailed 1).2) := by
  simp only [applyTags, Notifier.notifyTexts, ht]
  cases n.notify operation tags with
  | mk outcome next =>
    cases outcome with
    | applied report => rfl
    | deferred record =>
      simp only
      split <;> rfl

theorem applyTags_reached (ht : TagSet.ofTexts texts = .ok tags) (he : tags.isEmpty = false)
    (hf : n.broadcaster.failing operation tags = []) :
    attempts operation tags n = [attempt operation tags n] ∧
      applyTags operation texts n =
        (.ok (applied operation tags n.broadcaster.bins.names false), (n.notify operation tags).2) := by
  have hsend := Broadcaster.send_report he hf
  refine ⟨by simp [attempts, hf], ?_⟩
  rw [applyTags_eq n ht]
  simp [Notifier.notify, hsend]

/-- A command whose first broadcast failed answers for the record that has waited longest. -/
theorem applyTags_retried (ht : TagSet.ofTexts texts = .ok tags)
    (hf : n.broadcaster.failing operation tags ≠ []) :
    ∃ r rest, (n.notify operation tags).2.log.records = r :: rest ∧
      attempts operation tags n =
        [attempt operation tags n, attempt r.operation r.tags (n.notify operation tags).2] ∧
      applyTags operation texts n =
        (if (attempt r.operation r.tags (n.notify operation tags).2).failed = [] then
          .ok (applied operation tags n.broadcaster.bins.names true)
        else .error (.incomplete operation
          (attempt r.operation r.tags (n.notify operation tags).2).failed),
        ((n.notify operation tags).2.drained.notify r.operation r.tags).2) := by
  rcases Notifier.notify_cases operation tags n with ⟨hnil, -⟩ | ⟨-, -, fault, ho, hl, -, -⟩
  · exact absurd hnil hf
  have hmem : (n.log.record fault tags).1 ∈ (n.log.record fault tags).2.records := FailureLog.mem_record
  rw [← hl] at hmem
  obtain ⟨r, rest, hr⟩ := List.exists_cons_of_ne_nil (List.ne_nil_of_mem hmem)
  refine ⟨r, rest, hr, by simp [attempts, hf, FailureLog.drain, hr], ?_⟩
  have hnames := Notifier.notify_names operation tags n
  have hown : (n.log.record fault tags).1.tags = tags := rfl
  have hsame : (n.notify operation tags).2.drained.broadcaster = (n.notify operation tags).2.broadcaster :=
    rfl
  obtain ⟨hafter, hrecovered⟩ := Notifier.retryFailed_one hr
  rw [applyTags_eq n ht]
  generalize n.notify operation tags = first at *
  obtain ⟨outcome, next⟩ := first
  subst ho
  simp only at *
  rw [hafter, hrecovered, Notifier.notify_names, hsame, hnames, hown]
  rcases Notifier.notify_cases r.operation r.tags next.drained with
    ⟨hnil, report, ho', -, -⟩ | ⟨hne, -, fault', ho', hl', -, hb⟩
  · rw [hsame] at hnil
    simp [ho', Outcome.isApplied, attempt, hnil]
  · rw [hsame] at hne hb
    simp [ho', hl', Outcome.isApplied, attempt, hne, FailureLog.record, hb]

end Cases

/-! ## What the bins are asked -/

section Asked

variable {operation : Operation} {texts : List String} {tags : TagSet}

/-- What a bin was asked for so far. -/
def asked? (name : String) (n : Notifier (Watched β)) : Option (List (Operation × TagSet)) :=
  (n.broadcaster.bins.get? name).map (·.asked)

/-- What a broadcast asks of each bin. Without tags it asks for nothing. -/
def asking (operation : Operation) (tags : TagSet) : List (Operation × TagSet) :=
  if tags.isEmpty then [] else [(operation, tags)]

theorem asked?_send (name : String) (n : Notifier (Watched β)) :
    asked? name { n with broadcaster := (n.broadcaster.send operation tags).2 } =
      (asked? name n).map (· ++ asking operation tags) := by
  cases he : tags.isEmpty with
  | true => simp [Broadcaster.send_of_isEmpty he, asking, he]
  | false =>
    simp only [asked?, Broadcaster.send_bins he, Roster.get?_map, Broadcaster.settled, asking, he]
    cases n.broadcaster.bins.get? name with
    | none => rfl
    | some w => simp [Watched.settle_applyTags]

theorem asked?_notify (name : String) (n : Notifier (Watched β)) :
    asked? name (n.notify operation tags).2 = (asked? name n).map (· ++ asking operation tags) := by
  rw [← asked?_send, asked?, Notifier.notify_broadcaster]
  rfl

/-- The broadcasts of a command are what every bin is asked for. -/
theorem asked?_applyTags (name : String) {n : Notifier (Watched β)} (ht : TagSet.ofTexts texts = .ok tags) :
    asked? name (applyTags operation texts n).2 =
      (asked? name n).map (· ++ (attempts operation tags n).flatMap fun a => asking a.operation a.tags) := by
  by_cases hf : n.broadcaster.failing operation tags = []
  · have hcommand : (applyTags operation texts n).2 = (n.notify operation tags).2 := by
      rcases Notifier.notify_cases operation tags n with ⟨-, report, ho, -, -⟩ | ⟨hne, -⟩
      · rw [applyTags_eq n ht]
        generalize n.notify operation tags = first at ho ⊢
        obtain ⟨outcome, next⟩ := first
        subst ho
        rfl
      · exact absurd hf hne
    rw [hcommand, asked?_notify]
    simp [attempts, hf, attempt]
  · obtain ⟨r, rest, hr, hmade, hcommand⟩ := applyTags_retried n ht hf
    have hsame : asked? name (n.notify operation tags).2.drained = asked? name (n.notify operation tags).2 :=
      rfl
    rw [hmade, hcommand, asked?_notify, hsame, asked?_notify, Option.map_map]
    simp [Function.comp_def, attempt]

end Asked

/-! ## When the answer is true -/

section Alone

variable {l : FailureLog} {operation : Operation} {texts : List String} {tags : TagSet}

/-- A record that comes into an empty log, or into one with room for one record, is alone there. -/
theorem record_alone (h : l.records = [] ∨ l.limit = 1) (fault : BroadcastFault) (tags : TagSet) :
    (l.record fault tags).2.records = [(l.record fault tags).1] := by
  have hkept : l.kept = [] := by
    rcases h with h | h
    · simp [FailureLog.kept, h]
    · have hlt := l.length_kept_lt
      exact List.length_eq_zero_iff.mp (by omega)
  rw [FailureLog.records_record, hkept, List.nil_append]

/-- In every other log the oldest record stays in front. -/
theorem record_behind (hne : l.records ≠ []) (hlimit : l.limit ≠ 1) :
    ∃ r : FailureLog.Record, ∀ (fault : BroadcastFault) (tags : TagSet),
      ∃ rest, (l.record fault tags).2.records = r :: rest := by
  have hpos := l.limit_pos
  have hkept : l.kept ≠ [] := by
    unfold FailureLog.kept
    split
    · rw [Ne, List.drop_eq_nil_iff]
      omega
    · exact hne
  obtain ⟨r, rest, hr⟩ := List.exists_cons_of_ne_nil hkept
  refine ⟨r, fun fault tags => ⟨rest ++ [(l.record fault tags).1], ?_⟩⟩
  rw [FailureLog.records_record, hr, List.cons_append]

theorem truthful_of_alone (n : Notifier β) (ht : TagSet.ofTexts texts = .ok tags)
    (he : tags.isEmpty = false) (h : n.log.records = [] ∨ n.log.limit = 1) :
    Truthful operation tags n.broadcaster.bins.names (attempts operation tags n)
      (applyTags operation texts n).1 := by
  by_cases hf : n.broadcaster.failing operation tags = []
  · obtain ⟨hmade, hcommand⟩ := applyTags_reached n ht he hf
    rw [hmade, hcommand]
    constructor
    · intro text htext
      obtain rfl := Except.ok.inj htext
      exact ⟨⟨false, rfl⟩, _, List.mem_singleton_self _, rfl, rfl, hf⟩
    · intro hall
      exact absurd hf (hall _ (List.mem_singleton_self _) rfl rfl)
  · obtain ⟨r, rest, hr, hmade, hcommand⟩ := applyTags_retried n ht hf
    -- The only record is the one of the first broadcast, so the second asks for the same.
    obtain ⟨hop, htags⟩ : r.operation = operation ∧ r.tags = tags := by
      rcases Notifier.notify_cases operation tags n with ⟨hnil, -⟩ | ⟨-, -, fault, -, hlog, hop, -⟩
      · exact absurd hnil hf
      · rw [hlog, record_alone h] at hr
        obtain ⟨rfl, -⟩ := List.cons.inj hr
        exact ⟨hop, rfl⟩
    rw [hop, htags] at hmade hcommand
    rw [hmade, hcommand]
    generalize hsecond : attempt operation tags (n.notify operation tags).2 = second
    have hso : second.operation = operation := by rw [← hsecond]; rfl
    have hst : second.tags = tags := by rw [← hsecond]; rfl
    constructor
    · intro text htext
      split at htext
      · next hnil =>
        obtain rfl := Except.ok.inj htext
        exact ⟨⟨true, rfl⟩, second, by simp, hso, hst, hnil⟩
      · cases htext
    · intro hall
      refine ⟨second, by simp [hso, hst, attempt], ?_⟩
      rw [if_neg (hall second (by simp) hso hst)]

/-- One bin that fails its first call. -/
def hiccup : Broadcaster Scripted :=
  .new (Roster.empty.insert "render"
    ⟨"flaky", [(0, .error (.unavailable "down"))], (0, .ok ()), []⟩) ⟨1000⟩

def node5 : TagSet := ⟨[⟨"node:5", by decide⟩], by simp⟩

theorem failing_hiccup (operation : Operation) : hiccup.failing operation node5 = ["render"] := by
  cases operation with
  | invalidate => decide +kernel
  | delete => decide +kernel

theorem failing_after_hiccup (operation again : Operation) (tags : TagSet) :
    (hiccup.send operation node5).2.failing again tags = [] := by
  have hbins : (hiccup.send operation node5).2.bins.toList =
      [("render", ⟨"flaky", [], (0, .ok ()), [(operation, node5)]⟩)] := by
    cases operation with
    | invalidate => rfl
    | delete => rfl
  unfold Broadcaster.failing
  rw [hbins]
  simp [Storage.applyTags, Reply.succeeds, Except.isOk, Except.toBool]

theorem false_report (hne : l.records ≠ []) (hlimit : l.limit ≠ 1) :
    ∃ operation, ¬ Truthful operation node5 hiccup.bins.names (attempts operation node5 ⟨hiccup, l⟩)
      (applyTags operation ["node:5"] ⟨hiccup, l⟩).1 := by
  obtain ⟨r, hbehind⟩ := record_behind hne hlimit
  -- The operation differs from the one of the record that waits in front.
  obtain ⟨operation, hop⟩ : ∃ operation, r.operation ≠ operation := by
    cases r.operation with
    | invalidate => exact ⟨.delete, nofun⟩
    | delete => exact ⟨.invalidate, nofun⟩
  refine ⟨operation, fun htruth => ?_⟩
  have ht : TagSet.ofTexts ["node:5"] = .ok node5 := rfl
  have hf : hiccup.failing operation node5 ≠ [] := by simp [failing_hiccup]
  obtain ⟨s, rest, hs, hmade, hcommand⟩ := applyTags_retried ⟨hiccup, l⟩ ht hf
  obtain rfl : s = r := by
    rcases Notifier.notify_cases operation node5 ⟨hiccup, l⟩ with ⟨hnil, -⟩ | ⟨-, -, fault, -, hlog, -, -⟩
    · exact absurd hnil hf
    · obtain ⟨more, hr⟩ := hbehind fault node5
      rw [hlog, hr] at hs
      exact (List.cons.inj hs).1.symm
  have hsecond : (attempt s.operation s.tags (Notifier.notify operation node5 ⟨hiccup, l⟩).2).failed = [] := by
    unfold attempt
    rw [Notifier.notify_broadcaster]
    exact failing_after_hiccup operation s.operation s.tags
  rw [hmade, hcommand, if_pos hsecond] at htruth
  obtain ⟨-, a, ha, hao, -, haf⟩ := htruth.reports _ rfl
  rcases List.mem_cons.mp ha with rfl | ha
  · exact hf haf
  · rw [List.mem_singleton.mp ha] at hao
    exact hop hao

/-- Whatever ran before, a command for valid tags says the truth with every kind of bin exactly when no
record waits in the log, or the log has room for one only. -/
theorem truthful_iff_alone {α : Type} [Storage α] (start : Broadcaster α) {limit : Nat}
    (hlimit : 0 < limit) (calls : List Notifier.Call) :
    let l := (Notifier.after calls (.new start limit)).log
    (∀ (β : Type) [Storage β] (b : Broadcaster β) (operation : Operation) (texts : List String),
      texts ≠ [] → (∀ t ∈ texts, t ≠ "") →
      ∃ tags : TagSet, TagSet.ofTexts texts = .ok tags ∧ (∀ t, t ∈ tags ↔ t.text ∈ texts) ∧
        Truthful operation tags b.bins.names (attempts operation tags ⟨b, l⟩)
          (applyTags operation texts ⟨b, l⟩).1) ↔
      l.records = [] ∨ limit = 1 := by
  intro l
  have hk := (Notifier.Kept.new start limit).after calls
  have hroom : l.limit = limit := hk.limit_eq.trans (Nat.max_eq_left hlimit)
  rw [← hroom]
  constructor
  · intro htruth
    by_contra hnot
    obtain ⟨hne, hone⟩ := not_or.mp hnot
    obtain ⟨operation, hfalse⟩ := false_report hne hone
    obtain ⟨tags, ht, -, htrue⟩ := htruth Scripted hiccup operation ["node:5"] (by simp) (by simp)
    obtain rfl : node5 = tags := Except.ok.inj ht
    exact hfalse htrue
  · intro halone β _ b operation texts hne hvalid
    obtain ⟨tags, ht, hm⟩ := TagSet.ofTexts_of_ne hvalid
    have he : tags.isEmpty = false := by
      obtain ⟨text, rest, rfl⟩ := List.exists_cons_of_ne_nil hne
      have hmem : (⟨text, hvalid text List.mem_cons_self⟩ : Tag) ∈ tags :=
        (hm _).mpr List.mem_cons_self
      exact List.isEmpty_eq_false_iff.mpr (List.ne_nil_of_mem hmem)
    exact ⟨tags, ht, hm, truthful_of_alone ⟨b, l⟩ ht he halone⟩

/-- A bin fails one notification and the command after it. In a log with room for both, the retry of the
command takes the notification, which now goes well, so the command reports what it did not do. -/
theorem truthful_not_always :
    let n := Notifier.after [.tell .invalidate ["node:1"]] (.new Notifier.flaky 4)
    let tags : TagSet := ⟨[⟨"node:2", by decide⟩], by simp⟩
    TagSet.ofTexts ["node:2"] = .ok tags ∧
      (applyTags .invalidate ["node:2"] n).1 = .ok (applied .invalidate tags ["render"] true) ∧
      ¬ Truthful .invalidate tags n.broadcaster.bins.names (attempts .invalidate tags n)
        (applyTags .invalidate ["node:2"] n).1 := by
  intro n tags
  have hcommand : (applyTags .invalidate ["node:2"] n).1 = .ok (applied .invalidate tags ["render"] true) :=
    rfl
  have hmade : attempts .invalidate tags n =
      [⟨.invalidate, tags, ["render"]⟩, ⟨.invalidate, ⟨[⟨"node:1", by decide⟩], by simp⟩, []⟩] := by
    decide +kernel
  refine ⟨rfl, hcommand, fun htruth => ?_⟩
  obtain ⟨-, a, ha, -, hat, haf⟩ := htruth.reports _ hcommand
  rw [hmade] at ha
  rcases List.mem_cons.mp ha with rfl | ha
  · cases haf
  · obtain rfl := List.mem_singleton.mp ha
    revert hat
    decide

/-- With room for one record the notification makes way, so the retry is of the command itself. -/
theorem truthful_iff_alone_flaky :
    let n := Notifier.after [.tell .invalidate ["node:1"]] (.new Notifier.flaky 1)
    0 < 1 ∧ n.log.records.length = 1 ∧
      ∃ tags : TagSet, TagSet.ofTexts ["node:2"] = .ok tags ∧
        Truthful .invalidate tags ["render"] (attempts .invalidate tags n)
          (applyTags .invalidate ["node:2"] n).1 := by
  intro n
  refine ⟨by decide, by decide +kernel, ?_⟩
  have hall := (truthful_iff_alone Notifier.flaky (by decide) [.tell .invalidate ["node:1"]]).mpr (.inr rfl)
  obtain ⟨tags, ht, -, htruth⟩ := hall Scripted n.broadcaster .invalidate ["node:2"] (by simp) (by simp)
  exact ⟨tags, ht, htruth⟩

end Alone

end Command
end TaggedCache
